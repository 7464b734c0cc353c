import RemoteMounts.Cluster.Acquire
import RemoteMounts.Proofs.Dialogue.Transcript

/-!
# What acquiring a cluster asks and gives

Whatever the provider answers, the calls that an acquisition makes on it and the result are those of
`Acquired`, which lists every course that it can take.  A pinned cluster is looked at once.  For any
other mount the clusters are listed once; then one of them is taken as it is, or one is started and
looked at, or one is made, looked at, and taken away again if it does not become ready.  No other
cluster is started or taken away, and none is made where one can be reused or started
(`acquire_acquired`).
-/

namespace RemoteMounts

def Call.asksProvider : Call → Bool
  | getCluster _ | listClusters | createCluster _ | startCluster _ | deleteCluster _ => true
  | _ => false

def Call.asksClock : Call → Bool
  | now | pause _ => true
  | _ => false

def onProvider (exchanges : List (Exchange Outside)) : List (Exchange Outside) :=
  exchanges.filter fun e => e.question.asksProvider

theorem onProvider_cons {e : Exchange Outside} (h : e.question.asksProvider = true)
    (rest : List (Exchange Outside)) : onProvider (e :: rest) = e :: onProvider rest :=
  List.filter_cons_of_pos h

theorem onProvider_append (xs ys : List (Exchange Outside)) :
    onProvider (xs ++ ys) = onProvider xs ++ onProvider ys :=
  List.filter_append ..

/-! ## Choosing among the clusters -/

/-- The cluster is the first in the list with the property. -/
def IsFirst (p : Cluster → Prop) (clusters : List Cluster) (c : Cluster) : Prop :=
  ∃ before after, clusters = before ++ c :: after ∧ p c ∧ ∀ x ∈ before, ¬ p x

theorem isFirst_of_find? {test : Cluster → Bool} {p : Cluster → Prop}
    (same : ∀ c, test c = true ↔ p c) {clusters : List Cluster} {c : Cluster}
    (h : clusters.find? test = some c) : IsFirst p clusters c := by
  obtain ⟨hc, before, after, split, others⟩ := List.find?_eq_some_iff_append.mp h
  refine ⟨before, after, split, (same c).mp hc, fun x hx hp => ?_⟩
  have := others x hx
  simp [(same x).mpr hp] at this

/-- What is to be done when these clusters are there, said of the ones that meet the need. -/
inductive Chosen (need : Need) (clusters : List Cluster) : Choice → Prop
  | own {c : Cluster} :
    IsFirst (fun x => x.phase.isReady = true ∧ x.name = need.clusterName)
      (Choice.fit need clusters) c →
    Chosen need clusters (.reuse c)
  | other {c : Cluster} :
    (∀ x ∈ Choice.fit need clusters, x.phase.isReady = true → x.name ≠ need.clusterName) →
    IsFirst (fun x => x.phase.isReady = true) (Choice.fit need clusters) c →
    Chosen need clusters (.reuse c)
  | ended {c : Cluster} :
    (∀ x ∈ Choice.fit need clusters, x.phase.isReady = false) →
    IsFirst (fun x => x.phase = .terminated ∧ x.name = need.clusterName)
      (Choice.fit need clusters) c →
    Chosen need clusters (.restart c.id)
  | none :
    (∀ x ∈ Choice.fit need clusters, x.phase.isReady = false) →
    (∀ x ∈ Choice.fit need clusters, x.phase = .terminated → x.name ≠ need.clusterName) →
    Chosen need clusters .make

namespace Choice

theorem ready?_eq (need : Need) (clusters : List Cluster) :
    ready? need clusters =
      ((fit need clusters).find? fun c => c.phase.isReady = true ∧ c.name = need.clusterName).or
        ((fit need clusters).find? fun c => c.phase.isReady) := by
  simp only [ready?, List.find?_filter, List.head?_filter, decide_eq_true_eq]

theorem not_ready_of_ready?_eq_none {need : Need} {clusters : List Cluster}
    (h : ready? need clusters = none) :
    ∀ x ∈ fit need clusters, x.phase.isReady = false := by
  rw [ready?_eq, Option.or_eq_none_iff, List.find?_eq_none, List.find?_eq_none] at h
  exact fun x hx => Bool.eq_false_iff.mpr (h.2 x hx)

theorem chosen_of_ready? {need : Need} {clusters : List Cluster} {c : Cluster}
    (h : ready? need clusters = some c) : Chosen need clusters (.reuse c) := by
  rw [ready?_eq, Option.or_eq_some_iff] at h
  rcases h with own | ⟨noOwn, other⟩
  · exact .own (isFirst_of_find? (fun x => by simp) own)
  · refine .other (fun x hx ready named => ?_) (isFirst_of_find? (fun x => Iff.rfl) other)
    have := List.find?_eq_none.mp noOwn x hx
    simp [ready, named] at this

/-- The choice is made as `Chosen` says. -/
theorem chosen_among (need : Need) (clusters : List Cluster) :
    Chosen need clusters (among need clusters) := by
  unfold among
  cases hr : ready? need clusters with
  | some c => exact chosen_of_ready? hr
  | none =>
    have idle := not_ready_of_ready?_eq_none hr
    cases he : ended? need clusters with
    | some c => exact .ended idle (isFirst_of_find? (fun x => by simp) he)
    | none =>
      refine .none idle fun x hx ended named => ?_
      have := List.find?_eq_none.mp he x hx
      simp [ended, named] at this

end Choice

/-! ## The courses of an acquisition -/

/-- A cluster is looked at until an answer is decisive or the time is over; the rest of the patience
counts down, and when it is used up nothing has come of the wait. -/
inductive Awaited (id : String) :
    Nat → List (Exchange Outside) → Option (Except ClusterFault Cluster) → Prop
  | decided {patience : Nat} {answer verdict : Except ClusterFault Cluster} :
    verdict? answer = some verdict →
    Awaited id (patience + 1) [⟨.getCluster id, answer⟩] (some verdict)
  | overdue {patience seconds : Nat} {answer : Except ClusterFault Cluster} :
    verdict? answer = none →
    Awaited id (patience + 1) [⟨.getCluster id, answer⟩]
      (some (.error (.stillWaiting id seconds)))
  | again {patience : Nat} {answer : Except ClusterFault Cluster}
    {looks : List (Exchange Outside)} {outcome : Option (Except ClusterFault Cluster)} :
    verdict? answer = none → Awaited id patience looks outcome →
    Awaited id (patience + 1) (⟨.getCluster id, answer⟩ :: looks) outcome
  | unfinished : Awaited id 0 [] none

def Draft.forNeed (t : Template) (need : Need) : Draft :=
  ⟨need.clusterName, t.runtime, t.nodeType, t.idleMinutes, need.profile?.map ProfileArn.text⟩

/-- The exchanges about a pinned cluster and the result: it is looked at once. -/
inductive Pinned (id : String) (need : Need) :
    List (Exchange Outside) → Option (Except NoCluster Cluster) → Prop
  | unknown {fault : ClusterFault} :
    Pinned id need [⟨.getCluster id, .error fault⟩] (some (.error (.unusable id fault.message)))
  | notReady {c : Cluster} :
    c.phase.isReady = false →
    Pinned id need [⟨.getCluster id, .ok c⟩]
      (some (.error (.unusable id ("cluster is " ++ c.phase.label))))
  | unfit {c : Cluster} :
    c.phase.isReady = true → need.isMetBy c.profile = false →
    Pinned id need [⟨.getCluster id, .ok c⟩]
      (some (.error (.unusable id ("cluster must have " ++ need.wording ++ " attached"))))
  | usable {c : Cluster} :
    c.phase.isReady = true → need.isMetBy c.profile = true →
    Pinned id need [⟨.getCluster id, .ok c⟩] (some (.ok c))

/-- The exchanges about a cluster that is started again and the result: it is started once and then
looked at. -/
inductive Restarted (patience : Nat) (id : String) :
    List (Exchange Outside) → Option (Except NoCluster Cluster) → Prop
  | refused {fault : ClusterFault} :
    Restarted patience id [⟨.startCluster id, .error fault⟩]
      (some (.error (.notMade fault.message)))
  | awaited {looks : List (Exchange Outside)}
    {outcome : Option (Except ClusterFault Cluster)} :
    Awaited id patience looks outcome →
    Restarted patience id (⟨.startCluster id, .ok ()⟩ :: looks)
      (outcome.map (Except.mapError fun fault => .notMade fault.message))

/-- The exchanges about a cluster that is made and the result: it is made once and then looked at,
and taken away once if the wait for it fails. -/
inductive Made (patience : Nat) (blueprint : Blueprint) :
    List (Exchange Outside) → Option (Except NoCluster Cluster) → Prop
  | refused {fault : ClusterFault} :
    Made patience blueprint [⟨.createCluster blueprint, .error fault⟩]
      (some (.error (.notMade fault.message)))
  | ready {id : String} {looks : List (Exchange Outside)} {c : Cluster} :
    Awaited id patience looks (some (.ok c)) →
    Made patience blueprint (⟨.createCluster blueprint, .ok id⟩ :: looks) (some (.ok c))
  | tornDown {id : String} {looks : List (Exchange Outside)} {fault : ClusterFault} :
    Awaited id patience looks (some (.error fault)) →
    Made patience blueprint
      (⟨.createCluster blueprint, .ok id⟩ :: (looks ++ [⟨.deleteCluster id, .ok ()⟩]))
      (some (.error (.notMade fault.message)))
  | notTornDown {id : String} {looks : List (Exchange Outside)} {fault left : ClusterFault} :
    Awaited id patience looks (some (.error fault)) →
    Made patience blueprint
      (⟨.createCluster blueprint, .ok id⟩ :: (looks ++ [⟨.deleteCluster id, .error left⟩]))
      (some (.error
        (.notMade (fault.message ++ " (teardown also failed: " ++ left.message ++ ")"))))
  | unfinished {id : String} {looks : List (Exchange Outside)} :
    Awaited id patience looks none →
    Made patience blueprint (⟨.createCluster blueprint, .ok id⟩ :: looks) none

/-- The exchanges with the provider in an acquisition and the result, for every course that it can
take.  There is no result only while a cluster is being awaited. -/
inductive Acquired (p : Provisioning) :
    Wanted → List (Exchange Outside) → Option (Except NoCluster Cluster) → Prop
  | pinned {id : String} {need : Need} {exchanges : List (Exchange Outside)}
    {result : Option (Except NoCluster Cluster)} :
    Pinned id need exchanges result → Acquired p ⟨some id, need⟩ exchanges result
  | unlisted {need : Need} {fault : ClusterFault} :
    Acquired p ⟨none, need⟩ [⟨.listClusters, .error fault⟩]
      (some (.error (.notMade fault.message)))
  | reused {need : Need} {clusters : List Cluster} {c : Cluster} :
    Chosen need clusters (.reuse c) →
    Acquired p ⟨none, need⟩ [⟨.listClusters, .ok clusters⟩] (some (.ok c))
  | restarted {need : Need} {clusters : List Cluster} {id : String}
    {exchanges : List (Exchange Outside)} {result : Option (Except NoCluster Cluster)} :
    Chosen need clusters (.restart id) → Restarted p.patience id exchanges result →
    Acquired p ⟨none, need⟩ (⟨.listClusters, .ok clusters⟩ :: exchanges) result
  | noneNamed {clusters : List Cluster} :
    Chosen .anyProfile clusters .make →
    Acquired p ⟨none, .anyProfile⟩ [⟨.listClusters, .ok clusters⟩]
      (some (.error (.notMade "no running cluster has an instance profile and none was named")))
  | notDrawn {need : Need} {clusters : List Cluster} {e : EmptyPart} :
    Chosen need clusters .make → need ≠ .anyProfile →
    (Draft.forNeed p.template need).finish = .error e →
    Acquired p ⟨none, need⟩ [⟨.listClusters, .ok clusters⟩] (some (.error (.notMade e.message)))
  | made {need : Need} {clusters : List Cluster} {blueprint : Blueprint}
    {exchanges : List (Exchange Outside)} {result : Option (Except NoCluster Cluster)} :
    Chosen need clusters .make → need ≠ .anyProfile →
    (Draft.forNeed p.template need).finish = .ok blueprint →
    Made p.patience blueprint exchanges result →
    Acquired p ⟨none, need⟩ (⟨.listClusters, .ok clusters⟩ :: exchanges) result

/-! ### Who is blamed -/

theorem Pinned.blame {id : String} {need : Need} {exchanges : List (Exchange Outside)}
    {e : NoCluster} (h : Pinned id need exchanges (some (.error e))) :
    ∃ reason, e = .unusable id reason := by
  cases h with
  | unknown => exact ⟨_, rfl⟩
  | notReady => exact ⟨_, rfl⟩
  | unfit => exact ⟨_, rfl⟩

theorem Restarted.blame {patience : Nat} {id : String} {exchanges : List (Exchange Outside)}
    {e : NoCluster} (h : Restarted patience id exchanges (some (.error e))) :
    ∃ reason, e = .notMade reason := by
  generalize hr : (some (.error e) : Option (Except NoCluster Cluster)) = result at h
  cases h with
  | refused =>
    cases hr
    exact ⟨_, rfl⟩
  | @awaited looks outcome _ =>
    rcases outcome with _ | fault | c
    · cases hr
    · cases hr
      exact ⟨_, rfl⟩
    · cases hr

theorem Made.blame {patience : Nat} {blueprint : Blueprint} {exchanges : List (Exchange Outside)}
    {e : NoCluster} (h : Made patience blueprint exchanges (some (.error e))) :
    ∃ reason, e = .notMade reason := by
  cases h with
  | refused => exact ⟨_, rfl⟩
  | tornDown => exact ⟨_, rfl⟩
  | notTornDown => exact ⟨_, rfl⟩

/-- Where no cluster is acquired a pinned one is named as unusable, or none could be made. -/
theorem Acquired.blame {p : Provisioning} {wanted : Wanted} {exchanges : List (Exchange Outside)}
    {e : NoCluster} (h : Acquired p wanted exchanges (some (.error e))) :
    (∃ id reason, wanted.pinned = some id ∧ e = .unusable id reason) ∨
      (wanted.pinned = none ∧ ∃ reason, e = .notMade reason) := by
  cases h with
  | @pinned id _ _ _ course =>
    obtain ⟨reason, rfl⟩ := course.blame
    exact .inl ⟨id, reason, rfl, rfl⟩
  | unlisted => exact .inr ⟨rfl, _, rfl⟩
  | restarted _ course => exact .inr ⟨rfl, course.blame⟩
  | noneNamed => exact .inr ⟨rfl, _, rfl⟩
  | notDrawn => exact .inr ⟨rfl, _, rfl⟩
  | made _ _ _ course => exact .inr ⟨rfl, course.blame⟩

/-! ## Every acquisition takes one of these courses -/

section

variable {σ : Type} (r : Respondent Outside σ)

/-- What a run asks of the provider and what comes of it are related so. -/
def Takes {α : Type} (course : List (Exchange Outside) → Option α → Prop) (d : Errand α)
    (s : σ) : Prop :=
  course (onProvider (Dialogue.transcript r d s)) (Dialogue.run r.party d s).1

theorem pollReady_awaited (b : Backoff) (id : String) (started : Instant)
    (deadline : Option Instant) (patience : Nat) (interval : Duration) (s : σ) :
    Takes r (Awaited id patience) (pollReady b id started deadline patience interval) s := by
  induction patience generalizing interval s with
  | zero => exact .unfinished
  | succ patience ih =>
    unfold Takes
    rw [pollReady, Errand.transcript_call, Errand.run_party_call]
    cases hv : verdict? (r (.getCluster id) s).1 with
    | some verdict => exact .decided hv
    | none =>
      dsimp only
      rw [Errand.transcript_call, Errand.run_party_call]
      by_cases late : Instant.leftUntil deadline
          (r .now (r (.getCluster id) s).2).1 = Duration.zero
      · simp only [if_pos late]
        exact .overdue hv
      · simp only [if_neg late]
        exact .again hv (ih _ _)

theorem awaitReady_awaited (b : Backoff) (patience : Nat) (id : String) (s : σ) :
    Takes r (Awaited id patience) (awaitReady b patience id) s := by
  unfold Takes
  rw [awaitReady, Errand.transcript_call, Errand.run_party_call]
  exact pollReady_awaited r b id _ _ patience b.first _

variable (p : Provisioning)

theorem acquirePinned_pinned (id : String) (need : Need) (s : σ) :
    Takes r (Pinned id need) (Provisioning.acquirePinned id need) s := by
  unfold Takes
  rw [Provisioning.acquirePinned, Errand.transcript_call, Errand.run_party_call]
  cases (r (.getCluster id) s).1 with
  | error fault => exact .unknown
  | ok c =>
    dsimp only
    cases hr : c.phase.isReady with
    | false => exact .notReady hr
    | true =>
      cases hn : need.isMetBy c.profile with
      | false => exact .unfit hr hn
      | true => exact .usable hr hn

theorem restart_restarted (id : String) (s : σ) :
    Takes r (Restarted p.patience id) (p.restart id) s := by
  unfold Takes
  rw [Provisioning.restart, Errand.transcript_call, Errand.run_party_call, onProvider_cons rfl]
  cases (r (.startCluster id) s).1 with
  | error fault => exact .refused
  | ok _ =>
    have wait := awaitReady_awaited r p.backoff p.patience id (r (.startCluster id) s).2
    unfold Takes at wait
    dsimp only
    rw [Dialogue.transcript_bind, Dialogue.run_bind, onProvider_append]
    generalize Dialogue.run r.party (awaitReady p.backoff p.patience id)
      (r (.startCluster id) s).2 = awaited at wait ⊢
    -- However the wait ends, nothing is asked after it.
    obtain ⟨outcome, t⟩ := awaited
    rcases outcome with _ | fault | c
    all_goals
      simp only [Dialogue.transcript, Dialogue.pure_eq_done, onProvider, List.filter_nil,
        List.append_nil] at wait ⊢
      exact .awaited wait

theorem transcript_tearDown (id reason : String) (s : σ) :
    Dialogue.transcript r (Provisioning.tearDown id reason) s =
      [⟨.deleteCluster id, (r (.deleteCluster id) s).1⟩] := by
  rw [Provisioning.tearDown, Errand.transcript_call]
  cases (r (.deleteCluster id) s).1 <;> rfl

theorem run_tearDown (id reason : String) (s : σ) :
    Dialogue.run r.party (Provisioning.tearDown id reason) s =
      (some
        (match (r (.deleteCluster id) s).1 with
        | .ok _ => reason
        | .error fault => reason ++ " (teardown also failed: " ++ fault.message ++ ")"),
        (r (.deleteCluster id) s).2) := by
  rw [Provisioning.tearDown, Errand.run_party_call]
  cases (r (.deleteCluster id) s).1 <;> rfl

theorem make_made (blueprint : Blueprint) (s : σ) :
    Takes r (Made p.patience blueprint) (p.make blueprint) s := by
  unfold Takes
  rw [Provisioning.make, Errand.transcript_call, Errand.run_party_call, onProvider_cons rfl]
  cases (r (.createCluster blueprint) s).1 with
  | error fault => exact .refused
  | ok id =>
    have wait := awaitReady_awaited r p.backoff p.patience id (r (.createCluster blueprint) s).2
    unfold Takes at wait
    dsimp only
    rw [Dialogue.transcript_bind, Dialogue.run_bind, onProvider_append]
    generalize Dialogue.run r.party (awaitReady p.backoff p.patience id)
      (r (.createCluster blueprint) s).2 = awaited at wait ⊢
    obtain ⟨outcome, t⟩ := awaited
    rcases outcome with _ | fault | c
    · simp only [onProvider, List.filter_nil, List.append_nil] at wait ⊢
      exact .unfinished wait
    · dsimp only at wait ⊢
      rw [Dialogue.transcript_bind, Dialogue.run_bind, transcript_tearDown, run_tearDown]
      cases (r (.deleteCluster id) t).1 with
      | ok _ => exact .tornDown wait
      | error left => exact .notTornDown wait
    · simp only [Dialogue.transcript, Dialogue.pure_eq_done, onProvider, List.filter_nil,
        List.append_nil] at wait ⊢
      exact .ready wait

/-! ## Nobody else is asked -/

abbrev OnProviderOrClock (c : Call) : Prop :=
  c.asksProvider ∨ c.asksClock

theorem asks_pollReady (b : Backoff) (id : String) (started : Instant) (deadline : Option Instant)
    (patience : Nat) (interval : Duration) :
    Dialogue.Asks OnProviderOrClock (pollReady b id started deadline patience interval) := by
  induction patience generalizing interval with
  | zero => trivial
  | succ patience ih =>
    refine Errand.asks_call (.inl rfl) fun answer => ?_
    cases verdict? answer with
    | some verdict => trivial
    | none =>
      refine Errand.asks_call (.inr rfl) fun time => ?_
      by_cases late : Instant.leftUntil deadline time = Duration.zero
      · simp only [if_pos late]
        exact Errand.asks_call (.inr rfl) fun _ => trivial
      · simp only [if_neg late]
        exact Errand.asks_call (.inr rfl) fun _ => ih _

theorem asks_awaitReady (b : Backoff) (patience : Nat) (id : String) :
    Dialogue.Asks OnProviderOrClock (awaitReady b patience id) :=
  Errand.asks_call (.inr rfl) fun _ => asks_pollReady ..

theorem asks_restart (id : String) : Dialogue.Asks OnProviderOrClock (p.restart id) := by
  refine Errand.asks_call (.inl rfl) fun answer => ?_
  cases answer with
  | error fault => trivial
  | ok _ =>
    refine (asks_awaitReady p.backoff p.patience id).bind fun outcome => ?_
    cases outcome <;> trivial

theorem asks_make (blueprint : Blueprint) :
    Dialogue.Asks OnProviderOrClock (p.make blueprint) := by
  refine Errand.asks_call (.inl rfl) fun answer => ?_
  cases answer with
  | error fault => trivial
  | ok id =>
    refine (asks_awaitReady p.backoff p.patience id).bind fun outcome => ?_
    cases outcome with
    | ok c => trivial
    | error fault =>
      refine Dialogue.Asks.bind (Errand.asks_call (.inl rfl) fun removed => ?_) fun _ => trivial
      cases removed <;> trivial

theorem asks_acquirePinned (id : String) (need : Need) :
    Dialogue.Asks OnProviderOrClock (Provisioning.acquirePinned id need) := by
  refine Errand.asks_call (.inl rfl) fun answer => ?_
  cases answer with
  | error fault => trivial
  | ok c =>
    dsimp only
    cases c.phase.isReady with
    | false => trivial
    | true => cases need.isMetBy c.profile <;> trivial

theorem asks_acquireAny (need : Need) :
    Dialogue.Asks OnProviderOrClock (p.acquireAny need) := by
  refine Errand.asks_call (.inl rfl) fun answer => ?_
  cases answer with
  | error fault => trivial
  | ok clusters =>
    dsimp only
    cases Choice.among need clusters with
    | reuse c => trivial
    | restart id => exact asks_restart p id
    | make =>
      dsimp only
      cases p.blueprint need with
      | error e => trivial
      | ok blueprint => exact asks_make p blueprint

theorem asks_acquire (wanted : Wanted) :
    Dialogue.Asks OnProviderOrClock (p.acquire wanted) := by
  obtain ⟨pinned, need⟩ := wanted
  cases pinned with
  | some id => exact asks_acquirePinned id need
  | none => exact asks_acquireAny p need

/-! ## The whole acquisition -/

theorem blueprint_anyProfile :
    p.blueprint .anyProfile =
      .error (.notMade "no running cluster has an instance profile and none was named") := rfl

/-- No blueprint is drawn for just any profile; any other need has its draft. -/
theorem blueprint_eq {need : Need} (h : need ≠ .anyProfile) :
    p.blueprint need =
      match (Draft.forNeed p.template need).finish with
      | .ok blueprint => .ok blueprint
      | .error e => .error (.notMade e.message) := by
  have drafted : { Draft.follow {} p.template with
      name := need.clusterName, profile := need.profile?.map ProfileArn.text } =
      Draft.forNeed p.template need := rfl
  unfold Provisioning.blueprint
  split
  · exact absurd rfl h
  · cases hf : (Draft.forNeed p.template need).finish <;> simp only [drafted, hf]

theorem acquireAny_acquired (need : Need) (s : σ) :
    Takes r (Acquired p ⟨none, need⟩) (p.acquireAny need) s := by
  unfold Takes
  rw [Provisioning.acquireAny, Errand.transcript_call, Errand.run_party_call, onProvider_cons rfl]
  cases (r .listClusters s).1 with
  | error fault => exact .unlisted
  | ok clusters =>
    have chosen := Choice.chosen_among need clusters
    dsimp only
    cases hc : Choice.among need clusters with
    | reuse c => exact .reused (hc ▸ chosen)
    | restart id => exact .restarted (hc ▸ chosen) (restart_restarted r p id _)
    | make =>
      rw [hc] at chosen
      by_cases any : need = .anyProfile
      · subst any
        dsimp only
        rw [blueprint_anyProfile]
        exact .noneNamed chosen
      · dsimp only
        rw [blueprint_eq p any]
        cases hf : (Draft.forNeed p.template need).finish with
        | error e => exact .notDrawn chosen any hf
        | ok blueprint => exact .made chosen any hf (make_made r p blueprint _)

/-- Whatever is answered, what an acquisition asks of the provider and its result are those of one
of the courses that it can take, and it asks nobody else but the clock. -/
theorem acquire_acquired (wanted : Wanted) (s : σ) :
    Acquired p wanted (onProvider (Dialogue.transcript r (p.acquire wanted) s))
        (Dialogue.run r.party (p.acquire wanted) s).1 ∧
      ∀ e ∈ Dialogue.transcript r (p.acquire wanted) s,
        e.question.asksProvider ∨ e.question.asksClock := by
  refine ⟨?_, fun e he => (asks_acquire p wanted).kind_of_mem r he⟩
  obtain ⟨pinned, need⟩ := wanted
  cases pinned with
  | some id => exact .pinned (acquirePinned_pinned r id need s)
  | none => exact acquireAny_acquired r p need s

end

end RemoteMounts
