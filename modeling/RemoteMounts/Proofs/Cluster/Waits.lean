import RemoteMounts.Proofs.Cluster.Acquisition

/-!
# What a wait comes to

A cluster that is awaited is looked at again and again, and whoever answers may answer as it likes.
`Waited` says for every place where a wait can end what has been asked until then, the readings of
the clock and the pauses among it.  The first look that decides something ends the wait, however
late it comes, and nothing is asked after it; a wait gives up only if no look has decided anything
and the clock, read after the last of them, shows the deadline or a later time
(`first_decisive_look_decides`).  A wait whose deadline no clock can show therefore never gives up.
-/

namespace RemoteMounts

/-! ## What a look shows -/

theorem Phase.not_ready_of_terminal {p : Phase} (h : p.isTerminal = true) : p.isReady = false := by
  cases p with
  | terminating => rfl
  | terminated => rfl
  | error => rfl
  | _ => cases h

/-- What an answer decides: a fault stays what it is, a ready cluster is what was awaited, and one
that has ended is reported with what the answer says of it. -/
inductive Decides : Except ClusterFault Cluster → Except ClusterFault Cluster → Prop
  | fault {fault : ClusterFault} : Decides (.error fault) (.error fault)
  | ready {c : Cluster} : c.phase.isReady = true → Decides (.ok c) (.ok c)
  | ended {c : Cluster} :
    c.phase.isTerminal = true → Decides (.ok c) (.error (.stopped c.id c.phase c.note))

/-- The answer shows a cluster that is neither ready nor at its end. -/
def Undecided (answer : Except ClusterFault Cluster) : Prop :=
  ∃ c, answer = .ok c ∧ c.phase.isReady = false ∧ c.phase.isTerminal = false

theorem verdict?_eq_some_iff {answer verdict : Except ClusterFault Cluster} :
    verdict? answer = some verdict ↔ Decides answer verdict := by
  constructor
  · intro h
    rcases answer with fault | c
    · cases h
      exact .fault
    · unfold verdict? at h
      dsimp only at h
      split at h
      · cases h
        exact .ready ‹_›
      · split at h
        · cases h
          exact .ended ‹_›
        · cases h
  · intro h
    cases h with
    | fault => rfl
    | ready ready => simp [verdict?, ready]
    | ended ended => simp [verdict?, ended, Phase.not_ready_of_terminal ended]

theorem verdict?_eq_none_iff {answer : Except ClusterFault Cluster} :
    verdict? answer = none ↔ Undecided answer := by
  rcases answer with fault | c
  · simp [verdict?, Undecided]
  · cases hr : c.phase.isReady <;> cases ht : c.phase.isTerminal <;>
      simp [verdict?, Undecided, hr, ht]

theorem Decides.not_undecided {answer verdict : Except ClusterFault Cluster}
    (h : Decides answer verdict) : ¬ Undecided answer := by
  rw [← verdict?_eq_some_iff] at h
  rw [← verdict?_eq_none_iff, h]
  exact nofun

theorem Decides.eq {answer verdict other : Except ClusterFault Cluster} (h : Decides answer verdict)
    (h' : Decides answer other) : verdict = other :=
  Option.some.inj ((verdict?_eq_some_iff.mpr h).symm.trans (verdict?_eq_some_iff.mpr h'))

def Exchange.look? : Exchange Outside → Option (Except ClusterFault Cluster)
  | ⟨.getCluster _, answer⟩ => some answer
  | _ => none

def looks (exchanges : List (Exchange Outside)) : List (Except ClusterFault Cluster) :=
  exchanges.filterMap Exchange.look?

@[simp] theorem looks_nil : looks [] = [] := rfl

@[simp] theorem looks_append (xs ys : List (Exchange Outside)) :
    looks (xs ++ ys) = looks xs ++ looks ys :=
  List.filterMap_append

@[simp] theorem looks_look (id : String) (answer : Except ClusterFault Cluster)
    (rest : List (Exchange Outside)) :
    looks (⟨.getCluster id, answer⟩ :: rest) = answer :: looks rest := rfl

@[simp] theorem looks_reading (time : Instant) (rest : List (Exchange Outside)) :
    looks (⟨.now, time⟩ :: rest) = looks rest := rfl

@[simp] theorem looks_pause (span : Duration) (rest : List (Exchange Outside)) :
    looks (⟨.pause span, ()⟩ :: rest) = looks rest := rfl

/-! ## The course of a wait -/

/-- The exchanges of a wait from one of its looks on, and what comes of it; the patience counts the
looks that may still be taken, and the interval is the one to the next look. -/
inductive Waited (b : Backoff) (id : String) (started : Instant) (deadline : Option Instant) :
    (patience : Nat) → (interval : Duration) → List (Exchange Outside) →
      Option (Except ClusterFault Cluster) → Prop
  | unfinished {interval : Duration} : Waited b id started deadline 0 interval [] none
  | decided {patience : Nat} {interval : Duration} {answer verdict : Except ClusterFault Cluster} :
    Decides answer verdict →
    Waited b id started deadline (patience + 1) interval [⟨.getCluster id, answer⟩] (some verdict)
  | overdue {patience : Nat} {interval : Duration} {answer : Except ClusterFault Cluster}
    {seen closing : Instant} :
    Undecided answer → Instant.leftUntil deadline seen = Duration.zero →
    Waited b id started deadline (patience + 1) interval
      [⟨.getCluster id, answer⟩, ⟨.now, seen⟩, ⟨.now, closing⟩]
      (some (.error (.stillWaiting id (started.since closing).seconds)))
  | again {patience : Nat} {interval : Duration} {answer : Except ClusterFault Cluster}
    {seen : Instant} {later : List (Exchange Outside)}
    {outcome : Option (Except ClusterFault Cluster)} :
    Undecided answer → Instant.leftUntil deadline seen ≠ Duration.zero →
    Waited b id started deadline patience (b.next interval) later outcome →
    Waited b id started deadline (patience + 1) interval
      (⟨.getCluster id, answer⟩ :: ⟨.now, seen⟩ ::
        ⟨.pause (interval.shorter (Instant.leftUntil deadline seen)), ()⟩ :: later)
      outcome

section

variable {σ : Type} (r : Respondent Outside σ) (b : Backoff) (id : String)

theorem pollReady_waited (started : Instant) (deadline : Option Instant) (patience : Nat)
    (interval : Duration) (s : σ) :
    Waited b id started deadline patience interval
      (Dialogue.transcript r (pollReady b id started deadline patience interval) s)
      (Dialogue.run r.party (pollReady b id started deadline patience interval) s).1 := by
  induction patience generalizing interval s with
  | zero => exact .unfinished
  | succ patience ih =>
    rw [pollReady, Errand.transcript_call, Errand.run_party_call]
    cases hv : verdict? (r (.getCluster id) s).1 with
    | some verdict => exact .decided (verdict?_eq_some_iff.mp hv)
    | none =>
      have undecided := verdict?_eq_none_iff.mp hv
      dsimp only
      rw [Errand.transcript_call, Errand.run_party_call]
      by_cases late : Instant.leftUntil deadline
          (r .now (r (.getCluster id) s).2).1 = Duration.zero
      · simp only [if_pos late]
        exact .overdue undecided late
      · simp only [if_neg late]
        exact .again undecided late (ih _ _)

/-- A wait begins with a reading of the clock. -/
theorem awaitReady_waited (patience : Nat) (s : σ) :
    ∃ exchanges,
      Dialogue.transcript r (awaitReady b patience id) s = ⟨.now, (r .now s).1⟩ :: exchanges ∧
      Waited b id (r .now s).1 ((r .now s).1.after? b.limit) patience b.first exchanges
        (Dialogue.run r.party (awaitReady b patience id) s).1 := by
  rw [awaitReady, Errand.transcript_call, Errand.run_party_call]
  exact ⟨_, rfl, pollReady_waited ..⟩

end

/-! ## How a wait ends -/

/-- The last look decides the outcome, and no earlier one has decided anything. -/
def DecidedByLast (exchanges : List (Exchange Outside))
    (outcome : Except ClusterFault Cluster) : Prop :=
  ∃ earlier last, looks exchanges = earlier ++ [last] ∧ (∀ answer ∈ earlier, Undecided answer) ∧
    Decides last outcome

/-- No look has decided anything, and the clock that was read after the last of them showed the
deadline or a later time. -/
def GaveUp (id : String) (started : Instant) (deadline : Option Instant)
    (exchanges : List (Exchange Outside)) (outcome : Except ClusterFault Cluster) : Prop :=
  (∀ answer ∈ looks exchanges, Undecided answer) ∧
    ∃ limit before last seen closing, deadline = some limit ∧
      exchanges = before ++ [⟨.getCluster id, last⟩, ⟨.now, seen⟩, ⟨.now, closing⟩] ∧
      limit.nanos ≤ seen.nanos ∧
      outcome = .error (.stillWaiting id (started.since closing).seconds)

section

variable {id : String} {started : Instant} {deadline : Option Instant}
  {exchanges : List (Exchange Outside)} {outcome : Except ClusterFault Cluster}

/-- Looks that have decided nothing may stand before. -/
theorem DecidedByLast.behind (front : List (Exchange Outside))
    (h : DecidedByLast exchanges outcome)
    (undecided : ∀ answer ∈ looks front, Undecided answer) :
    DecidedByLast (front ++ exchanges) outcome := by
  obtain ⟨earlier, last, split, before, decides⟩ := h
  refine ⟨looks front ++ earlier, last, ?_, ?_, decides⟩
  · rw [looks_append, split, List.append_assoc]
  · exact List.forall_mem_append.mpr ⟨undecided, before⟩

theorem GaveUp.behind (front : List (Exchange Outside))
    (h : GaveUp id started deadline exchanges outcome)
    (undecided : ∀ answer ∈ looks front, Undecided answer) :
    GaveUp id started deadline (front ++ exchanges) outcome := by
  obtain ⟨all, limit, before, last, seen, closing, known, split, passed, told⟩ := h
  refine ⟨?_, limit, front ++ before, last, seen, closing, known, ?_, passed, told⟩
  · rw [looks_append]
    exact List.forall_mem_append.mpr ⟨undecided, all⟩
  · rw [split, List.append_assoc]

theorem GaveUp.told (h : GaveUp id started deadline exchanges outcome) :
    ∃ seconds, outcome = .error (.stillWaiting id seconds) := by
  obtain ⟨-, limit, before, last, seen, closing, -, -, -, told⟩ := h
  exact ⟨_, told⟩

end

theorem Duration.ofNanos_eq_zero_iff {n : Nat} : Duration.ofNanos n = Duration.zero ↔ n = 0 := by
  constructor
  · intro h
    have nanos := congrArg Duration.nanos h
    have large : 0 < maxNanos := by decide
    simp only [zero, nanos_ofNanos] at nanos
    omega
  · rintro rfl
    rfl

/-- Nothing is left exactly if there is a deadline and it has come. -/
theorem Instant.leftUntil_eq_zero_iff {deadline : Option Instant} {now : Instant} :
    leftUntil deadline now = Duration.zero ↔
      ∃ limit, deadline = some limit ∧ limit.nanos ≤ now.nanos := by
  cases deadline with
  | none =>
    have long : Duration.longest ≠ Duration.zero := by decide
    simp [leftUntil, long]
  | some limit => simp [leftUntil, Duration.ofNanos_eq_zero_iff, Nat.sub_eq_zero_iff_le]

namespace Waited

variable {b : Backoff} {id : String} {started : Instant} {deadline : Option Instant}
  {patience : Nat} {interval : Duration} {exchanges : List (Exchange Outside)}
  {outcome : Option (Except ClusterFault Cluster)}

/-- Only the cluster and the clock are asked. -/
theorem asks (h : Waited b id started deadline patience interval exchanges outcome) :
    ∀ e ∈ exchanges, e.question = .getCluster id ∨ e.question.asksClock = true := by
  induction h with
  | unfinished => exact List.forall_mem_nil _
  | decided => simp
  | overdue => simp [Call.asksClock]
  | again _ _ _ ih => simpa [Call.asksClock] using ih

/-- The outcome is decided by the last look, or the wait has given up. -/
theorem ends {result : Except ClusterFault Cluster}
    (h : Waited b id started deadline patience interval exchanges (some result)) :
    DecidedByLast exchanges result ∨ GaveUp id started deadline exchanges result := by
  generalize ho : some result = outcome at h
  induction h with
  | unfinished => cases ho
  | decided decides =>
    cases ho
    exact .inl ⟨[], _, rfl, nofun, decides⟩
  | overdue undecided late =>
    cases ho
    obtain ⟨limit, known, passed⟩ := Instant.leftUntil_eq_zero_iff.mp late
    exact .inr ⟨by simpa using undecided, limit, [], _, _, _, known, rfl, passed, rfl⟩
  | @again _ interval answer seen later _ undecided _ _ ih =>
    have before : ∀ x ∈ looks [⟨.getCluster id, answer⟩, ⟨.now, seen⟩,
        ⟨.pause (interval.shorter (Instant.leftUntil deadline seen)), ()⟩], Undecided x := by
      simpa using undecided
    rcases ih ho with decided | gaveUp
    · exact .inl (decided.behind _ before)
    · exact .inr (gaveUp.behind _ before)

/-- A wait that comes to nothing has used up its patience, and no look has decided anything. -/
theorem used_up (h : Waited b id started deadline patience interval exchanges none) :
    (looks exchanges).length = patience ∧ ∀ answer ∈ looks exchanges, Undecided answer := by
  generalize ho : (none : Option (Except ClusterFault Cluster)) = outcome at h
  induction h with
  | unfinished => exact ⟨rfl, nofun⟩
  | decided => cases ho
  | overdue => cases ho
  | again undecided _ _ ih =>
    obtain ⟨length, all⟩ := ih ho
    exact ⟨by simp [length], by simpa using ⟨undecided, all⟩⟩

/-- Whoever may look at all looks at least once. -/
theorem looks_ne_nil (h : Waited b id started deadline patience interval exchanges outcome)
    (some : 0 < patience) : looks exchanges ≠ [] := by
  cases h with
  | unfinished => cases some
  | decided => simp
  | overdue => simp
  | again => simp

/-- A look that decides something is the last one and decides the outcome. -/
theorem decisive (h : Waited b id started deadline patience interval exchanges outcome)
    {before after : List (Except ClusterFault Cluster)}
    {answer verdict : Except ClusterFault Cluster}
    (split : looks exchanges = before ++ answer :: after) (decides : Decides answer verdict) :
    (∀ x ∈ before, Undecided x) ∧ after = [] ∧ outcome = some verdict := by
  have member : answer ∈ looks exchanges := by simp [split]
  cases outcome with
  | none => exact (decides.not_undecided (h.used_up.2 answer member)).elim
  | some result =>
    rcases h.ends with ⟨earlier, last, found, others, told⟩ | ⟨all, -⟩
    · rw [found] at split
      rcases List.eq_nil_or_concat after with rfl | ⟨inner, final, rfl⟩
      · obtain ⟨rfl, same⟩ := List.append_inj' split rfl
        obtain rfl := List.singleton_inj.mp same
        exact ⟨others, rfl, congrArg some (told.eq decides)⟩
      · -- A look after the decisive one would make the decisive one an earlier one.
        have shift : earlier ++ [last] = (before ++ answer :: inner) ++ [final] := by
          simpa using split
        have early : answer ∈ earlier := by
          rw [(List.append_inj' shift rfl).1]
          simp
        exact (decides.not_undecided (others answer early)).elim
    · exact (decides.not_undecided (all answer member)).elim

end Waited

section

variable {σ : Type} (r : Respondent Outside σ) (b : Backoff) (id : String) (patience : Nat) (s : σ)

theorem awaitReady_asks :
    ∀ e ∈ Dialogue.transcript r (awaitReady b patience id) s,
      e.question = .getCluster id ∨ e.question.asksClock = true := by
  obtain ⟨later, split, waited⟩ := awaitReady_waited r b id patience s
  rw [split]
  exact List.forall_mem_cons.mpr ⟨.inr rfl, waited.asks⟩

theorem awaitReady_ends {result : Except ClusterFault Cluster}
    (h : (Dialogue.run r.party (awaitReady b patience id) s).1 = some result) :
    DecidedByLast (Dialogue.transcript r (awaitReady b patience id) s) result ∨
      GaveUp id (r .now s).1 ((r .now s).1.after? b.limit)
        (Dialogue.transcript r (awaitReady b patience id) s) result := by
  obtain ⟨later, split, waited⟩ := awaitReady_waited r b id patience s
  rw [h] at waited
  rw [split]
  rcases waited.ends with decided | gaveUp
  · exact .inl (decided.behind [_] nofun)
  · exact .inr (gaveUp.behind [_] nofun)

end

/-- Whoever answers, a wait for a cluster asks only for this cluster and for the time, and looks at
least once, whatever the limit is.  The first look that decides something is the last one and
decides the outcome, however late it comes.  Any other outcome is that the wait has given up: then
no look has decided anything, and the deadline had come when the last look was over.  So a wait
that says that it is still waiting, unless it only passes on what a look has said, says so of this
cluster and has given up; and if no clock can show the deadline the wait never gives up.  There is
no outcome only where the patience is used up by looks that have decided nothing. -/
theorem first_decisive_look_decides {σ : Type} (r : Respondent Outside σ) (b : Backoff)
    (id : String) (patience : Nat) (s : σ) :
    let exchanges := Dialogue.transcript r (awaitReady b patience id) s
    let outcome := (Dialogue.run r.party (awaitReady b patience id) s).1
    let started : Instant := (r .now s).1
    let deadline := started.after? b.limit
    (∀ e ∈ exchanges, e.question = .getCluster id ∨ e.question.asksClock = true) ∧
      (0 < patience → looks exchanges ≠ []) ∧
      (∀ before answer after verdict, looks exchanges = before ++ answer :: after →
        Decides answer verdict →
        (∀ x ∈ before, Undecided x) ∧ after = [] ∧ outcome = some verdict) ∧
      (∀ result, outcome = some result →
        DecidedByLast exchanges result ∨ GaveUp id started deadline exchanges result) ∧
      (∀ other seconds, outcome = some (.error (.stillWaiting other seconds)) →
        .error (.stillWaiting other seconds) ∉ looks exchanges →
        other = id ∧
          GaveUp id started deadline exchanges (.error (.stillWaiting other seconds))) ∧
      (deadline = none → ∀ result, outcome = some result → DecidedByLast exchanges result) ∧
      (outcome = none →
        (looks exchanges).length = patience ∧ ∀ answer ∈ looks exchanges, Undecided answer) := by
  intro exchanges outcome started deadline
  obtain ⟨later, split, waited⟩ := awaitReady_waited r b id patience s
  have same : looks exchanges = looks later := by
    rw [show exchanges = _ from split, looks_reading]
  refine ⟨awaitReady_asks r b id patience s, ?_, ?_,
    fun result told => awaitReady_ends r b id patience s told, ?_, ?_, ?_⟩
  · rw [same]
    exact waited.looks_ne_nil
  · rw [same]
    exact fun before answer after verdict found decides => waited.decisive found decides
  · intro other seconds told fresh
    rcases awaitReady_ends r b id patience s told with ⟨earlier, last, found, -, decides⟩ | gaveUp
    · cases decides
      exact (fresh (by simp [exchanges, found])).elim
    · obtain ⟨passed, said⟩ := gaveUp.told
      cases said
      exact ⟨rfl, gaveUp⟩
  · intro unbounded result told
    rcases awaitReady_ends r b id patience s told with
      decided | ⟨-, limit, before, last, seen, closing, known, -⟩
    · exact decided
    · exact absurd (unbounded.symm.trans known) nofun
  · intro none
    rw [same]
    rw [show (Dialogue.run r.party (awaitReady b patience id) s).1 = Option.none from none] at waited
    exact waited.used_up

end RemoteMounts
