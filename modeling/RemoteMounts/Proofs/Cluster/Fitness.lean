import RemoteMounts.Proofs.Cluster.Acquisition

/-!
# An acquired cluster is fit

A cluster that comes of an acquisition is ready, whoever the provider is.  What else can be said of
it is as good as what the provider says: one that shows a cluster as it has shown it before
(`Consistent`) gives a cluster that meets the need, and that has come from where `Origin` says.  On
the ways on which the need is not looked at again, it is met because the choice fell on a cluster
that met it, or because the blueprint was drawn for it.
-/

namespace RemoteMounts

/-! ## Needs and blanks -/

/-- An ARN is not empty. -/
theorem ProfileArn.filled?_text (arn : ProfileArn) : Text.filled? arn.text = some arn.text := by
  have notEmpty : arn.text ≠ "" := by
    intro empty
    have sound := arn.sound
    rw [empty] at sound
    exact nomatch sound
  unfold Text.filled?
  rw [arn.trimmed, if_neg notEmpty]

namespace Need

variable {need : Need}

/-- Blanks around the attached profile do not count. -/
theorem isMetBy_congr {one other : Option String}
    (h : one.bind Text.filled? = other.bind Text.filled?) :
    need.isMetBy one = need.isMetBy other := by
  cases need with
  | nothing => rfl
  | anyProfile => simp only [isMetBy, h]
  | profile arn => simp only [isMetBy, h]

theorem isMetBy_profile? (h : need ≠ .anyProfile) :
    need.isMetBy (need.profile?.map ProfileArn.text) = true := by
  cases need with
  | nothing => rfl
  | anyProfile => exact absurd rfl h
  | profile arn => simp [isMetBy, profile?, ProfileArn.filled?_text]

end Need

/-- Finishing a draft changes nothing. -/
theorem Draft.eq_blueprint_of_finish {d : Draft} {b : Blueprint} (h : d.finish = .ok b) :
    b = d.blueprint := by
  unfold finish at h
  cases hc : d.blueprint.check with
  | error e =>
    rw [hc] at h
    exact nomatch h
  | ok _ =>
    rw [hc] at h
    exact (Except.ok.inj h).symm

/-- A blueprint that is finished from the draft for a need meets it. -/
theorem Draft.isMetBy_of_finish {t : Template} {need : Need} {b : Blueprint}
    (any : need ≠ .anyProfile) (h : (Draft.forNeed t need).finish = .ok b) :
    need.isMetBy b.profile = true := by
  rw [Draft.eq_blueprint_of_finish h]
  exact Need.isMetBy_profile? any

/-! ## Choices are fit -/

theorem verdict?_eq_ok {a : Except ClusterFault Cluster} {c : Cluster}
    (h : verdict? a = some (.ok c)) : a = .ok c ∧ c.phase.isReady = true := by
  cases a with
  | error fault => exact nomatch h
  | ok seen =>
    simp only [verdict?] at h
    by_cases ready : seen.phase.isReady = true
    · rw [if_pos ready] at h
      cases h
      exact ⟨rfl, ready⟩
    · rw [if_neg ready] at h
      split at h
      · cases h
      · cases h

theorem IsFirst.mem {p : Cluster → Prop} {clusters : List Cluster} {c : Cluster}
    (h : IsFirst p clusters c) : c ∈ clusters ∧ p c := by
  obtain ⟨before, after, split, holds, -⟩ := h
  exact ⟨by simp [split], holds⟩

namespace Chosen

variable {need : Need} {clusters : List Cluster}

/-- A cluster that is reused is there, is ready and meets the need. -/
theorem reuse_fit {c : Cluster} (h : Chosen need clusters (.reuse c)) :
    c ∈ clusters ∧ c.phase.isReady = true ∧ need.isMetBy c.profile = true := by
  have first : c ∈ Choice.fit need clusters ∧ c.phase.isReady = true := by
    cases h with
    | own first => exact ⟨first.mem.1, first.mem.2.1⟩
    | other _ first => exact first.mem
  obtain ⟨mem, met⟩ := List.mem_filter.mp first.1
  exact ⟨mem, first.2, met⟩

/-- A cluster that is started again is there, has ended and meets the need. -/
theorem restart_fit {id : String} (h : Chosen need clusters (.restart id)) :
    ∃ c ∈ clusters, c.id = id ∧ c.phase = .terminated ∧ need.isMetBy c.profile = true := by
  cases h with
  | @ended c _ first =>
    obtain ⟨mem, met⟩ := List.mem_filter.mp first.mem.1
    exact ⟨c, mem, rfl, first.mem.2.1, met⟩

end Chosen

/-! ## What the provider has shown -/

/-- The profile that a cluster of this id had in a list, or that one was to be given that was made
under this id. -/
inductive Shown (exchanges : List (Exchange Outside)) (id : String) : Option String → Prop
  | listed {clusters : List Cluster} {c : Cluster} :
    ⟨.listClusters, .ok clusters⟩ ∈ exchanges → c ∈ clusters → c.id = id →
    Shown exchanges id c.profile
  | given {blueprint : Blueprint} :
    ⟨.createCluster blueprint, .ok id⟩ ∈ exchanges → Shown exchanges id blueprint.profile

/-- Whoever is asked for a cluster answers with that cluster, and with the profile that was shown
for it; blanks around the profile do not count. -/
structure Consistent (exchanges : List (Exchange Outside)) : Prop where
  named : ∀ {id : String} {c : Cluster}, ⟨.getCluster id, .ok c⟩ ∈ exchanges → c.id = id
  shown : ∀ {id : String} {c : Cluster} {profile : Option String},
    ⟨.getCluster id, .ok c⟩ ∈ exchanges → Shown exchanges id profile →
      c.profile.bind Text.filled? = profile.bind Text.filled?

/-- Where a cluster has come from: it was the pinned one, it was in the list and ready and nothing
was done to it, it was in the list and was started, or it was made. -/
inductive Origin (wanted : Wanted) (exchanges : List (Exchange Outside)) : String → Prop
  | pinned {id : String} : wanted.pinned = some id → Origin wanted exchanges id
  | reused {clusters : List Cluster} {c : Cluster} :
    wanted.pinned = none → exchanges = [⟨.listClusters, .ok clusters⟩] → c ∈ clusters →
    c.phase.isReady = true → Origin wanted exchanges c.id
  | started {clusters : List Cluster} {c : Cluster} :
    wanted.pinned = none → ⟨.listClusters, .ok clusters⟩ ∈ exchanges → c ∈ clusters →
    ⟨.startCluster c.id, .ok ()⟩ ∈ exchanges → Origin wanted exchanges c.id
  | made {blueprint : Blueprint} {id : String} :
    wanted.pinned = none → ⟨.createCluster blueprint, .ok id⟩ ∈ exchanges →
    Origin wanted exchanges id

/-! ## What is awaited is ready -/

/-- A wait that ends well ends with a look at a ready cluster. -/
theorem Awaited.last_ready {id : String} {patience : Nat} {looks : List (Exchange Outside)}
    {c : Cluster} (h : Awaited id patience looks (some (.ok c))) :
    ⟨.getCluster id, .ok c⟩ ∈ looks ∧ c.phase.isReady = true := by
  generalize ho : (some (.ok c) : Option (Except ClusterFault Cluster)) = outcome at h
  induction h with
  | decided decisive =>
    cases ho
    obtain ⟨rfl, ready⟩ := verdict?_eq_ok decisive
    exact ⟨List.mem_singleton_self _, ready⟩
  | overdue => cases ho
  | again _ _ ih =>
    obtain ⟨mem, ready⟩ := ih ho
    exact ⟨List.mem_cons_of_mem _ mem, ready⟩
  | unfinished => cases ho

theorem Restarted.last_ready {patience : Nat} {id : String} {exchanges : List (Exchange Outside)}
    {c : Cluster} (h : Restarted patience id exchanges (some (.ok c))) :
    ⟨.startCluster id, .ok ()⟩ ∈ exchanges ∧ ⟨.getCluster id, .ok c⟩ ∈ exchanges ∧
      c.phase.isReady = true := by
  generalize ho : (some (.ok c) : Option (Except NoCluster Cluster)) = result at h
  cases h with
  | refused => cases ho
  | @awaited looks outcome wait =>
    rcases outcome with _ | fault | seen
    · cases ho
    · cases ho
    · cases ho
      obtain ⟨mem, ready⟩ := wait.last_ready
      exact ⟨List.mem_cons_self, List.mem_cons_of_mem _ mem, ready⟩

theorem Made.last_ready {patience : Nat} {blueprint : Blueprint} {exchanges : List (Exchange Outside)}
    {c : Cluster} (h : Made patience blueprint exchanges (some (.ok c))) :
    ∃ id, ⟨.createCluster blueprint, .ok id⟩ ∈ exchanges ∧
      ⟨.getCluster id, .ok c⟩ ∈ exchanges ∧ c.phase.isReady = true := by
  cases h with
  | @ready id looks _ wait =>
    obtain ⟨mem, ready⟩ := wait.last_ready
    exact ⟨id, List.mem_cons_self, List.mem_cons_of_mem _ mem, ready⟩

/-! ## What is acquired is fit -/

namespace Acquired

variable {p : Provisioning} {wanted : Wanted} {exchanges : List (Exchange Outside)} {c : Cluster}

theorem ready (h : Acquired p wanted exchanges (some (.ok c))) : c.phase.isReady = true := by
  cases h with
  | pinned course =>
    cases course with
    | usable ready _ => exact ready
  | reused chosen => exact chosen.reuse_fit.2.1
  | restarted _ course => exact course.last_ready.2.2
  | made _ _ _ course =>
    obtain ⟨id, -, -, ready⟩ := course.last_ready
    exact ready

theorem fit (h : Acquired p wanted exchanges (some (.ok c))) (consistent : Consistent exchanges) :
    wanted.need.isMetBy c.profile = true ∧ Origin wanted exchanges c.id := by
  cases h with
  | pinned course =>
    cases course with
    | usable _ met =>
      have named := consistent.named (List.mem_singleton_self _)
      exact ⟨met, .pinned (congrArg some named.symm)⟩
  | reused chosen =>
    obtain ⟨mem, ready, met⟩ := chosen.reuse_fit
    exact ⟨met, .reused rfl rfl mem ready⟩
  | @restarted need clusters id exchanges _ chosen course =>
    obtain ⟨before, mem, rfl, -, met⟩ := chosen.restart_fit
    obtain ⟨started, seen, -⟩ := course.last_ready
    have listed := List.mem_cons_self (a := (⟨.listClusters, .ok clusters⟩ : Exchange Outside))
      (l := exchanges)
    have looked := List.mem_cons_of_mem ⟨.listClusters, .ok clusters⟩ seen
    have same := consistent.shown looked (.listed listed mem rfl)
    rw [consistent.named looked, Need.isMetBy_congr same]
    exact ⟨met, .started rfl listed mem (List.mem_cons_of_mem _ started)⟩
  | @made need clusters blueprint exchanges _ _ any drawn course =>
    obtain ⟨id, created, seen, -⟩ := course.last_ready
    have looked := List.mem_cons_of_mem ⟨.listClusters, .ok clusters⟩ seen
    have given := List.mem_cons_of_mem ⟨.listClusters, .ok clusters⟩ created
    rw [consistent.named looked, Need.isMetBy_congr (consistent.shown looked (.given given))]
    exact ⟨Draft.isMetBy_of_finish any drawn, .made rfl given⟩

end Acquired

/-- A cluster that meets the need for a profile has the one that was named, blanks around either
apart. -/
theorem Need.trim_profile {arn : ProfileArn} {attached : Option String} {source : String}
    (h : (Need.profile arn).isMetBy attached = true) (named : ProfileArn.parse source = .ok arn) :
    attached.map Text.trim = some (Text.trim source) := by
  have found : attached.bind Text.filled? = some arn.text := by simpa [isMetBy] using h
  obtain ⟨text, rfl, filled⟩ := Option.bind_eq_some_iff.mp found
  have trimmed : Text.trim text = arn.text := by
    unfold Text.filled? at filled
    split at filled
    · cases filled
    · exact Option.some.inj filled
  rw [Option.map_some, trimmed, ProfileArn.text_of_parse named]

section

variable {σ : Type} {r : Respondent Outside σ} {p : Provisioning} {wanted : Wanted} {s t : σ}
  {c : Cluster}

/-- Whatever is answered, what an acquisition asks of the provider and its result belong together. -/
theorem acquire_takes (r : Respondent Outside σ) (p : Provisioning) (wanted : Wanted) (s : σ) :
    Takes r (Acquired p wanted) (p.acquire wanted) s := by
  obtain ⟨pinned, need⟩ := wanted
  cases pinned with
  | some id => exact .pinned (acquirePinned_pinned r id need s)
  | none => exact acquireAny_acquired r p need s

/-- Whoever the provider is, a cluster that is acquired is ready.  If the provider says of a cluster
what it has said of it before, the cluster also meets the need, on whichever way it was acquired, and
is the pinned one, one of the list that was ready or was started, or the one that was made.  A
profile that was named is then the one that is attached, with or without blanks around either. -/
theorem acquired_cluster_fits (h : Dialogue.run r.party (p.acquire wanted) s = (some (.ok c), t)) :
    c.phase.isReady = true ∧
      (Consistent (onProvider (Dialogue.transcript r (p.acquire wanted) s)) →
        wanted.need.isMetBy c.profile = true ∧
          Origin wanted (onProvider (Dialogue.transcript r (p.acquire wanted) s)) c.id ∧
          ∀ source arn, ProfileArn.parse source = .ok arn → wanted.need = .profile arn →
            c.profile.map Text.trim = some (Text.trim source)) := by
  have course := acquire_takes r p wanted s
  unfold Takes at course
  rw [h] at course
  refine ⟨course.ready, fun consistent => ?_⟩
  obtain ⟨met, origin⟩ := course.fit consistent
  refine ⟨met, origin, fun source arn named needed => ?_⟩
  rw [needed] at met
  exact Need.trim_profile met named

end

/-! ## A cluster that wakes up -/

def readerProfile : ProfileArn :=
  ⟨"arn:aws:iam::1:instance-profile/reader", by decide +kernel, by decide +kernel⟩

def reader (id : String) (phase : Phase) : Cluster :=
  ⟨id, "lakemount-reader", phase, "", some (" " ++ readerProfile.text ++ " ")⟩

/-- A provider that has one cluster, which has ended and is ready at the second look; the looks are
counted. -/
def waking : Respondent Outside Nat
  | .getCluster id, looks => (.ok (reader id (if looks = 0 then .pending else .running)), looks + 1)
  | .listClusters, looks => (.ok [reader "c1" .terminated], looks)
  | .createCluster _, looks => (.error (.refused "full"), looks)
  | .startCluster _, looks => (.ok (), looks)
  | .deleteCluster _, looks => (.ok (), looks)
  | .addProfile _, looks => (.ok (), looks)
  | .removeProfile _, looks => (.ok (), looks)
  | .runScript _ _, looks => (.ok "", looks)
  | .now, looks => (⟨0⟩, looks)
  | .pause _, looks => ((), looks)
  | .enter _, looks => (some true, looks)
  | .leave _ _, looks => ((), looks)

/-- Such a provider does not contradict itself. -/
theorem consistent_waking {α : Type} (d : Errand α) (looks : Nat) :
    Consistent (onProvider (Dialogue.transcript waking d looks)) := by
  have answered {e : Exchange Outside}
      (he : e ∈ onProvider (Dialogue.transcript waking d looks)) :
      ∃ u, e.answer = (waking e.question u).1 :=
    Dialogue.answer_of_mem waking (List.mem_filter.mp he).1
  have seen {id : String} {c : Cluster}
      (look : ⟨.getCluster id, .ok c⟩ ∈ onProvider (Dialogue.transcript waking d looks)) :
      ∃ phase, c = reader id phase := by
    obtain ⟨u, same⟩ := answered look
    exact ⟨_, Except.ok.inj same⟩
  constructor
  · intro id c look
    obtain ⟨phase, rfl⟩ := seen look
    rfl
  · intro id c profile look shown
    obtain ⟨phase, rfl⟩ := seen look
    cases shown with
    | listed list mem named =>
      obtain ⟨u, same⟩ := answered list
      obtain rfl := Except.ok.inj same
      obtain rfl := List.mem_singleton.mp mem
      rfl
    | given made =>
      obtain ⟨u, same⟩ := answered made
      exact nomatch same

/-- It is started, and meets the need as it did in the list. -/
theorem acquired_cluster_fits_waking :
    let p : Provisioning := ⟨⟨"runtime", "node", 10⟩, .standard, 2⟩
    let wanted : Wanted := ⟨none, .profile readerProfile⟩
    Dialogue.run waking.party (p.acquire wanted) 0 = (some (.ok (reader "c1" .running)), 2) ∧
      (reader "c1" .running).phase.isReady = true ∧
      wanted.need.isMetBy (reader "c1" .running).profile = true ∧
      Origin wanted (onProvider (Dialogue.transcript waking (p.acquire wanted) 0)) "c1" := by
  intro p wanted
  have acquired : Dialogue.run waking.party (p.acquire wanted) 0 =
      (some (.ok (reader "c1" .running)), 2) := rfl
  obtain ⟨ready, fit⟩ := acquired_cluster_fits acquired
  obtain ⟨met, origin, -⟩ := fit (consistent_waking _ _)
  exact ⟨acquired, ready, met, origin⟩

end RemoteMounts
