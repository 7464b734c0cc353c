import RemoteMounts.Proofs.Cluster.Fitness
import RemoteMounts.Proofs.Simulated.Reached

/-!
# Acquiring a simulated cluster

A cluster that is acquired on the stage is acquired again: whether it was there, was started or was
made, it is then the ready cluster that the choice falls on (`secured_of_run_acquireAny`).  To
acquire it again leaves the stage as it is, and looking for it by its id finds it, in whatever phase
it has come to.
-/

namespace RemoteMounts

/-! ## The choice of a ready cluster -/

namespace Choice

variable {need : Need} {clusters : List Cluster} {c : Cluster}

theorem mem_of_ready? (h : ready? need clusters = some c) :
    c ∈ clusters ∧ need.isMetBy c.profile = true ∧ c.phase.isReady = true := by
  obtain ⟨mem, ready, met⟩ := (chosen_of_ready? h).reuse_fit
  exact ⟨mem, met, ready⟩

theorem among_of_ready? (h : ready? need clusters = some c) : among need clusters = .reuse c := by
  unfold among
  rw [h]

/-- The choice falls on the only ready cluster that meets the need. -/
theorem ready?_of_only (mem : c ∈ clusters) (met : need.isMetBy c.profile = true)
    (ready : c.phase.isReady = true)
    (only : ∀ x ∈ clusters, need.isMetBy x.profile = true → x.phase.isReady = true → x = c) :
    ready? need clusters = some c := by
  cases h : ready? need clusters with
  | none =>
    have idle := not_ready_of_ready?_eq_none h c (List.mem_filter.mpr ⟨mem, met⟩)
    rw [ready] at idle
    exact nomatch idle
  | some x =>
    obtain ⟨hx, fits, awake⟩ := mem_of_ready? h
    rw [only x hx fits awake]

end Choice

/-- A blueprint that is drawn for a need meets it. -/
theorem Provisioning.isMetBy_blueprint {p : Provisioning} {need : Need} {b : Blueprint}
    (h : p.blueprint need = .ok b) : need.isMetBy b.profile = true := by
  by_cases any : need = .anyProfile
  · subst any
    exact nomatch h
  · rw [blueprint_eq p any] at h
    cases hf : (Draft.forNeed p.template need).finish with
    | error e =>
      rw [hf] at h
      exact nomatch h
    | ok drawn =>
      rw [hf] at h
      obtain rfl := Except.ok.inj h
      exact Draft.isMetBy_of_finish any hf

namespace Simulated.Stage

/-! ## Waiting on the stage -/

/-- A cluster has become ready.  Nothing else has changed but how the provider keeps count. -/
structure Awoken (id : String) (c : Cluster) (s t : Stage) : Prop where
  ready : c.phase.isReady = true
  known : t.clusters.known.get? id = some c
  same : ∃ before, s.clusters.known.get? id = some before ∧ c = { before with phase := c.phase }
  others : ∀ key, key ≠ id → t.clusters.known.get? key = s.clusters.known.get? key
  frame : t = { s with clusters := t.clusters }

/-- A look that goes before changes nothing of it. -/
theorem Awoken.look {id : String} {c : Cluster} {s t : Stage}
    (known : s.clusters.known.get? id ≠ none)
    (h : Awoken id c { s with clusters := (s.clusters.get id).2 } t) : Awoken id c s t := by
  obtain ⟨before, hb⟩ := Option.ne_none_iff_exists'.mp known
  obtain ⟨phase, -, after⟩ := Clusters.get_of_known hb
  constructor
  · exact h.ready
  · exact h.known
  · obtain ⟨seen, hs, same⟩ := h.same
    refine ⟨before, hb, ?_⟩
    rw [after, Keyed.get?_insert, if_pos rfl] at hs
    cases hs
    exact same
  · intro key hk
    rw [h.others key hk, after, Keyed.get?_insert, if_neg hk]
  · exact h.frame

theorem awoken_of_run_pollReady {b : Backoff} {id : String} {started : Instant}
    {deadline : Option Instant} {patience : Nat} {interval : Duration} {s t : Stage} {c : Cluster}
    (h : Dialogue.run answer (pollReady b id started deadline patience interval) s =
      (some (.ok c), t)) : Awoken id c s t := by
  induction patience generalizing s interval with
  | zero => cases h
  | succ patience ih =>
    rw [pollReady, Errand.run_call] at h
    simp only [answer] at h
    cases hk : s.clusters.known.get? id with
    | none =>
      rw [(Clusters.get_of_unknown hk).1] at h
      cases h
    | some before =>
      obtain ⟨phase, seen, after⟩ := Clusters.get_of_known hk
      cases hv : verdict? (s.clusters.get id).1 with
      | some verdict =>
        rw [hv] at h
        cases h
        obtain ⟨same, ready⟩ := verdict?_eq_ok hv
        rw [seen] at same
        cases same
        refine ⟨ready, ?_, ⟨before, hk, rfl⟩, ?_, rfl⟩
        · rw [after, Keyed.get?_insert, if_pos rfl]
        · intro key hne
          rw [after, Keyed.get?_insert, if_neg hne]
      | none =>
        rw [hv] at h
        dsimp only at h
        rw [Errand.run_call] at h
        simp only [answer] at h
        by_cases late : Instant.leftUntil deadline ⟨0⟩ = Duration.zero
        · rw [if_pos late, Errand.run_call] at h
          cases h
        · rw [if_neg late, Errand.run_call] at h
          exact (ih h).look (by simp [hk])

theorem awoken_of_run_awaitReady {b : Backoff} {patience : Nat} {id : String} {s t : Stage}
    {c : Cluster} (h : Dialogue.run answer (awaitReady b patience id) s = (some (.ok c), t)) :
    Awoken id c s t := by
  rw [awaitReady, Errand.run_call] at h
  exact awoken_of_run_pollReady h

/-! ## What is acquired -/

/-- The choice falls on the cluster, which is there under its id. -/
structure Secured (need : Need) (c : Cluster) (clusters : Clusters) : Prop where
  chosen : Choice.ready? need clusters.list = some c
  known : clusters.known.get? c.id = some c

/-- A cluster that was awaited is secured if it meets the need and no other one was ready: of the
others none has changed. -/
theorem Awoken.secured {need : Need} {clusters : Clusters} {c : Cluster} {s t : Stage}
    (fresh : Cluster) (h : Awoken fresh.id c s t) (idle : Choice.ready? need clusters.list = none)
    (started : s.clusters.known = clusters.known.insert fresh.id fresh)
    (met : need.isMetBy fresh.profile = true) : Secured need c t.clusters := by
  obtain ⟨before, hb, same⟩ := h.same
  rw [started, Keyed.get?_insert, if_pos rfl] at hb
  cases hb
  have named : c.id = fresh.id := by rw [same]
  have profile : c.profile = fresh.profile := by rw [same]
  refine ⟨Choice.ready?_of_only ?_ (profile ▸ met) h.ready ?_, named ▸ h.known⟩
  · exact Keyed.mem_values_iff.mpr ⟨fresh.id, h.known⟩
  · intro x hx fits awake
    obtain ⟨key, hk⟩ := Keyed.mem_values_iff.mp hx
    by_cases hkey : key = fresh.id
    · rw [hkey, h.known] at hk
      exact (Option.some.inj hk).symm
    · rw [h.others key hkey, started, Keyed.get?_insert, if_neg hkey] at hk
      have mem : x ∈ clusters.list := Keyed.mem_values_iff.mpr ⟨key, hk⟩
      have asleep := Choice.not_ready_of_ready?_eq_none idle x (List.mem_filter.mpr ⟨mem, fits⟩)
      rw [awake] at asleep
      exact nomatch asleep

variable {p : Provisioning} {need : Need} {c : Cluster} {s t : Stage}

theorem secured_of_run_restart {before : Cluster} (idle : Choice.ready? need s.clusters.list = none)
    (known : s.clusters.known.get? before.id = some before)
    (met : need.isMetBy before.profile = true)
    (h : Dialogue.run answer (p.restart before.id) s = (some (.ok c), t)) :
    Secured need c t.clusters ∧ t = { s with clusters := t.clusters } := by
  rw [Provisioning.restart, Errand.run_call] at h
  simp only [answer, Clusters.start, known] at h
  obtain ⟨outcome, u, awaited, h⟩ := Dialogue.run_bind_eq_some_iff.mp h
  cases outcome with
  | error fault => cases h
  | ok seen =>
    cases h
    have awoken := awoken_of_run_awaitReady awaited
    let fresh : Cluster := { before with phase := .pending }
    exact ⟨Awoken.secured fresh awoken idle rfl met, awoken.frame⟩

theorem secured_of_run_make {b : Blueprint} (idle : Choice.ready? need s.clusters.list = none)
    (drawn : p.blueprint need = .ok b)
    (h : Dialogue.run answer (p.make b) s = (some (.ok c), t)) :
    Secured need c t.clusters ∧ t = { s with clusters := t.clusters } := by
  rw [Provisioning.make, Errand.run_call] at h
  simp only [answer, Clusters.create] at h
  cases hf : s.clusters.createFault with
  | some fault =>
    simp only [hf] at h
    cases h
  | none =>
    simp only [hf] at h
    obtain ⟨outcome, u, awaited, h⟩ := Dialogue.run_bind_eq_some_iff.mp h
    cases outcome with
    | error fault =>
      obtain ⟨reason, v, -, h⟩ := Dialogue.run_bind_eq_some_iff.mp h
      cases h
    | ok seen =>
      cases h
      have awoken := awoken_of_run_awaitReady awaited
      let id := "cluster-" ++ toString (s.clusters.made + 1)
      let fresh : Cluster := ⟨id, b.name, .pending, "", b.profile⟩
      exact ⟨Awoken.secured fresh awoken idle rfl (Provisioning.isMetBy_blueprint drawn),
        awoken.frame⟩

/-- A cluster that is acquired is secured, whichever way it was acquired. -/
theorem secured_of_run_acquireAny (keyed : s.clusters.KeyedById)
    (h : Dialogue.run answer (p.acquireAny need) s = (some (.ok c), t)) :
    Secured need c t.clusters ∧ t = { s with clusters := t.clusters } := by
  have known {x : Cluster} (hx : x ∈ s.clusters.list) :
      s.clusters.known.get? x.id = some x := by
    obtain ⟨key, hk⟩ := Keyed.mem_values_iff.mp hx
    rw [keyed key x hk]
    exact hk
  rw [Provisioning.acquireAny, Errand.run_call] at h
  simp only [answer, Choice.among] at h
  cases hr : Choice.ready? need s.clusters.list with
  | some ready =>
    simp only [hr] at h
    cases h
    exact ⟨⟨hr, known (Choice.mem_of_ready? hr).1⟩, rfl⟩
  | none =>
    cases he : Choice.ended? need s.clusters.list with
    | some ended =>
      simp only [hr, he] at h
      obtain ⟨mem, met⟩ := List.mem_filter.mp (List.mem_of_find?_eq_some he)
      exact secured_of_run_restart hr (known mem) met h
    | none =>
      simp only [hr, he] at h
      cases hb : p.blueprint need with
      | error e =>
        rw [hb] at h
        cases h
      | ok b =>
        rw [hb] at h
        exact secured_of_run_make hr hb h

/-- A secured cluster is acquired again, and the stage stays as it is. -/
theorem run_acquireAny_of_secured (h : Secured need c s.clusters) :
    Dialogue.run answer (p.acquireAny need) s = (some (.ok c), s) := by
  rw [Provisioning.acquireAny, Errand.run_call]
  simp only [answer, Choice.among_of_ready? h.chosen]
  rfl

/-- A secured cluster that is pinned is looked at once more.  It is there and meets the need; only
its phase may have changed. -/
theorem run_acquirePinned_of_secured (h : Secured need c s.clusters) :
    ∃ phase, (s.clusters.get c.id).1 = .ok { c with phase } ∧
      Dialogue.run answer (Provisioning.acquirePinned c.id need) s =
        (some
          (if phase.isReady then .ok { c with phase }
          else .error (.unusable c.id ("cluster is " ++ phase.label))),
          { s with clusters := (s.clusters.get c.id).2 }) := by
  obtain ⟨phase, seen, -⟩ := Clusters.get_of_known h.known
  have met := (Choice.mem_of_ready? h.chosen).2.1
  refine ⟨phase, seen, ?_⟩
  rw [Provisioning.acquirePinned, Errand.run_call]
  simp only [answer, seen, met]
  cases phase.isReady <;> rfl

end Simulated.Stage

end RemoteMounts
