import RemoteMounts.Proofs.Simulated.Board

/-!
# Mounting on the stage

What a mount point tells its caller on the stage can be read off the board: a source that was bound
is shown (`Board.shows_of_create`), what is shown is found and is made again as it is, and what was
cleared is absent.  Only the mounts of the stage are touched, so nothing is asked of the provider
and the registry (`Stage.Quiet`).
-/

namespace RemoteMounts.Simulated

/-! ## What a board shows -/

namespace Board

variable {b : Board} {cluster : String} {name : MountName} {a : Attachment} {source : String}

/-- No failure is to come, and this source is shown at the path. -/
def Shows (b : Board) (cluster path source : String) : Prop :=
  b.failures = [] ∧ ∃ there, b.bound cluster path = some there ∧ createdAt path there = .ok source

theorem foundAt_of_createdAt {path there : String} (h : createdAt path there = .ok source) :
    foundAt (some there) = .mounted source := by
  unfold createdAt at h
  by_cases blank : Text.trim there = ""
  · rw [if_pos blank] at h
    cases h
  · rw [if_neg blank] at h
    cases h
    exact if_neg blank

theorem shows_of_create {after : Board} (calm : b.failures = [])
    (h : b.create cluster name a = (.created (.ok source), after)) :
    after.Shows cluster name.path source := by
  unfold create at h
  cases ha : a.args with
  | error cause =>
    rw [ha] at h
    cases h
  | ok args =>
    rw [ha, calm] at h
    dsimp only at h
    cases hb : b.bound cluster name.path with
    | some there =>
      rw [hb] at h
      simp only [Prod.mk.injEq, Outcome.created.injEq] at h
      obtain ⟨told, rfl⟩ := h
      exact ⟨calm, there, hb, told⟩
    | none =>
      rw [hb] at h
      simp only [Prod.mk.injEq, Outcome.created.injEq] at h
      obtain ⟨told, rfl⟩ := h
      refine ⟨calm, args.uri, ?_, told⟩
      simp [put, ran]

theorem create_of_shows (h : b.Shows cluster name.path source) {args : MountArgs}
    (ha : a.args = .ok args) : b.create cluster name a = (.created (.ok source), b.ran) := by
  obtain ⟨calm, there, hb, told⟩ := h
  unfold create
  rw [ha, calm]
  simp only [hb, told]

theorem read_of_shows (h : b.Shows cluster name.path source) :
    b.read cluster name = (.found (.ok (.mounted source)), b.ran) := by
  obtain ⟨calm, there, hb, told⟩ := h
  unfold read
  rw [calm, hb]
  simp only [foundAt_of_createdAt told]

theorem delete_of_calm (calm : b.failures = []) :
    b.delete cluster name = (.deleted (.ok ()), (b.put cluster name.path none).ran) := by
  unfold delete
  rw [calm]

theorem read_of_unbound (calm : b.failures = []) (h : b.bound cluster name.path = none) :
    b.read cluster name = (.found (.ok .absent), b.ran) := by
  unfold read
  rw [calm, h]
  rfl

end Board

namespace Stage

/-! ### Mount points do as the board does -/

section

variable {s : Stage} {p : MountPoint} {board : Board}

/-- An errand that is told what the board says comes to that result and touches only the mounts. -/
theorem PlaysAs.run_eq {α : Type} {errand : Errand α} {tell : α → Outcome} {result : α}
    (injective : ∀ a b, tell a = tell b → a = b)
    (h : s.PlaysAs ((Dialogue.run answer errand s).1.map tell, (Dialogue.run answer errand s).2)
      (tell result, board)) :
    ∃ mounts, Dialogue.run answer errand s = (some result, { s with mounts }) ∧
      Board.ofMounts mounts = board := by
  obtain ⟨told, looks, mounts, left⟩ := h
  obtain ⟨same, ran, ht⟩ := Option.map_eq_some_iff.mp told
  rw [injective same result ht] at ran
  rw [left] at looks
  exact ⟨mounts, Prod.ext ran left, looks⟩

theorem run_create_of_board {a : Attachment} {result : Except MountFailure String}
    (h : (Board.ofMounts s.mounts).create p.cluster p.name a = (.created result, board)) :
    ∃ mounts, Dialogue.run answer (p.create a) s = (some result, { s with mounts }) ∧
      Board.ofMounts mounts = board := by
  have played := play_create s p.cluster p.name a
  simp only [play, h] at played
  exact PlaysAs.run_eq (fun _ _ => Outcome.created.inj) played

theorem run_read_of_board {result : Except MountFailure Found}
    (h : (Board.ofMounts s.mounts).read p.cluster p.name = (.found result, board)) :
    ∃ mounts, Dialogue.run answer p.read s = (some result, { s with mounts }) ∧
      Board.ofMounts mounts = board := by
  have played := play_read s p.cluster p.name
  simp only [play, h] at played
  exact PlaysAs.run_eq (fun _ _ => Outcome.found.inj) played

theorem run_delete_of_board {result : Except MountFailure Unit}
    (h : (Board.ofMounts s.mounts).delete p.cluster p.name = (.deleted result, board)) :
    ∃ mounts, Dialogue.run answer p.delete s = (some result, { s with mounts }) ∧
      Board.ofMounts mounts = board := by
  have played := play_delete s p.cluster p.name
  simp only [play, h] at played
  exact PlaysAs.run_eq (fun _ _ => Outcome.deleted.inj) played

/-- What a mount point tells its caller when it makes the mount is what the board tells. -/
theorem board_of_run_create {a : Attachment} {result : Except MountFailure String} {t : Stage}
    (h : Dialogue.run answer (p.create a) s = (some result, t)) :
    (Board.ofMounts s.mounts).create p.cluster p.name a =
        (.created result, Board.ofMounts t.mounts) ∧
      ∃ mounts, t = { s with mounts } := by
  have played := play_create s p.cluster p.name a
  simp only [play, h] at played
  obtain ⟨told, looks, left⟩ := played
  exact ⟨Prod.ext (Option.some.inj told).symm looks.symm, left⟩

/-- From one stage to the other no cluster was to be made, started or taken away, and no profile was
to be registered. -/
def Quiet (s t : Stage) : Prop :=
  t.clusters.created = s.clusters.created ∧ t.clusters.started = s.clusters.started ∧
    t.clusters.deleted = s.clusters.deleted ∧ t.registry.added = s.registry.added

theorem quiet_mounts (s : Stage) (mounts : Mounts) : s.Quiet { s with mounts } :=
  ⟨rfl, rfl, rfl, rfl⟩

/-- To look at a cluster asks for nothing. -/
theorem quiet_get (s : Stage) (id : String) (mounts : Mounts) :
    s.Quiet { s with clusters := (s.clusters.get id).2, mounts } := by
  have counts : (s.clusters.get id).2.created = s.clusters.created ∧
      (s.clusters.get id).2.started = s.clusters.started ∧
      (s.clusters.get id).2.deleted = s.clusters.deleted := by
    unfold Clusters.get Clusters.nextPhase
    dsimp only
    split <;> split <;> exact ⟨rfl, rfl, rfl⟩
  exact ⟨counts.1, counts.2.1, counts.2.2, rfl⟩

end

end Stage

end RemoteMounts.Simulated
