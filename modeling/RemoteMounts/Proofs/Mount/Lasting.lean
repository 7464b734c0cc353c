import RemoteMounts.Mount.Workflow
import RemoteMounts.Proofs.Simulated.Acquiring
import RemoteMounts.Proofs.Simulated.Mounting

/-!
# Mounts that last

Nothing is remembered of a mount that was made: whoever looks for it or removes it goes through all
the stages of its making again.  They lead to the same place.  The request is the same, the instance
profile is recorded as registered, the cluster is the ready one that the choice falls on, and the
path there is bound.  So a mount that was made is found, is made again as it is, and is removed
where it is (`made_lasts`), and nothing more is asked of the provider and of the registry.
-/

namespace RemoteMounts

open Simulated

/-! ## What is recorded of a profile -/

/-- An outcome that is recorded is replayed, and the stage stays as it is. -/
theorem run_once_of_recorded {s : Stage} {identity : String} {outcome : Bool}
    (h : s.once.outcome? identity = some outcome) (action : Errand Bool) :
    Dialogue.run Stage.answer (once identity action) s = (some ⟨false, outcome⟩, s) := by
  have told := Once.enter_eq_recorded_iff.mpr h
  rw [once, Errand.run_call]
  simp only [Stage.answer]
  generalize s.once.enter identity = entered at told
  obtain ⟨admission, after⟩ := entered
  cases told
  rfl

namespace Workflow

variable {w : Workflow} {a : Attachment} {s t : Stage}

/-- When the profile is registered once more nothing is left to be done: none is to be registered,
or it is recorded that this was done. -/
def Registered (w : Workflow) (a : Attachment) (o : Once) : Prop :=
  w.registers = true →
    ∃ profile, a.profile = .ok profile ∧ ∀ arn, profile = some arn → o.outcome? arn.text = some true

theorem run_ensureProfile_of_registered (h : w.Registered a s.once) :
    Dialogue.run Stage.answer (w.ensureProfile a) s = (some (.ok ()), s) := by
  unfold ensureProfile
  cases hw : w.registers with
  | false => rfl
  | true =>
    obtain ⟨profile, hp, recorded⟩ := h hw
    rw [hp]
    cases profile with
    | none => rfl
    | some arn =>
      simp only [Bool.not_true, Bool.false_eq_true, if_false]
      rw [Dialogue.run_bind, run_once_of_recorded (recorded arn rfl)]
      rfl

theorem run_register (arn : ProfileArn) (s : Stage) :
    Dialogue.run Stage.answer (register arn) s =
      (some s.registry.failure.isNone, { s with registry.added := s.registry.added + 1 }) := by
  rw [register, Errand.run_call]
  simp only [Stage.answer]
  rw [← Stage.addProfile_snd s arn]
  simp only [Stage.addProfile]
  cases s.registry.failure <;> rfl

/-- Whether a profile was registered is recorded after it was tried, and only the registry was
asked. -/
theorem registered_of_run_once {arn : ProfileArn} {verdict : OnceVerdict}
    (h : Dialogue.run Stage.answer (once arn.text (register arn)) s = (some verdict, t)) :
    t.once.outcome? arn.text = some verdict.outcome ∧
      t = { s with once := t.once, registry := t.registry } := by
  rw [once, Errand.run_call] at h
  simp only [Stage.answer] at h
  cases he : s.once.enter arn.text with
  | mk admission after =>
    rw [he] at h
    cases admission with
    | wait => cases h
    | recorded outcome =>
      cases h
      exact ⟨Once.enter_eq_recorded_iff.mp (congrArg Prod.fst he), rfl⟩
    | go =>
      dsimp only at h
      rw [Dialogue.run_bind, run_register] at h
      dsimp only at h
      rw [Errand.run_call] at h
      cases h
      exact ⟨Once.outcome?_leave .., rfl⟩

theorem registered_of_run_ensureProfile
    (h : Dialogue.run Stage.answer (w.ensureProfile a) s = (some (.ok ()), t)) :
    w.Registered a t.once ∧ t = { s with once := t.once, registry := t.registry } := by
  unfold ensureProfile at h
  cases hw : w.registers with
  | false =>
    rw [hw] at h
    cases h
    exact ⟨fun yes => absurd (hw.symm.trans yes) nofun, rfl⟩
  | true =>
    simp only [hw, Bool.not_true, Bool.false_eq_true, if_false] at h
    cases hp : a.profile with
    | error cause =>
      rw [hp] at h
      cases h
    | ok profile =>
      rw [hp] at h
      cases profile with
      | none =>
        cases h
        exact ⟨fun _ => ⟨none, hp, nofun⟩, rfl⟩
      | some arn =>
        obtain ⟨verdict, u, ran, h⟩ := Dialogue.run_bind_eq_some_iff.mp h
        cases hv : verdict.outcome with
        | false =>
          simp only [hv] at h
          cases h
        | true =>
          simp only [hv] at h
          cases h
          obtain ⟨recorded, frame⟩ := registered_of_run_once ran
          refine ⟨fun _ => ⟨some arn, hp, ?_⟩, frame⟩
          rintro _ ⟨⟩
          rw [recorded, hv]

/-! ## What a mount depends on -/

/-- Everything that the mount depends on is there: the request passes its check, the profile is
registered, and the cluster is secured. -/
structure Standing (w : Workflow) (r : Request) (c : Cluster) (clusters : Clusters) (o : Once) :
    Prop where
  checked : r.check = .ok ()
  registered : w.Registered r.attachment o
  secured : ∃ need, r.attachment.need = .ok need ∧ Stage.Secured need c clusters

variable {r : Request} {c : Cluster}

/-- A mount whose cluster is not pinned takes any cluster that meets its need. -/
theorem run_acquire_of_unpinned (free : r.cluster = none) {need : Need}
    (hn : r.attachment.need = .ok need) :
    Dialogue.run Stage.answer (w.acquire r) s = (some (.ok c), t) ↔
      Dialogue.run Stage.answer (w.provisioning.acquireAny need) s = (some (.ok c), t) := by
  simp only [acquire, Request.wanted, hn, free, Provisioning.acquire]
  rw [Dialogue.run_bind]
  generalize Dialogue.run Stage.answer (w.provisioning.acquireAny need) s = acquired
  obtain ⟨_ | _ | _, u⟩ := acquired <;> simp [Dialogue.run]

/-- Once a mount point could be prepared, everything that the mount depends on is there, and the
mounts are as they were. -/
theorem standing_of_run_prepare {point : MountPoint} (keyed : s.clusters.KeyedById)
    (free : r.cluster = none)
    (h : Dialogue.run Stage.answer (w.prepare r) s = (some (.ok point), t)) :
    ∃ c, point = ⟨c.id, r.name⟩ ∧ w.Standing r c t.clusters t.once ∧ t.mounts = s.mounts := by
  unfold prepare at h
  cases hc : r.check with
  | error cause =>
    rw [hc] at h
    cases h
  | ok checked =>
    rw [hc] at h
    obtain ⟨ensured, u, ran, h⟩ := Dialogue.run_bind_eq_some_iff.mp h
    cases ensured with
    | error e => cases h
    | ok _ =>
      obtain ⟨registered, frame⟩ := registered_of_run_ensureProfile ran
      have sameClusters : u.clusters = s.clusters := by rw [frame]
      have sameMounts : u.mounts = s.mounts := by rw [frame]
      obtain ⟨acquired, v, ha, h⟩ := Dialogue.run_bind_eq_some_iff.mp h
      cases acquired with
      | error e => cases h
      | ok c =>
        cases h
        cases hn : r.attachment.need with
        | error cause =>
          simp only [acquire, Request.wanted, hn] at ha
          cases ha
        | ok need =>
          obtain ⟨secured, left⟩ := Stage.secured_of_run_acquireAny (sameClusters.symm ▸ keyed)
            ((run_acquire_of_unpinned free hn).mp ha)
          have sameOnce : t.once = u.once := by rw [left]
          refine ⟨c, rfl, ⟨hc, sameOnce.symm ▸ registered, need, hn, secured⟩, ?_⟩
          rw [left]
          exact sameMounts

/-- Where everything is there, the same mount point is prepared again, and the stage stays as it
is. -/
theorem run_prepare_of_standing (free : r.cluster = none)
    (h : w.Standing r c s.clusters s.once) :
    Dialogue.run Stage.answer (w.prepare r) s = (some (.ok ⟨c.id, r.name⟩), s) := by
  obtain ⟨need, hn, secured⟩ := h.secured
  unfold prepare
  rw [h.checked]
  dsimp only
  rw [Dialogue.run_bind, run_ensureProfile_of_registered h.registered]
  dsimp only
  rw [Dialogue.run_bind,
    (run_acquire_of_unpinned free hn).mpr (Stage.run_acquireAny_of_secured secured)]
  rfl

/-- The same request with its cluster pinned. -/
theorem check_pinned (h : r.check = .ok ()) (id : String) :
    ({ r with cluster := some id } : Request).check = .ok () := by
  unfold Request.check at h ⊢
  split at h
  · cases h
  · simpa using h

/-- Where everything is there, preparing the mount point on the same cluster again depends only on
the phase in which the cluster is found. -/
theorem run_prepare_pinned_of_standing (h : w.Standing r c s.clusters s.once) :
    ∃ phase, (s.clusters.get c.id).1 = .ok { c with phase } ∧
      Dialogue.run Stage.answer (w.prepare { r with cluster := some c.id }) s =
        (some
          (if phase.isReady then .ok ⟨c.id, r.name⟩
          else .error (.clusterUnusable c.id ("cluster is " ++ phase.label))),
          { s with clusters := (s.clusters.get c.id).2 }) := by
  obtain ⟨need, hn, secured⟩ := h.secured
  obtain ⟨phase, seen, ran⟩ := Stage.run_acquirePinned_of_secured secured
  refine ⟨phase, seen, ?_⟩
  unfold prepare
  rw [check_pinned h.checked c.id]
  dsimp only
  rw [Dialogue.run_bind, run_ensureProfile_of_registered h.registered]
  dsimp only
  rw [Dialogue.run_bind]
  simp only [acquire, Request.wanted, hn, Provisioning.acquire]
  rw [Dialogue.run_bind, ran]
  cases phase.isReady <;> rfl

/-! ## What a mount that was made keeps -/

/-- A mount that was made stands where everything is that it depends on, and it was bound there as
the board does it. -/
theorem standing_of_run_create {receipt : Receipt} (keyed : s.clusters.KeyedById)
    (free : r.cluster = none)
    (h : Dialogue.run Stage.answer (w.create r) s = (some (.ok receipt), t)) :
    ∃ c, receipt.name = r.name ∧ receipt.cluster = c.id ∧ w.Standing r c t.clusters t.once ∧
      (Board.ofMounts s.mounts).create c.id r.name r.attachment =
        (.created (.ok receipt.source), Board.ofMounts t.mounts) := by
  unfold create at h
  obtain ⟨prepared, u, hp, h⟩ := Dialogue.run_bind_eq_some_iff.mp h
  cases prepared with
  | error e => cases h
  | ok point =>
    obtain ⟨c, rfl, standing, sameMounts⟩ := standing_of_run_prepare keyed free hp
    obtain ⟨made, v, hm, h⟩ := Dialogue.run_bind_eq_some_iff.mp h
    cases made with
    | error e => cases h
    | ok source =>
      cases h
      obtain ⟨told, mounts, rfl⟩ := Stage.board_of_run_create hm
      rw [sameMounts] at told
      exact ⟨c, rfl, rfl, standing, told⟩

section

variable (free : r.cluster = none) (standing : w.Standing r c s.clusters s.once) {board : Board}
include free standing

theorem run_create_of_standing {source : String}
    (h : (Board.ofMounts s.mounts).create c.id r.name r.attachment =
      (.created (.ok source), board)) :
    ∃ mounts, Dialogue.run Stage.answer (w.create r) s =
        (some (.ok ⟨r.name, c.id, source⟩), { s with mounts }) ∧ Board.ofMounts mounts = board := by
  obtain ⟨mounts, ran, looks⟩ := Stage.run_create_of_board (p := ⟨c.id, r.name⟩) h
  refine ⟨mounts, ?_, looks⟩
  rw [create, Dialogue.run_bind, run_prepare_of_standing free standing]
  dsimp only
  rw [Dialogue.run_bind, ran]
  rfl

theorem run_read_of_standing {found : Except MountFailure Found}
    (h : (Board.ofMounts s.mounts).read c.id r.name = (.found found, board)) :
    ∃ mounts, Dialogue.run Stage.answer (w.read r) s = (some found, { s with mounts }) ∧
      Board.ofMounts mounts = board := by
  obtain ⟨mounts, ran, looks⟩ := Stage.run_read_of_board (p := ⟨c.id, r.name⟩) h
  refine ⟨mounts, ?_, looks⟩
  rw [read, Dialogue.run_bind, run_prepare_of_standing free standing]
  exact ran

theorem run_delete_of_standing {result : Except MountFailure Unit}
    (h : (Board.ofMounts s.mounts).delete c.id r.name = (.deleted result, board)) :
    ∃ mounts, Dialogue.run Stage.answer (w.delete r) s = (some result, { s with mounts }) ∧
      Board.ofMounts mounts = board := by
  obtain ⟨mounts, ran, looks⟩ := Stage.run_delete_of_board (p := ⟨c.id, r.name⟩) h
  refine ⟨mounts, ?_, looks⟩
  rw [delete, Dialogue.run_bind, run_prepare_of_standing free standing]
  exact ran

end

/-- Removing the mount, looking for it and removing it again all succeed. -/
theorem run_delete_read_delete (free : r.cluster = none)
    (standing : w.Standing r c s.clusters s.once) (calm : s.mounts.failures = []) :
    ∃ first second third,
      Dialogue.run Stage.answer (w.delete r) s = (some (.ok ()), { s with mounts := first }) ∧
      Dialogue.run Stage.answer (w.read r) { s with mounts := first } =
        (some (.ok .absent), { s with mounts := second }) ∧
      Dialogue.run Stage.answer (w.delete r) { s with mounts := second } =
        (some (.ok ()), { s with mounts := third }) := by
  obtain ⟨first, removed, looks⟩ :=
    run_delete_of_standing free standing (Board.delete_of_calm (b := .ofMounts s.mounts) calm)
  have calmAfter : (Board.ofMounts first).failures = [] := by
    rw [looks]
    exact calm
  have unbound : (Board.ofMounts first).bound c.id r.name.path = none := by
    rw [looks]
    exact if_pos ⟨rfl, rfl⟩
  obtain ⟨second, absent, again⟩ :=
    run_read_of_standing (s := { s with mounts := first }) free standing
      (Board.read_of_unbound calmAfter unbound)
  have calmStill : (Board.ofMounts second).failures = [] := by
    rw [again]
    exact calmAfter
  obtain ⟨third, gone, -⟩ :=
    run_delete_of_standing (s := { s with mounts := second }) free standing
      (Board.delete_of_calm calmStill)
  exact ⟨first, second, third, removed, absent, gone⟩

/-- On the cluster where it was made the mount is found, unless the cluster is not ready. -/
theorem run_read_pinned_of_standing {source : String}
    (standing : w.Standing r c s.clusters s.once)
    (shows : (Board.ofMounts s.mounts).Shows c.id r.name.path source) :
    ∃ phase mounts, (s.clusters.get c.id).1 = .ok { c with phase } ∧
      Dialogue.run Stage.answer (w.read { r with cluster := some c.id }) s =
        (some
          (if phase.isReady then .ok (.mounted source)
          else .error (.clusterUnusable c.id ("cluster is " ++ phase.label))),
          { s with clusters := (s.clusters.get c.id).2, mounts }) := by
  obtain ⟨phase, seen, prepared⟩ := run_prepare_pinned_of_standing standing
  cases hr : phase.isReady with
  | false =>
    refine ⟨phase, s.mounts, seen, ?_⟩
    rw [read, Dialogue.run_bind, prepared, hr]
    rfl
  | true =>
    obtain ⟨mounts, ran, -⟩ :=
      Stage.run_read_of_board (s := { s with clusters := (s.clusters.get c.id).2 })
        (p := ⟨c.id, r.name⟩) (Board.read_of_shows shows)
    refine ⟨phase, mounts, seen, ?_⟩
    rw [read, Dialogue.run_bind, prepared, hr]
    exact ran

/-- A mount that was made without pinning its cluster, on any stage that comes about and on which no
script is to fail, is found and is made again as it is; after it is removed it is not found and can
be removed again.  On the cluster that was noted it is found unless the cluster is not ready.
Nothing of all this makes, starts or takes away a cluster or registers a profile. -/
theorem made_lasts {receipt : Receipt} (reached : Stage.Reached s) (calm : s.mounts.failures = [])
    (free : r.cluster = none)
    (made : Dialogue.run Stage.answer (w.create r) s = (some (.ok receipt), t)) :
    (∃ u, Dialogue.run Stage.answer (w.read r) t = (some (.ok (.mounted receipt.source)), u) ∧
      t.Quiet u) ∧
    (∃ u, Dialogue.run Stage.answer (w.create r) t = (some (.ok receipt), u) ∧ t.Quiet u) ∧
    (∃ u v x, Dialogue.run Stage.answer (w.delete r) t = (some (.ok ()), u) ∧ t.Quiet u ∧
      Dialogue.run Stage.answer (w.read r) u = (some (.ok .absent), v) ∧ u.Quiet v ∧
      Dialogue.run Stage.answer (w.delete r) v = (some (.ok ()), x) ∧ v.Quiet x) ∧
    (∃ c u, (t.clusters.get receipt.cluster).1 = .ok c ∧
      Dialogue.run Stage.answer (w.read { r with cluster := some receipt.cluster }) t =
        (some
          (if c.phase.isReady then .ok (.mounted receipt.source)
          else .error (.clusterUnusable receipt.cluster ("cluster is " ++ c.phase.label))), u) ∧
      t.Quiet u) := by
  obtain ⟨c, named, placed, standing, told⟩ := standing_of_run_create reached.keyedById free made
  obtain ⟨name, cluster, source⟩ := receipt
  dsimp only at named placed told ⊢
  subst named placed
  have shows := Board.shows_of_create (b := .ofMounts s.mounts) calm told
  have calmAfter : t.mounts.failures = [] := shows.1
  obtain ⟨args, ha⟩ : ∃ args, r.attachment.args = .ok args := by
    cases ha : r.attachment.args with
    | ok args => exact ⟨args, rfl⟩
    | error cause =>
      simp only [Board.create, ha] at told
      cases told
  refine ⟨?_, ?_, ?_, ?_⟩
  · obtain ⟨mounts, found, -⟩ := run_read_of_standing free standing (Board.read_of_shows shows)
    exact ⟨_, found, t.quiet_mounts mounts⟩
  · obtain ⟨mounts, again, -⟩ :=
      run_create_of_standing free standing (Board.create_of_shows shows ha)
    exact ⟨_, again, t.quiet_mounts mounts⟩
  · obtain ⟨first, second, third, removed, absent, gone⟩ :=
      run_delete_read_delete free standing calmAfter
    exact ⟨_, _, _, removed, t.quiet_mounts first, absent, ⟨rfl, rfl, rfl, rfl⟩, gone,
      ⟨rfl, rfl, rfl, rfl⟩⟩
  · obtain ⟨phase, mounts, seen, found⟩ := run_read_pinned_of_standing standing shows
    exact ⟨_, _, seen, found, t.quiet_get c.id mounts⟩

def plain : Workflow where
  provisioning := ⟨⟨"13.3.x-scala2.12", "m5.large", 60⟩, .standard, 3⟩

/-- A bucket that is read by an instance profile. -/
def bucket : Request where
  name := ⟨"data", by decide⟩
  attachment :=
    ⟨.s3 "bucket" (.profile (some "arn:aws:iam::123456789012:instance-profile/reader")), .empty⟩

/-- On the empty stage the profile is registered, a cluster is made and the bucket is mounted. -/
theorem made_lasts_bucket :
    ∃ t, Dialogue.run Stage.answer (plain.create bucket) {} =
        (some (.ok ⟨bucket.name, "cluster-1", "s3a://bucket"⟩), t) ∧
      ∃ u, Dialogue.run Stage.answer (plain.read bucket) t =
        (some (.ok (.mounted "s3a://bucket")), u) ∧ t.Quiet u := by
  obtain ⟨u, prepared⟩ : ∃ u, Dialogue.run Stage.answer (plain.prepare bucket) {} =
      (some (.ok ⟨"cluster-1", bucket.name⟩), u) := ⟨_, Prod.ext rfl rfl⟩
  obtain ⟨-, -, -, sameMounts⟩ := standing_of_run_prepare Stage.Reached.empty.keyedById rfl prepared
  obtain ⟨board, told⟩ : ∃ board, (Board.ofMounts u.mounts).create "cluster-1" bucket.name
      bucket.attachment = (.created (.ok "s3a://bucket"), board) := by
    rw [sameMounts]
    exact ⟨_, rfl⟩
  obtain ⟨mounts, ran, -⟩ := Stage.run_create_of_board (p := ⟨"cluster-1", bucket.name⟩) told
  have made : Dialogue.run Stage.answer (plain.create bucket) {} =
      (some (.ok ⟨bucket.name, "cluster-1", "s3a://bucket"⟩), { u with mounts }) := by
    rw [create, Dialogue.run_bind, prepared]
    dsimp only
    rw [Dialogue.run_bind, ran]
    rfl
  exact ⟨_, made, (made_lasts .empty rfl rfl made).1⟩

end Workflow

end RemoteMounts
