import Mathlib.Data.List.Basic
import RemoteMounts.Proofs.Simulated.Reached

/-!
# What simulated clusters show

A simulated cluster that is made or started goes through the phases that are arranged at that time,
one at each look, and stays in the last of them.  These phases are kept apart from the clusters:
whatever is done afterwards, the next look at an id shows the phase that is due since a cluster with
this id was last made or started (`due_after`).  So a cluster that is put there under an id with
such a past is listed as it was put there, but a look at it shows it in the phase that is due
(`inserted_shows_due`).
-/

namespace RemoteMounts

namespace Simulated

/-- What may be done to simulated clusters. -/
inductive Act
  | insert (id : String) (phase : Phase) (profile : Option ProfileArn)
  /-- The phases that clusters go through when they are made or started are arranged. -/
  | arrange (phases : List Phase)
  | failCreate (fault : ClusterFault)
  | failDelete (fault : ClusterFault)
  | get (id : String)
  | list
  | create (b : Blueprint)
  | start (id : String)
  | delete (id : String)
deriving DecidableEq

namespace Clusters

/-- The clusters that an act leaves. -/
def act (c : Clusters) : Act → Clusters
  | .insert id phase profile => c.insert id phase profile
  | .arrange phases => { c with newPhases := phases }
  | .failCreate fault => { c with createFault := some fault }
  | .failDelete fault => { c with deleteFault := some fault }
  | .get id => (c.get id).2
  | .list => c
  | .create b => (c.create b).2
  | .start id => (c.start id).2
  | .delete id => (c.delete id).2

/-- The clusters after acts, the last of which comes first in the list. -/
def after : List Act → Clusters
  | [] => {}
  | act :: earlier => (after earlier).act act

def wakes (c : Clusters) (id : String) : Act → Bool
  | .create b => (c.create b).1.toOption = some id
  | .start other => other = id ∧ (c.start other).1.toOption = some ()
  | _ => false

/-- What is left of phases after some looks; the last phase stays. -/
def left (phases : List Phase) (looks : Nat) : List Phase :=
  phases.drop (min looks (phases.length - 1))

/-- The phases that were arranged when a cluster with this id was last made or started, and how
often the id has been looked at since. -/
def woken (id : String) : List Act → Option (List Phase × Nat)
  | [] => none
  | act :: earlier =>
    if (after earlier).wakes id act then some ((after earlier).newPhases, 0)
    else if act = .get id then (woken id earlier).map fun (phases, looks) => (phases, looks + 1)
    else woken id earlier

/-- The phase that the next look at this id shows, if there is a cluster. -/
def due (id : String) (acts : List Act) : Option Phase :=
  (woken id acts).bind fun (phases, looks) => (left phases looks).head?

/-! ## One look more -/

theorem left_zero (phases : List Phase) : left phases 0 = phases := by
  simp [left]

theorem left_left (phases : List Phase) (looks : Nat) :
    left (left phases looks) 1 = left phases (looks + 1) := by
  unfold left
  rw [List.drop_drop, List.length_drop]
  congr 1
  omega

theorem nextPhase_fst (c : Clusters) (id : String) :
    (c.nextPhase id).1 = (c.upcoming.get? id).bind List.head? := by
  unfold nextPhase
  cases c.upcoming.get? id with
  | none => rfl
  | some phases =>
    match phases with
    | [] => rfl
    | [phase] => rfl
    | phase :: later :: rest => rfl

theorem upcoming_nextPhase (c : Clusters) (id other : String) :
    (c.nextPhase id).2.upcoming.get? other =
      if other = id then (c.upcoming.get? id).map (left · 1) else c.upcoming.get? other := by
  by_cases same : other = id
  · subst same
    rw [if_pos rfl]
    unfold nextPhase
    cases h : c.upcoming.get? other with
    | none => exact h
    | some phases =>
      match phases with
      | [] => exact h
      | [phase] => exact h
      | phase :: later :: rest => simp [left]
  · rw [if_neg same]
    unfold nextPhase
    split <;> simp [same]

/-- A look shows the phase that is due and leaves the cluster in it. -/
theorem get_of_due {c : Clusters} {id : String} {cluster : Cluster}
    (known : c.known.get? id = some cluster) :
    (c.get id).1 =
        .ok { cluster with phase := ((c.upcoming.get? id).bind List.head?).getD cluster.phase } ∧
      (c.get id).2.known = c.known.insert id
        { cluster with phase := ((c.upcoming.get? id).bind List.head?).getD cluster.phase } := by
  unfold get
  simp only [known_nextPhase, known, nextPhase_fst, and_self]

/-! ## What an act does to the phases to come -/

theorem upcoming_get (c : Clusters) (id other : String) :
    (c.get id).2.upcoming.get? other =
      if other = id then (c.upcoming.get? id).map (left · 1) else c.upcoming.get? other := by
  unfold get
  cases known : c.known.get? id with
  | none => simpa only [known_nextPhase, known] using upcoming_nextPhase _ id other
  | some cluster => simpa only [known_nextPhase, known] using upcoming_nextPhase _ id other

theorem upcoming_create (c : Clusters) (b : Blueprint) (id : String) :
    (c.create b).2.upcoming.get? id =
      if (c.create b).1.toOption = some id then some c.newPhases else c.upcoming.get? id := by
  unfold create
  cases c.createFault with
  | some fault => rfl
  | none => simp [Except.toOption, eq_comm]

theorem upcoming_start (c : Clusters) (id other : String) :
    (c.start id).2.upcoming.get? other =
      if id = other ∧ (c.start id).1.toOption = some () then some c.newPhases
      else c.upcoming.get? other := by
  unfold start
  cases known : c.known.get? id with
  | none => simp [Except.toOption, known]
  | some cluster => simp [Except.toOption, known, eq_comm]

theorem upcoming_delete (c : Clusters) (id : String) :
    (c.delete id).2.upcoming = c.upcoming := by
  unfold delete
  cases c.deleteFault <;> rfl

/-- The phases to come of an id are arranged anew when its cluster is made or started, and go on
with each look; no other act touches them. -/
theorem upcoming_act (c : Clusters) (id : String) (act : Act) :
    (c.act act).upcoming.get? id =
      if c.wakes id act then some c.newPhases
      else if act = .get id then (c.upcoming.get? id).map (left · 1)
      else c.upcoming.get? id := by
  cases act with
  | get other =>
    rw [Clusters.act, upcoming_get]
    by_cases same : id = other
    · simp [wakes, same]
    · simp [wakes, same, Ne.symm same]
  | create b => simp [Clusters.act, wakes, upcoming_create]
  | start other => simp [Clusters.act, wakes, upcoming_start]
  | delete other => simp [Clusters.act, wakes, upcoming_delete]
  | insert | arrange | failCreate | failDelete | list => simp [Clusters.act, wakes, insert]

/-! ## What all acts do -/

theorem upcoming_after (id : String) (acts : List Act) :
    (after acts).upcoming.get? id =
      (woken id acts).map fun (phases, looks) => left phases looks := by
  -- The acts are followed back from the last one, as `woken` does.
  induction acts with
  | nil => rfl
  | cons act earlier ih =>
    rw [after, upcoming_act, woken, ih]
    split_ifs
    · simp [left_zero]
    · simp [left_left, Function.comp_def]
    · rfl

/-- The phase that a look takes from those to come is the one that is due. -/
theorem due_after (id : String) (acts : List Act) :
    ((after acts).upcoming.get? id).bind List.head? = due id acts := by
  rw [upcoming_after, due, Option.bind_map]
  rfl

theorem KeyedById.act {c : Clusters} (h : c.KeyedById) (act : Act) : (c.act act).KeyedById := by
  cases act with
  | insert id phase profile => exact h.insert rfl rfl
  | arrange | failCreate | failDelete | list => exact h
  | get id => exact h.get id
  | create b => exact h.create b
  | start id => exact h.start id
  | delete id => exact h.delete id

theorem keyedById_after (acts : List Act) : (after acts).KeyedById := by
  induction acts with
  | nil => exact nofun
  | cons act earlier ih => exact ih.act act

/-- The list tells of an id what is known of it. -/
theorem KeyedById.list_filter {c : Clusters} (h : c.KeyedById) (id : String) :
    (c.list.filter fun cluster => cluster.id = id) = (c.known.get? id).toList := by
  have named : ∀ e ∈ c.known.entries, decide (e.2.id = id) = decide (e.1 = id) := by
    rintro ⟨key, cluster⟩ mem
    rw [h key cluster (Keyed.get?_eq_some_iff_mem.mpr mem)]
  rw [list, Keyed.values, List.filter_map, Function.comp_def, List.filter_congr named,
    Keyed.filter_key (Keyed.keys_nodup_of_rising c.known.rising), Keyed.get?]
  cases c.known.entries.lookup id <;> rfl

/-! ## A cluster that is put there -/

/-- Whatever has been done before, a cluster that is put there under an id is listed at once, and it
alone under that id, as it was put there.  A look shows it under its name and with its profile, but
in the phase that is due since a cluster with this id was last made or started, and from then on it
is listed in that phase.  So it is shown as it was put there exactly if no phase is due, or the one
in which it is. -/
theorem inserted_shows_due (acts : List Act) (id : String) (phase : Phase)
    (profile : Option ProfileArn) :
    let c := (after acts).insert id phase profile
    let put : Cluster := ⟨id, id, phase, "", profile.map ProfileArn.text⟩
    let shown : Cluster := { put with phase := (due id acts).getD phase }
    (c.list.filter fun cluster => cluster.id = id) = [put] ∧
      (c.get id).1 = .ok shown ∧
      ((c.get id).2.list.filter fun cluster => cluster.id = id) = [shown] ∧
      ((c.get id).1 = .ok put ↔ due id acts = none ∨ due id acts = some phase) := by
  intro c put shown
  have keyed : c.KeyedById := (keyedById_after acts).insert rfl rfl
  have known : c.known.get? id = some put := by
    simp [c, put, insert]
  have told : (c.get id).1 = .ok shown ∧ (c.get id).2.known = c.known.insert id shown := by
    have look := get_of_due known
    -- The phases to come are as the acts before have left them.
    rwa [show c.upcoming = (after acts).upcoming from rfl, due_after] at look
  obtain ⟨seen, left⟩ := told
  have knownThen : (c.get id).2.known.get? id = some shown := by
    rw [left, Keyed.get?_insert, if_pos rfl]
  refine ⟨?_, seen, ?_, ?_⟩
  · rw [keyed.list_filter, known]
    rfl
  · rw [(keyed.get id).list_filter, knownThen]
    rfl
  · rw [seen]
    cases h : due id acts with
    | none => simp [shown, h, put]
    | some phaseDue => simp [shown, h, put]

/-- A cluster that was started and is then put there as a terminated one is listed as terminated,
and a look shows it running. -/
theorem restarted_shows_running :
    let c := (after [.start "c", .insert "c" .terminated none]).insert "c" .terminated none
    c.list = [⟨"c", "c", .terminated, "", none⟩] ∧
      (c.get "c").1 = .ok ⟨"c", "c", .running, "", none⟩ := by
  decide +kernel

end Clusters

end Simulated

end RemoteMounts
