import RemoteMounts.Simulated.Stage

/-!
# Stages that come about

From the empty stage others come about: clusters and mounts are put there, it is arranged how the
registry and the next calls fail, someone who holds an identity is dropped, and calls are answered,
whoever makes them and in whatever order.  An errand leads from a stage that comes about to another
one (`Reached.run`).

All such stages know their clusters by their ids (`Reached.keyedById`).
-/

namespace RemoteMounts.Simulated

namespace Clusters

def KeyedById (c : Clusters) : Prop :=
  ∀ key cluster, c.known.get? key = some cluster → cluster.id = key

variable {c d : Clusters}

/-- A cluster that is put under its id leaves every cluster under its id. -/
theorem KeyedById.insert (h : c.KeyedById) {id : String} {cluster : Cluster}
    (known : d.known = c.known.insert id cluster) (named : cluster.id = id) : d.KeyedById := by
  intro key other hg
  rw [known, Keyed.get?_insert] at hg
  by_cases same : key = id
  · rw [if_pos same] at hg
    cases hg
    exact named.trans same.symm
  · rw [if_neg same] at hg
    exact h key other hg

theorem known_nextPhase (c : Clusters) (id : String) : (c.nextPhase id).2.known = c.known := by
  unfold nextPhase
  split <;> rfl

/-- A look at a cluster shows it in some phase and leaves it in that phase. -/
theorem get_of_known {id : String} {cluster : Cluster} (h : c.known.get? id = some cluster) :
    ∃ phase, (c.get id).1 = .ok { cluster with phase } ∧
      (c.get id).2.known = c.known.insert id { cluster with phase } := by
  unfold get
  simp only [known_nextPhase, h]
  exact ⟨_, rfl, rfl⟩

theorem get_of_unknown {id : String} (h : c.known.get? id = none) :
    (c.get id).1 = .error (.unknownCluster id) ∧ (c.get id).2.known = c.known := by
  unfold get
  simp only [known_nextPhase, h, and_self]

theorem KeyedById.get (h : c.KeyedById) (id : String) : (c.get id).2.KeyedById := by
  cases hg : c.known.get? id with
  | none =>
    obtain ⟨-, known⟩ := get_of_unknown hg
    unfold KeyedById
    rw [known]
    exact h
  | some cluster =>
    obtain ⟨phase, -, known⟩ := get_of_known hg
    exact h.insert known (h id cluster hg)

theorem KeyedById.create (h : c.KeyedById) (b : Blueprint) : (c.create b).2.KeyedById := by
  cases hf : c.createFault with
  | some fault =>
    simp only [Clusters.create, hf]
    exact h
  | none =>
    let id := "cluster-" ++ toString (c.made + 1)
    have known : (c.create b).2.known =
        c.known.insert id ⟨id, b.name, .pending, "", b.profile⟩ := by
      simp only [Clusters.create, hf]
      rfl
    exact h.insert known rfl

theorem KeyedById.start (h : c.KeyedById) (id : String) : (c.start id).2.KeyedById := by
  unfold Clusters.start
  cases hg : c.known.get? id with
  | none =>
    simp only [hg]
    exact h
  | some cluster =>
    simp only [hg]
    exact h.insert rfl (h id cluster hg)

theorem KeyedById.delete (h : c.KeyedById) (id : String) : (c.delete id).2.KeyedById := by
  unfold Clusters.delete
  cases c.deleteFault with
  | some fault => exact h
  | none =>
    intro key cluster hg
    simp only [Keyed.get?_erase] at hg
    split at hg
    · exact nomatch hg
    · exact h key cluster hg

end Clusters

namespace Stage

/-- The stages that come about. -/
inductive Reached : Stage → Prop
  | empty : Reached {}
  | putCluster {s : Stage} (id : String) (phase : Phase) (profile : Option ProfileArn) :
    Reached s → Reached { s with clusters := s.clusters.insert id phase profile }
  | phases {s : Stage} (newPhases : List Phase) :
    Reached s → Reached { s with clusters.newPhases := newPhases }
  | failCreate {s : Stage} (fault : ClusterFault) :
    Reached s → Reached { s with clusters.createFault := some fault }
  | failDelete {s : Stage} (fault : ClusterFault) :
    Reached s → Reached { s with clusters.deleteFault := some fault }
  | putMount {s : Stage} (cluster path source : String) :
    Reached s → Reached { s with mounts := s.mounts.insert cluster path source }
  | failScript {s : Stage} (message : String) :
    Reached s → Reached { s with mounts := s.mounts.fail message }
  /-- How the registry fails, how long it takes and what it has counted is arranged. -/
  | registry {s : Stage} (registry : Registry) :
    Reached s → Reached { s with registry }
  /-- Someone is dropped who holds the identity. -/
  | dropped {s : Stage} (identity : String) :
    Reached s → Reached { s with once := s.once.abandon identity }
  | answered {s t : Stage} {call : Call} {a : call.Answer} :
    Reached s → answer call s = some (a, t) → Reached t

/-- Whatever an errand asks, it leads from a stage that comes about to another one. -/
theorem Reached.run {α : Type} {s : Stage} (h : Reached s) (errand : Errand α) :
    Reached (Dialogue.run answer errand s).2 := by
  induction errand generalizing s with
  | done a => exact h
  | cut => exact h
  | ask call next ih =>
    rw [Dialogue.run]
    cases ha : answer call s with
    | none => exact h
    | some answered =>
      obtain ⟨a, t⟩ := answered
      exact ih a (h.answered ha)

theorem keyedById_of_answer {s t : Stage} {call : Call} {a : call.Answer}
    (h : s.clusters.KeyedById) (ha : answer call s = some (a, t)) : t.clusters.KeyedById := by
  cases call with
  | getCluster id =>
    cases ha
    exact h.get id
  | createCluster b =>
    cases ha
    exact h.create b
  | startCluster id =>
    cases ha
    exact h.start id
  | deleteCluster id =>
    cases ha
    exact h.delete id
  | addProfile arn =>
    have ht : (s.addProfile arn).2 = t := congrArg Prod.snd (Option.some.inj ha)
    rw [← ht, addProfile_snd]
    exact h
  | enter identity =>
    simp only [answer] at ha
    split at ha <;> cases ha <;> exact h
  | listClusters | removeProfile | runScript | now | pause | leave =>
    cases ha
    exact h

/-- Stages that come about know their clusters by their ids. -/
theorem Reached.keyedById {s : Stage} (h : Reached s) : s.clusters.KeyedById := by
  induction h with
  | empty => exact nofun
  | putCluster id phase profile _ ih => exact ih.insert rfl rfl
  | answered _ ha ih => exact keyedById_of_answer ih ha
  | _ => assumption

end Stage

end RemoteMounts.Simulated
