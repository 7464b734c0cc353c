import RemoteMounts.Outside

/-!
# Simulated clusters

A provider that keeps its clusters in a table.  A cluster that is made or started goes through a
script of phases, one at each look, and stays in the last of them.
-/

namespace RemoteMounts.Simulated

/-- The provider's clusters, what is to come of them, and what it has been asked for. -/
structure Clusters where
  known : Keyed Cluster := .empty
  /-- The phases that the next looks at a cluster show. -/
  upcoming : Keyed (List Phase) := .empty
  /-- The phases that a cluster goes through when it is made or started. -/
  newPhases : List Phase := [.running]
  createFault : Option ClusterFault := none
  deleteFault : Option ClusterFault := none
  created : List Blueprint := []
  deleted : List String := []
  started : List String := []
  looks : Nat := 0
  /-- The number of clusters made so far. -/
  made : Nat := 0
deriving DecidableEq

namespace Clusters

instance : Inhabited Clusters := ⟨{}⟩

/-- Puts a cluster there, named like its id. -/
def insert (c : Clusters) (id : String) (phase : Phase) (profile : Option ProfileArn) : Clusters :=
  { c with known := c.known.insert id ⟨id, id, phase, "", profile.map ProfileArn.text⟩ }

/-- Takes the next phase of the cluster; the last one stays. -/
def nextPhase (c : Clusters) (id : String) : Option Phase × Clusters :=
  match c.upcoming.get? id with
  | some (phase :: later :: rest) =>
    (some phase, { c with upcoming := c.upcoming.insert id (later :: rest) })
  | some [phase] => (some phase, c)
  | _ => (none, c)

def get (c : Clusters) (id : String) : Except ClusterFault Cluster × Clusters :=
  let (phase, c) := nextPhase { c with looks := c.looks + 1 } id
  match c.known.get? id with
  | none => (.error (.unknownCluster id), c)
  | some cluster =>
    let seen := { cluster with phase := phase.getD cluster.phase }
    (.ok seen, { c with known := c.known.insert id seen })

/-- The clusters in the order of their ids. -/
def list (c : Clusters) : List Cluster :=
  c.known.values

def create (c : Clusters) (b : Blueprint) : Except ClusterFault String × Clusters :=
  let c := { c with created := c.created ++ [b] }
  match c.createFault with
  | some fault => (.error fault, c)
  | none =>
    let id := "cluster-" ++ toString (c.made + 1)
    (.ok id,
      { c with
        made := c.made + 1
        known := c.known.insert id ⟨id, b.name, .pending, "", b.profile⟩
        upcoming := c.upcoming.insert id c.newPhases })

def start (c : Clusters) (id : String) : Except ClusterFault Unit × Clusters :=
  let c := { c with started := c.started ++ [id] }
  match c.known.get? id with
  | none => (.error (.unknownCluster id), c)
  | some cluster =>
    (.ok (),
      { c with
        known := c.known.insert id { cluster with phase := .pending }
        upcoming := c.upcoming.insert id c.newPhases })

def delete (c : Clusters) (id : String) : Except ClusterFault Unit × Clusters :=
  let c := { c with deleted := c.deleted ++ [id] }
  match c.deleteFault with
  | some fault => (.error fault, c)
  | none => (.ok (), { c with known := c.known.erase id })

end Clusters

end RemoteMounts.Simulated
