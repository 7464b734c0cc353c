import RemoteMounts.Cluster.Waiting

/-!
# Acquiring a cluster

A mount that pins its cluster gets that one or none.  Any other mount takes a ready cluster that
meets its need, preferring the one that was made for it; else it restarts the one that was made for
it; else it makes one, and takes that away again if it does not become ready.
-/

namespace RemoteMounts

/-- How clusters are made and awaited. -/
structure Provisioning where
  template : Template
  backoff : Backoff
  /-- How often a cluster is asked for at most while it is awaited. -/
  patience : Nat
deriving DecidableEq, Inhabited

/-- What is to be done about the cluster of a mount. -/
inductive Choice
  | reuse (cluster : Cluster)
  | restart (id : String)
  | make
deriving DecidableEq, Inhabited

namespace Choice

/-- The clusters that meet the need, in their order. -/
def fit (need : Need) (clusters : List Cluster) : List Cluster :=
  clusters.filter fun c => need.isMetBy c.profile

/-- The fit cluster that runs commands: the first that was made for the need, else the first. -/
def ready? (need : Need) (clusters : List Cluster) : Option Cluster :=
  let ready := (fit need clusters).filter fun c => c.phase.isReady
  (ready.find? fun c => c.name = need.clusterName).or ready.head?

/-- The first fit cluster that was made for the need and has ended. -/
def ended? (need : Need) (clusters : List Cluster) : Option Cluster :=
  (fit need clusters).find? fun c => c.phase = .terminated ∧ c.name = need.clusterName

/-- What is to be done when these clusters are there. -/
def among (need : Need) (clusters : List Cluster) : Choice :=
  match ready? need clusters, ended? need clusters with
  | some c, _ => reuse c
  | none, some c => restart c.id
  | none, none => make

end Choice

namespace Provisioning

variable (p : Provisioning)

/-- The pinned cluster, if it is ready and meets the need. -/
def acquirePinned (id : String) (need : Need) : Errand (Except NoCluster Cluster) := do
  match ← Errand.call (.getCluster id) with
  | .error fault => return .error (.unusable id fault.message)
  | .ok c =>
    if !c.phase.isReady then return .error (.unusable id ("cluster is " ++ c.phase.label))
    else if !need.isMetBy c.profile then
      return .error (.unusable id ("cluster must have " ++ need.wording ++ " attached"))
    else return .ok c

/-- The cluster started again, as soon as it is ready. -/
def restart (id : String) : Errand (Except NoCluster Cluster) := do
  match ← Errand.call (.startCluster id) with
  | .error fault => return .error (.notMade fault.message)
  | .ok _ =>
    match ← awaitReady p.backoff p.patience id with
    | .error fault => return .error (.notMade fault.message)
    | .ok c => return .ok c

/-- The blueprint of a cluster that meets the need; none can be drawn for just any profile. -/
def blueprint (need : Need) : Except NoCluster Blueprint :=
  match need with
  | .anyProfile =>
    .error (.notMade "no running cluster has an instance profile and none was named")
  | _ =>
    let draft := Draft.follow {} p.template
    match { draft with
        name := need.clusterName, profile := need.profile?.map ProfileArn.text }.finish with
    | .ok blueprint => .ok blueprint
    | .error e => .error (.notMade e.message)

def tearDown (id reason : String) : Errand String := do
  match ← Errand.call (.deleteCluster id) with
  | .ok _ => return reason
  | .error fault => return reason ++ " (teardown also failed: " ++ fault.message ++ ")"

/-- A new cluster of the blueprint, as soon as it is ready. -/
def make (blueprint : Blueprint) : Errand (Except NoCluster Cluster) := do
  match ← Errand.call (.createCluster blueprint) with
  | .error fault => return .error (.notMade fault.message)
  | .ok id =>
    match ← awaitReady p.backoff p.patience id with
    | .ok c => return .ok c
    | .error fault => return .error (.notMade (← tearDown id fault.message))

/-- A cluster that meets the need. -/
def acquireAny (need : Need) : Errand (Except NoCluster Cluster) := do
  match ← Errand.call .listClusters with
  | .error fault => return .error (.notMade fault.message)
  | .ok clusters =>
    match Choice.among need clusters with
    | .reuse c => return .ok c
    | .restart id => p.restart id
    | .make =>
      match p.blueprint need with
      | .ok blueprint => p.make blueprint
      | .error e => return .error e

def acquire (wanted : Wanted) : Errand (Except NoCluster Cluster) :=
  match wanted.pinned with
  | some id => acquirePinned id wanted.need
  | none => p.acquireAny wanted.need

end Provisioning

end RemoteMounts
