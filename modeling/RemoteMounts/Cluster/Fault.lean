import RemoteMounts.Cluster.Basic

/-!
# What can go wrong with a cluster

What the provider of clusters, or the wait for one of them, answers instead of a cluster.
-/

namespace RemoteMounts

/-- Why the provider of clusters could not do what it was asked. -/
inductive ClusterFault
  | unknownCluster (id : String)
  /-- While it was awaited the cluster entered a phase that it does not leave by itself. -/
  | stopped (id : String) (phase : Phase) (note : String)
  | stillWaiting (id : String) (seconds : Nat)
  | refused (reason : String)
deriving DecidableEq, Inhabited, Repr

def ClusterFault.message : ClusterFault → String
  | unknownCluster id => "cluster " ++ id ++ " does not exist"
  | stopped id phase note => "cluster " ++ id ++ " entered state " ++ phase.label ++ ": " ++ note
  | stillWaiting id seconds =>
    "timeout after " ++ toString seconds ++ "s waiting for cluster " ++ id ++ " to run"
  | refused reason => "cluster API request failed: " ++ reason

inductive NoCluster
  /-- The pinned cluster cannot be used. -/
  | unusable (id reason : String)
  | notMade (reason : String)
deriving DecidableEq, Inhabited, Repr

def NoCluster.message : NoCluster → String
  | unusable id reason => "cluster " ++ id ++ " is unavailable: " ++ reason
  | notMade reason => "failed to provision cluster: " ++ reason

end RemoteMounts
