import RemoteMounts.Cluster.Fault
import RemoteMounts.Invalid

/-!
# Why a mount operation fails

The request is rejected, or no cluster can be had, or what the mount depends on is missing, or the
script on the cluster fails.
-/

namespace RemoteMounts

inductive MountFailure
  | invalid (cause : Invalid)
  | clusterUnusable (id reason : String)
  | noClusterMade (reason : String)
  | sharedUnavailable (identity : String)
  | notCreated (reason : String)
  | notRead (reason : String)
  | notDeleted (reason : String)
deriving DecidableEq, Inhabited, Repr

namespace MountFailure

def ofNoCluster : NoCluster → MountFailure
  | .unusable id reason => clusterUnusable id reason
  | .notMade reason => noClusterMade reason

def message : MountFailure → String
  | invalid cause => cause.message
  | clusterUnusable id reason => "cluster " ++ id ++ " is unavailable: " ++ reason
  | noClusterMade reason => "failed to provision a mounting cluster: " ++ reason
  | sharedUnavailable identity => "shared resource " ++ identity ++ " is unavailable"
  | notCreated reason => "failed to create mount: " ++ reason
  | notRead reason => "failed to read mount: " ++ reason
  | notDeleted reason => "failed to delete mount: " ++ reason

end MountFailure

end RemoteMounts
