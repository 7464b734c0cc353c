import RemoteMounts.Workspace.Clusters
import RemoteMounts.Workspace.Console

/-!
# A workspace as the world outside

A client of a workspace answers every call on the world outside, by a dialogue over the wire.
-/

namespace RemoteMounts.Client

variable (c : Client)

def answer : (q : Call) → Dialogue Wire q.Answer
  | .getCluster id => c.getCluster id
  | .listClusters => c.listClusters
  | .createCluster b => c.createCluster b
  | .startCluster id => c.startCluster id
  | .deleteCluster id => c.deleteCluster id
  | .addProfile arn => c.addProfile arn
  | .removeProfile arn => c.removeProfile arn
  | .runScript cluster script => c.runScript cluster script
  | .now => Wire.ask .now
  | .pause span => Wire.ask (.pause span)
  | .enter identity => Wire.ask (.enter identity)
  | .leave identity outcome => Wire.ask (.leave identity outcome)

/-- The errand over the wire. -/
def perform {α : Type} (errand : Errand α) : Dialogue Wire α :=
  errand.relay c.answer

end RemoteMounts.Client
