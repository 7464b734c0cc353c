import RemoteMounts.Workspace.Client

/-!
# Clusters and instance profiles of a workspace

The endpoints by which a workspace provides clusters and registers instance profiles.  A cluster
that is not there is told apart from other refusals; a profile that is there already is registered,
and one that is gone is removed.
-/

namespace RemoteMounts

/-- The blueprint as a request to make its cluster. -/
def Blueprint.datum (b : Blueprint) : Datum :=
  Record.ofFields
    [("cluster_name", some (.text b.name)), ("spark_version", some (.text b.runtime)),
      ("node_type_id", some (.text b.nodeType)), ("num_workers", some (.int b.workers.toNat)),
      ("autotermination_minutes", some (.int b.idleMinutes.toNat)),
      ("spark_conf", some (.ofTexts b.sparkSettings)), ("custom_tags", some (.ofTexts b.tags)),
      ("aws_attributes",
        Record.ofOption (fun arn => .table [("instance_profile_arn", .text arn)]) b.profile)]

namespace Client

variable (c : Client)

def getCluster (id : String) : Dialogue Wire (Except ClusterFault Cluster) := do
  match ← c.get "/api/2.0/clusters/get" [("cluster_id", id)] Remote.cluster? with
  | .ok cluster => return .ok cluster
  | .error f => return .error (if f.isAbsent then .unknownCluster id else f.clusterFault)

def listClusters : Dialogue Wire (Except ClusterFault (List Cluster)) := do
  match ← c.get "/api/2.0/clusters/list" [] Remote.clusters? with
  | .ok clusters => return .ok clusters
  | .error f => return .error f.clusterFault

def createCluster (b : Blueprint) : Dialogue Wire (Except ClusterFault String) := do
  match ← c.post "/api/2.0/clusters/create" b.datum (Remote.idUnder? "cluster_id") with
  | .ok id => return .ok id
  | .error f => return .error f.clusterFault

def changeCluster (endpoint id : String) : Dialogue Wire (Except ClusterFault Unit) := do
  match ← c.post endpoint (.table [("cluster_id", .text id)]) Remote.done? with
  | .ok _ => return .ok ()
  | .error f => return .error f.clusterFault

def startCluster (id : String) : Dialogue Wire (Except ClusterFault Unit) :=
  c.changeCluster "/api/2.0/clusters/start" id

def deleteCluster (id : String) : Dialogue Wire (Except ClusterFault Unit) :=
  c.changeCluster "/api/2.0/clusters/permanent-delete" id

/-- Has something done to a profile; a fault is none if it says that it is done already. -/
def changeProfile (endpoint : String) (isDone : WorkspaceFault → Bool) (arn : ProfileArn) :
    Dialogue Wire (Except ProfileFault Unit) := do
  match ← c.post endpoint (.table [("instance_profile_arn", .text arn.text)]) Remote.done? with
  | .ok _ => return .ok ()
  | .error f => return if isDone f then .ok () else .error (f.profileFault arn)

def addProfile (arn : ProfileArn) : Dialogue Wire (Except ProfileFault Unit) :=
  c.changeProfile "/api/2.0/instance-profiles/add" WorkspaceFault.isPresent arn

def removeProfile (arn : ProfileArn) : Dialogue Wire (Except ProfileFault Unit) :=
  c.changeProfile "/api/2.0/instance-profiles/remove" WorkspaceFault.isAbsent arn

end Client

end RemoteMounts
