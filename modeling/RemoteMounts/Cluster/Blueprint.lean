import RemoteMounts.Cluster.Basic
import RemoteMounts.Keyed

/-!
# Blueprints of clusters

The cluster that is made for mounts has a single node, ends itself when it has been idle, and
carries tags by which it is recognised.  A draft is filled in step by step; finishing it gives a
blueprint, of which the name, the runtime and the node type are not empty.
-/

namespace RemoteMounts

/-- What the clusters made for mounts have in common. -/
structure Template where
  runtime : String
  nodeType : String
  idleMinutes : UInt32
deriving DecidableEq, Inhabited

/-- The parts of a blueprint that must not be empty. -/
inductive BlueprintPart
  | name
  | runtime
  | nodeType
deriving DecidableEq, Inhabited, Repr

def BlueprintPart.label : BlueprintPart → String
  | name => "cluster_name"
  | runtime => "spark_version"
  | nodeType => "node_type_id"

structure EmptyPart where
  part : BlueprintPart
deriving DecidableEq, Inhabited, Repr

def EmptyPart.message (e : EmptyPart) : String :=
  "missing or empty field: " ++ e.part.label

structure Blueprint where
  name : String
  runtime : String
  nodeType : String
  workers : UInt32
  idleMinutes : UInt32
  profile : Option String
  sparkSettings : Keyed String
  tags : Keyed String
deriving DecidableEq

namespace Blueprint

def singleNode : Keyed String :=
  .ofList [("spark.databricks.cluster.profile", "singleNode"), ("spark.master", "local[*]")]

/-- The tags of the clusters made for mounts. -/
def ownTags : Keyed String :=
  .ofList [("ResourceClass", "SingleNode"), ("ManagedBy", "lakemount")]

/-- Names the first part that is empty but must not be. -/
def check (b : Blueprint) : Except EmptyPart Unit :=
  if b.name = "" then .error ⟨.name⟩
  else if b.runtime = "" then .error ⟨.runtime⟩
  else if b.nodeType = "" then .error ⟨.nodeType⟩
  else .ok ()

end Blueprint

/-- A blueprint in the making. -/
structure Draft where
  name : String := ""
  runtime : String := ""
  nodeType : String := ""
  idleMinutes : UInt32 := 0
  profile : Option String := none
deriving DecidableEq, Inhabited

namespace Draft

/-- The draft with the parts that the template gives. -/
def follow (d : Draft) (t : Template) : Draft :=
  { d with runtime := t.runtime, nodeType := t.nodeType, idleMinutes := t.idleMinutes }

/-- The blueprint of the draft, its texts without the blanks around them. -/
def blueprint (d : Draft) : Blueprint where
  name := Text.trim d.name
  runtime := Text.trim d.runtime
  nodeType := Text.trim d.nodeType
  workers := 0
  idleMinutes := d.idleMinutes
  profile := d.profile
  sparkSettings := Blueprint.singleNode
  tags := Blueprint.ownTags

/-- The blueprint of the draft, if no part is empty that must not be. -/
def finish (d : Draft) : Except EmptyPart Blueprint :=
  match d.blueprint.check with
  | .ok _ => .ok d.blueprint
  | .error e => .error e

end Draft

end RemoteMounts
