import RemoteMounts.Cluster.Blueprint
import RemoteMounts.Cluster.Fault
import RemoteMounts.Dialogue
import RemoteMounts.Once
import RemoteMounts.Time

/-!
# What mounts ask of the world outside

Everything a mount operation needs from elsewhere is a `Call`: on the provider of clusters, on the
registry of instance profiles, on the cluster that runs scripts, on the clock, and on the record of
what is done once.  `Outside` is the interface of these calls; whoever answers them may answer as it
likes.
-/

namespace RemoteMounts

/-- Why an instance profile could not be registered or removed. -/
structure ProfileFault where
  arn : String
  reason : String
deriving DecidableEq, Inhabited, Repr

def ProfileFault.message (f : ProfileFault) : String :=
  "instance profile " ++ f.arn ++ ": " ++ f.reason

/-- A script did not end well; what was reported of it. -/
structure ScriptFault where
  message : String
deriving DecidableEq, Inhabited, Repr

inductive Call
  | getCluster (id : String)
  | listClusters
  | createCluster (blueprint : Blueprint)
  | startCluster (id : String)
  | deleteCluster (id : String)
  | addProfile (arn : ProfileArn)
  | removeProfile (arn : ProfileArn)
  | runScript (cluster script : String)
  | now
  | pause (span : Duration)
  | enter (identity : String)
  | leave (identity : String) (outcome : Bool)
deriving DecidableEq

/-- The kind of answer that a call has.  Who enters for an identity is told its recorded outcome;
who is told none holds the identity, and while someone else holds it there is no answer. -/
@[reducible]
def Call.Answer : Call → Type
  | getCluster _ => Except ClusterFault Cluster
  | listClusters => Except ClusterFault (List Cluster)
  | createCluster _ => Except ClusterFault String
  | startCluster _ | deleteCluster _ => Except ClusterFault Unit
  | addProfile _ | removeProfile _ => Except ProfileFault Unit
  | runScript _ _ => Except ScriptFault String
  | now => Instant
  | pause _ => Unit
  | enter _ => Option Bool
  | leave _ _ => Unit

/-- The interface of the world outside. -/
@[reducible]
def Outside : Interface :=
  ⟨Call, Call.Answer⟩

/-- A computation that calls the world outside. -/
abbrev Errand (α : Type) : Type :=
  Dialogue Outside α

namespace Errand

def call (c : Call) : Errand c.Answer :=
  Dialogue.put (I := Outside) c

variable {σ β : Type}

/-- A run that begins with a call goes on with its answer. -/
theorem run_call (party : Party Outside σ) (c : Call) (next : c.Answer → Errand β) (s : σ) :
    Dialogue.run party (do let a ← call c; next a : Errand β) s =
      match party c s with
      | some (a, s) => Dialogue.run party (next a) s
      | none => (none, s) := by
  show Dialogue.run party (Dialogue.ask c next) s = _
  rw [Dialogue.run]
  cases party c s <;> rfl

@[simp] theorem run_pure (party : Party Outside σ) (b : β) (s : σ) :
    Dialogue.run party (pure b : Errand β) s = (some b, s) := rfl

end Errand

end RemoteMounts
