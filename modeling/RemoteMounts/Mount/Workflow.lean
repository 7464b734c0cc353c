import RemoteMounts.Cluster.Acquire
import RemoteMounts.Mount.Point
import RemoteMounts.Mount.Request

/-!
# The workflow of a mount

Each operation on a mount goes through the same stages, and the first that fails decides the result:
the request is checked, the instance profile that it names is registered, once for all mounts, a
cluster is acquired, and a script runs there.
-/

namespace RemoteMounts

/-- What someone who entered for an identity came away with. -/
structure OnceVerdict where
  /-- Whether the action was run now. -/
  ran : Bool
  outcome : Bool
deriving DecidableEq, Inhabited, Repr

/-- Runs the action unless its outcome for the identity is recorded, and records it. -/
def once (identity : String) (action : Errand Bool) : Errand OnceVerdict := do
  match ← Errand.call (.enter identity) with
  | some outcome => return ⟨false, outcome⟩
  | none =>
    let outcome ← action
    Errand.call (.leave identity outcome)
    return ⟨true, outcome⟩

/-- What is to be kept of a mount that was made. -/
structure Receipt where
  name : MountName
  cluster : String
  source : String
deriving DecidableEq

structure Workflow where
  provisioning : Provisioning
  /-- Whether instance profiles are registered before they are used. -/
  registers : Bool := true
deriving DecidableEq, Inhabited

namespace Workflow

variable (w : Workflow)

def register (arn : ProfileArn) : Errand Bool := do
  match ← Errand.call (.addProfile arn) with
  | .ok _ => return true
  | .error _ => return false

/-- Sees to it that the instance profile that the attachment names is registered. -/
def ensureProfile (a : Attachment) : Errand (Except MountFailure Unit) :=
  if !w.registers then return .ok ()
  else
    match a.profile with
    | .error cause => return .error (.invalid cause)
    | .ok none => return .ok ()
    | .ok (some arn) => do
      let verdict ← once arn.text (register arn)
      if verdict.outcome then return .ok ()
      else return .error (.sharedUnavailable arn.text)

def acquire (r : Request) : Errand (Except MountFailure Cluster) :=
  match r.wanted with
  | .error cause => return .error (.invalid cause)
  | .ok wanted => do
    match ← w.provisioning.acquire wanted with
    | .error e => return .error (.ofNoCluster e)
    | .ok c => return .ok c

/-- The mount point of the request, once everything it depends on is there. -/
def prepare (r : Request) : Errand (Except MountFailure MountPoint) :=
  match r.check with
  | .error cause => return .error (.invalid cause)
  | .ok _ => do
    match ← w.ensureProfile r.attachment with
    | .error e => return .error e
    | .ok _ =>
      match ← w.acquire r with
      | .error e => return .error e
      | .ok c => return .ok ⟨c.id, r.name⟩

def create (r : Request) : Errand (Except MountFailure Receipt) := do
  match ← w.prepare r with
  | .error e => return .error e
  | .ok point =>
    match ← point.create r.attachment with
    | .error e => return .error e
    | .ok source => return .ok ⟨r.name, point.cluster, source⟩

def read (r : Request) : Errand (Except MountFailure Found) := do
  match ← w.prepare r with
  | .error e => return .error e
  | .ok point => point.read

def delete (r : Request) : Errand (Except MountFailure Unit) := do
  match ← w.prepare r with
  | .error e => return .error e
  | .ok point => point.delete

/-- Removes an instance profile.  What is recorded of it stays, so later mounts do not register it
again. -/
def unregister (arn : ProfileArn) : Errand (Except ProfileFault Unit) :=
  Errand.call (.removeProfile arn)

end Workflow

end RemoteMounts
