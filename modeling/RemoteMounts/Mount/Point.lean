import RemoteMounts.Mount.Failure
import RemoteMounts.Mount.Name
import RemoteMounts.Mount.Script
import RemoteMounts.Outside
import RemoteMounts.Text.Cut

/-!
# Mount points

A mount point is a name on a cluster.  Nothing is remembered of it: each operation runs a script
there and reads the outcome off what the script returns or reports.
-/

namespace RemoteMounts

/-- A name on a cluster. -/
structure MountPoint where
  cluster : String
  name : MountName
deriving DecidableEq

inductive Found
  | mounted (source : String)
  | absent
deriving DecidableEq, Inhabited, Repr

namespace MountPoint

variable (p : MountPoint)

/-- What a report of an unmounted path says. -/
def notMounted : String := "not mounted"

/-- What is found where a script has returned this text. -/
def found (output : String) : Found :=
  match Text.filled? output with
  | some source => .mounted source
  | none => .absent

/-- Mounts the attachment, and returns what is mounted then. -/
def create (a : Attachment) : Errand (Except MountFailure String) :=
  match a.args with
  | .error cause => return .error (.invalid cause)
  | .ok args => do
    match ← Errand.call (.runScript p.cluster (Script.create p.name.path args)) with
    | .error fault => return .error (.notCreated fault.message)
    | .ok output =>
      match found output with
      | .mounted source => return .ok source
      | .absent =>
        return .error
          (.notCreated ("mount script for " ++ p.name.path ++ " returned no source"))

def read : Errand (Except MountFailure Found) := do
  match ← Errand.call (.runScript p.cluster (Script.read p.name.path)) with
  | .ok output => return .ok (found output)
  | .error fault =>
    if Text.mentions fault.message Script.notMounted then return .ok .absent
    else return .error (.notRead fault.message)

/-- Removes what is mounted; there need not be anything. -/
def delete : Errand (Except MountFailure Unit) := do
  match ← Errand.call (.runScript p.cluster (Script.delete p.name.path)) with
  | .ok _ => return .ok ()
  | .error fault =>
    if Text.mentions fault.message notMounted then return .ok ()
    else return .error (.notDeleted fault.message)

end MountPoint

end RemoteMounts
