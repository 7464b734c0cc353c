import RemoteMounts.Mount.Name
import RemoteMounts.Mount.Storage

/-!
# Requests

A request names a mount, says what is to be mounted, and may pin the cluster.  It is checked before
anything outside is asked.
-/

namespace RemoteMounts

/-- A mount that is to be made, looked at or removed. -/
structure Request where
  name : MountName
  /-- The cluster that must be used, if it is named. -/
  cluster : Option String := none
  attachment : Attachment
deriving DecidableEq

namespace Request

/-- Rejects a request that names neither a cluster nor a way to obtain credentials, and one that
cannot be mounted as it stands. -/
def check (r : Request) : Except Invalid Unit :=
  if r.cluster.isNone ∧ r.attachment.relyOnCluster then .error .noCredentials
  else
    match r.attachment.args with
    | .ok _ => .ok ()
    | .error e => .error e

def wanted (r : Request) : Except Invalid Wanted :=
  match r.attachment.need with
  | .ok need => .ok ⟨r.cluster, need⟩
  | .error e => .error e

end Request

end RemoteMounts
