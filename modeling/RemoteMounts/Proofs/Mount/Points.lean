import RemoteMounts.Mount.Point
import RemoteMounts.Proofs.Text.Lines

/-!
# One script, one verdict

Each operation of a mount point runs one script and does nothing else.  What it tells is read off
what has come of that script, which `createdBy`, `foundBy` and `removedBy` say for every outcome
that a script can have; the operations are these readings after that one call (`create_eq`,
`read_eq`, `delete_eq`).
-/

namespace RemoteMounts.MountPoint

/-! ## What an outcome is read as -/

/-- A mount is made if the script returns its source. -/
def createdBy (path : String) : Except ScriptFault String → Except MountFailure String
  | .ok output =>
    if Text.trim output = "" then
      .error (.notCreated ("mount script for " ++ path ++ " returned no source"))
    else .ok (Text.trim output)
  | .error fault => .error (.notCreated fault.message)

/-- Nothing is mounted if the script returns nothing or fails with a message that says so. -/
def foundBy : Except ScriptFault String → Except MountFailure Found
  | .ok output => .ok (if Text.trim output = "" then .absent else .mounted (Text.trim output))
  | .error fault =>
    if Text.Contains fault.message "Mount not found" then .ok .absent
    else .error (.notRead fault.message)

/-- A mount is removed if the script succeeds or fails with a message that says that there was
none. -/
def removedBy : Except ScriptFault String → Except MountFailure Unit
  | .ok _ => .ok ()
  | .error fault =>
    if Text.Contains fault.message "not mounted" then .ok ()
    else .error (.notDeleted fault.message)

/-! ## The operations -/

variable (p : MountPoint)

theorem create_eq {a : Attachment} {args : MountArgs} (h : a.args = .ok args) :
    p.create a =
      (Errand.call (.runScript p.cluster (Script.create p.name.path args)) >>= fun outcome =>
        .done (createdBy p.name.path outcome)) := by
  unfold create
  rw [h]
  refine congrArg (Errand.call (.runScript p.cluster (Script.create p.name.path args)) >>= ·)
    (funext fun outcome => ?_)
  cases outcome with
  | error fault => rfl
  | ok output =>
    by_cases blank : Text.trim output = ""
    · simp [createdBy, found, Text.filled?, blank]
    · simp [createdBy, found, Text.filled?, blank]

theorem read_eq :
    p.read =
      (Errand.call (.runScript p.cluster (Script.read p.name.path)) >>= fun outcome =>
        .done (foundBy outcome)) := by
  refine congrArg (Errand.call (.runScript p.cluster (Script.read p.name.path)) >>= ·)
    (funext fun outcome => ?_)
  cases outcome with
  | error fault =>
    have marker : Text.mentions fault.message Script.notMounted = true ↔
        Text.Contains fault.message "Mount not found" := Text.mentions_iff _ _
    by_cases absent : Text.Contains fault.message "Mount not found"
    · simp [foundBy, marker, absent]
    · simp [foundBy, marker, absent]
  | ok output =>
    by_cases blank : Text.trim output = ""
    · simp [foundBy, found, Text.filled?, blank]
    · simp [foundBy, found, Text.filled?, blank]

theorem delete_eq :
    p.delete =
      (Errand.call (.runScript p.cluster (Script.delete p.name.path)) >>= fun outcome =>
        .done (removedBy outcome)) := by
  refine congrArg (Errand.call (.runScript p.cluster (Script.delete p.name.path)) >>= ·)
    (funext fun outcome => ?_)
  cases outcome with
  | error fault =>
    have marker : Text.mentions fault.message notMounted = true ↔
        Text.Contains fault.message "not mounted" := Text.mentions_iff _ _
    by_cases absent : Text.Contains fault.message "not mounted"
    · simp [removedBy, marker, absent]
    · simp [removedBy, marker, absent]
  | ok output => rfl

end RemoteMounts.MountPoint
