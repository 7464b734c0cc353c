import RemoteMounts.Mount.Workflow
import RemoteMounts.Proofs.Mount.Arguments
import RemoteMounts.Proofs.Mount.Points

/-!
# Operations on mounts

Making a mount, looking for it and removing it are one thing for most purposes: a mount point is
prepared, a script runs there, and something is told of that (`perform_eq`, `finish_eq`).  A request
that passes its check can be carried out as far as it goes by itself: what the check has read
includes everything that is read of the request again later (`profile_of_args`, `wanted_of_check`).
-/

namespace RemoteMounts

/-! ## What a check has read -/

theorem Attachment.profile_of_args {a : Attachment} {args : MountArgs} (h : a.args = .ok args) :
    ∃ profile, a.profile = .ok profile := by
  have passes : a.storage.Passes := (args_eq_ok_iff.mp h).1
  unfold profile
  split
  next bucket source named =>
    rw [named] at passes
    obtain ⟨arn, parsed⟩ := passes.2 source rfl
    rw [parsed]
    exact ⟨some arn, rfl⟩
  next => exact ⟨none, rfl⟩

theorem Attachment.need_of_profile {a : Attachment} {profile : Option ProfileArn}
    (h : a.profile = .ok profile) : ∃ need, a.need = .ok need := by
  cases profile with
  | none => exact ⟨_, need_of_unnamed h⟩
  | some arn => exact ⟨_, need_of_named h⟩

namespace Request

variable {request : Request}

theorem args_of_check (h : request.check = .ok ()) :
    ∃ args, request.attachment.args = .ok args := by
  unfold check at h
  split at h
  · cases h
  · split at h
    · rename_i args found
      exact ⟨args, found⟩
    · cases h

/-- A request that passes its check wants a cluster, the one that it pins if it pins one. -/
theorem wanted_of_check (h : request.check = .ok ()) :
    ∃ need, request.wanted = .ok ⟨request.cluster, need⟩ := by
  obtain ⟨args, accepted⟩ := args_of_check h
  obtain ⟨profile, named⟩ := Attachment.profile_of_args accepted
  obtain ⟨need, needed⟩ := Attachment.need_of_profile named
  refine ⟨need, ?_⟩
  unfold wanted
  rw [needed]

end Request

/-! ## The operations -/

/-- What can be done with a mount, by the kind of what comes of it. -/
inductive Operation : Type → Type
  | create : Operation Receipt
  | read : Operation Found
  | delete : Operation Unit

namespace Operation

variable {α : Type}

def script (name : MountName) (args : MountArgs) : Operation α → String
  | create => Script.create name.path args
  | read => Script.read name.path
  | delete => Script.delete name.path

def told (name : MountName) (cluster : String) :
    Operation α → Except ScriptFault String → Except MountFailure α
  | create => fun outcome => (MountPoint.createdBy name.path outcome).map (⟨name, cluster, ·⟩)
  | read => MountPoint.foundBy
  | delete => MountPoint.removedBy

/-- Does it at the mount point that was prepared. -/
def finish (request : Request) (point : MountPoint) : Operation α → Errand (Except MountFailure α)
  | create => do
    match ← point.create request.attachment with
    | .error e => return .error e
    | .ok source => return .ok ⟨request.name, point.cluster, source⟩
  | read => point.read
  | delete => point.delete

theorem finish_eq {request : Request} {args : MountArgs} (h : request.attachment.args = .ok args)
    (cluster : String) (op : Operation α) :
    op.finish request ⟨cluster, request.name⟩ =
      (Errand.call (.runScript cluster (op.script request.name args)) >>= fun outcome =>
        .done (op.told request.name cluster outcome)) := by
  cases op with
  | create =>
    rw [finish, MountPoint.create_eq _ h, Dialogue.bind_assoc]
    refine congrArg (Errand.call _ >>= ·) (funext fun outcome => ?_)
    rw [Dialogue.done_bind]
    dsimp only [told]
    cases MountPoint.createdBy request.name.path outcome with
    | error e => rfl
    | ok source => rfl
  | read => exact MountPoint.read_eq _
  | delete => exact MountPoint.delete_eq _

end Operation

/-- A failure of the script. -/
def MountFailure.OfScript : MountFailure → Prop
  | notCreated _ | notRead _ | notDeleted _ => True
  | invalid _ | clusterUnusable .. | noClusterMade _ | sharedUnavailable _ => False

/-- Where a script has run only the script can have failed. -/
theorem Operation.ofScript_of_told {α : Type} {op : Operation α} {name : MountName}
    {cluster : String} {outcome : Except ScriptFault String} {e : MountFailure}
    (h : op.told name cluster outcome = .error e) : e.OfScript := by
  cases op with
  | create =>
    cases outcome with
    | error fault =>
      cases h
      trivial
    | ok output =>
      simp only [told, MountPoint.createdBy] at h
      split at h
      · cases h
        trivial
      · cases h
  | read =>
    cases outcome with
    | error fault =>
      simp only [told, MountPoint.foundBy] at h
      split at h
      · cases h
      · cases h
        trivial
    | ok output => cases h
  | delete =>
    cases outcome with
    | error fault =>
      simp only [told, MountPoint.removedBy] at h
      split at h
      · cases h
      · cases h
        trivial
    | ok output => cases h

namespace Workflow

variable {α : Type} (w : Workflow)

def perform (request : Request) : Operation α → Errand (Except MountFailure α)
  | .create => w.create request
  | .read => w.read request
  | .delete => w.delete request

theorem perform_eq (request : Request) (op : Operation α) :
    w.perform request op =
      w.prepare request >>= fun prepared =>
        match prepared with
        | .error e => .done (.error e)
        | .ok point => op.finish request point := by
  cases op with
  | create =>
    refine congrArg (w.prepare request >>= ·) (funext fun prepared => ?_)
    cases prepared <;> rfl
  | read =>
    refine congrArg (w.prepare request >>= ·) (funext fun prepared => ?_)
    cases prepared <;> rfl
  | delete =>
    refine congrArg (w.prepare request >>= ·) (funext fun prepared => ?_)
    cases prepared <;> rfl

end Workflow

end RemoteMounts
