import RemoteMounts.Proofs.Cluster.Fitness
import RemoteMounts.Proofs.Mount.Operations
import RemoteMounts.Proofs.Once.Guarded

/-!
# The stages of an operation

Every operation on a mount goes through the same stages, and whoever is asked may answer as it
likes: the request is checked, the profile that it names is seen to, a cluster is acquired, and one
script runs there.  `Staged` says for every place where an operation can stop what has been asked
until then, what is recorded of profiles, and the result; and the result tells the place
(`Explains`, `operation_staged`).
-/

namespace RemoteMounts.Workflow

variable {α σ : Type} (w : Workflow)

/-! ## The stages -/

/-- How a profile is seen to: its outcome is recorded, or left by someone else who was at it, or the
registry is asked once and the outcome is left. -/
inductive Ensured (arn : ProfileArn) (o : Once) : List (Exchange Outside) → Bool → Prop
  | recorded {outcome : Bool} :
    o.outcome? arn.text = some outcome →
    Ensured arn o [⟨.enter arn.text, some outcome⟩] outcome
  | leftByOther {outcome : Bool} :
    (o.enter arn.text).1 = .wait →
    Ensured arn o [⟨.enter arn.text, some outcome⟩] outcome
  | tried {answer : Except ProfileFault Unit} :
    o.outcome? arn.text = none →
    Ensured arn o
      [⟨.enter arn.text, none⟩, ⟨.addProfile arn, answer⟩, ⟨.leave arn.text answer.isOk, ()⟩]
      answer.isOk

/-- The stage in which the profile is seen to, with the record after it. -/
inductive Registering (a : Attachment) (o : Once) :
    List (Exchange Outside) → Once → Except MountFailure Unit → Prop
  | unneeded :
    (w.registers = true → a.profile = .ok none) → Registering a o [] o (.ok ())
  | ensured {arn : ProfileArn} {exchanges : List (Exchange Outside)} {outcome : Bool} :
    w.registers = true → a.profile = .ok (some arn) → Ensured arn o exchanges outcome →
    Registering a o exchanges (o.leave arn.text outcome)
      (if outcome then .ok () else .error (.sharedUnavailable arn.text))

/-- The stage in which the cluster is acquired: only the provider and the clock are asked. -/
def Acquiring (request : Request) (exchanges : List (Exchange Outside))
    (result : Option (Except NoCluster Cluster)) : Prop :=
  (∃ wanted, request.wanted = .ok wanted ∧
    Acquired w.provisioning wanted (onProvider exchanges) result) ∧
  ∀ e ∈ exchanges, OnProviderOrClock e.question

def pointOn (name : MountName) : Except NoCluster Cluster → Except MountFailure MountPoint
  | .error e => .error (.ofNoCluster e)
  | .ok c => .ok ⟨c.id, name⟩

/-- The stages before the script, with the record after them.  There is no result while a cluster is
being awaited. -/
inductive Prepared (request : Request) (o : Once) :
    List (Exchange Outside) → Once → Option (Except MountFailure MountPoint) → Prop
  | rejected {cause : Invalid} :
    request.check = .error cause → Prepared request o [] o (some (.error (.invalid cause)))
  | unregistered {registering : List (Exchange Outside)} {after : Once} {e : MountFailure} :
    request.check = .ok () →
    w.Registering request.attachment o registering after (.error e) →
    Prepared request o registering after (some (.error e))
  | acquired {registering acquiring : List (Exchange Outside)} {after : Once}
    {result : Option (Except NoCluster Cluster)} :
    request.check = .ok () →
    w.Registering request.attachment o registering after (.ok ()) →
    w.Acquiring request acquiring result →
    Prepared request o (registering ++ acquiring) after (result.map (pointOn request.name))

/-- All stages of the operation, with the record after them. -/
inductive Staged (request : Request) (op : Operation α) (o : Once) :
    List (Exchange Outside) → Once → Option (Except MountFailure α) → Prop
  | stopped {exchanges : List (Exchange Outside)} {after : Once} {e : MountFailure} :
    w.Prepared request o exchanges after (some (.error e)) →
    Staged request op o exchanges after (some (.error e))
  | unfinished {exchanges : List (Exchange Outside)} {after : Once} :
    w.Prepared request o exchanges after none → Staged request op o exchanges after none
  | ran {exchanges : List (Exchange Outside)} {after : Once} {cluster : String} {args : MountArgs}
    {outcome : Except ScriptFault String} :
    w.Prepared request o exchanges after (some (.ok ⟨cluster, request.name⟩)) →
    request.attachment.args = .ok args →
    Staged request op o
      (exchanges ++ [⟨.runScript cluster (op.script request.name args), outcome⟩]) after
      (some (op.told request.name cluster outcome))

/-! ## Every operation goes through them -/

section

variable (r : Respondent Outside σ) (s : σ) (o : Once)

/-- To register a profile is to ask the registry once. -/
theorem register_asks (arn : ProfileArn) :
    Dialogue.run r.guarded.party (register arn) (s, o) =
        (some (r (.addProfile arn) s).1.isOk, ((r (.addProfile arn) s).2, o)) ∧
      Dialogue.transcript r.guarded (register arn) (s, o) =
        [⟨.addProfile arn, (r (.addProfile arn) s).1⟩] := by
  rw [register, Errand.run_party_call, Errand.transcript_call]
  simp only [guarded_of_plain (q := .addProfile arn) trivial]
  cases (r (.addProfile arn) s).1 with
  | error fault => exact ⟨rfl, rfl⟩
  | ok _ => exact ⟨rfl, rfl⟩

/-- Whether the profile was registered now, was before or by someone else, that is recorded. -/
theorem ensured_once (arn : ProfileArn) :
    ∃ verdict u,
      Dialogue.run r.guarded.party (once arn.text (register arn)) (s, o) =
          (some verdict, (u, o.leave arn.text verdict.outcome)) ∧
        Ensured arn o (Dialogue.transcript r.guarded (once arn.text (register arn)) (s, o))
          verdict.outcome := by
  obtain ⟨known, u, after, told, entered⟩ := entered_guarded (r := r) (s := s) (o := o) arn.text
  rw [once, Errand.run_party_call, Errand.transcript_call, told]
  cases entered with
  | @recorded outcome known =>
    refine ⟨⟨false, outcome⟩, u, ?_, .recorded known⟩
    rw [Once.leave_of_outcome? known]
    rfl
  | @leftByOther outcome waits => exact ⟨⟨false, outcome⟩, u, rfl, .leftByOther waits⟩
  | goes unknown left =>
    dsimp only
    obtain ⟨ran, asked⟩ := register_asks r u after arn
    refine ⟨⟨true, (r (.addProfile arn) u).1.isOk⟩, (r (.addProfile arn) u).2, ?_, ?_⟩
    · rw [Dialogue.run_bind, ran, ← left]
      rfl
    · rw [Dialogue.transcript_bind_of_run _ ran, asked]
      exact .tried unknown

theorem ensureProfile_eq {a : Attachment} {arn : ProfileArn} (hw : w.registers = true)
    (named : a.profile = .ok (some arn)) :
    w.ensureProfile a =
      (once arn.text (register arn) >>= fun verdict =>
        .done (if verdict.outcome then .ok () else .error (.sharedUnavailable arn.text))) := by
  unfold ensureProfile
  simp only [hw, Bool.not_true, Bool.false_eq_true, if_false, named]
  refine congrArg (once arn.text (register arn) >>= ·) (funext fun verdict => ?_)
  cases verdict.outcome <;> rfl

theorem registering_ensureProfile {a : Attachment} {profile : Option ProfileArn}
    (named : a.profile = .ok profile) :
    ∃ result u after,
      Dialogue.run r.guarded.party (w.ensureProfile a) (s, o) = (some result, (u, after)) ∧
        w.Registering a o (Dialogue.transcript r.guarded (w.ensureProfile a) (s, o)) after
          result := by
  cases hw : w.registers with
  | false =>
    have nothing : w.ensureProfile a = .done (.ok ()) := by
      simp [ensureProfile, hw]
    rw [nothing]
    exact ⟨_, _, _, rfl, .unneeded fun yes => absurd (hw.symm.trans yes) nofun⟩
  | true =>
    cases profile with
    | none =>
      have nothing : w.ensureProfile a = .done (.ok ()) := by
        simp [ensureProfile, hw, named]
      rw [nothing]
      exact ⟨_, _, _, rfl, .unneeded fun _ => named⟩
    | some arn =>
      obtain ⟨verdict, u, ran, ensured⟩ := ensured_once r s o arn
      rw [ensureProfile_eq w hw named, Dialogue.run_bind, Dialogue.transcript_bind_of_run _ ran, ran]
      simp only [Dialogue.transcript_done, List.append_nil]
      exact ⟨_, u, _, rfl, .ensured hw named ensured⟩

theorem plain_of_onProviderOrClock {q : Call} (h : OnProviderOrClock q) : q.plain := by
  cases q with
  | enter => simp [OnProviderOrClock, Call.asksProvider, Call.asksClock] at h
  | leave => simp [OnProviderOrClock, Call.asksProvider, Call.asksClock] at h
  | _ => trivial

/-- Nothing is recorded while the cluster is acquired. -/
theorem acquiring_acquire {request : Request} {wanted : Wanted} (hw : request.wanted = .ok wanted) :
    ∃ result u,
      Dialogue.run r.guarded.party (w.acquire request) (s, o) =
          (result.map (Except.mapError .ofNoCluster), (u, o)) ∧
        w.Acquiring request (Dialogue.transcript r.guarded (w.acquire request) (s, o)) result := by
  have eq : w.acquire request =
      w.provisioning.acquire wanted >>= fun acquired =>
        .done (acquired.mapError .ofNoCluster) := by
    unfold acquire
    rw [hw]
    refine congrArg (w.provisioning.acquire wanted >>= ·) (funext fun acquired => ?_)
    cases acquired <;> rfl
  have asks := asks_acquire w.provisioning wanted
  have plain := asks.mono fun q kind => plain_of_onProviderOrClock kind
  have kept := once_of_run_guarded (r := r) (s := s) (o := o) plain
  have course := acquire_takes r.guarded w.provisioning wanted (s, o)
  rw [eq, Dialogue.run_bind_done, Dialogue.transcript_bind_done]
  unfold Takes at course
  generalize Dialogue.run r.guarded.party (w.provisioning.acquire wanted) (s, o) = acquired
    at kept course ⊢
  obtain ⟨result, u, after⟩ := acquired
  obtain rfl : after = o := kept
  exact ⟨result, u, rfl, ⟨wanted, hw, course⟩, fun e he => asks.kind_of_mem _ he⟩

theorem prepare_eq {request : Request} (checked : request.check = .ok ()) :
    w.prepare request =
      w.ensureProfile request.attachment >>= fun ensured =>
        match ensured with
        | .error e => .done (.error e)
        | .ok _ => w.acquire request >>= fun acquired =>
          .done (acquired.map fun c => ⟨c.id, request.name⟩) := by
  unfold prepare
  rw [checked]
  refine congrArg (w.ensureProfile request.attachment >>= ·) (funext fun ensured => ?_)
  cases ensured with
  | error e => rfl
  | ok _ =>
    refine congrArg (w.acquire request >>= ·) (funext fun acquired => ?_)
    cases acquired <;> rfl

theorem prepared_prepare (request : Request) :
    ∃ result u after,
      Dialogue.run r.guarded.party (w.prepare request) (s, o) = (result, (u, after)) ∧
        w.Prepared request o (Dialogue.transcript r.guarded (w.prepare request) (s, o)) after
          result := by
  cases checked : request.check with
  | error cause =>
    have stopped : w.prepare request = .done (.error (.invalid cause)) := by
      simp [prepare, checked]
    rw [stopped]
    exact ⟨_, _, _, rfl, .rejected checked⟩
  | ok _ =>
    obtain ⟨args, accepted⟩ := Request.args_of_check checked
    obtain ⟨profile, named⟩ := Attachment.profile_of_args accepted
    obtain ⟨need, wanted⟩ := Request.wanted_of_check checked
    obtain ⟨ensured, u, after, ran, registering⟩ := w.registering_ensureProfile r s o named
    rw [w.prepare_eq checked, Dialogue.run_bind, Dialogue.transcript_bind_of_run _ ran, ran]
    cases ensured with
    | error e =>
      simp only [Dialogue.transcript_done, List.append_nil]
      exact ⟨_, _, _, rfl, .unregistered checked registering⟩
    | ok _ =>
      obtain ⟨acquired, v, reached, acquiring⟩ := w.acquiring_acquire r u after wanted
      dsimp only
      rw [Dialogue.run_bind_done, Dialogue.transcript_bind_done, reached]
      refine ⟨_, v, after, ?_, .acquired checked registering acquiring⟩
      rw [Option.map_map]
      rcases acquired with _ | _ | c <;> rfl

/-- A mount point is prepared only for a request that passes its check, and under its name. -/
theorem Prepared.point {request : Request} {exchanges : List (Exchange Outside)} {after : Once}
    {point : MountPoint} (h : w.Prepared request o exchanges after (some (.ok point))) :
    request.check = .ok () ∧ point = ⟨point.cluster, request.name⟩ := by
  generalize hr : some (Except.ok point) = prepared at h
  cases h with
  | rejected => cases hr
  | unregistered => cases hr
  | @acquired registering acquiring _ result checked _ _ =>
    rcases result with _ | _ | c
    · cases hr
    · cases hr
    · cases hr
      exact ⟨checked, rfl⟩

theorem staged_perform (request : Request) (op : Operation α) :
    ∃ result u after,
      Dialogue.run r.guarded.party (w.perform request op) (s, o) = (result, (u, after)) ∧
        w.Staged request op o (Dialogue.transcript r.guarded (w.perform request op) (s, o)) after
          result := by
  obtain ⟨result, u, after, ran, prepared⟩ := w.prepared_prepare r s o request
  rw [perform_eq, Dialogue.run_bind, Dialogue.transcript_bind, ran]
  rcases result with _ | e | point
  · simp only [List.append_nil]
    exact ⟨_, u, after, rfl, .unfinished prepared⟩
  · simp only [Dialogue.transcript_done, List.append_nil]
    exact ⟨_, u, after, rfl, .stopped prepared⟩
  · obtain ⟨checked, same⟩ := prepared.point
    obtain ⟨args, accepted⟩ := Request.args_of_check checked
    rw [same] at prepared
    dsimp only
    rw [same, Operation.finish_eq accepted, Dialogue.run_bind_done, Dialogue.transcript_bind_done]
    exact ⟨_, _, _, rfl, .ran prepared accepted⟩

end

/-! ## What the result tells -/

/-- What a failure says of the request, and of the record afterwards. -/
def Explains (request : Request) (after : Once) : MountFailure → Prop
  | .invalid cause => request.check = .error cause
  | .sharedUnavailable identity =>
    request.check = .ok () ∧ w.registers = true ∧
      ∃ arn, request.attachment.profile = .ok (some arn) ∧ identity = arn.text ∧
        after.outcome? arn.text = some false
  | .clusterUnusable id _ => request.check = .ok () ∧ request.cluster = some id
  | .noClusterMade _ => request.check = .ok () ∧ request.cluster = none
  | .notCreated _ | .notRead _ | .notDeleted _ => request.check = .ok ()

section

variable {w} {request : Request} {op : Operation α} {o after : Once}
  {exchanges : List (Exchange Outside)} {result : Option (Except MountFailure α)} {e : MountFailure}

/-- Where the stage is not passed a named profile is recorded as not registered. -/
theorem Registering.failure {a : Attachment}
    (h : w.Registering a o exchanges after (.error e)) :
    w.registers = true ∧ ∃ arn, a.profile = .ok (some arn) ∧ e = .sharedUnavailable arn.text ∧
      after.outcome? arn.text = some false := by
  generalize hr : (.error e : Except MountFailure Unit) = ensured at h
  cases h with
  | unneeded => cases hr
  | @ensured arn _ outcome registers named _ =>
    cases outcome with
    | true => cases hr
    | false =>
      cases hr
      exact ⟨registers, arn, named, rfl, Once.outcome?_leave ..⟩

/-- Where the stage is passed the profile is recorded as registered. -/
theorem Registering.recorded {a : Attachment} {arn : ProfileArn}
    (h : w.Registering a o exchanges after (.ok ())) (registers : w.registers = true)
    (named : a.profile = .ok (some arn)) : after.outcome? arn.text = some true := by
  generalize hr : (.ok () : Except MountFailure Unit) = ensured at h
  cases h with
  | unneeded none => cases (none registers).symm.trans named
  | @ensured other _ outcome _ found _ =>
    cases outcome with
    | false => cases hr
    | true =>
      cases found.symm.trans named
      exact Once.outcome?_leave ..

theorem Acquiring.explains (checked : request.check = .ok ()) {blamed : NoCluster}
    (h : w.Acquiring request exchanges (some (.error blamed))) :
    w.Explains request after (.ofNoCluster blamed) := by
  obtain ⟨⟨wanted, hw, course⟩, -⟩ := h
  obtain ⟨need, expected⟩ := Request.wanted_of_check checked
  obtain rfl := Except.ok.inj (hw.symm.trans expected)
  rcases course.blame with ⟨id, reason, pinned, rfl⟩ | ⟨unpinned, reason, rfl⟩
  · exact ⟨checked, pinned⟩
  · exact ⟨checked, unpinned⟩

theorem Prepared.explains (h : w.Prepared request o exchanges after (some (.error e))) :
    w.Explains request after e := by
  generalize hr : (some (.error e) : Option (Except MountFailure MountPoint)) = prepared at h
  cases h with
  | rejected refused =>
    cases hr
    exact refused
  | unregistered checked registering =>
    cases hr
    obtain ⟨registers, arn, named, rfl, unregistered⟩ := registering.failure
    exact ⟨checked, registers, arn, named, rfl, unregistered⟩
  | @acquired registering acquiring _ acquired checked _ reached =>
    rcases acquired with _ | blamed | c
    · cases hr
    · cases hr
      exact reached.explains checked
    · cases hr

/-- A failure is explained by the stage in which it occurred. -/
theorem Staged.explains (h : w.Staged request op o exchanges after (some (.error e))) :
    w.Explains request after e := by
  generalize hr : some (Except.error e) = result at h
  cases h with
  | stopped prepared =>
    cases hr
    exact prepared.explains
  | unfinished => cases hr
  | ran prepared _ =>
    have failed := Operation.ofScript_of_told (Option.some.inj hr).symm
    have checked := prepared.point.1
    cases e with
    | notCreated reason => exact checked
    | notRead reason => exact checked
    | notDeleted reason => exact checked
    | invalid cause => exact failed.elim
    | clusterUnusable id reason => exact failed.elim
    | noClusterMade reason => exact failed.elim
    | sharedUnavailable identity => exact failed.elim

/-- Where a mount point is not prepared nothing more is done. -/
theorem Staged.prepared (h : w.Staged request op o exchanges after result) :
    ∃ before point, w.Prepared request o before after point ∧
      ∀ e, point = some (.error e) → exchanges = before ∧ result = some (.error e) := by
  cases h with
  | @stopped _ _ failure prepared =>
    refine ⟨_, _, prepared, ?_⟩
    rintro e ⟨⟩
    exact ⟨rfl, rfl⟩
  | unfinished prepared => exact ⟨_, _, prepared, nofun⟩
  | ran prepared _ => exact ⟨_, _, prepared, nofun⟩

/-- A request that does not pass its check is rejected before anything is asked. -/
theorem Staged.rejected {cause : Invalid} (h : w.Staged request op o exchanges after result)
    (refused : request.check = .error cause) :
    exchanges = [] ∧ after = o ∧ result = some (.error (.invalid cause)) := by
  obtain ⟨before, point, prepared, stops⟩ := h.prepared
  cases prepared with
  | rejected other =>
    cases other.symm.trans refused
    obtain ⟨nothing, told⟩ := stops _ rfl
    exact ⟨nothing, rfl, told⟩
  | unregistered checked _ => cases checked.symm.trans refused
  | acquired checked _ _ => cases checked.symm.trans refused

/-- A profile that is recorded as not registered afterwards was the reason to stop. -/
theorem Staged.unavailable {arn : ProfileArn} (h : w.Staged request op o exchanges after result)
    (checked : request.check = .ok ()) (registers : w.registers = true)
    (named : request.attachment.profile = .ok (some arn))
    (unregistered : after.outcome? arn.text = some false) :
    result = some (.error (.sharedUnavailable arn.text)) := by
  obtain ⟨before, point, prepared, stops⟩ := h.prepared
  cases prepared with
  | rejected refused => cases refused.symm.trans checked
  | unregistered _ registering =>
    obtain ⟨-, other, found, rfl, -⟩ := registering.failure
    cases found.symm.trans named
    exact (stops _ rfl).2
  | acquired _ registering _ =>
    have registered := registering.recorded registers named
    cases registered.symm.trans unregistered

end

/-- Whatever is answered and whatever is recorded before, an operation goes through its stages and
stops where `Staged` says.  Its result tells where that was: a request is invalid exactly if it does
not pass its check, and then nobody is asked; a profile is unavailable exactly if it is to be
registered and is recorded afterwards as not registered; and a pinned cluster is unusable only where
one is pinned, as none could be made only where none is. -/
theorem operation_staged (request : Request) (op : Operation α) (r : Respondent Outside σ) (s : σ)
    (o : Once) :
    ∃ result u after,
      Dialogue.run r.guarded.party (w.perform request op) (s, o) = (result, (u, after)) ∧
      w.Staged request op o (Dialogue.transcript r.guarded (w.perform request op) (s, o)) after
        result ∧
      (∀ cause, result = some (.error (.invalid cause)) ↔ request.check = .error cause) ∧
      (∀ cause, request.check = .error cause →
        Dialogue.transcript r.guarded (w.perform request op) (s, o) = [] ∧ after = o) ∧
      (∀ identity, result = some (.error (.sharedUnavailable identity)) ↔
        request.check = .ok () ∧ w.registers = true ∧
          ∃ arn, request.attachment.profile = .ok (some arn) ∧ identity = arn.text ∧
            after.outcome? arn.text = some false) ∧
      (∀ id reason, result = some (.error (.clusterUnusable id reason)) →
        request.cluster = some id) ∧
      ∀ reason, result = some (.error (.noClusterMade reason)) → request.cluster = none := by
  obtain ⟨result, u, after, ran, staged⟩ := w.staged_perform r s o request op
  refine ⟨result, u, after, ran, staged, ?_, ?_, ?_, ?_, ?_⟩
  · intro cause
    constructor
    · rintro rfl
      exact staged.explains
    · intro refused
      exact (staged.rejected refused).2.2
  · intro cause refused
    obtain ⟨nothing, same, -⟩ := staged.rejected refused
    exact ⟨nothing, same⟩
  · intro identity
    constructor
    · rintro rfl
      exact staged.explains
    · rintro ⟨checked, registers, arn, named, rfl, unregistered⟩
      exact staged.unavailable checked registers named unregistered
  · rintro id reason rfl
    exact staged.explains.2
  · rintro reason rfl
    exact staged.explains.2

end RemoteMounts.Workflow
