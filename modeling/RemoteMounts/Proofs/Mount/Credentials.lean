import RemoteMounts.Proofs.Mount.Stages

/-!
# How an attachment obtains its credentials

An attachment is asked four times for its credentials: for the arguments of the mount, for the
profile that it names, for what it needs of its cluster, and for whether it relies on that cluster
alone.  The four answers fit together (`need_eq_ok_profile_iff`, `need_eq_ok_anyProfile_iff`,
`rejected_of_profile`).  A request that passes its check therefore wants no unnamed profile of a
cluster that is not pinned (`pinned_of_anyProfile`), and no operation fails because none was named,
whoever is asked (`credentials_agree`).
-/

namespace RemoteMounts

/-! ## The answers of an attachment -/

namespace Attachment

variable {a : Attachment}

/-- Who relies on the cluster names no profile. -/
theorem profile_of_relyOnCluster (h : a.relyOnCluster = true) : a.profile = .ok none := by
  unfold relyOnCluster at h
  split at h
  next bare =>
    unfold profile
    rw [bare]
  next => cases h

theorem need_eq_ok_profile_iff {arn : ProfileArn} :
    a.need = .ok (.profile arn) ↔ a.profile = .ok (some arn) := by
  cases named : a.profile with
  | error e => simp [need_of_profile_eq_error named]
  | ok profile =>
    cases profile with
    | some other => simp [need_of_named named]
    | none => cases relies : a.relyOnCluster <;> simp [need_of_unnamed named, relies]

theorem need_eq_ok_anyProfile_iff : a.need = .ok .anyProfile ↔ a.relyOnCluster = true := by
  cases relies : a.relyOnCluster with
  | true => simp [need_of_unnamed (profile_of_relyOnCluster relies), relies]
  | false =>
    cases named : a.profile with
    | error e => simp [need_of_profile_eq_error named]
    | ok profile =>
      cases profile with
      | some arn => simp [need_of_named named]
      | none => simp [need_of_unnamed named, relies]

/-- Where what is named is no profile, the arguments and the need are rejected too. -/
theorem rejected_of_profile {e : Invalid} (h : a.profile = .error e) :
    (∃ cause, a.args = .error cause) ∧ a.need = .error e := by
  refine ⟨?_, need_of_profile_eq_error h⟩
  cases accepted : a.args with
  | error cause => exact ⟨cause, rfl⟩
  | ok args =>
    obtain ⟨profile, named⟩ := profile_of_args accepted
    cases named.symm.trans h

end Attachment

/-! ## What a request wants -/

/-- A request that passes its check and wants a cluster with just any profile pins it. -/
theorem Request.pinned_of_anyProfile {request : Request} {wanted : Wanted}
    (checked : request.check = .ok ()) (h : request.wanted = .ok wanted)
    (any : wanted.need = .anyProfile) : wanted.pinned ≠ none := by
  obtain ⟨need, expected⟩ := wanted_of_check checked
  obtain rfl := Except.ok.inj (h.symm.trans expected)
  dsimp only at any ⊢
  subst any
  have needed : request.attachment.need = .ok .anyProfile := by
    unfold Request.wanted at expected
    split at expected
    · cases expected
      assumption
    · cases expected
  have relies := Attachment.need_eq_ok_anyProfile_iff.mp needed
  intro free
  simp [check, free, relies] at checked

/-! ## Nothing fails because no profile was named -/

/-- What is told where a cluster had to be made with a profile and none was named. -/
def noneNamed : String :=
  "no running cluster has an instance profile and none was named"

/-- The text begins with some other letter. -/
def BeginsOtherwise (text : String) : Prop :=
  ∃ c, Text.Begins text c ∧ c ≠ 'n'

theorem BeginsOtherwise.ne {text : String} (h : BeginsOtherwise text) : text ≠ noneNamed := by
  obtain ⟨c, begins, other⟩ := h
  have own : Text.Begins noneNamed 'n' := by decide
  exact begins.ne own other

theorem BeginsOtherwise.append {text : String} (h : BeginsOtherwise text) (more : String) :
    BeginsOtherwise (text ++ more) := by
  obtain ⟨c, begins, other⟩ := h
  exact ⟨c, begins.append more, other⟩

/-- Faults of clusters are told in words that begin otherwise. -/
theorem ClusterFault.beginsOtherwise (fault : ClusterFault) : BeginsOtherwise fault.message := by
  have cluster : BeginsOtherwise "cluster " := ⟨'c', by decide, by decide⟩
  have timeout : BeginsOtherwise "timeout after " := ⟨'t', by decide, by decide⟩
  have failed : BeginsOtherwise "cluster API request failed: " := ⟨'c', by decide, by decide⟩
  cases fault with
  | unknownCluster id => exact (cluster.append _).append _
  | stopped id phase note => exact ((((cluster.append _).append _).append _).append _).append _
  | stillWaiting id seconds => exact (((timeout.append _).append _).append _).append _
  | refused reason => exact failed.append _

theorem EmptyPart.beginsOtherwise (e : EmptyPart) : BeginsOtherwise e.message := by
  have missing : BeginsOtherwise "missing or empty field: " := ⟨'m', by decide, by decide⟩
  exact missing.append _

/-- The outcome is none or another failure than this one. -/
inductive Avoids {ε α : Type} (failure : ε) : Except ε α → Prop
  | ok (a : α) : Avoids failure (.ok a)
  | error {e : ε} : e ≠ failure → Avoids failure (.error e)

namespace Provisioning

open Dialogue (Yields)

theorem avoids_notMade {reason : String} (h : reason ≠ noneNamed) :
    Avoids (.notMade noneNamed) (.error (.notMade reason) : Except NoCluster Cluster) := by
  refine .error ?_
  rintro ⟨⟩
  exact h rfl

variable (p : Provisioning)

theorem yields_acquirePinned (id : String) (need : Need) :
    Yields (Avoids (.notMade noneNamed)) (acquirePinned id need) := by
  refine Errand.yields_call fun answer => ?_
  cases answer with
  | error fault => exact Avoids.error nofun
  | ok c =>
    dsimp only
    cases c.phase.isReady with
    | false => exact Avoids.error nofun
    | true =>
      cases need.isMetBy c.profile with
      | false => exact Avoids.error nofun
      | true => exact Avoids.ok c

theorem yields_restart (id : String) : Yields (Avoids (.notMade noneNamed)) (p.restart id) := by
  refine Errand.yields_call fun answer => ?_
  cases answer with
  | error fault => exact avoids_notMade fault.beginsOtherwise.ne
  | ok _ =>
    refine (Dialogue.yields_true _).bind fun outcome _ => ?_
    cases outcome with
    | error fault => exact avoids_notMade fault.beginsOtherwise.ne
    | ok c => exact Avoids.ok c

/-- What is told of a cluster that was taken away begins with the reason for it. -/
theorem yields_tearDown (id reason : String) :
    Yields (fun told => ∃ more, told = reason ++ more) (tearDown id reason) := by
  refine Errand.yields_call fun answer => ?_
  cases answer with
  | error fault => exact ⟨_, String.append_assoc.trans String.append_assoc⟩
  | ok _ => exact ⟨"", String.append_empty.symm⟩

theorem yields_make (blueprint : Blueprint) :
    Yields (Avoids (.notMade noneNamed)) (p.make blueprint) := by
  refine Errand.yields_call fun answer => ?_
  cases answer with
  | error fault => exact avoids_notMade fault.beginsOtherwise.ne
  | ok id =>
    refine (Dialogue.yields_true _).bind fun outcome _ => ?_
    cases outcome with
    | ok c => exact Avoids.ok c
    | error fault =>
      refine (yields_tearDown id fault.message).bind ?_
      rintro _ ⟨more, rfl⟩
      exact avoids_notMade (fault.beginsOtherwise.append more).ne

theorem yields_acquireAny {need : Need} (named : need ≠ .anyProfile) :
    Yields (Avoids (.notMade noneNamed)) (p.acquireAny need) := by
  refine Errand.yields_call fun answer => ?_
  cases answer with
  | error fault => exact avoids_notMade fault.beginsOtherwise.ne
  | ok clusters =>
    dsimp only
    cases Choice.among need clusters with
    | reuse c => exact Avoids.ok c
    | restart id => exact p.yields_restart id
    | make =>
      dsimp only
      rw [blueprint_eq p named]
      cases (Draft.forNeed p.template need).finish with
      | error e => exact avoids_notMade e.beginsOtherwise.ne
      | ok blueprint => exact p.yields_make blueprint

/-- An acquisition fails for this reason only where just any profile is needed and no cluster is
pinned. -/
theorem yields_acquire {wanted : Wanted} (h : wanted.need = .anyProfile → wanted.pinned ≠ none) :
    Yields (Avoids (.notMade noneNamed)) (p.acquire wanted) := by
  obtain ⟨pinned, need⟩ := wanted
  cases pinned with
  | some id => exact yields_acquirePinned id need
  | none => exact p.yields_acquireAny fun any => h any rfl

end Provisioning

namespace Workflow

open Dialogue (Yields)

variable {α : Type} (w : Workflow)

theorem yields_ensureProfile (a : Attachment) :
    Yields (Avoids (.noClusterMade noneNamed)) (w.ensureProfile a) := by
  unfold ensureProfile
  cases w.registers with
  | false => exact Avoids.ok ()
  | true =>
    cases a.profile with
    | error cause => exact Avoids.error nofun
    | ok profile =>
      cases profile with
      | none => exact Avoids.ok ()
      | some arn =>
        refine (Dialogue.yields_true _).bind fun verdict _ => ?_
        cases verdict.outcome with
        | false => exact Avoids.error nofun
        | true => exact Avoids.ok ()

theorem yields_acquire {request : Request} (checked : request.check = .ok ()) :
    Yields (Avoids (.noClusterMade noneNamed)) (w.acquire request) := by
  obtain ⟨need, wants⟩ := Request.wanted_of_check checked
  unfold acquire
  rw [wants]
  refine (w.provisioning.yields_acquire (Request.pinned_of_anyProfile checked wants)).bind ?_
  rintro _ (c | @⟨e, other⟩)
  · exact Avoids.ok c
  · cases e with
    | unusable id reason => exact Avoids.error nofun
    | notMade reason =>
      refine Avoids.error ?_
      rintro ⟨⟩
      exact other rfl

/-- What comes of preparing a mount point: one of the request, which passes its check, or another
failure than this one. -/
inductive Prepares (request : Request) : Except MountFailure MountPoint → Prop
  | point (cluster : String) : request.check = .ok () → Prepares request (.ok ⟨cluster, request.name⟩)
  | failed {e : MountFailure} : e ≠ .noClusterMade noneNamed → Prepares request (.error e)

theorem yields_prepare (request : Request) : Yields (Prepares request) (w.prepare request) := by
  cases checked : request.check with
  | error cause =>
    have stopped : w.prepare request = .done (.error (.invalid cause)) := by
      simp [prepare, checked]
    rw [stopped]
    refine Prepares.failed ?_
    rintro ⟨⟩
  | ok _ =>
    rw [w.prepare_eq checked]
    refine (w.yields_ensureProfile request.attachment).bind ?_
    rintro _ (_ | other)
    · refine (w.yields_acquire checked).bind ?_
      rintro _ (c | other)
      · exact Prepares.point c.id checked
      · exact Prepares.failed other
    · exact Prepares.failed other

/-- Once a mount point is prepared only its script can fail. -/
theorem yields_perform (request : Request) (op : Operation α) :
    Yields (Avoids (.noClusterMade noneNamed)) (w.perform request op) := by
  rw [perform_eq]
  refine (w.yields_prepare request).bind ?_
  rintro _ (⟨cluster, checked⟩ | other)
  · obtain ⟨args, accepted⟩ := Request.args_of_check checked
    dsimp only
    rw [Operation.finish_eq accepted]
    refine Errand.yields_call fun outcome => ?_
    cases told : op.told request.name cluster outcome with
    | ok a => exact Avoids.ok a
    | error e =>
      have failed := Operation.ofScript_of_told told
      refine Avoids.error ?_
      rintro rfl
      exact failed
  · exact Avoids.error other

end Workflow

/-- The answers of an attachment on its credentials fit together.  One whose arguments are accepted
names a profile or none, and needs something; it needs a profile of its own exactly if it names that
one, and just any exactly if it relies on its cluster; and where what it names is no profile its
arguments and its need are rejected too.  So a request that passes its check wants a cluster, and
not just any profile of whichever cluster there is; and no operation fails because none was named,
whoever is asked and whatever is answered. -/
theorem credentials_agree :
    (∀ (a : Attachment) (args : MountArgs), a.args = .ok args →
      (∃ profile, a.profile = .ok profile) ∧ ∃ need, a.need = .ok need) ∧
    (∀ (a : Attachment) (arn : ProfileArn),
      a.need = .ok (.profile arn) ↔ a.profile = .ok (some arn)) ∧
    (∀ a : Attachment, a.need = .ok .anyProfile ↔ a.relyOnCluster = true) ∧
    (∀ (a : Attachment) (e : Invalid), a.profile = .error e →
      (∃ cause, a.args = .error cause) ∧ a.need = .error e) ∧
    (∀ request : Request, request.check = .ok () →
      ∃ wanted, request.wanted = .ok wanted ∧
        ¬(wanted.pinned = none ∧ wanted.need = .anyProfile)) ∧
    ∀ {α σ : Type} (w : Workflow) (request : Request) (op : Operation α) (party : Party Outside σ)
      (s : σ),
      (Dialogue.run party (w.perform request op) s).1 ≠
        some (.error
          (.noClusterMade "no running cluster has an instance profile and none was named")) := by
  refine ⟨?_, fun _ _ => Attachment.need_eq_ok_profile_iff,
    fun _ => Attachment.need_eq_ok_anyProfile_iff, fun _ _ => Attachment.rejected_of_profile,
    ?_, ?_⟩
  · intro a args accepted
    obtain ⟨profile, named⟩ := Attachment.profile_of_args accepted
    exact ⟨⟨profile, named⟩, Attachment.need_of_profile named⟩
  · intro request checked
    obtain ⟨need, wants⟩ := Request.wanted_of_check checked
    refine ⟨_, wants, ?_⟩
    rintro ⟨free, any⟩
    exact Request.pinned_of_anyProfile checked wants any free
  · intro α σ w request op party s told
    cases (w.yields_perform request op).of_run (Prod.ext told rfl) with
    | error other => exact other rfl

end RemoteMounts
