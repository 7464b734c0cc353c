import RemoteMounts.Proofs.Mount.Stages

/-!
# Profiles are registered once

Mounts are made, looked for and removed one after the other, and profiles are removed in between, by
any workflows that share one record of what was done once.  The registry may answer as it likes, at
one time so and at another time otherwise.  What is recorded of an identity is then all that the
registry has ever been asked for it: it was never asked, or once, and the record holds what came of
it (`Accounted`).  One visit keeps that (`Accounted.visit`), and so a whole round
of visits does (`accounted_round`).  What later visits make of it says `round_registers_once`.
-/

namespace RemoteMounts

variable {α σ : Type}

/-! ## Visits -/

/-- An operation on a mount, or the removal of a profile. -/
inductive Visit
  | operation {α : Type} (w : Workflow) (request : Request) (op : Operation α)
  | unregister (arn : ProfileArn)

namespace Visit

/-- The visit without regard to what it comes to. -/
def errand : Visit → Errand Unit
  | operation w request op => w.perform request op >>= fun _ => .done ()
  | unregister arn => Workflow.unregister arn >>= fun _ => .done ()

variable (r : Respondent Outside σ)

/-- Where the respondent stands after the visits, one after the other, and what is recorded then. -/
def after : List Visit → σ × Once → σ × Once
  | [], s => s
  | v :: rest, s => after rest (Dialogue.run r.guarded.party v.errand s).2

/-- What is asked and answered on the visits. -/
def exchanges : List Visit → σ × Once → List (Exchange Outside)
  | [], _ => []
  | v :: rest, s =>
    Dialogue.transcript r.guarded v.errand s ++
      exchanges rest (Dialogue.run r.guarded.party v.errand s).2

theorem after_append (visits more : List Visit) (s : σ × Once) :
    after r (visits ++ more) s = after r more (after r visits s) := by
  induction visits generalizing s with
  | nil => rfl
  | cons v visits ih => exact ih _

end Visit

/-- The request names this text as the profile by which its bucket is read. -/
def Request.Names (request : Request) (source : String) : Prop :=
  ∃ bucket, request.attachment.storage = .s3 bucket (.profile (some source))

namespace Request

variable {request : Request} {source : String}

/-- Blanks around the profile that is named do not count. -/
theorem profile_of_names (checked : request.check = .ok ()) (named : request.Names source) :
    ∃ arn, request.attachment.profile = .ok (some arn) ∧ arn.text = Text.trim source := by
  obtain ⟨args, accepted⟩ := args_of_check checked
  obtain ⟨profile, found⟩ := Attachment.profile_of_args accepted
  obtain ⟨bucket, storage⟩ := named
  unfold Attachment.profile at found ⊢
  rw [storage] at found ⊢
  cases parsed : ProfileArn.parse source with
  | error cause =>
    simp only [parsed] at found
    cases found
  | ok arn =>
    refine ⟨arn, ?_, ProfileArn.text_of_parse parsed⟩
    simp only [parsed]
    rfl

theorem names_of_profile {arn : ProfileArn} (h : request.attachment.profile = .ok (some arn)) :
    ∃ source, request.Names source := by
  unfold Attachment.profile at h
  split at h
  · rename_i bucket source storage
    exact ⟨source, bucket, storage⟩
  · cases h

end Request

/-! ## What the registry was asked -/

/-- Whether the profile was registered, if that is what was asked. -/
def Exchange.registration? (identity : String) : Exchange Outside → Option Bool
  | ⟨.addProfile arn, answer⟩ => if arn.text = identity then some (Except.isOk answer) else none
  | _ => none

def registrations (identity : String) (exchanges : List (Exchange Outside)) : List Bool :=
  exchanges.filterMap (Exchange.registration? identity)

theorem registrations_append (identity : String) (xs ys : List (Exchange Outside)) :
    registrations identity (xs ++ ys) = registrations identity xs ++ registrations identity ys :=
  List.filterMap_append

/-- Whether the registry is asked to register something. -/
def Call.registers : Call → Prop
  | addProfile _ => True
  | _ => False

/-- To ask the registry once is one registration. -/
theorem registrations_tried (arn : ProfileArn) (answer : Except ProfileFault Unit)
    (identity : String) :
    registrations identity
        [⟨.enter arn.text, none⟩, ⟨.addProfile arn, answer⟩, ⟨.leave arn.text answer.isOk, ()⟩] =
      if arn.text = identity then [answer.isOk] else [] := by
  have asked : Exchange.registration? identity ⟨.addProfile arn, answer⟩ =
      if arn.text = identity then some answer.isOk else none := rfl
  have entered : Exchange.registration? identity ⟨.enter arn.text, none⟩ = none := rfl
  have left : Exchange.registration? identity ⟨.leave arn.text answer.isOk, ()⟩ = none := rfl
  simp only [registrations, List.filterMap_cons, entered, asked, left, List.filterMap_nil]
  split <;> split <;> simp_all

theorem registrations_eq_nil {ys : List (Exchange Outside)}
    (other : ∀ e ∈ ys, ¬ e.question.registers) (identity : String) :
    registrations identity ys = [] := by
  refine List.filterMap_eq_nil_iff.mpr fun e he => ?_
  have none := other e he
  obtain ⟨question, answer⟩ := e
  cases question with
  | addProfile arn => exact absurd trivial none
  | _ => rfl

theorem not_registers_of_onProviderOrClock {q : Call} (h : OnProviderOrClock q) :
    ¬ q.registers := by
  cases q with
  | addProfile arn => simp [OnProviderOrClock, Call.asksProvider, Call.asksClock] at h
  | _ => exact id

/-! ## What is kept -/

/-- No outcome is lost. -/
def Once.Keeps (o after : Once) : Prop :=
  ∀ identity outcome, o.outcome? identity = some outcome → after.outcome? identity = some outcome

theorem Once.Keeps.trans {o after later : Once} (h : o.Keeps after) (l : after.Keeps later) :
    o.Keeps later :=
  fun identity outcome known => l identity outcome (h identity outcome known)

/-- Nobody holds an identity, and what is recorded is what the registry was asked. -/
structure Accounted (exchanges : List (Exchange Outside)) (o : Once) : Prop where
  free : ∀ identity, (o.enter identity).1 ≠ .wait
  told : ∀ identity, registrations identity exchanges = (o.outcome? identity).toList

namespace Accounted

variable {xs ys : List (Exchange Outside)} {o after : Once}

theorem empty : Accounted [] .empty where
  free _ := nofun
  told _ := rfl

/-- What is not asked of the registry needs no account. -/
theorem append (h : Accounted xs o) (other : ∀ e ∈ ys, ¬ e.question.registers) :
    Accounted (xs ++ ys) o where
  free := h.free
  told identity := by
    rw [registrations_append, registrations_eq_nil other, List.append_nil, h.told]

/-- Who leaves an identity does not hold it any more. -/
theorem free_leave (h : ∀ identity, (o.enter identity).1 ≠ .wait) (place : String)
    (outcome : Bool) (identity : String) : ((o.leave place outcome).enter identity).1 ≠ .wait := by
  have before := h identity
  by_cases same : identity = place
  · simp [Once.enter, Once.leave, same]
  · unfold Once.enter Once.leave at *
    rw [Once.entry_insert, if_neg same]
    split at before <;> simp_all

/-- A profile that is seen to is recorded, and accounted for. -/
theorem ensured {arn : ProfileArn} {outcome : Bool} (h : Accounted xs o)
    (seen : Workflow.Ensured arn o ys outcome) :
    Accounted (xs ++ ys) (o.leave arn.text outcome) ∧ o.Keeps (o.leave arn.text outcome) := by
  cases seen with
  | recorded known =>
    rw [Once.leave_of_outcome? known]
    refine ⟨h.append fun e he => ?_, fun _ _ => id⟩
    rw [List.mem_singleton.mp he]
    exact not_false
  | leftByOther waits => exact absurd waits (h.free arn.text)
  | @tried answer unknown =>
    refine ⟨⟨free_leave h.free _ _, fun identity => ?_⟩, fun identity outcome known => ?_⟩
    · rw [registrations_append, registrations_tried, h.told]
      by_cases same : identity = arn.text
      · rw [same, if_pos rfl, unknown, Once.outcome?_leave]
        rfl
      · rw [Once.outcome?_leave_of_ne _ same, if_neg (Ne.symm same), List.append_nil]
    · have other : identity ≠ arn.text := by
        rintro rfl
        exact nomatch unknown.symm.trans known
      rw [Once.outcome?_leave_of_ne _ other, known]

theorem registering {w : Workflow} {a : Attachment} {result : Except MountFailure Unit}
    (h : Accounted xs o) (stage : w.Registering a o ys after result) :
    Accounted (xs ++ ys) after ∧ o.Keeps after := by
  cases stage with
  | unneeded => exact ⟨h.append (fun e he => nomatch he), fun _ _ => id⟩
  | ensured _ _ seen => exact h.ensured seen

theorem prepared {w : Workflow} {request : Request}
    {result : Option (Except MountFailure MountPoint)} (h : Accounted xs o)
    (stages : w.Prepared request o ys after result) :
    Accounted (xs ++ ys) after ∧ o.Keeps after := by
  cases stages with
  | rejected => exact ⟨h.append (fun e he => nomatch he), fun _ _ => id⟩
  | unregistered _ stage => exact h.registering stage
  | acquired _ stage acquiring =>
    obtain ⟨kept, keeps⟩ := h.registering stage
    rw [← List.append_assoc]
    exact ⟨kept.append fun e he => not_registers_of_onProviderOrClock (acquiring.2 e he), keeps⟩

theorem staged {w : Workflow} {request : Request} {op : Operation α}
    {result : Option (Except MountFailure α)} (h : Accounted xs o)
    (stages : w.Staged request op o ys after result) :
    Accounted (xs ++ ys) after ∧ o.Keeps after := by
  cases stages with
  | stopped stages => exact h.prepared stages
  | unfinished stages => exact h.prepared stages
  | ran stages _ =>
    obtain ⟨kept, keeps⟩ := h.prepared stages
    rw [← List.append_assoc]
    refine ⟨kept.append fun e he => ?_, keeps⟩
    rw [List.mem_singleton.mp he]
    exact not_false

variable {r : Respondent Outside σ} {s : σ}

/-- One visit registers what is not recorded and no more. -/
theorem visit (h : Accounted xs o) (v : Visit) :
    Accounted (xs ++ Dialogue.transcript r.guarded v.errand (s, o))
        (Dialogue.run r.guarded.party v.errand (s, o)).2.2 ∧
      o.Keeps (Dialogue.run r.guarded.party v.errand (s, o)).2.2 := by
  cases v with
  | operation w request op =>
    obtain ⟨result, u, after, ran, stages⟩ := w.staged_perform r s o request op
    rw [Visit.errand, Dialogue.run_bind_done, Dialogue.transcript_bind_done, ran]
    exact h.staged stages
  | unregister arn =>
    refine ⟨h.append fun e he => ?_, fun _ _ => id⟩
    rw [Visit.errand, Dialogue.transcript_bind_done] at he
    rw [List.mem_singleton.mp he]
    exact not_false

end Accounted

/-! ## What an operation makes of the record -/

namespace Workflow

variable {w : Workflow} {request : Request} {op : Operation α} {o after : Once} {arn : ProfileArn}
  {exchanges : List (Exchange Outside)} {result : Option (Except MountFailure α)}

/-- An outcome that is recorded is all that is asked for. -/
theorem Registering.of_recorded {a : Attachment} {outcome : Bool}
    {ensured : Except MountFailure Unit} (h : w.Registering a o exchanges after ensured)
    (registers : w.registers = true) (named : a.profile = .ok (some arn))
    (known : o.outcome? arn.text = some outcome) :
    exchanges = [⟨.enter arn.text, some outcome⟩] ∧ after.outcome? arn.text = some outcome := by
  cases h with
  | unneeded none => cases (none registers).symm.trans named
  | @ensured other _ found _ other seen =>
    cases other.symm.trans named
    cases seen with
    | recorded told =>
      cases told.symm.trans known
      exact ⟨rfl, Once.outcome?_leave ..⟩
    | leftByOther waits =>
      rw [Once.enter_eq_recorded_iff.mpr known] at waits
      cases waits
    | tried unknown => cases unknown.symm.trans known

/-- Where a profile could not be registered earlier an operation that needs it fails, and nobody but
the record is asked. -/
theorem Staged.of_unregistered (h : w.Staged request op o exchanges after result)
    (checked : request.check = .ok ()) (registers : w.registers = true)
    (named : request.attachment.profile = .ok (some arn))
    (known : o.outcome? arn.text = some false) :
    result = some (.error (.sharedUnavailable arn.text)) ∧
      exchanges = [⟨.enter arn.text, some false⟩] := by
  obtain ⟨before, point, prepared, stops⟩ := h.prepared
  cases prepared with
  | rejected refused => cases refused.symm.trans checked
  | unregistered _ stage =>
    obtain ⟨asked, failed⟩ := stage.of_recorded registers named known
    exact ⟨h.unavailable checked registers named failed, (stops _ rfl).1.trans asked⟩
  | acquired _ stage _ =>
    have registered := stage.recorded registers named
    cases registered.symm.trans (stage.of_recorded registers named known).2

/-- Where a profile was registered earlier no operation that needs it fails for want of it. -/
theorem Staged.of_registered (h : w.Staged request op o exchanges after result)
    (named : request.attachment.profile = .ok (some arn)) (keeps : o.Keeps after)
    (known : o.outcome? arn.text = some true) (identity : String) :
    result ≠ some (.error (.sharedUnavailable identity)) := by
  rintro rfl
  obtain ⟨-, -, other, found, -, failed⟩ := h.explains
  cases found.symm.trans named
  cases (keeps _ _ known).symm.trans failed

/-- The exchange is neither with the registry nor with the record. -/
def Aside (e : Exchange Outside) : Prop :=
  e.question.plain ∧ ¬ e.question.registers

theorem Prepared.of_unnamed {point : Option (Except MountFailure MountPoint)}
    (h : w.Prepared request o exchanges after point)
    (unnamed : ∀ arn, request.attachment.profile ≠ .ok (some arn)) :
    after = o ∧ ∀ e ∈ exchanges, Aside e := by
  have skipped {registering : List (Exchange Outside)} {ensured : Except MountFailure Unit}
      (stage : w.Registering request.attachment o registering after ensured) :
      after = o ∧ registering = [] ∧ ensured = .ok () := by
    cases stage with
    | unneeded => exact ⟨rfl, rfl, rfl⟩
    | ensured _ named _ => exact absurd named (unnamed _)
  cases h with
  | rejected => exact ⟨rfl, fun e he => nomatch he⟩
  | unregistered _ stage =>
    obtain ⟨-, -, failed⟩ := skipped stage
    cases failed
  | acquired _ stage acquiring =>
    obtain ⟨same, rfl, -⟩ := skipped stage
    refine ⟨same, fun e he => ?_⟩
    have asked := acquiring.2 e he
    exact ⟨plain_of_onProviderOrClock asked, not_registers_of_onProviderOrClock asked⟩

/-- An operation that needs no profile asks nothing of the registry and of the record. -/
theorem Staged.of_unnamed (h : w.Staged request op o exchanges after result)
    (unnamed : ∀ arn, request.attachment.profile ≠ .ok (some arn)) :
    after = o ∧ ∀ e ∈ exchanges, Aside e := by
  cases h with
  | stopped stages => exact stages.of_unnamed unnamed
  | unfinished stages => exact stages.of_unnamed unnamed
  | ran stages _ =>
    obtain ⟨same, others⟩ := stages.of_unnamed unnamed
    refine ⟨same, fun e he => ?_⟩
    rcases List.mem_append.mp he with he | he
    · exact others e he
    · rw [List.mem_singleton.mp he]
      exact ⟨trivial, not_false⟩

end Workflow

section

variable (r : Respondent Outside σ)

/-- Whatever is visited, all registrations are accounted for and no outcome is lost. -/
theorem accounted_round {xs : List (Exchange Outside)} {o : Once} (h : Accounted xs o)
    (visits : List Visit) (s : σ) :
    Accounted (xs ++ Visit.exchanges r visits (s, o)) (Visit.after r visits (s, o)).2 ∧
      o.Keeps (Visit.after r visits (s, o)).2 := by
  induction visits generalizing xs o s with
  | nil =>
    rw [Visit.exchanges, List.append_nil]
    exact ⟨h, fun _ _ => id⟩
  | cons v visits ih =>
    obtain ⟨kept, keeps⟩ := h.visit (r := r) (s := s) v
    obtain ⟨later, keepsLater⟩ := ih kept (Dialogue.run r.guarded.party v.errand (s, o)).2.1
    rw [Visit.exchanges, ← List.append_assoc]
    exact ⟨later, keeps.trans keepsLater⟩

/-- Visits are paid one after the other, with nothing recorded before the first, and the registry
answers as it likes.  Then what is recorded of a profile is all that the registry was asked for it,
so it was asked once at most; no later visit changes that.  An operation that comes then, and needs
a profile that is recorded as not registered, fails for want of it and asks only the record; if it
is recorded as registered the operation never fails for want of one.  An operation that needs no
profile asks nothing of the registry and leaves the record as it is.  Blanks around the profile
never count. -/
theorem round_registers_once (visits : List Visit) (s : σ) :
    (∀ source,
      registrations (Text.trim source) (Visit.exchanges r visits (s, .empty)) =
          ((Visit.after r visits (s, .empty)).2.outcome? (Text.trim source)).toList ∧
        (registrations (Text.trim source) (Visit.exchanges r visits (s, .empty))).length ≤ 1) ∧
    (∀ more, (Visit.after r visits (s, .empty)).2.Keeps
      (Visit.after r (visits ++ more) (s, .empty)).2) ∧
    ∀ {α : Type} (w : Workflow) (request : Request) (op : Operation α),
      let place := Visit.after r visits (s, .empty)
      let ran := Dialogue.run r.guarded.party (w.perform request op) place
      let asked := Dialogue.transcript r.guarded (w.perform request op) place
      (∀ source, w.registers = true → request.check = .ok () → request.Names source →
        (place.2.outcome? (Text.trim source) = some false →
          ran.1 = some (.error (.sharedUnavailable (Text.trim source))) ∧
            asked = [⟨.enter (Text.trim source), some false⟩]) ∧
        (place.2.outcome? (Text.trim source) = some true →
          ∀ identity, ran.1 ≠ some (.error (.sharedUnavailable identity)))) ∧
      ((∀ source, ¬ request.Names source) →
        ran.2.2 = place.2 ∧ ∀ e ∈ asked, ∀ arn, e.question ≠ .addProfile arn) := by
  obtain ⟨kept, -⟩ := accounted_round r .empty visits s
  rw [List.nil_append] at kept
  refine ⟨fun source => ⟨kept.told _, ?_⟩, fun more => ?_, fun w request op => ?_⟩
  · rw [kept.told]
    cases Once.outcome? _ _ <;> simp
  · rw [Visit.after_append]
    exact (accounted_round r kept more _).2
  · intro place ran asked
    obtain ⟨result, u, after, reached, stages⟩ :=
      w.staged_perform r place.1 place.2 request op
    have ended : ran = (result, (u, after)) := reached
    rw [ended]
    refine ⟨fun source registers checked names => ?_, fun unnamed => ?_⟩
    · obtain ⟨arn, named, text⟩ := Request.profile_of_names checked names
      rw [← text]
      exact ⟨stages.of_unregistered checked registers named,
        stages.of_registered named (kept.staged stages).2⟩
    · obtain ⟨same, aside⟩ := stages.of_unnamed fun arn named =>
        (Request.names_of_profile named).elim unnamed
      refine ⟨same, fun e he arn registers => (aside e he).2 ?_⟩
      rw [registers]
      trivial

end

/-! ## A registry that refuses -/

/-- A provider that is ready to do anything, and a registry that registers nothing. -/
def refusing : Respondent Outside Nat
  | .addProfile arn, looks => (.error ⟨arn.text, "denied"⟩, looks)
  | q, looks => waking q looks

/-- A bucket that is read by the profile, with blanks around its name or without. -/
def readerBucket (before : String) : Request where
  name := ⟨"reports", by decide⟩
  attachment := ⟨.s3 "bucket" (.profile (some (before ++ readerProfile.text))), .empty⟩

/-- After a profile was refused once, naming it without the blanks does not have it asked for
again. -/
theorem round_registers_once_refused :
    let w : Workflow := ⟨⟨⟨"runtime", "node", 10⟩, .standard, 2⟩, true⟩
    let visits : List Visit := [.operation w (readerBucket " ") .create, .unregister readerProfile]
    let place := Visit.after refusing visits (0, .empty)
    place.2.outcome? readerProfile.text = some false ∧
      (Dialogue.run refusing.guarded.party (w.perform (readerBucket "") .read) place).1 =
        some (.error (.sharedUnavailable readerProfile.text)) ∧
      Dialogue.transcript refusing.guarded (w.perform (readerBucket "") .read) place =
        [⟨.enter readerProfile.text, some false⟩] := by
  intro w visits place
  have once := (round_registers_once refusing visits 0).2.2 w (readerBucket "") .read
  have names : (readerBucket "").Names readerProfile.text := ⟨_, rfl⟩
  have checked : (readerBucket "").check = .ok () := rfl
  have trimmed : Text.trim readerProfile.text = readerProfile.text := readerProfile.trimmed
  have recorded : place.2.outcome? readerProfile.text = some false := by decide +kernel
  have later := (once.1 readerProfile.text rfl checked names).1
  rw [trimmed] at later
  exact ⟨recorded, later recorded⟩

end RemoteMounts
