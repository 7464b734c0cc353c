import Mathlib.Data.List.TakeWhile
import RemoteMounts.Proofs.Json.Kept
import RemoteMounts.Proofs.Workspace.Failures

/-!
# The words of a workspace

What a workspace says of a script goes to whoever had the script run as it was said, and from there
to whoever asked for the mount.  `Said` tells for the letters of a script what was said in them:
what its command has returned, what its command complains of, or why a message was refused, each of
them read off the document of a reply.  Whatever is said so is the outcome of the script
(`Course.said`), and the operations on a mount tell it without another word (`words_unchanged`).
-/

namespace RemoteMounts

/-! ## Blank replies -/

/-- Where nothing is left there are only blanks. -/
theorem Text.isBlank_of_trim_eq_empty {s : String} (h : trim s = "") :
    ∀ c ∈ s.toList, isBlank c = true := by
  have none : trimmed s.toList = [] := by
    rw [← toList_trim, h]
    rfl
  rw [trimmed, List.reverse_eq_nil_iff, List.dropWhile_eq_nil_iff] at none
  refine List.dropWhile_eq_nil_iff.mp ?_
  cases rest : s.toList.dropWhile isBlank with
  | nil => rfl
  | cons c cs =>
    have other : isBlank c = false := head_dropWhile c (by rw [rest]; rfl)
    have blank : isBlank c = true := none c (by simp [rest])
    exact Bool.noConfusion (other.symm.trans blank)

theorem Text.isDigit_of_isBlank {c : Char} (h : isBlank c = true) : c.isDigit = false := by
  have same : c.val.toNat = c.toNat := rfl
  have zero : '0'.val.toNat = 48 := rfl
  have nine : '9'.val.toNat = 57 := rfl
  simp only [isBlank, Bool.or_eq_true, Bool.and_eq_true, decide_eq_true_eq] at h
  simp only [Char.isDigit, Bool.and_eq_false_iff, decide_eq_false_iff_not, UInt32.le_iff_toNat_le,
    ge_iff_le, same]
  omega

namespace Json

theorem readNumber_of_blank {cs : List Char} (h : ∀ c ∈ cs, Text.isBlank c = true) :
    readNumber cs = none := by
  have digits : cs.takeWhile Char.isDigit = [] := by
    cases cs with
    | nil => rfl
    | cons c cs =>
      have other := Text.isDigit_of_isBlank (h c List.mem_cons_self)
      exact List.takeWhile_cons_of_neg (by simp [other])
  unfold readNumber
  split
  · cases h '-' List.mem_cons_self
  · simp [readMagnitude, digits]

/-- No value is read of blanks, also not of those that may not stand between tokens. -/
theorem readValue_of_blank {cs : List Char} (h : ∀ c ∈ cs, Text.isBlank c = true) (budget : Nat) :
    readValue budget cs = none := by
  have later : ∀ c ∈ skipSpaces cs, Text.isBlank c = true := fun c mem =>
    h c ((List.dropWhile_suffix isSpace).subset mem)
  cases budget with
  | zero => rfl
  | succ budget =>
    rw [readValue]
    generalize skipSpaces cs = rest at later
    split
    case h_7 => simp [readNumber_of_blank later]
    all_goals cases later _ List.mem_cons_self

theorem ofString?_of_blank {s : String} (h : Text.trim s = "") : ofString? s = none := by
  simp only [ofString?, parse?, readValue_of_blank (Text.isBlank_of_trim_eq_empty h)]

end Json

/-! ## What is read of a document -/

namespace Remote

theorem textOrEmpty?_eq_some_iff {given : Option Json} {s : String} :
    textOrEmpty? given = some s ↔ (given = none ∧ s = "") ∨ given = some (.text s) := by
  cases given with
  | none => simp [textOrEmpty?, eq_comm]
  | some j =>
    cases j with
    | text t => simp [textOrEmpty?, text?]
    | _ => simp [textOrEmpty?, text?]

theorem refusal?_eq_some_iff {j : Json} {r : Refusal} :
    refusal? j = some r ↔
      ∃ code message, fields? ["error_code", "message"] j = some [code, message] ∧
        textOrEmpty? code = some r.code ∧ textOrEmpty? message = some r.message := by
  obtain ⟨code, message⟩ := r
  unfold refusal?
  rcases fields? ["error_code", "message"] j with _ | _ | ⟨a, _ | ⟨b, _ | ⟨c, more⟩⟩⟩
  case some.cons.cons.nil => simp [Option.bind_eq_some_iff, and_assoc]
  all_goals simp

/-- The results are what is read of these values of their fields. -/
structure Results.ReadFrom (r : Results) (kind data summary cause : Option Json) : Prop where
  kind : textOrEmpty? kind = some r.kind
  data : data? data = some r.data
  summary : optional? (fun j => text? (some j)) summary = some r.summary
  cause : optional? (fun j => text? (some j)) cause = some r.cause

theorem readFrom_of_results? {j : Json} {r : Results} {kind data summary cause : Option Json}
    (h : results? j = some r)
    (given : fields? ["resultType", "data", "summary", "cause"] j =
      some [kind, data, summary, cause]) :
    r.ReadFrom kind data summary cause := by
  simp only [results?, given, Option.bind_eq_bind, Option.bind_some, Option.bind_eq_some_iff] at h
  obtain ⟨_, kind, _, data, _, summary, _, cause, same⟩ := h
  cases same
  exact ⟨kind, data, summary, cause⟩

theorem read_of_status? {j : Json} {s : Status} {label results : Option Json}
    (h : status? j = some s) (given : fields? ["status", "results"] j = some [label, results]) :
    textOrEmpty? label = some s.label ∧ optional? results? results = some s.results := by
  simp only [status?, given, Option.bind_eq_bind, Option.bind_some, Option.bind_eq_some_iff] at h
  obtain ⟨_, label, _, results, same⟩ := h
  cases same
  exact ⟨label, results⟩

/-! ## What the results of a command say -/

/-- The text of what a command has returned: the text itself if it is one, none if nothing is given,
and of anything else the compact text of what is kept of it. -/
inductive Output (layout : Json.Layout) : Option Json → String → Prop
  | missing : Output layout none ""
  | null : Output layout (some .null) ""
  | text (s : String) : Output layout (some (.text s)) s
  | document {j kept : Json} :
    j ≠ .null → (∀ s, j ≠ .text s) → Json.Kept layout j kept →
    Output layout (some j) kept.compact

/-- No summary is given, or a blank one. -/
def Silent (summary : Option Json) : Prop :=
  summary = none ∨ summary = some .null ∨ ∃ s, summary = some (.text s) ∧ Text.trim s = ""

/-- What a command complains of: its summary unless that is blank, else its cause, else nothing in
particular. -/
inductive Complaint : Option Json → Option Json → String → Prop
  | summary {cause : Option Json} {s : String} :
    Text.trim s ≠ "" → Complaint (some (.text s)) cause s
  | cause {summary : Option Json} {s : String} :
    Silent summary → Complaint summary (some (.text s)) s
  | fallback {summary cause : Option Json} :
    Silent summary → cause = none ∨ cause = some .null →
    Complaint summary cause "remote command failed without a message"

variable {layout : Json.Layout}

theorem outputText_of_meaning? {j : Json} {d : Datum} (h : j.meaning? = some d)
    (nonnull : j ≠ .null) (textless : ∀ s, j ≠ .text s) :
    outputText layout d = d.compact layout := by
  cases j with
  | null => exact (nonnull rfl).elim
  | bool b =>
    cases h
    rfl
  | number n =>
    rcases Json.Number.datum?_eq_some_iff.mp h with ⟨i, -, rfl⟩ | ⟨-, x, -, rfl⟩
    · rfl
    · rfl
  | text s => exact (textless s rfl).elim
  | brokenText => cases h
  | array items =>
    obtain ⟨ds, -, rfl⟩ := Option.map_eq_some_iff.mp h
    rfl
  | object fields =>
    obtain ⟨entries, -, rfl⟩ := Option.map_eq_some_iff.mp h
    rfl
  | brokenObject => cases h

theorem meaning?_of_data? {j : Json} {d : Datum} (h : data? (some j) = some d) :
    j.meaning? = some d := by
  unfold data? at h
  dsimp only at h
  split at h
  · exact h
  · cases h

theorem Output.outputText_eq {given : Option Json} {text : String} {d : Datum}
    (h : Output layout given text) (read : data? given = some d) :
    outputText layout d = text := by
  cases h with
  | missing =>
    cases read
    rfl
  | null =>
    cases meaning?_of_data? read
    rfl
  | text =>
    cases meaning?_of_data? read
    rfl
  | document nonnull textless kept =>
    have meant := meaning?_of_data? read
    rw [outputText_of_meaning? meant nonnull textless, Json.eq_of_kept kept meant]
    rfl

/-- What a document that is no text comes to is compact, and is read as what is kept of it. -/
theorem Output.compact {j : Json} {text : String} (h : Output layout (some j) text)
    (nonnull : j ≠ .null) (textless : ∀ s, j ≠ .text s) :
    ∃ kept, Json.Kept layout j kept ∧ Json.ofString? text = some kept ∧
      Json.Unspaced text.toList := by
  cases h with
  | null => exact (nonnull rfl).elim
  | text => exact (textless _ rfl).elim
  | @document _ kept _ _ keeps =>
    exact ⟨kept, keeps, Json.ofString?_compact kept, kept.unspaced_compact⟩

/-- Whatever is read as what a command has returned has a text. -/
theorem exists_output (layout : Json.Layout) {given : Option Json} {d : Datum}
    (h : data? given = some d) : ∃ text, Output layout given text := by
  cases given with
  | none => exact ⟨_, .missing⟩
  | some j =>
    by_cases null : j = .null
    · subst null
      exact ⟨_, .null⟩
    · by_cases text : ∃ s, j = .text s
      · obtain ⟨s, rfl⟩ := text
        exact ⟨s, .text s⟩
      · exact ⟨_, .document null (not_exists.mp text) (j.kept_of_meaning? (meaning?_of_data? h))⟩

theorem optional?_text_eq_some_iff {given : Option Json} {read : Option String} :
    optional? (fun j => text? (some j)) given = some read ↔
      (given = none ∨ given = some .null) ∧ read = none ∨
        ∃ s, given = some (.text s) ∧ read = some s := by
  rcases given with _ | j
  · simp [optional?, eq_comm]
  · cases j <;> simp [optional?, text?, eq_comm]

/-- Whatever the results are, there is something that they complain of. -/
theorem exists_complaint {r : Results} {kind data summary cause : Option Json}
    (h : r.ReadFrom kind data summary cause) : ∃ text, Complaint summary cause text := by
  have silence (silent : Silent summary) : ∃ text, Complaint summary cause text := by
    rcases optional?_text_eq_some_iff.mp h.cause with ⟨none, -⟩ | ⟨s, rfl, -⟩
    · exact ⟨_, .fallback silent none⟩
    · exact ⟨s, .cause silent⟩
  rcases optional?_text_eq_some_iff.mp h.summary with ⟨none | null, -⟩ | ⟨s, rfl, -⟩
  · exact silence (.inl none)
  · exact silence (.inr (.inl null))
  · by_cases blank : Text.trim s = ""
    · exact silence (.inr (.inr ⟨s, rfl, blank⟩))
    · exact ⟨s, .summary blank⟩

theorem Silent.filter_eq_none {summary : Option Json} {read : Option String} (h : Silent summary)
    (hr : optional? (fun j => text? (some j)) summary = some read) :
    (read.filter fun s => Text.trim s ≠ "") = none := by
  rcases h with rfl | rfl | ⟨s, rfl, blank⟩
  · cases hr
    rfl
  · cases hr
    rfl
  · cases hr
    simp [blank]

theorem Complaint.complaint_eq {r : Results} {kind data summary cause : Option Json} {text : String}
    (h : Complaint summary cause text) (read : r.ReadFrom kind data summary cause) :
    r.complaint = text := by
  unfold Results.complaint
  cases h with
  | summary filled =>
    have same := Option.some.inj read.summary
    simp [← same, Option.filter, filled]
  | cause silent =>
    have same := Option.some.inj read.cause
    rw [silent.filter_eq_none read.summary, ← same]
    rfl
  | fallback silent none =>
    have same : r.cause = Option.none := by
      rcases none with rfl | rfl
      · exact (Option.some.inj read.cause).symm
      · exact (Option.some.inj read.cause).symm
    rw [silent.filter_eq_none read.summary, same]
    rfl

/-- The values of the fields of results; without results none is given. -/
inductive ResultFields : Option Json → Option Json → Option Json → Option Json → Option Json → Prop
  | missing : ResultFields none none none none none
  | null : ResultFields (some .null) none none none none
  | given {j : Json} {kind data summary cause : Option Json} :
    fields? ["resultType", "data", "summary", "cause"] j = some [kind, data, summary, cause] →
    ResultFields (some j) kind data summary cause

theorem ResultFields.readFrom {given kind data summary cause : Option Json}
    {read : Option Results} (h : ResultFields given kind data summary cause)
    (hr : optional? results? given = some read) :
    (read.getD {}).ReadFrom kind data summary cause := by
  cases h with
  | missing =>
    cases hr
    exact ⟨rfl, rfl, rfl, rfl⟩
  | null =>
    cases hr
    exact ⟨rfl, rfl, rfl, rfl⟩
  | @given j _ _ _ _ fields =>
    have nonnull : j ≠ .null := by
      rintro rfl
      cases fields
    obtain ⟨r, found, rfl⟩ : ∃ r, results? j = some r ∧ some r = read := by
      cases j with
      | null => exact (nonnull rfl).elim
      | _ => exact Option.map_eq_some_iff.mp hr
    exact readFrom_of_results? found fields

end Remote

namespace Client

/-! ## Why a message was refused -/

/-- The text is an object that gives a message for a refusal. -/
def Explains (body message : String) : Prop :=
  ∃ document code, Json.ofString? body = some document ∧
    Remote.fields? ["error_code", "message"] document = some [code, some (.text message)] ∧
    (∀ given, code = some given → ∃ text, given = .text text) ∧ message ≠ ""

/-- What is told of a refusal. -/
def explanation (r : Reply) : String :=
  let said := ((Json.ofString? r.body).bind Remote.refusal?).getD {}
  if said.message = "" then r.body else said.message

theorem explanation_of_explains {r : Reply} {message : String} (h : Explains r.body message) :
    explanation r = message := by
  obtain ⟨document, code, parsed, fields, coded, filled⟩ := h
  obtain ⟨text, read⟩ : ∃ text, Remote.textOrEmpty? code = some text := by
    cases code with
    | none => exact ⟨"", rfl⟩
    | some given =>
      obtain ⟨text, rfl⟩ := coded given rfl
      exact ⟨text, rfl⟩
  have refusal : Remote.refusal? document = some ⟨text, message⟩ :=
    Remote.refusal?_eq_some_iff.mpr ⟨code, _, fields, read, rfl⟩
  simp [explanation, parsed, refusal, filled]

theorem explanation_of_not_explains {r : Reply} (h : ∀ message, ¬ Explains r.body message) :
    explanation r = r.body := by
  unfold explanation
  cases parsed : (Json.ofString? r.body).bind Remote.refusal? with
  | none => rfl
  | some said =>
    by_cases filled : said.message = ""
    · simp [filled]
    · obtain ⟨document, found, refusal⟩ := Option.bind_eq_some_iff.mp parsed
      obtain ⟨code, message, fields, coded, read⟩ := Remote.refusal?_eq_some_iff.mp refusal
      rcases Remote.textOrEmpty?_eq_some_iff.mp read with ⟨-, empty⟩ | rfl
      · exact (filled empty).elim
      · refine (h said.message ⟨document, code, found, fields, ?_, filled⟩).elim
        rintro given rfl
        rcases Remote.textOrEmpty?_eq_some_iff.mp coded with ⟨none, -⟩ | text
        · cases none
        · exact ⟨_, Option.some.inj text⟩

/-- A refusal is read as such at every endpoint. -/
theorem reading_of_refused (c : Client) {reply : Except String Reply} {r : Reply}
    (replied : reply = .ok r) (refused : r.isSuccess = false) {α : Type} (endpoint : String)
    (read : Json → Option α) :
    c.reading endpoint read reply = .error (refusal endpoint r) := by
  simp [replied, reading, understand, refused]

variable {c : Client}

/-- A look that cannot be read is the last one. -/
theorem Looked.outcome_of_unread {α : Type} {what endpoint : String} {message : Message}
    {ended : Remote.Status → Option (Except ScriptFault α)} {looks : List Letter}
    {outcome : Except ScriptFault α} (h : c.Looked what endpoint message ended looks outcome)
    {letter : Letter} (mem : letter ∈ looks) {fault : WorkspaceFault}
    (unread : c.reading endpoint Remote.status? letter.reply = .error fault) :
    outcome = .error fault.scriptFault := by
  induction h with
  | unread hr =>
    obtain rfl := List.mem_singleton.mp mem
    cases hr.symm.trans unread
    rfl
  | ended hr =>
    obtain rfl := List.mem_singleton.mp mem
    cases hr.symm.trans unread
  | overdue hr =>
    obtain rfl := List.mem_singleton.mp mem
    cases hr.symm.trans unread
  | again hr _ _ ih =>
    rcases List.mem_cons.mp mem with rfl | mem
    · cases hr.symm.trans unread
    · exact ih mem

section

variable {cluster context script : String} {letters : List Letter}
  {outcome : Except ScriptFault String} {letter : Letter} {reply : Reply}

theorem InContext.outcome_of_refused (h : c.InContext cluster context script letters outcome)
    (mem : letter ∈ letters) (replied : letter.reply = .ok reply)
    (refused : reply.isSuccess = false) : outcome = .error ⟨explanation reply⟩ := by
  cases h with
  | notRunning looked =>
    cases looked.outcome_of_unread mem (reading_of_refused c replied refused ..)
    rfl
  | refused looked _ _ hr =>
    rcases List.mem_append.mp mem with mem | mem
    · cases looked.outcome_of_unread mem (reading_of_refused c replied refused ..)
    · obtain rfl := List.mem_singleton.mp mem
      cases hr.symm.trans (reading_of_refused c replied refused ..)
      rfl
  | accepted looked _ _ hr later =>
    rcases List.mem_append.mp mem with mem | mem
    · cases looked.outcome_of_unread mem (reading_of_refused c replied refused ..)
    · rcases List.mem_cons.mp mem with rfl | mem
      · cases hr.symm.trans (reading_of_refused c replied refused ..)
      · exact later.outcome_of_unread mem (reading_of_refused c replied refused ..)

theorem destroys_contextDestroying (cluster context : String) :
    destroys (.send (c.contextDestroying cluster context)) = true := by
  simp [destroys, contextDestroying, posting]

/-- A message that is refused is the last one before the context is destroyed, and what is told of
it is the outcome. -/
theorem Course.outcome_of_refused (h : c.Course cluster script letters outcome)
    (mem : letter ∈ letters) (kept : destroys (.send letter.message) = false)
    (replied : letter.reply = .ok reply) (refused : reply.isSuccess = false) :
    outcome = .error ⟨explanation reply⟩ := by
  cases h with
  | noContext hr =>
    obtain rfl := List.mem_singleton.mp mem
    cases hr.symm.trans (reading_of_refused c replied refused ..)
    rfl
  | destroyed hr inside =>
    rcases List.mem_cons.mp mem with rfl | mem
    · cases hr.symm.trans (reading_of_refused c replied refused ..)
    · rcases List.mem_append.mp mem with mem | mem
      · exact inside.outcome_of_refused mem replied refused
      · obtain rfl := List.mem_singleton.mp mem
        cases (destroys_contextDestroying ..).symm.trans kept

end

/-! ## What is said in the letters of a script -/

/-- The letters end with a look at a command, and the document of the reply gives this label of its
status and these values of the fields of its results. -/
def Concludes (c : Client) (cluster : String) (letters : List Letter) (label : String)
    (kind data summary cause : Option Json) : Prop :=
  ∃ before context command reply last document status given,
    letters = before ++
      [⟨c.commandLook cluster context command, .ok reply⟩,
        ⟨c.contextDestroying cluster context, last⟩] ∧
    reply.isSuccess = true ∧ Json.ofString? reply.body = some document ∧
    Remote.status? document = some status ∧
    Remote.fields? ["status", "results"] document = some [some (.text label), given] ∧
    Remote.ResultFields given kind data summary cause

/-- What the letters of a script say: what its command has returned or complains of, or why any of
its messages was refused. -/
inductive Said (c : Client) (cluster : String) (letters : List Letter) :
    Except ScriptFault String → Prop
  | returned {kind data summary cause : Option Json} {text : String} :
    c.Concludes cluster letters "Finished" kind data summary cause →
    kind ≠ some (.text "error") → Remote.Output c.scribe.layout data text →
    Said c cluster letters (.ok text)
  | complained {label : String} {data summary cause : Option Json} {text : String} :
    label = "Finished" ∨ label = "Error" →
    c.Concludes cluster letters label (some (.text "error")) data summary cause →
    Remote.Complaint summary cause text → Said c cluster letters (.error ⟨text⟩)
  | explained {letter : Letter} {reply : Reply} {message : String} :
    letter ∈ letters → destroys (.send letter.message) = false → letter.reply = .ok reply →
    reply.isSuccess = false → Explains reply.body message →
    Said c cluster letters (.error ⟨message⟩)
  | unexplained {letter : Letter} {reply : Reply} :
    letter ∈ letters → destroys (.send letter.message) = false → letter.reply = .ok reply →
    reply.isSuccess = false → (∀ message, ¬ Explains reply.body message) →
    Said c cluster letters (.error ⟨reply.body⟩)

section

variable {cluster script label : String} {letters : List Letter}
  {kind data summary cause : Option Json} {outcome words : Except ScriptFault String}

theorem Concludes.endsWith (h : c.Concludes cluster letters label kind data summary cause) :
    ∃ status, c.EndsWith cluster letters status ∧ status.label = label ∧
      (status.results.getD {}).ReadFrom kind data summary cause := by
  obtain ⟨before, context, command, reply, last, document, status, given, split, success, parsed,
    read, fields, results⟩ := h
  have filled : Text.trim reply.body ≠ "" := by
    intro blank
    cases (Json.ofString?_of_blank blank).symm.trans parsed
  have decoded : c.reading "/api/1.2/commands/status" Remote.status? (.ok reply) = .ok status := by
    rw [reading, understand, if_neg (by simp [success]), if_neg filled, parsed, Option.bind_some,
      read]
  obtain ⟨labelled, found⟩ := Remote.read_of_status? read fields
  exact ⟨status, ⟨before, context, command, _, last, split, decoded⟩,
    (Option.some.inj labelled).symm, results.readFrom found⟩

/-- A command that has finished, or that ended in `Error` with results that are an error, has said
something. -/
theorem Concludes.exists_said (h : c.Concludes cluster letters label kind data summary cause)
    (ended : label = "Finished" ∨ label = "Error" ∧ kind = some (.text "error")) :
    ∃ words, c.Said cluster letters words := by
  obtain ⟨status, -, -, read⟩ := h.endsWith
  by_cases failed : kind = some (.text "error")
  · subst failed
    obtain ⟨text, complaint⟩ := Remote.exists_complaint read
    exact ⟨_, .complained (ended.imp_right And.left) h complaint⟩
  · rcases ended with rfl | ⟨-, error⟩
    · obtain ⟨text, output⟩ := Remote.exists_output c.scribe.layout read.data
      exact ⟨_, .returned h failed output⟩
    · exact absurd error failed

/-- Whatever is said in the letters of a script is what came of it. -/
theorem Course.said (h : c.Course cluster script letters outcome)
    (said : c.Said cluster letters words) : outcome = words := by
  cases said with
  | returned concludes other output =>
    obtain ⟨status, final, label, read⟩ := concludes.endsWith
    rw [h.outcome_eq final (scriptEnd_of_label (.inl label)), told]
    have plain : (status.results.getD {}).kind ≠ "error" := by
      intro failed
      rcases Remote.textOrEmpty?_eq_some_iff.mp read.kind with ⟨-, none⟩ | some
      · exact absurd (failed.symm.trans none) (by decide)
      · exact other (failed ▸ some)
    simp [plain, output.outputText_eq read.data]
  | complained ended concludes complaint =>
    obtain ⟨status, final, rfl, read⟩ := concludes.endsWith
    rw [h.outcome_eq final (scriptEnd_of_label ended), told]
    have failed : (status.results.getD {}).kind = "error" := (Option.some.inj read.kind).symm
    simp [failed, complaint.complaint_eq read]
  | explained mem kept replied refused explains =>
    rw [h.outcome_of_refused mem kept replied refused, explanation_of_explains explains]
  | unexplained mem kept replied refused unexplained =>
    rw [h.outcome_of_refused mem kept replied refused, explanation_of_not_explains unexplained]

end

/-! ## What is told of the mount -/

section

variable {σ : Type} {r : Respondent Wire σ} {s t : σ} (p : MountPoint)

theorem perform_create_eq {a : Attachment} {args : MountArgs} (accepted : a.args = .ok args) :
    c.perform (p.create a) =
      c.runScript p.cluster (Script.create p.name.path args) >>= fun outcome =>
        .done (MountPoint.createdBy p.name.path outcome) := by
  rw [p.create_eq accepted, perform_runScript]

theorem perform_read_eq :
    c.perform p.read =
      c.runScript p.cluster (Script.read p.name.path) >>= fun outcome =>
        .done (MountPoint.foundBy outcome) := by
  rw [p.read_eq, perform_runScript]

theorem perform_delete_eq :
    c.perform p.delete =
      c.runScript p.cluster (Script.delete p.name.path) >>= fun outcome =>
        .done (MountPoint.removedBy outcome) := by
  rw [p.delete_eq, perform_runScript]

/-- What is made of an outcome is made of what was said. -/
theorem said_of_perform {α : Type} {cluster script : String} {tell : Except ScriptFault String → α}
    {a : α}
    (h : Dialogue.run r.party (c.runScript cluster script >>= fun outcome => .done (tell outcome))
      s = (some a, t)) :
    ∃ outcome,
      (∀ words, c.Said cluster
          (mail (Dialogue.transcript r
            (c.runScript cluster script >>= fun outcome => .done (tell outcome)) s)) words →
        outcome = words) ∧
      a = tell outcome := by
  obtain ⟨outcome, told, course⟩ := course_of_perform h
  exact ⟨outcome, fun _ => course.said, told⟩

/-- What a workspace says of a script is told in its own words.  A text that the command returns is
the outcome of the script as it is, no text is the empty one and any other document its compact
text, which has no blanks outside its texts and is read as what was kept of the document; a command
that fails is told by its summary, or its cause, or the same words for all; and a message that is
refused is told by the message in the reply if it has one, else by the whole reply, with nothing put
before it.  A command that has finished has always said something.  What came of the script is told
of the mount: its source is what is left of the outcome without the blanks around it, and every
failure to make it, to look for it or to remove it says what the script said, unless that says that
there is no mount. -/
theorem words_unchanged :
    (∀ {script : String} {outcome : Except ScriptFault String} {t : σ},
      Dialogue.run r.party (c.runScript p.cluster script) s = (some outcome, t) →
      ∀ words, c.Said p.cluster
          (mail (Dialogue.transcript r (c.runScript p.cluster script) s)) words →
        outcome = words) ∧
    (∀ {letters : List Letter} {label : String} {kind data summary cause : Option Json},
      c.Concludes p.cluster letters label kind data summary cause →
      label = "Finished" ∨ label = "Error" ∧ kind = some (.text "error") →
      ∃ words, c.Said p.cluster letters words) ∧
    (∀ {j : Json} {text : String}, Remote.Output c.scribe.layout (some j) text →
      j ≠ .null → (∀ s, j ≠ .text s) →
      ∃ kept, Json.Kept c.scribe.layout j kept ∧ Json.ofString? text = some kept ∧
        Json.Unspaced text.toList) ∧
    (∀ {a : Attachment} {args : MountArgs} {result : Except MountFailure String} {t : σ},
      a.args = .ok args →
      Dialogue.run r.party (c.perform (p.create a)) s = (some result, t) →
      ∃ outcome : Except ScriptFault String,
        (∀ words, c.Said p.cluster
            (mail (Dialogue.transcript r (c.perform (p.create a)) s)) words → outcome = words) ∧
        result =
          match outcome with
          | .ok text =>
            if Text.trim text = "" then
              .error (.notCreated ("mount script for " ++ p.name.path ++ " returned no source"))
            else .ok (Text.trim text)
          | .error fault => .error (.notCreated fault.message)) ∧
    (∀ {result : Except MountFailure Found} {t : σ},
      Dialogue.run r.party (c.perform p.read) s = (some result, t) →
      ∃ outcome : Except ScriptFault String,
        (∀ words, c.Said p.cluster
            (mail (Dialogue.transcript r (c.perform p.read) s)) words → outcome = words) ∧
        result =
          match outcome with
          | .ok text => .ok (if Text.trim text = "" then .absent else .mounted (Text.trim text))
          | .error fault =>
            if Text.Contains fault.message "Mount not found" then .ok .absent
            else .error (.notRead fault.message)) ∧
    (∀ {result : Except MountFailure Unit} {t : σ},
      Dialogue.run r.party (c.perform p.delete) s = (some result, t) →
      ∃ outcome : Except ScriptFault String,
        (∀ words, c.Said p.cluster
            (mail (Dialogue.transcript r (c.perform p.delete) s)) words → outcome = words) ∧
        result =
          match outcome with
          | .ok _ => .ok ()
          | .error fault =>
            if Text.Contains fault.message "not mounted" then .ok ()
            else .error (.notDeleted fault.message)) := by
  refine ⟨?_, Concludes.exists_said, Remote.Output.compact, ?_, ?_, ?_⟩
  · intro script outcome t ran words
    exact (runScript_course ran).said
  · intro a args result t accepted ran
    rw [perform_create_eq p accepted] at ran ⊢
    obtain ⟨outcome, said, rfl⟩ := said_of_perform ran
    refine ⟨outcome, said, ?_⟩
    cases outcome <;> rfl
  · intro result t ran
    rw [perform_read_eq p] at ran ⊢
    obtain ⟨outcome, said, rfl⟩ := said_of_perform ran
    refine ⟨outcome, said, ?_⟩
    cases outcome <;> rfl
  · intro result t ran
    rw [perform_delete_eq p] at ran ⊢
    obtain ⟨outcome, said, rfl⟩ := said_of_perform ran
    refine ⟨outcome, said, ?_⟩
    cases outcome <;> rfl

end

/-- A source that is returned with blanks around it is told without them. -/
theorem words_unchanged_trial :
    trial.Said "cluster"
        (mail (Dialogue.transcript Wire.replying (trial.perform trialPoint.read)
          (straight (returned " s3a://lake\n") (.ok ⟨200, ""⟩))))
        (.ok " s3a://lake\n") ∧
      Dialogue.run Wire.replying.party (trial.perform trialPoint.read)
        (straight (returned " s3a://lake\n") (.ok ⟨200, ""⟩)) =
          (some (.ok (.mounted "s3a://lake")), []) := by
  have look : trial.perform trialPoint.read =
      trial.runScript "cluster" (Script.read trialPoint.name.path) >>= fun outcome =>
        .done (MountPoint.foundBy outcome) := perform_read_eq trialPoint
  have status : Remote.status? (.object (returned " s3a://lake\n")) =
      some ⟨"Finished", some ⟨"text", .text " s3a://lake\n", none, none⟩⟩ := rfl
  obtain ⟨ran, letters⟩ := run_straight (c := trial) (by decide) status rfl (.ok ⟨200, ""⟩)
    "cluster" (Script.read trialPoint.name.path)
  have said : trial.Said "cluster"
      (mail (Dialogue.transcript Wire.replying (trial.perform trialPoint.read)
        (straight (returned " s3a://lake\n") (.ok ⟨200, ""⟩))))
      (.ok " s3a://lake\n") := by
    rw [look, Dialogue.transcript_bind_done, letters]
    refine .returned ⟨[_, _, _], "context", "command", document (returned " s3a://lake\n"), _,
      .object (returned " s3a://lake\n"), _, _, rfl, rfl, Json.ofString?_compact _, rfl, rfl,
      .given rfl⟩ ?_ (.text _)
    intro failed
    exact absurd (Json.text.inj (Option.some.inj failed)) (by decide)
  have finished : Dialogue.run Wire.replying.party (trial.perform trialPoint.read)
      (straight (returned " s3a://lake\n") (.ok ⟨200, ""⟩)) =
        (some (MountPoint.foundBy (.ok " s3a://lake\n")), []) := by
    rw [look, Dialogue.run_bind_done, ran]
    rfl
  obtain ⟨outcome, same, told⟩ := (words_unchanged trialPoint).2.2.2.2.1 finished
  obtain rfl := same _ said
  have trimmed : Text.trim " s3a://lake\n" = "s3a://lake" := by decide +kernel
  have mounted : MountPoint.foundBy (.ok " s3a://lake\n") = .ok (.mounted "s3a://lake") := by
    rw [told]
    dsimp only
    rw [trimmed, if_neg (by decide)]
  exact ⟨said, mounted ▸ finished⟩

end Client

end RemoteMounts
