import RemoteMounts.Proofs.Mount.Points
import RemoteMounts.Proofs.Workspace.Scripts
import RemoteMounts.Workspace.Answer

/-!
# What is told of a command that has failed

A command that has ended has a status and may have results.  What is told of it, by the script and
by the mount point that had the script run, is read off the results alone (`told`): they say whether
it has failed, and the status `Error` only says, as `Finished` does, that it has ended
(`told_by_results`).  A command that ended in `Error` and has no results is therefore told to have
succeeded (`failed_command_succeeds`).
-/

namespace RemoteMounts.Client

variable {c : Client}

/-- The letters end with a look at a command, which reads as this status, and the destruction of the
context of the command. -/
def EndsWith (c : Client) (cluster : String) (letters : List Letter) (status : Remote.Status) :
    Prop :=
  ∃ before context command reply last,
    letters = before ++
      [⟨c.commandLook cluster context command, reply⟩,
        ⟨c.contextDestroying cluster context, last⟩] ∧
    c.reading "/api/1.2/commands/status" Remote.status? reply = .ok status

theorem Looked.message_of_mem {α : Type} {what endpoint : String} {message : Message}
    {ended : Remote.Status → Option (Except ScriptFault α)} {looks : List Letter}
    {outcome : Except ScriptFault α} (h : c.Looked what endpoint message ended looks outcome)
    {letter : Letter} (mem : letter ∈ looks) : letter.message = message := by
  induction h with
  | unread => rw [List.mem_singleton.mp mem]
  | ended => rw [List.mem_singleton.mp mem]
  | overdue => rw [List.mem_singleton.mp mem]
  | again _ _ _ ih =>
    rcases List.mem_cons.mp mem with rfl | mem
    · rfl
    · exact ih mem

/-- There is always a last look. -/
theorem Looked.exists_last {α : Type} {what endpoint : String} {message : Message}
    {ended : Remote.Status → Option (Except ScriptFault α)} {looks : List Letter}
    {outcome : Except ScriptFault α} (h : c.Looked what endpoint message ended looks outcome) :
    ∃ last, looks.getLast? = some last := by
  have some : looks ≠ [] := by cases h <;> exact List.cons_ne_nil _ _
  exact ⟨looks.getLast some, List.getLast?_eq_some_getLast some⟩

/-- A decisive last look decides. -/
theorem Looked.outcome_eq {α : Type} {what endpoint : String} {message : Message}
    {ended : Remote.Status → Option (Except ScriptFault α)} {looks : List Letter}
    {last : Letter} {outcome decided : Except ScriptFault α} {status : Remote.Status}
    (h : c.Looked what endpoint message ended looks outcome) (hl : looks.getLast? = some last)
    (read : c.reading endpoint Remote.status? last.reply = .ok status)
    (decisive : ended status = some decided) : outcome = decided := by
  induction h with
  | unread hr =>
    obtain rfl := Option.some.inj hl
    exact absurd (hr.symm.trans read) nofun
  | ended hr he =>
    obtain rfl := Option.some.inj hl
    obtain rfl := Except.ok.inj (hr.symm.trans read)
    exact Option.some.inj (he.symm.trans decisive)
  | overdue hr he =>
    obtain rfl := Option.some.inj hl
    obtain rfl := Except.ok.inj (hr.symm.trans read)
    exact absurd (he.symm.trans decisive) nofun
  | again hr he later ih =>
    obtain ⟨other, found⟩ := later.exists_last
    refine ih ?_
    rw [List.getLast?_cons, found] at hl
    rw [found]
    exact hl

theorem commandLook_ne_contextLook (cluster context command other place : String) :
    c.commandLook cluster context command ≠ c.contextLook place other := by
  intro same
  have target := congrArg (fun m => m.target.toList) same
  simp [commandLook, contextLook, asking] at target

theorem commandLook_ne_posting (cluster context command endpoint : String) (body : Datum) :
    c.commandLook cluster context command ≠ c.posting endpoint body := by
  intro same
  cases congrArg Message.verb same

/-- Only an attempt whose script was accepted can end with a look at its command. -/
theorem InContext.commandLooked {cluster context script : String} {letters : List Letter}
    {outcome : Except ScriptFault String}
    (h : c.InContext cluster context script letters outcome) {first : Letter}
    {place other command : String} {reply : Except String Reply}
    (hl : (first :: letters).getLast? = some ⟨c.commandLook place other command, reply⟩) :
    ∃ accepted more, c.CommandLooked cluster context accepted more outcome ∧
      more.getLast? = some ⟨c.commandLook place other command, reply⟩ := by
  cases h with
  | notRunning looked =>
    obtain ⟨last, found⟩ := looked.exists_last
    rw [List.getLast?_cons, found] at hl
    cases hl
    have message := looked.message_of_mem (List.mem_of_getLast? found)
    exact (commandLook_ne_contextLook _ _ _ _ _ message).elim
  | refused =>
    rw [← List.cons_append, List.getLast?_concat] at hl
    have message := congrArg Letter.message (Option.some.inj hl)
    exact (commandLook_ne_posting _ _ _ _ _ message.symm).elim
  | accepted _ _ _ _ looked =>
    obtain ⟨last, found⟩ := looked.exists_last
    refine ⟨_, _, looked, ?_⟩
    rw [← List.cons_append, List.getLast?_append, List.getLast?_cons, found] at hl
    rw [found]
    simpa using hl

theorem getLast?_before_last {α : Type} {first last other a : α} {inner before : List α}
    (h : first :: (inner ++ [last]) = before ++ [a, other]) :
    (first :: inner).getLast? = some a := by
  have ends : (first :: inner) ++ [last] = (before ++ [a]) ++ [other] := by simpa using h
  rw [List.append_inj_left' ends rfl, List.getLast?_concat]

/-- What came of a script whose letters end with a decisive look at its command. -/
theorem Course.outcome_eq {cluster script : String} {letters : List Letter}
    {outcome decided : Except ScriptFault String} {status : Remote.Status}
    (h : c.Course cluster script letters outcome) (final : c.EndsWith cluster letters status)
    (decisive : ∀ command, c.scriptEnd command status = some decided) : outcome = decided := by
  obtain ⟨before, other, command, reply, last, split, read⟩ := final
  cases h with
  | noContext =>
    have length := congrArg List.length split
    simp at length
  | destroyed _ inside =>
    obtain ⟨command, more, looked, found⟩ := inside.commandLooked (getLast?_before_last split)
    exact looked.outcome_eq found read (decisive command)

/-- A script that succeeds has ended with a look at its command. -/
theorem Course.endsWith {cluster script text : String} {letters : List Letter}
    (h : c.Course cluster script letters (.ok text)) :
    ∃ command status, c.EndsWith cluster letters status ∧
      c.scriptEnd command status = some (.ok text) := by
  generalize ho : (Except.ok text : Except ScriptFault String) = outcome at h
  cases h with
  | noContext => cases ho
  | @destroyed created last context letters _ _ inside =>
    cases inside with
    | notRunning => cases ho
    | refused => cases ho
    | @accepted looks more _ submitted command _ _ _ _ _ looked =>
      subst ho
      obtain ⟨before, reply, status, split, read, ended⟩ := looked.lastLook
      refine ⟨command, status,
        ⟨⟨c.contextMaking cluster, created⟩ ::
            (looks ++ ⟨c.submission cluster context script, submitted⟩ :: before),
          context, command, reply, last, ?_, read⟩, ended⟩
      simp [split]

/-! ## What a status says -/

/-- What the results of a command tell of it. -/
def told (status : Remote.Status) : Except ScriptFault String :=
  let results := status.results.getD {}
  if results.kind = "error" then .error ⟨results.complaint⟩
  else .ok (Remote.outputText c.scribe.layout results.data)

theorem scriptEnd_of_label {status : Remote.Status}
    (h : status.label = "Finished" ∨ status.label = "Error") (command : String) :
    c.scriptEnd command status = some (c.told status) := by
  unfold scriptEnd told Remote.Results.output
  by_cases kind : (status.results.getD {}).kind = "error"
  · rcases h with label | label
    · simp [label, kind]
    · simp [label, kind]
  · rcases h with label | label
    · simp [label, kind]
    · simp [label, kind]

theorem label_of_scriptEnd {command text : String} {status : Remote.Status}
    (h : c.scriptEnd command status = some (.ok text)) :
    status.label = "Finished" ∨ status.label = "Error" := by
  unfold scriptEnd at h
  split at h
  · exact .inl ‹_›
  · exact .inr ‹_›
  · cases h
  · cases h
  · cases h

/-! ## What goes on above -/

section

variable {σ : Type} {r : Respondent Wire σ} {s t : σ} (p : MountPoint)

/-- An errand of one script is that script over the wire, and then what is made of its outcome. -/
theorem perform_runScript {α : Type} (cluster script : String)
    (read : Except ScriptFault String → α) :
    c.perform (Errand.call (.runScript cluster script) >>= fun outcome => .done (read outcome)) =
      c.runScript cluster script >>= fun outcome => .done (read outcome) := rfl

/-- An errand of one script sends what the script sends. -/
theorem course_of_perform {α : Type} {cluster script : String}
    {read : Except ScriptFault String → α} {a : α}
    (h : Dialogue.run r.party (c.runScript cluster script >>= fun outcome => .done (read outcome))
      s = (some a, t)) :
    ∃ outcome, a = read outcome ∧
      c.Course cluster script
        (mail (Dialogue.transcript r
          (c.runScript cluster script >>= fun outcome => .done (read outcome)) s)) outcome := by
  rw [Dialogue.run_bind_done] at h
  rw [Dialogue.transcript_bind_done]
  obtain ⟨outcome, ran, rfl⟩ := Option.map_eq_some_iff.mp (congrArg Prod.fst h)
  exact ⟨outcome, rfl, runScript_course (Prod.ext ran rfl)⟩

/-- What is told of a command is what its results say, whether its status is `Finished` or `Error`.
A script succeeds only if the last look at its command had one of these two and results that are no
error; and where it had `Error` the script fails exactly if the results are an error.  So a mount
whose removal ended in `Error` is told to be removed exactly if the results are no error or speak of
a path that is not mounted, and one that was looked for is told to be absent exactly if the results
are an error that speaks of a missing mount, or none and blank. -/
theorem told_by_results :
    (∀ {script : String} {outcome : Except ScriptFault String} {t : σ},
      Dialogue.run r.party (c.runScript p.cluster script) s = (some outcome, t) →
      (∀ text, outcome = .ok text →
        ∃ status, c.EndsWith p.cluster
            (mail (Dialogue.transcript r (c.runScript p.cluster script) s)) status ∧
          (status.label = "Finished" ∨ status.label = "Error") ∧
          (status.results.getD {}).kind ≠ "error" ∧
          text = Remote.outputText c.scribe.layout (status.results.getD {}).data) ∧
      ∀ status, c.EndsWith p.cluster
          (mail (Dialogue.transcript r (c.runScript p.cluster script) s)) status →
        status.label = "Error" →
        ((∃ fault, outcome = .error fault) ↔ (status.results.getD {}).kind = "error")) ∧
    (∀ {result : Except MountFailure Unit} {t : σ} {status : Remote.Status},
      Dialogue.run r.party (c.perform p.delete) s = (some result, t) →
      c.EndsWith p.cluster (mail (Dialogue.transcript r (c.perform p.delete) s)) status →
      status.label = "Error" →
      (result = .ok () ↔
        ((status.results.getD {}).kind = "error" →
          Text.Contains (status.results.getD {}).complaint "not mounted"))) ∧
    (∀ {result : Except MountFailure Found} {t : σ} {status : Remote.Status},
      Dialogue.run r.party (c.perform p.read) s = (some result, t) →
      c.EndsWith p.cluster (mail (Dialogue.transcript r (c.perform p.read) s)) status →
      status.label = "Error" →
      (result = .ok .absent ↔
        if (status.results.getD {}).kind = "error" then
          Text.Contains (status.results.getD {}).complaint "Mount not found"
        else Text.trim (Remote.outputText c.scribe.layout (status.results.getD {}).data) = "")) := by
  refine ⟨fun {script outcome t} ran => ⟨?_, ?_⟩, ?_, ?_⟩
  · rintro text rfl
    obtain ⟨command, status, final, ended⟩ := (runScript_course ran).endsWith
    have label := label_of_scriptEnd ended
    rw [scriptEnd_of_label label, told] at ended
    refine ⟨status, final, label, ?_⟩
    by_cases kind : (status.results.getD {}).kind = "error"
    · simp [kind] at ended
    · simp only [kind, if_false, Option.some.injEq, Except.ok.injEq] at ended
      exact ⟨kind, ended.symm⟩
  · intro status final label
    rw [(runScript_course ran).outcome_eq final (scriptEnd_of_label (.inr label)), told]
    by_cases kind : (status.results.getD {}).kind = "error"
    · simp [kind]
    · simp [kind]
  · intro result t status ran final label
    rw [MountPoint.delete_eq, perform_runScript] at ran final
    obtain ⟨outcome, rfl, course⟩ := course_of_perform ran
    rw [course.outcome_eq final (scriptEnd_of_label (.inr label)), told]
    by_cases kind : (status.results.getD {}).kind = "error"
    · simp [kind, MountPoint.removedBy]
    · simp [kind, MountPoint.removedBy]
  · intro result t status ran final label
    rw [MountPoint.read_eq, perform_runScript] at ran final
    obtain ⟨outcome, rfl, course⟩ := course_of_perform ran
    rw [course.outcome_eq final (scriptEnd_of_label (.inr label)), told]
    by_cases kind : (status.results.getD {}).kind = "error"
    · simp [kind, MountPoint.foundBy]
    · simp [kind, MountPoint.foundBy]

end

/-! ## Two commands that ended in `Error` -/

/-- A script that runs straight on tells of the final status of its command, whatever is made of
that. -/
theorem told_straight {final : List (String × Json)} {status : Remote.Status}
    (patient : 0 < c.patience) (read : Remote.status? (.object final) = some status)
    (label : status.label = "Finished" ∨ status.label = "Error") (last : Except String Reply)
    (cluster script : String) {α : Type} (tell : Except ScriptFault String → α) :
    Dialogue.run Wire.replying.party
        (c.runScript cluster script >>= fun outcome => .done (tell outcome))
        (straight final last) = (some (tell (c.told status)), []) ∧
      c.EndsWith cluster
        (mail (Dialogue.transcript Wire.replying
          (c.runScript cluster script >>= fun outcome => .done (tell outcome))
          (straight final last))) status := by
  obtain ⟨ran, letters⟩ := run_straight patient read
    (scriptEnd_of_label label "command") last cluster script
  constructor
  · rw [Dialogue.run_bind_done, ran]
    rfl
  · rw [Dialogue.transcript_bind_done, letters]
    exact ⟨[_, _, _], "context", "command", _, last, rfl, reading_document read⟩

/-- The replies to a script whose command fails and says why. -/
def complaining (why : String) : List (Except String Reply) :=
  straight
    [("status", .text "Error"),
      ("results", .object [("resultType", .text "error"), ("summary", .text why)])]
    (.ok ⟨200, ""⟩)

/-- The replies to a script whose command fails and leaves it at that. -/
def mute : List (Except String Reply) :=
  straight [("status", .text "Error")] (.ok ⟨200, ""⟩)

def trialPoint : MountPoint :=
  ⟨"cluster", ⟨"lake", by decide⟩⟩

/-- A mount is told to be absent if the look for it ended in `Error` and the results say so. -/
theorem told_by_results_trial :
    trial.EndsWith "cluster"
        (mail (Dialogue.transcript Wire.replying (trial.perform trialPoint.read)
          (complaining "Mount not found")))
        ⟨"Error", some ⟨"error", .null, some "Mount not found", none⟩⟩ ∧
      Dialogue.run Wire.replying.party (trial.perform trialPoint.read)
        (complaining "Mount not found") = (some (.ok .absent), []) := by
  have status : Remote.status?
      (.object
        [("status", .text "Error"),
          ("results",
            .object [("resultType", .text "error"), ("summary", .text "Mount not found")])]) =
      some ⟨"Error", some ⟨"error", .null, some "Mount not found", none⟩⟩ := rfl
  have ended := told_straight (c := trial) (by decide) status (.inr rfl) (.ok ⟨200, ""⟩)
    "cluster" (Script.read trialPoint.name.path) MountPoint.foundBy
  have look : trial.perform trialPoint.read =
      trial.runScript "cluster" (Script.read trialPoint.name.path) >>= fun outcome =>
        .done (MountPoint.foundBy outcome) := by
    rw [MountPoint.read_eq, perform_runScript]
    rfl
  rw [← look] at ended
  obtain ⟨ran, final⟩ := ended
  have complaint : Text.Contains
      (Remote.Results.mk "error" .null (some "Mount not found") none).complaint
      "Mount not found" := by decide +kernel
  have absent := ((told_by_results trialPoint).2.2 ran final rfl).mpr
    (by simpa using complaint)
  exact ⟨final, absent ▸ ran⟩

/-- The script of a command whose status is `Error` and that has no results has succeeded, and so a
mount whose removal failed is told to be removed, and one that could not be looked for to be
absent. -/
theorem failed_command_succeeds :
    (Dialogue.run Wire.replying.party (trial.runScript "cluster" "print(1)") mute =
          (some (.ok ""), []) ∧
        trial.EndsWith "cluster"
          (mail (Dialogue.transcript Wire.replying (trial.runScript "cluster" "print(1)") mute))
          ⟨"Error", none⟩) ∧
      (Dialogue.run Wire.replying.party (trial.perform trialPoint.delete) mute =
          (some (.ok ()), []) ∧
        trial.EndsWith "cluster"
          (mail (Dialogue.transcript Wire.replying (trial.perform trialPoint.delete) mute))
          ⟨"Error", none⟩) ∧
      (Dialogue.run Wire.replying.party (trial.perform trialPoint.read) mute =
          (some (.ok .absent), []) ∧
        trial.EndsWith "cluster"
          (mail (Dialogue.transcript Wire.replying (trial.perform trialPoint.read) mute))
          ⟨"Error", none⟩) := by
  have status : Remote.status? (.object [("status", .text "Error")]) = some ⟨"Error", none⟩ := rfl
  have ended {α : Type} (script : String) (tell : Except ScriptFault String → α) :=
    told_straight (c := trial) (by decide) status (.inr rfl) (.ok ⟨200, ""⟩) "cluster" script tell
  refine ⟨?_, ?_, ?_⟩
  · have script := ended "print(1)" id
    simp only [id_eq, Dialogue.bind_done] at script
    exact script
  · rw [MountPoint.delete_eq, perform_runScript]
    exact ended _ MountPoint.removedBy
  · rw [MountPoint.read_eq, perform_runScript]
    exact ended _ MountPoint.foundBy

end RemoteMounts.Client
