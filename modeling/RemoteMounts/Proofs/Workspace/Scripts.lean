import RemoteMounts.Proofs.Workspace.Queries
import RemoteMounts.Workspace.Console

/-!
# What running a script sends

Whatever a workspace replies, the letters of a script that comes to an end are those of `Course`: a
context is asked for once, and once there is one it is looked at until it runs, the script is handed
in once, its command is looked at until it has ended, and the context is destroyed once, as the last
thing of all, however things went before.  What came of the script is settled by then, so the reply
to that last message changes nothing (`runScript_course`).
-/

namespace RemoteMounts.Client

variable (c : Client)

/-! ## The messages -/

def contextMaking (cluster : String) : Message :=
  c.posting "/api/1.2/contexts/create"
    (.table [("clusterId", .text cluster), ("language", .text "python")])

def contextLook (cluster context : String) : Message :=
  c.asking "/api/1.2/contexts/status" [("clusterId", cluster), ("contextId", context)]

def submission (cluster context script : String) : Message :=
  c.posting "/api/1.2/commands/execute"
    (.table
      [("clusterId", .text cluster), ("contextId", .text context), ("language", .text "python"),
        ("command", .text script)])

def commandLook (cluster context command : String) : Message :=
  c.asking "/api/1.2/commands/status"
    [("clusterId", cluster), ("contextId", context), ("commandId", command)]

def contextDestroying (cluster context : String) : Message :=
  c.posting "/api/1.2/contexts/destroy"
    (.table [("clusterId", .text cluster), ("contextId", .text context)])

def destroys : WireQuestion → Bool
  | .send message => message.verb = .post ∧ message.target = "/api/1.2/contexts/destroy"
  | _ => false

theorem createContext_eq (cluster : String) :
    c.createContext cluster =
      Wire.correspond (c.contextMaking cluster)
        (c.reading "/api/1.2/contexts/create" (Remote.idUnder? "id")) :=
  post_eq ..

theorem submit_eq (cluster context script : String) :
    c.submit cluster context script =
      Wire.correspond (c.submission cluster context script)
        (c.reading "/api/1.2/commands/execute" (Remote.idUnder? "id")) :=
  post_eq ..

theorem destroyContext_eq (cluster context : String) :
    c.destroyContext cluster context =
      Wire.correspond (c.contextDestroying cluster context)
        (c.reading "/api/1.2/contexts/destroy" Remote.done?) :=
  post_eq ..

/-- What is handed in is the script as it is. -/
theorem command_of_submission (cluster context script : String) :
    (Json.ofString? (c.submission cluster context script).body).bind
      (Remote.idUnder? "command") = some script := by
  simp only [submission, posting, Datum.compact]
  rw [Json.ofString?_compact]
  rfl

/-- A context is looked at under its own name. -/
theorem asked?_contextLook (cluster context : String) :
    (c.contextLook cluster context).asked? =
      some ("/api/1.2/contexts/status", [("clusterId", cluster), ("contextId", context)]) :=
  c.asked?_asking (by decide) _

/-- A command is looked at under its own name and that of its context. -/
theorem asked?_commandLook (cluster context command : String) :
    (c.commandLook cluster context command).asked? =
      some ("/api/1.2/commands/status",
        [("clusterId", cluster), ("contextId", context), ("commandId", command)]) :=
  c.asked?_asking (by decide) _

/-! ## The courses that a script can take -/

/-- Something is looked at until a look is decisive or the time is over. -/
inductive Looked {α : Type} (what endpoint : String) (message : Message)
    (ended : Remote.Status → Option (Except ScriptFault α)) :
    List Letter → Except ScriptFault α → Prop
  | unread {reply : Except String Reply} {fault : WorkspaceFault} :
    c.reading endpoint Remote.status? reply = .error fault →
    Looked what endpoint message ended [⟨message, reply⟩] (.error fault.scriptFault)
  | ended {reply : Except String Reply} {status : Remote.Status}
    {outcome : Except ScriptFault α} :
    c.reading endpoint Remote.status? reply = .ok status → ended status = some outcome →
    Looked what endpoint message ended [⟨message, reply⟩] outcome
  | overdue {reply : Except String Reply} {status : Remote.Status} :
    c.reading endpoint Remote.status? reply = .ok status → ended status = none →
    Looked what endpoint message ended [⟨message, reply⟩]
      (.error (WorkspaceFault.stillWaiting what c.commandLimit.seconds).scriptFault)
  | again {reply : Except String Reply} {status : Remote.Status} {looks : List Letter}
    {outcome : Except ScriptFault α} :
    c.reading endpoint Remote.status? reply = .ok status → ended status = none →
    Looked what endpoint message ended looks outcome →
    Looked what endpoint message ended (⟨message, reply⟩ :: looks) outcome

/-- A context is looked at until it runs or will not. -/
abbrev ContextLooked (cluster context : String) : List Letter → Except ScriptFault Unit → Prop :=
  c.Looked "execution context" "/api/1.2/contexts/status" (c.contextLook cluster context)
    (contextEnd context)

/-- A command is looked at until it has ended. -/
abbrev CommandLooked (cluster context command : String) :
    List Letter → Except ScriptFault String → Prop :=
  c.Looked "remote command" "/api/1.2/commands/status" (c.commandLook cluster context command)
    (c.scriptEnd command)

/-- The last letter reads as this status. -/
def LastReads (endpoint : String) (letters : List Letter) (status : Remote.Status) : Prop :=
  ∃ before letter, letters = before ++ [letter] ∧
    c.reading endpoint Remote.status? letter.reply = .ok status

/-- What is sent about a context that has been made, as long as it is there: it is looked at, and
if the last look says that it runs the script is handed in, and looked at if it was accepted. -/
inductive InContext (cluster context script : String) :
    List Letter → Except ScriptFault String → Prop
  | notRunning {looks : List Letter} {fault : ScriptFault} :
    c.ContextLooked cluster context looks (.error fault) →
    InContext cluster context script looks (.error fault)
  | refused {looks : List Letter} {status : Remote.Status} {reply : Except String Reply}
    {fault : WorkspaceFault} :
    c.ContextLooked cluster context looks (.ok ()) →
    c.LastReads "/api/1.2/contexts/status" looks status → status.label = "Running" →
    c.reading "/api/1.2/commands/execute" (Remote.idUnder? "id") reply = .error fault →
    InContext cluster context script (looks ++ [⟨c.submission cluster context script, reply⟩])
      (.error fault.scriptFault)
  | accepted {looks more : List Letter} {status : Remote.Status} {reply : Except String Reply}
    {command : String} {outcome : Except ScriptFault String} :
    c.ContextLooked cluster context looks (.ok ()) →
    c.LastReads "/api/1.2/contexts/status" looks status → status.label = "Running" →
    c.reading "/api/1.2/commands/execute" (Remote.idUnder? "id") reply = .ok command →
    c.CommandLooked cluster context command more outcome →
    InContext cluster context script
      (looks ++ ⟨c.submission cluster context script, reply⟩ :: more) outcome

/-- The letters of a script and what came of it.  Nothing is said of the reply to the last message,
which destroys the context. -/
inductive Course (cluster script : String) : List Letter → Except ScriptFault String → Prop
  | noContext {reply : Except String Reply} {fault : WorkspaceFault} :
    c.reading "/api/1.2/contexts/create" (Remote.idUnder? "id") reply = .error fault →
    Course cluster script [⟨c.contextMaking cluster, reply⟩] (.error fault.scriptFault)
  | destroyed {reply last : Except String Reply} {context : String} {letters : List Letter}
    {outcome : Except ScriptFault String} :
    c.reading "/api/1.2/contexts/create" (Remote.idUnder? "id") reply = .ok context →
    c.InContext cluster context script letters outcome →
    Course cluster script
      (⟨c.contextMaking cluster, reply⟩ ::
        (letters ++ [⟨c.contextDestroying cluster context, last⟩])) outcome

/-! ## Every script takes one of these courses -/

section

variable {c} {σ : Type} {r : Respondent Wire σ} {s t : σ}

theorem poll_looked {α : Type} {deadline : Option Instant} {what endpoint : String}
    {parameters : List (String × String)}
    {ended : Remote.Status → Option (Except ScriptFault α)} {patience : Nat}
    {outcome : Except ScriptFault α}
    (h : Dialogue.run r.party (c.poll deadline what endpoint parameters ended patience) s =
      (some outcome, t)) :
    c.Looked what endpoint (c.asking endpoint parameters) ended
      (mail (Dialogue.transcript r (c.poll deadline what endpoint parameters ended patience) s))
      outcome := by
  induction patience generalizing s with
  | zero => cases h
  | succ patience ih =>
    rw [poll, get_eq, Wire.run_correspond_bind] at h
    rw [poll, get_eq, Wire.mail_correspond_bind]
    cases hr : c.reading endpoint Remote.status?
        (r (.send (c.asking endpoint parameters)) s).1 with
    | error fault =>
      rw [hr] at h
      cases h
      exact .unread hr
    | ok status =>
      rw [hr] at h
      dsimp only at h ⊢
      cases he : ended status with
      | some outcome =>
        rw [he] at h
        cases h
        exact .ended hr he
      | none =>
        rw [he] at h
        dsimp only at h ⊢
        rw [Wire.run_ask_bind] at h
        rw [Wire.mail_now_bind]
        split at h
        · rename_i late
          rw [if_pos late]
          cases h
          exact .overdue hr he
        · rename_i inTime
          rw [if_neg inTime, Wire.mail_pause_bind]
          rw [Wire.run_ask_bind] at h
          exact .again hr he (ih h)

/-- Only a decisive last look lets things go on. -/
theorem Looked.lastLook {α : Type} {what endpoint : String} {message : Message}
    {ended : Remote.Status → Option (Except ScriptFault α)} {looks : List Letter} {a : α}
    (h : c.Looked what endpoint message ended looks (.ok a)) :
    ∃ before reply status, looks = before ++ [⟨message, reply⟩] ∧
      c.reading endpoint Remote.status? reply = .ok status ∧ ended status = some (.ok a) := by
  generalize ho : (Except.ok a : Except ScriptFault α) = outcome at h
  induction h with
  | unread => cases ho
  | overdue => cases ho
  | @ended reply status _ hr he =>
    subst ho
    exact ⟨[], reply, status, rfl, hr, he⟩
  | @again reply status looks _ hr he later ih =>
    obtain ⟨before, last, final, split, read, decisive⟩ := ih ho
    exact ⟨⟨message, reply⟩ :: before, last, final, by rw [split]; rfl, read, decisive⟩

theorem label_of_contextEnd {context : String} {status : Remote.Status}
    (h : contextEnd context status = some (.ok ())) : status.label = "Running" := by
  unfold contextEnd at h
  split at h
  · assumption
  · cases h
  · cases h

theorem awaitContext_looked {deadline : Option Instant} {cluster context : String}
    {outcome : Except ScriptFault Unit}
    (h : Dialogue.run r.party (c.awaitContext deadline cluster context) s = (some outcome, t)) :
    c.ContextLooked cluster context
      (mail (Dialogue.transcript r (c.awaitContext deadline cluster context) s)) outcome :=
  poll_looked h

theorem awaitScript_looked {deadline : Option Instant} {cluster context command : String}
    {outcome : Except ScriptFault String}
    (h : Dialogue.run r.party (c.awaitScript deadline cluster context command) s =
      (some outcome, t)) :
    c.CommandLooked cluster context command
      (mail (Dialogue.transcript r (c.awaitScript deadline cluster context command) s)) outcome :=
  poll_looked h

theorem runIn_inContext {deadline : Option Instant} {cluster context script : String}
    {outcome : Except ScriptFault String}
    (h : Dialogue.run r.party (c.runIn deadline cluster context script) s = (some outcome, t)) :
    c.InContext cluster context script
      (mail (Dialogue.transcript r (c.runIn deadline cluster context script) s)) outcome := by
  obtain ⟨started, u, ran, h⟩ := Dialogue.run_bind_eq_some_iff.mp h
  have looked := awaitContext_looked ran
  rw [runIn, Dialogue.transcript_bind_of_run r ran, mail_append]
  cases started with
  | error fault =>
    cases h
    simpa using InContext.notRunning looked
  | ok _ =>
    obtain ⟨before, reply, status, split, read, running⟩ := looked.lastLook
    have last : c.LastReads "/api/1.2/contexts/status" _ status := ⟨before, _, split, read⟩
    have label := label_of_contextEnd running
    dsimp only at h ⊢
    rw [submit_eq, Wire.run_correspond_bind] at h
    rw [submit_eq, Wire.mail_correspond_bind]
    cases hr : c.reading "/api/1.2/commands/execute" (Remote.idUnder? "id")
        (r (.send (c.submission cluster context script)) u).1 with
    | error fault =>
      rw [hr] at h
      cases h
      exact .refused looked last label hr
    | ok command =>
      rw [hr] at h
      exact .accepted looked last label hr (awaitScript_looked h)

/-- Everything but the last message: the context, if one was made, and what came of the script. -/
def attempt (c : Client) (cluster script : String) :
    Dialogue Wire (Option String × Except ScriptFault String) := do
  let started ← Wire.ask .now
  match ← c.createContext cluster with
  | .error f => return (none, .error f.scriptFault)
  | .ok context =>
    let outcome ← c.runIn (started.after? c.commandLimit) cluster context script
    return (some context, outcome)

/-- The last message, if there is a context to destroy. -/
def tidy (c : Client) (cluster : String) (context : Option String) : Dialogue Wire Unit :=
  match context with
  | none => return ()
  | some context => do
    let _ ← c.destroyContext cluster context
    return ()

theorem runScript_eq (c : Client) (cluster script : String) :
    c.runScript cluster script =
      c.attempt cluster script >>= fun made => c.tidy cluster made.1 >>= fun _ =>
        .done made.2 := by
  unfold runScript attempt
  simp only [Dialogue.bind_assoc]
  refine congrArg (Wire.ask .now >>= ·) (funext fun started => ?_)
  refine congrArg (c.createContext cluster >>= ·) (funext fun created => ?_)
  cases created with
  | error f => rfl
  | ok context =>
    dsimp only
    rw [Dialogue.bind_assoc]
    refine congrArg (c.runIn _ cluster context script >>= ·) (funext fun outcome => ?_)
    simp only [Dialogue.pure_eq_done, Dialogue.done_bind, tidy, Dialogue.bind_assoc]

/-- What an attempt sends and what it leaves behind: a context exactly if one was made. -/
inductive Attempted (c : Client) (cluster script : String) :
    List Letter → Option String × Except ScriptFault String → Prop
  | noContext {reply : Except String Reply} {fault : WorkspaceFault} :
    c.reading "/api/1.2/contexts/create" (Remote.idUnder? "id") reply = .error fault →
    Attempted c cluster script [⟨c.contextMaking cluster, reply⟩] (none, .error fault.scriptFault)
  | inContext {reply : Except String Reply} {context : String} {letters : List Letter}
    {outcome : Except ScriptFault String} :
    c.reading "/api/1.2/contexts/create" (Remote.idUnder? "id") reply = .ok context →
    c.InContext cluster context script letters outcome →
    Attempted c cluster script (⟨c.contextMaking cluster, reply⟩ :: letters)
      (some context, outcome)

theorem attempt_attempted {cluster script : String}
    {made : Option String × Except ScriptFault String}
    (h : Dialogue.run r.party (c.attempt cluster script) s = (some made, t)) :
    c.Attempted cluster script (mail (Dialogue.transcript r (c.attempt cluster script) s)) made := by
  rw [attempt, Wire.run_ask_bind, createContext_eq, Wire.run_correspond_bind] at h
  rw [attempt, Wire.mail_now_bind, createContext_eq, Wire.mail_correspond_bind]
  generalize (r .now s).1 = started at h ⊢
  generalize (r .now s).2 = u at h ⊢
  cases hr : c.reading "/api/1.2/contexts/create" (Remote.idUnder? "id")
      (r (.send (c.contextMaking cluster)) u).1 with
  | error fault =>
    rw [hr] at h
    cases h
    exact .noContext hr
  | ok context =>
    rw [hr] at h
    obtain ⟨outcome, v, ran, h⟩ := Dialogue.run_bind_eq_some_iff.mp h
    cases h
    dsimp only
    rw [Dialogue.transcript_bind_of_run r ran, mail_append]
    simpa using Attempted.inContext hr (runIn_inContext ran)

/-- Whatever is replied to the last message, it is sent and that is all. -/
theorem run_tidy (cluster : String) (context : Option String) :
    ∃ u, Dialogue.run r.party (c.tidy cluster context) s = (some (), u) := by
  cases context with
  | none => exact ⟨s, rfl⟩
  | some context =>
    rw [tidy, destroyContext_eq, Wire.run_correspond_bind]
    exact ⟨_, rfl⟩

theorem mail_tidy_some (cluster context : String) :
    ∃ reply, mail (Dialogue.transcript r (c.tidy cluster (some context)) s) =
      [⟨c.contextDestroying cluster context, reply⟩] := by
  rw [tidy, destroyContext_eq, Wire.mail_correspond_bind]
  exact ⟨_, rfl⟩

theorem runScript_course {cluster script : String} {outcome : Except ScriptFault String}
    (h : Dialogue.run r.party (c.runScript cluster script) s = (some outcome, t)) :
    c.Course cluster script (mail (Dialogue.transcript r (c.runScript cluster script) s))
      outcome := by
  rw [runScript_eq] at h ⊢
  obtain ⟨⟨context, result⟩, u, ran, h⟩ := Dialogue.run_bind_eq_some_iff.mp h
  obtain ⟨_, v, tidied, h⟩ := Dialogue.run_bind_eq_some_iff.mp h
  cases h
  have attempted := attempt_attempted ran
  rw [Dialogue.transcript_bind_of_run r ran, Dialogue.transcript_bind_of_run r tidied,
    mail_append, mail_append]
  simp only [Dialogue.transcript_done, mail_nil, List.append_nil]
  generalize mail (Dialogue.transcript r (c.attempt cluster script) s) = letters at attempted ⊢
  cases attempted with
  | noContext hr => exact .noContext hr
  | @inContext reply context letters _ hr inside =>
    obtain ⟨last, tidy⟩ := mail_tidy_some (r := r) (s := u) (c := c) cluster context
    rw [tidy]
    exact .destroyed hr inside

/-! ## The last reply does not matter -/

/-- The messages of a script before its context is destroyed. -/
inductive Attempting (c : Client) (cluster script : String) : Message → Prop
  | contextMaking : Attempting c cluster script (c.contextMaking cluster)
  | contextLook (context : String) : Attempting c cluster script (c.contextLook cluster context)
  | submission (context : String) :
    Attempting c cluster script (c.submission cluster context script)
  | commandLook (context command : String) :
    Attempting c cluster script (c.commandLook cluster context command)

theorem Attempting.not_destroys {cluster script : String} {message : Message}
    (h : c.Attempting cluster script message) : destroys (.send message) = false := by
  cases h with
  | contextMaking => simp [destroys, Client.contextMaking, posting]
  | contextLook context => simp [destroys, Client.contextLook, asking]
  | submission context => simp [destroys, Client.submission, posting]
  | commandLook context command => simp [destroys, Client.commandLook, asking]

/-- However often something is looked at, the same message is sent. -/
theorem asks_poll {α : Type} {kind : Message → Prop} {endpoint : String}
    {parameters : List (String × String)} (look : kind (c.asking endpoint parameters))
    (deadline : Option Instant) (what : String)
    (ended : Remote.Status → Option (Except ScriptFault α)) (patience : Nat) :
    (c.poll deadline what endpoint parameters ended patience).Asks (Wire.Sends kind) := by
  induction patience with
  | zero => trivial
  | succ patience ih =>
    rw [poll, get_eq]
    refine Wire.asks_correspond_bind look fun read => ?_
    cases read with
    | error fault => trivial
    | ok status =>
      dsimp only
      cases ended status with
      | some outcome => trivial
      | none =>
        refine ⟨trivial, fun time => ?_⟩
        by_cases late : Instant.leftUntil deadline time = Duration.zero
        · simp only [Dialogue.bind, if_pos late]
          trivial
        · simp only [Dialogue.bind, if_neg late]
          exact ⟨trivial, fun _ => ih⟩

theorem asks_runIn (deadline : Option Instant) (cluster context script : String) :
    (c.runIn deadline cluster context script).Asks
      (Wire.Sends (c.Attempting cluster script)) := by
  refine Dialogue.Asks.bind (asks_poll (.contextLook context) ..) fun started => ?_
  cases started with
  | error fault => trivial
  | ok _ =>
    rw [submit_eq]
    refine Wire.asks_correspond_bind (.submission context) fun submitted => ?_
    cases submitted with
    | error fault => trivial
    | ok command => exact asks_poll (.commandLook context command) ..

theorem asks_attempt (cluster script : String) :
    (c.attempt cluster script).Asks (Wire.Sends (c.Attempting cluster script)) := by
  refine ⟨trivial, fun started => ?_⟩
  rw [createContext_eq]
  refine Wire.asks_correspond_bind .contextMaking fun made => ?_
  cases made with
  | error fault => trivial
  | ok context => exact Dialogue.Asks.bind (asks_runIn ..) fun _ => trivial

theorem attempt_destroys_nothing (cluster script : String) :
    (c.attempt cluster script).Asks (destroys · = false) := by
  refine (asks_attempt cluster script).mono fun q sent => ?_
  cases q with
  | send message => exact sent.not_destroys
  | _ => rfl

/-- Whoever replies to the message that destroys the context, the script comes to the same
result. -/
theorem run_runScript_passing (other : Respondent Wire σ) (cluster script : String) :
    (Dialogue.run (r.passing destroys other).party (c.runScript cluster script) s).1 =
      (Dialogue.run r.party (c.runScript cluster script) s).1 := by
  rw [runScript_eq, Dialogue.run_bind, Dialogue.run_bind,
    Dialogue.run_passing r (attempt_destroys_nothing cluster script)]
  cases Dialogue.run r.party (c.attempt cluster script) s with
  | mk made u =>
    cases made with
    | none => rfl
    | some made =>
      obtain ⟨v, one⟩ := run_tidy (r := r.passing destroys other) (c := c) (s := u) cluster made.1
      obtain ⟨w, two⟩ := run_tidy (r := r) (c := c) (s := u) cluster made.1
      dsimp only
      rw [Dialogue.run_bind, Dialogue.run_bind, one, two]
      rfl

end

/-! ## A script that runs straight on -/

/-- The replies to a script whose context runs at once, and whose command has the final status at
the first look. -/
def straight (final : List (String × Json)) (last : Except String Reply) :
    List (Except String Reply) :=
  [.ok (document [("id", .text "context")]), .ok (document [("status", .text "Running")]),
    .ok (document [("id", .text "command")]), .ok (document final), last]

section

variable {c} {final : List (String × Json)} {status : Remote.Status}

/-- A first look that is decisive is the only one. -/
theorem poll_of_ended {α σ : Type} {r : Respondent Wire σ} {deadline : Option Instant}
    {what endpoint : String} {parameters : List (String × String)}
    {ended : Remote.Status → Option (Except ScriptFault α)} {patience : Nat} {s : σ}
    {outcome : Except ScriptFault α}
    (read : c.reading endpoint Remote.status? (r (.send (c.asking endpoint parameters)) s).1 =
      .ok status)
    (decisive : ended status = some outcome) :
    Dialogue.run r.party (c.poll deadline what endpoint parameters ended (patience + 1)) s =
        (some outcome, (r (.send (c.asking endpoint parameters)) s).2) ∧
      mail (Dialogue.transcript r
          (c.poll deadline what endpoint parameters ended (patience + 1)) s) =
        [⟨c.asking endpoint parameters, (r (.send (c.asking endpoint parameters)) s).1⟩] := by
  rw [poll, get_eq, Wire.run_correspond_bind, Wire.mail_correspond_bind, read]
  dsimp only
  rw [decisive]
  exact ⟨rfl, rfl⟩

theorem run_straight (patient : 0 < c.patience)
    (read : Remote.status? (.object final) = some status) {outcome : Except ScriptFault String}
    (decisive : c.scriptEnd "command" status = some outcome) (last : Except String Reply)
    (cluster script : String) :
    Dialogue.run Wire.replying.party (c.runScript cluster script) (straight final last) =
        (some outcome, []) ∧
      mail (Dialogue.transcript Wire.replying (c.runScript cluster script)
          (straight final last)) =
        [⟨c.contextMaking cluster, .ok (document [("id", .text "context")])⟩,
          ⟨c.contextLook cluster "context", .ok (document [("status", .text "Running")])⟩,
          ⟨c.submission cluster "context" script, .ok (document [("id", .text "command")])⟩,
          ⟨c.commandLook cluster "context" "command", .ok (document final)⟩,
          ⟨c.contextDestroying cluster "context", last⟩] := by
  obtain ⟨patience, hp⟩ : ∃ n, c.patience = n + 1 := ⟨c.patience - 1, by omega⟩
  have named (endpoint id : String) :
      c.reading endpoint (Remote.idUnder? "id") (.ok (document [("id", .text id)])) = .ok id :=
    reading_document rfl
  have started (deadline : Option Instant) (later : List (Except String Reply)) :
      Dialogue.run Wire.replying.party (c.awaitContext deadline cluster "context")
          (.ok (document [("status", .text "Running")]) :: later) = (some (.ok ()), later) ∧
        mail (Dialogue.transcript Wire.replying (c.awaitContext deadline cluster "context")
            (.ok (document [("status", .text "Running")]) :: later)) =
          [⟨c.contextLook cluster "context", .ok (document [("status", .text "Running")])⟩] := by
    rw [awaitContext, hp]
    exact poll_of_ended (reading_document rfl) rfl
  have ended (deadline : Option Instant) :
      Dialogue.run Wire.replying.party (c.awaitScript deadline cluster "context" "command")
          [.ok (document final), last] = (some outcome, [last]) ∧
        mail (Dialogue.transcript Wire.replying
            (c.awaitScript deadline cluster "context" "command") [.ok (document final), last]) =
          [⟨c.commandLook cluster "context" "command", .ok (document final)⟩] := by
    rw [awaitScript, hp]
    exact poll_of_ended (reading_document read) decisive
  have inside (deadline : Option Instant) :
      Dialogue.run Wire.replying.party (c.runIn deadline cluster "context" script)
          (straight final last).tail = (some outcome, [last]) ∧
        mail (Dialogue.transcript Wire.replying (c.runIn deadline cluster "context" script)
            (straight final last).tail) =
          [⟨c.contextLook cluster "context", .ok (document [("status", .text "Running")])⟩,
            ⟨c.submission cluster "context" script, .ok (document [("id", .text "command")])⟩,
            ⟨c.commandLook cluster "context" "command", .ok (document final)⟩] := by
    constructor
    · rw [runIn, Dialogue.run_bind, straight, List.tail_cons, (started ..).1]
      dsimp only
      rw [submit_eq, Wire.run_correspond_bind]
      simp only [Wire.replying, named]
      exact (ended deadline).1
    · rw [runIn, straight, List.tail_cons, Dialogue.transcript_bind_of_run _ (started ..).1,
        mail_append, (started ..).2]
      dsimp only
      rw [submit_eq, Wire.mail_correspond_bind]
      simp only [Wire.replying, named]
      rw [(ended deadline).2]
      rfl
  constructor
  · rw [runScript, Wire.run_ask_bind, createContext_eq, Wire.run_correspond_bind]
    simp only [straight, Wire.replying, named]
    rw [Dialogue.run_bind, show [_, _, _, last] = (straight final last).tail from rfl,
      (inside _).1]
    dsimp only
    rw [destroyContext_eq, Wire.run_correspond_bind]
    rfl
  · rw [runScript, Wire.mail_now_bind, createContext_eq, Wire.mail_correspond_bind]
    simp only [straight, Wire.replying, named]
    rw [show [_, _, _, last] = (straight final last).tail from rfl,
      Dialogue.transcript_bind_of_run _ (inside _).1, mail_append, (inside _).2]
    rw [destroyContext_eq, Wire.mail_correspond_bind]
    rfl

end

/-! ## Contexts are destroyed -/

/-- However a workspace replies, a script that comes to an end has sent what one of the courses
says.  A context that was made is destroyed by the last message, the script is handed in once at
most and as it is, and the reply to the last message has no part in the result. -/
theorem made_context_destroyed {c : Client} {σ : Type} {r : Respondent Wire σ} {s t : σ}
    {cluster script : String} {outcome : Except ScriptFault String}
    (finished : Dialogue.run r.party (c.runScript cluster script) s = (some outcome, t))
    (other : Respondent Wire σ) :
    c.Course cluster script (mail (Dialogue.transcript r (c.runScript cluster script) s))
        outcome ∧
      (∀ context, (Json.ofString? (c.submission cluster context script).body).bind
        (Remote.idUnder? "command") = some script) ∧
      (Dialogue.run (r.passing destroys other).party (c.runScript cluster script) s).1 =
        some outcome := by
  refine ⟨runScript_course finished, fun context => command_of_submission c cluster context script,
    ?_⟩
  rw [run_runScript_passing, finished]

/-- A client for trial runs, which looks only once. -/
def trial : Client :=
  make "https://workspace" "token" (.ofSeconds 60) (.ofSeconds 1) 1

/-- The status of a command that has returned the text. -/
def returned (text : String) : List (String × Json) :=
  [("status", .text "Finished"),
    ("results", .object [("resultType", .text "text"), ("data", .text text)])]

/-- The destruction is refused, and the result is that of the script. -/
theorem made_context_destroyed_trial :
    Dialogue.run Wire.replying.party (trial.runScript "cluster" "print(1)")
        (straight (returned "1") (.ok ⟨500, "no"⟩)) = (some (.ok "1"), []) ∧
      trial.Course "cluster" "print(1)"
        (mail (Dialogue.transcript Wire.replying (trial.runScript "cluster" "print(1)")
          (straight (returned "1") (.ok ⟨500, "no"⟩))))
        (.ok "1") := by
  have finished : Dialogue.run Wire.replying.party (trial.runScript "cluster" "print(1)")
      (straight (returned "1") (.ok ⟨500, "no"⟩)) = (some (.ok "1"), []) :=
    (run_straight (by decide) rfl rfl (.ok ⟨500, "no"⟩) "cluster" "print(1)").1
  exact ⟨finished, (made_context_destroyed finished Wire.replying).1⟩

end RemoteMounts.Client
