import RemoteMounts.Proofs.Cluster.Waits
import RemoteMounts.Proofs.Workspace.Wording

/-!
# How a script ends

`Timed` says for every place where a script can end what has gone over the wire until then, the
readings of the clock and the pauses among it.  A script ends with a reply that decides it, or it
gives up after a look that has decided nothing, at a reading that shows the deadline or a later time
(`Timed.ends`).  Nobody else says that the time is over, unless a reply says so itself
(`Settled.quoted`).
-/

namespace RemoteMounts.Client

/-! ## The course of a script -/

/-- What is told where the time is over. -/
def lateness (c : Client) (what : String) : ScriptFault :=
  ⟨"timeout after " ++ toString c.commandLimit.seconds ++ "s waiting for " ++ what⟩

/-- The exchanges of a wait from one of its looks on, and what comes of it; the patience counts the
looks that may still be taken. -/
inductive Polled {α : Type} (c : Client) (deadline : Option Instant) (what endpoint : String)
    (parameters : List (String × String))
    (ended : Remote.Status → Option (Except ScriptFault α)) :
    (patience : Nat) → List (Exchange Wire) → Option (Except ScriptFault α) → Prop
  | unfinished : Polled c deadline what endpoint parameters ended 0 [] none
  | unread {patience : Nat} {reply : Except String Reply} {fault : WorkspaceFault} :
    c.reading endpoint Remote.status? reply = .error fault →
    Polled c deadline what endpoint parameters ended (patience + 1)
      [⟨.send (c.asking endpoint parameters), reply⟩] (some (.error fault.scriptFault))
  | ended {patience : Nat} {reply : Except String Reply} {status : Remote.Status}
    {outcome : Except ScriptFault α} :
    c.reading endpoint Remote.status? reply = .ok status → ended status = some outcome →
    Polled c deadline what endpoint parameters ended (patience + 1)
      [⟨.send (c.asking endpoint parameters), reply⟩] (some outcome)
  | overdue {patience : Nat} {reply : Except String Reply} {status : Remote.Status}
    {seen : Instant} :
    c.reading endpoint Remote.status? reply = .ok status → ended status = none →
    Instant.leftUntil deadline seen = Duration.zero →
    Polled c deadline what endpoint parameters ended (patience + 1)
      [⟨.send (c.asking endpoint parameters), reply⟩, ⟨.now, seen⟩]
      (some (.error (c.lateness what)))
  | again {patience : Nat} {reply : Except String Reply} {status : Remote.Status}
    {seen : Instant} {later : List (Exchange Wire)} {outcome : Option (Except ScriptFault α)} :
    c.reading endpoint Remote.status? reply = .ok status → ended status = none →
    Instant.leftUntil deadline seen ≠ Duration.zero →
    Polled c deadline what endpoint parameters ended patience later outcome →
    Polled c deadline what endpoint parameters ended (patience + 1)
      (⟨.send (c.asking endpoint parameters), reply⟩ :: ⟨.now, seen⟩ ::
        ⟨.pause (c.commandInterval.shorter (Instant.leftUntil deadline seen)), ()⟩ :: later)
      outcome

abbrev ContextPolled (c : Client) (deadline : Option Instant) (cluster context : String) :
    List (Exchange Wire) → Option (Except ScriptFault Unit) → Prop :=
  c.Polled deadline "execution context" "/api/1.2/contexts/status"
    [("clusterId", cluster), ("contextId", context)] (contextEnd context) c.patience

abbrev CommandPolled (c : Client) (deadline : Option Instant) (cluster context command : String) :
    List (Exchange Wire) → Option (Except ScriptFault String) → Prop :=
  c.Polled deadline "remote command" "/api/1.2/commands/status"
    [("clusterId", cluster), ("contextId", context), ("commandId", command)] (c.scriptEnd command)
    c.patience

/-- The exchanges about a context that has been made, as long as it is there, and what comes of
them: both waits end at the same deadline. -/
inductive TimedIn (c : Client) (deadline : Option Instant) (cluster context script : String) :
    List (Exchange Wire) → Option (Except ScriptFault String) → Prop
  | notRunning {looks : List (Exchange Wire)} (fault : Option ScriptFault) :
    c.ContextPolled deadline cluster context looks (fault.map .error) →
    TimedIn c deadline cluster context script looks (fault.map .error)
  | refused {looks : List (Exchange Wire)} {reply : Except String Reply}
    {fault : WorkspaceFault} :
    c.ContextPolled deadline cluster context looks (some (.ok ())) →
    c.reading "/api/1.2/commands/execute" (Remote.idUnder? "id") reply = .error fault →
    TimedIn c deadline cluster context script
      (looks ++ [⟨.send (c.submission cluster context script), reply⟩])
      (some (.error fault.scriptFault))
  | accepted {looks more : List (Exchange Wire)} {reply : Except String Reply} {command : String}
    {outcome : Option (Except ScriptFault String)} :
    c.ContextPolled deadline cluster context looks (some (.ok ())) →
    c.reading "/api/1.2/commands/execute" (Remote.idUnder? "id") reply = .ok command →
    c.CommandPolled deadline cluster context command more outcome →
    TimedIn c deadline cluster context script
      (looks ++ ⟨.send (c.submission cluster context script), reply⟩ :: more) outcome

/-- The exchanges of a script that has been started at this time, and what comes of it.  The
deadline is known before a context is asked for. -/
inductive Timed (c : Client) (cluster script : String) (started : Instant) :
    List (Exchange Wire) → Option (Except ScriptFault String) → Prop
  | noContext {reply : Except String Reply} {fault : WorkspaceFault} :
    c.reading "/api/1.2/contexts/create" (Remote.idUnder? "id") reply = .error fault →
    Timed c cluster script started
      [⟨.now, started⟩, ⟨.send (c.contextMaking cluster), reply⟩] (some (.error fault.scriptFault))
  | unfinished {reply : Except String Reply} {context : String} {inner : List (Exchange Wire)} :
    c.reading "/api/1.2/contexts/create" (Remote.idUnder? "id") reply = .ok context →
    c.TimedIn (started.after? c.commandLimit) cluster context script inner none →
    Timed c cluster script started
      (⟨.now, started⟩ :: ⟨.send (c.contextMaking cluster), reply⟩ :: inner) none
  | destroyed {reply last : Except String Reply} {context : String}
    {inner : List (Exchange Wire)} {outcome : Except ScriptFault String} :
    c.reading "/api/1.2/contexts/create" (Remote.idUnder? "id") reply = .ok context →
    c.TimedIn (started.after? c.commandLimit) cluster context script inner (some outcome) →
    Timed c cluster script started
      (⟨.now, started⟩ :: ⟨.send (c.contextMaking cluster), reply⟩ ::
        (inner ++ [⟨.send (c.contextDestroying cluster context), last⟩])) (some outcome)

section

variable {σ : Type} (r : Respondent Wire σ) (c : Client)

theorem poll_polled {α : Type} (deadline : Option Instant) (what endpoint : String)
    (parameters : List (String × String)) (ended : Remote.Status → Option (Except ScriptFault α))
    (patience : Nat) (s : σ) :
    c.Polled deadline what endpoint parameters ended patience
      (Dialogue.transcript r (c.poll deadline what endpoint parameters ended patience) s)
      (Dialogue.run r.party (c.poll deadline what endpoint parameters ended patience) s).1 := by
  induction patience generalizing s with
  | zero => exact .unfinished
  | succ patience ih =>
    rw [poll, get_eq, Wire.transcript_correspond_bind, Wire.run_correspond_bind]
    cases hr : c.reading endpoint Remote.status?
        (r (.send (c.asking endpoint parameters)) s).1 with
    | error fault => exact .unread hr
    | ok status =>
      dsimp only
      cases he : ended status with
      | some outcome => exact .ended hr he
      | none =>
        dsimp only
        rw [Wire.transcript_ask_bind, Wire.run_ask_bind]
        by_cases late : Instant.leftUntil deadline
            (r .now (r (.send (c.asking endpoint parameters)) s).2).1 = Duration.zero
        · simp only [if_pos late]
          exact .overdue hr he late
        · simp only [if_neg late]
          exact .again hr he late (ih _)

theorem runIn_timedIn (deadline : Option Instant) (cluster context script : String) (s : σ) :
    c.TimedIn deadline cluster context script
      (Dialogue.transcript r (c.runIn deadline cluster context script) s)
      (Dialogue.run r.party (c.runIn deadline cluster context script) s).1 := by
  have looked := poll_polled r c deadline "execution context" "/api/1.2/contexts/status"
    [("clusterId", cluster), ("contextId", context)] (contextEnd context) c.patience s
  rw [runIn, Dialogue.transcript_bind, Dialogue.run_bind]
  change c.ContextPolled deadline cluster context
    (Dialogue.transcript r (c.awaitContext deadline cluster context) s)
    (Dialogue.run r.party (c.awaitContext deadline cluster context) s).1 at looked
  generalize Dialogue.transcript r (c.awaitContext deadline cluster context) s = looks at looked ⊢
  generalize Dialogue.run r.party (c.awaitContext deadline cluster context) s = awaited
    at looked ⊢
  obtain ⟨_ | fault | _, t⟩ := awaited
  · rw [List.append_nil]
    exact .notRunning none looked
  · simp only [Dialogue.pure_eq_done, Dialogue.transcript_done, List.append_nil]
    exact .notRunning (some fault) looked
  · dsimp only
    rw [submit_eq, Wire.transcript_correspond_bind, Wire.run_correspond_bind]
    cases hr : c.reading "/api/1.2/commands/execute" (Remote.idUnder? "id")
        (r (.send (c.submission cluster context script)) t).1 with
    | error fault => exact .refused looked hr
    | ok command => exact .accepted looked hr (poll_polled ..)

theorem runScript_timed (cluster script : String) (s : σ) :
    c.Timed cluster script (r .now s).1 (Dialogue.transcript r (c.runScript cluster script) s)
      (Dialogue.run r.party (c.runScript cluster script) s).1 := by
  rw [runScript, Wire.transcript_ask_bind, Wire.run_ask_bind, createContext_eq,
    Wire.transcript_correspond_bind, Wire.run_correspond_bind]
  generalize (r .now s).1 = started
  generalize (r .now s).2 = u
  cases hr : c.reading "/api/1.2/contexts/create" (Remote.idUnder? "id")
      (r (.send (c.contextMaking cluster)) u).1 with
  | error fault => exact .noContext hr
  | ok context =>
    dsimp only
    have inside := runIn_timedIn r c (started.after? c.commandLimit) cluster context script
      (r (.send (c.contextMaking cluster)) u).2
    rw [Dialogue.transcript_bind, Dialogue.run_bind]
    generalize Dialogue.transcript r (c.runIn (started.after? c.commandLimit) cluster context script)
      (r (.send (c.contextMaking cluster)) u).2 = inner at inside ⊢
    generalize Dialogue.run r.party (c.runIn (started.after? c.commandLimit) cluster context script)
      (r (.send (c.contextMaking cluster)) u).2 = ran at inside ⊢
    obtain ⟨_ | outcome, t⟩ := ran
    · rw [List.append_nil]
      exact .unfinished hr inside
    · dsimp only
      rw [destroyContext_eq, Wire.transcript_correspond_bind, Wire.run_correspond_bind]
      exact .destroyed hr inside

end

/-! ## How a script ends -/

/-- How a wait ends: the last look is decisive or cannot be read, or it is neither and the clock
that was read after it showed the deadline or a later time. -/
inductive PollEnded {α : Type} (c : Client) (deadline : Option Instant) (what endpoint : String)
    (parameters : List (String × String))
    (ended : Remote.Status → Option (Except ScriptFault α)) :
    List (Exchange Wire) → Except ScriptFault α → Prop
  | unread (before : List (Exchange Wire)) {reply : Except String Reply}
    {fault : WorkspaceFault} :
    c.reading endpoint Remote.status? reply = .error fault →
    PollEnded c deadline what endpoint parameters ended
      (before ++ [⟨.send (c.asking endpoint parameters), reply⟩]) (.error fault.scriptFault)
  | ended (before : List (Exchange Wire)) {reply : Except String Reply} {status : Remote.Status}
    {outcome : Except ScriptFault α} :
    c.reading endpoint Remote.status? reply = .ok status → ended status = some outcome →
    PollEnded c deadline what endpoint parameters ended
      (before ++ [⟨.send (c.asking endpoint parameters), reply⟩]) outcome
  | overdue (before : List (Exchange Wire)) {reply : Except String Reply}
    {status : Remote.Status} {seen limit : Instant} :
    c.reading endpoint Remote.status? reply = .ok status → ended status = none →
    deadline = some limit → limit.nanos ≤ seen.nanos →
    PollEnded c deadline what endpoint parameters ended
      (before ++ [⟨.send (c.asking endpoint parameters), reply⟩, ⟨.now, seen⟩])
      (.error (c.lateness what))

/-- What the reply to a message decides of a script. -/
inductive Settles (c : Client) (cluster script : String) :
    Message → Except String Reply → Except ScriptFault String → Prop
  | contextRefused {reply : Except String Reply} {fault : WorkspaceFault} :
    c.reading "/api/1.2/contexts/create" (Remote.idUnder? "id") reply = .error fault →
    Settles c cluster script (c.contextMaking cluster) reply (.error fault.scriptFault)
  | contextUnread {context : String} {reply : Except String Reply} {fault : WorkspaceFault} :
    c.reading "/api/1.2/contexts/status" Remote.status? reply = .error fault →
    Settles c cluster script (c.contextLook cluster context) reply (.error fault.scriptFault)
  | contextFailed {context : String} {reply : Except String Reply} {status : Remote.Status}
    {fault : ScriptFault} :
    c.reading "/api/1.2/contexts/status" Remote.status? reply = .ok status →
    contextEnd context status = some (.error fault) →
    Settles c cluster script (c.contextLook cluster context) reply (.error fault)
  | scriptRefused {context : String} {reply : Except String Reply} {fault : WorkspaceFault} :
    c.reading "/api/1.2/commands/execute" (Remote.idUnder? "id") reply = .error fault →
    Settles c cluster script (c.submission cluster context script) reply
      (.error fault.scriptFault)
  | commandUnread {context command : String} {reply : Except String Reply}
    {fault : WorkspaceFault} :
    c.reading "/api/1.2/commands/status" Remote.status? reply = .error fault →
    Settles c cluster script (c.commandLook cluster context command) reply
      (.error fault.scriptFault)
  | commandEnded {context command : String} {reply : Except String Reply}
    {status : Remote.Status} {outcome : Except ScriptFault String} :
    c.reading "/api/1.2/commands/status" Remote.status? reply = .ok status →
    c.scriptEnd command status = some outcome →
    Settles c cluster script (c.commandLook cluster context command) reply outcome

/-- The last reply decides the outcome, but for the one to the destruction of the context if there
was a context. -/
inductive Settled (c : Client) (cluster script : String) :
    List (Exchange Wire) → Except ScriptFault String → Prop
  | noContext (before : List (Exchange Wire)) {reply : Except String Reply}
    {outcome : Except ScriptFault String} :
    c.Settles cluster script (c.contextMaking cluster) reply outcome →
    Settled c cluster script (before ++ [⟨.send (c.contextMaking cluster), reply⟩]) outcome
  | inContext {before : List (Exchange Wire)} {message : Message}
    {reply last : Except String Reply} {context : String}
    {outcome : Except ScriptFault String} :
    c.Settles cluster script message reply outcome →
    Settled c cluster script
      (before ++
        [⟨.send message, reply⟩, ⟨.send (c.contextDestroying cluster context), last⟩]) outcome

/-- The last look, at the context or at the command, has decided nothing, and the clock that was
read after it showed the deadline or a later time. -/
inductive GaveUp (c : Client) (cluster : String) (deadline : Option Instant) :
    List (Exchange Wire) → Except ScriptFault String → Prop
  | onContext {before : List (Exchange Wire)} {context : String}
    {reply last : Except String Reply} {status : Remote.Status} {seen limit : Instant} :
    c.reading "/api/1.2/contexts/status" Remote.status? reply = .ok status →
    contextEnd context status = none → deadline = some limit → limit.nanos ≤ seen.nanos →
    GaveUp c cluster deadline
      (before ++
        [⟨.send (c.contextLook cluster context), reply⟩, ⟨.now, seen⟩,
          ⟨.send (c.contextDestroying cluster context), last⟩])
      (.error (c.lateness "execution context"))
  | onCommand {before : List (Exchange Wire)} {context command : String}
    {reply last : Except String Reply} {status : Remote.Status} {seen limit : Instant} :
    c.reading "/api/1.2/commands/status" Remote.status? reply = .ok status →
    c.scriptEnd command status = none → deadline = some limit → limit.nanos ≤ seen.nanos →
    GaveUp c cluster deadline
      (before ++
        [⟨.send (c.commandLook cluster context command), reply⟩, ⟨.now, seen⟩,
          ⟨.send (c.contextDestroying cluster context), last⟩])
      (.error (c.lateness "remote command"))

section

variable {c : Client} {deadline : Option Instant} {cluster context script : String}
  {exchanges : List (Exchange Wire)} {result : Except ScriptFault String}

section

variable {α : Type} {what endpoint : String} {parameters : List (String × String)}
  {ended : Remote.Status → Option (Except ScriptFault α)} {outcome : Except ScriptFault α}

theorem PollEnded.behind (front : List (Exchange Wire))
    (h : c.PollEnded deadline what endpoint parameters ended exchanges outcome) :
    c.PollEnded deadline what endpoint parameters ended (front ++ exchanges) outcome := by
  cases h with
  | unread before hr =>
    rw [← List.append_assoc]
    exact .unread _ hr
  | ended before hr he =>
    rw [← List.append_assoc]
    exact .ended _ hr he
  | overdue before hr he known passed =>
    rw [← List.append_assoc]
    exact .overdue _ hr he known passed

theorem Polled.ends {patience : Nat}
    (h : c.Polled deadline what endpoint parameters ended patience exchanges (some outcome)) :
    c.PollEnded deadline what endpoint parameters ended exchanges outcome := by
  generalize ho : some outcome = awaited at h
  induction h with
  | unfinished => cases ho
  | unread hr =>
    cases ho
    exact .unread [] hr
  | ended hr he =>
    cases ho
    exact .ended [] hr he
  | overdue hr he late =>
    cases ho
    obtain ⟨limit, known, passed⟩ := Instant.leftUntil_eq_zero_iff.mp late
    exact .overdue [] hr he known passed
  | again _ _ _ _ ih => exact (ih ho).behind [_, _, _]

end

theorem Settled.behind (front : List (Exchange Wire))
    (h : c.Settled cluster script exchanges result) :
    c.Settled cluster script (front ++ exchanges) result := by
  cases h with
  | noContext before settles =>
    rw [← List.append_assoc]
    exact .noContext _ settles
  | inContext settles =>
    rw [← List.append_assoc]
    exact .inContext settles

theorem GaveUp.behind (front : List (Exchange Wire)) (h : c.GaveUp cluster deadline exchanges result) :
    c.GaveUp cluster deadline (front ++ exchanges) result := by
  cases h with
  | onContext hr he known passed =>
    rw [← List.append_assoc]
    exact .onContext hr he known passed
  | onCommand hr he known passed =>
    rw [← List.append_assoc]
    exact .onCommand hr he known passed

/-- A script whose context did not come to run ends with the wait for it. -/
theorem PollEnded.ofContext {fault : ScriptFault}
    (h : c.PollEnded deadline "execution context" "/api/1.2/contexts/status"
      [("clusterId", cluster), ("contextId", context)] (contextEnd context) exchanges
      (.error fault))
    (last : Except String Reply) :
    c.Settled cluster script
        (exchanges ++ [⟨.send (c.contextDestroying cluster context), last⟩]) (.error fault) ∨
      c.GaveUp cluster deadline
        (exchanges ++ [⟨.send (c.contextDestroying cluster context), last⟩]) (.error fault) := by
  generalize hf : (.error fault : Except ScriptFault Unit) = failed at h
  cases h with
  | unread before hr =>
    cases hf
    rw [List.append_assoc]
    exact .inl (.inContext (.contextUnread hr))
  | ended before hr he =>
    cases hf
    rw [List.append_assoc]
    exact .inl (.inContext (.contextFailed hr he))
  | overdue before hr he known passed =>
    cases hf
    rw [List.append_assoc]
    exact .inr (.onContext hr he known passed)

/-- A script that was accepted ends with the wait for its command. -/
theorem PollEnded.ofCommand {command : String}
    (h : c.PollEnded deadline "remote command" "/api/1.2/commands/status"
      [("clusterId", cluster), ("contextId", context), ("commandId", command)]
      (c.scriptEnd command) exchanges result)
    (last : Except String Reply) :
    c.Settled cluster script
        (exchanges ++ [⟨.send (c.contextDestroying cluster context), last⟩]) result ∨
      c.GaveUp cluster deadline
        (exchanges ++ [⟨.send (c.contextDestroying cluster context), last⟩]) result := by
  cases h with
  | unread before hr =>
    rw [List.append_assoc]
    exact .inl (.inContext (.commandUnread hr))
  | ended before hr he =>
    rw [List.append_assoc]
    exact .inl (.inContext (.commandEnded hr he))
  | overdue before hr he known passed =>
    rw [List.append_assoc]
    exact .inr (.onCommand hr he known passed)

/-- A script whose context was made has ended with a reply or given up before the context was
destroyed. -/
theorem TimedIn.ends (h : c.TimedIn deadline cluster context script exchanges (some result))
    (last : Except String Reply) :
    c.Settled cluster script
        (exchanges ++ [⟨.send (c.contextDestroying cluster context), last⟩]) result ∨
      c.GaveUp cluster deadline
        (exchanges ++ [⟨.send (c.contextDestroying cluster context), last⟩]) result := by
  generalize ho : some result = outcome at h
  cases h with
  | notRunning fault looked =>
    cases fault with
    | none => cases ho
    | some fault =>
      cases ho
      exact (Polled.ends looked).ofContext last
  | refused _ hr =>
    cases ho
    rw [List.append_assoc]
    exact .inl (.inContext (.scriptRefused hr))
  | @accepted looks more reply _ _ _ _ later =>
    subst ho
    have front : (looks ++ ⟨.send (c.submission cluster context script), reply⟩ :: more) ++
          [⟨.send (c.contextDestroying cluster context), last⟩] =
        (looks ++ [⟨.send (c.submission cluster context script), reply⟩]) ++
          (more ++ [⟨.send (c.contextDestroying cluster context), last⟩]) := by simp
    rw [front]
    exact (later.ends.ofCommand last).imp (.behind _) (.behind _)

theorem Timed.ends {started : Instant} (h : c.Timed cluster script started exchanges (some result)) :
    c.Settled cluster script exchanges result ∨
      c.GaveUp cluster (started.after? c.commandLimit) exchanges result := by
  generalize ho : some result = outcome at h
  cases h with
  | noContext hr =>
    cases ho
    exact .inl ((Settled.noContext [_] (.contextRefused hr)))
  | unfinished => cases ho
  | @destroyed reply last context inner outcome hr inside =>
    cases ho
    exact (inside.ends last).imp (.behind [_, _]) (.behind [_, _])

end

/-! ## Who says that the time is over -/

/-- The reply says this itself: it refuses a message in these words, or tells of a command that
complains of this. -/
inductive Quotes (c : Client) : Except String Reply → String → Prop
  | refused {reply : Reply} : reply.isSuccess = false → Quotes c (.ok reply) (explanation reply)
  | complained {reply : Except String Reply} {status : Remote.Status} :
    c.reading "/api/1.2/commands/status" Remote.status? reply = .ok status →
    (status.results.getD {}).kind = "error" →
    Quotes c reply (status.results.getD {}).complaint

theorem begins_lateness (c : Client) (what : String) :
    Text.Begins (c.lateness what).message 't' := by
  have timeout : Text.Begins "timeout after " 't' := by decide
  exact ((timeout.append _).append _).append _

/-- A reply that is not understood does not say that the time is over unless it is a refusal in these
words. -/
theorem quotes_of_unread {c : Client} {α : Type} {endpoint : String} {read : Json → Option α}
    {reply : Except String Reply} {fault : WorkspaceFault}
    (hr : c.reading endpoint read reply = .error fault)
    (late : Text.Begins fault.scriptFault.message 't') :
    c.Quotes reply fault.scriptFault.message := by
  cases reply with
  | error reason =>
    cases hr
    have sending : Text.Begins "request to " 'r' := by decide
    exact absurd rfl ((((sending.append _).append _).append _).ne late (by decide))
  | ok reply =>
    cases success : reply.isSuccess with
    | false =>
      cases (reading_of_refused c rfl success endpoint read).symm.trans hr
      exact .refused success
    | true =>
      simp only [reading, understand, success, Bool.not_true, Bool.false_eq_true, if_false] at hr
      split at hr
      · cases hr
      · cases hr
        have decoding : Text.Begins "failed to decode response from " 'f' := by decide
        exact absurd rfl ((((decoding.append _).append _).append _).ne late (by decide))

/-- A command complains in the words of its results, or has been cancelled. -/
theorem fault_of_scriptEnd {c : Client} {command : String} {status : Remote.Status}
    {fault : ScriptFault}
    (h : c.scriptEnd command status = some (.error fault)) :
    (status.results.getD {}).kind = "error" ∧ fault = ⟨(status.results.getD {}).complaint⟩ ∨
      fault = ⟨"command " ++ command ++ " was cancelled"⟩ := by
  by_cases label : status.label = "Finished" ∨ status.label = "Error"
  · have outcome := Option.some.inj ((scriptEnd_of_label label command).symm.trans h)
    unfold told at outcome
    dsimp only at outcome
    split at outcome
    · cases outcome
      exact .inl ⟨‹_›, rfl⟩
    · cases outcome
  · unfold scriptEnd at h
    split at h
    · exact absurd (.inl ‹_›) label
    · exact absurd (.inr ‹_›) label
    · cases h
      exact .inr rfl
    · cases h
      exact .inr rfl
    · cases h

theorem fault_of_contextEnd {context : String} {status : Remote.Status} {fault : ScriptFault}
    (h : contextEnd context status = some (.error fault)) :
    fault = ⟨"execution context " ++ context ++ " failed to start"⟩ := by
  unfold contextEnd at h
  split at h
  · cases h
  · cases h
    rfl
  · cases h

theorem Settles.quotes {c : Client} {cluster script : String} {message : Message}
    {reply : Except String Reply} {fault : ScriptFault}
    (h : c.Settles cluster script message reply (.error fault))
    (late : Text.Begins fault.message 't') : c.Quotes reply fault.message := by
  generalize hf : (.error fault : Except ScriptFault String) = outcome at h
  cases h with
  | contextRefused hr | contextUnread hr | scriptRefused hr | commandUnread hr =>
    cases hf
    exact quotes_of_unread hr late
  | contextFailed hr he =>
    cases hf
    have failing : Text.Begins "execution context " 'e' := by decide
    rw [fault_of_contextEnd he] at late
    exact absurd rfl (((failing.append _).append _).ne late (by decide))
  | commandEnded hr he =>
    subst hf
    rcases fault_of_scriptEnd he with ⟨kind, rfl⟩ | rfl
    · exact .complained hr kind
    · have cancelling : Text.Begins "command " 'c' := by decide
      exact absurd rfl (((cancelling.append _).append _).ne late (by decide))

/-- Who says that the time is over has given up, or passes on what a reply has said. -/
theorem Settled.quoted {c : Client} {cluster script what : String}
    {exchanges : List (Exchange Wire)}
    (h : c.Settled cluster script exchanges (.error (c.lateness what))) :
    ∃ letter ∈ mail exchanges, c.Quotes letter.reply (c.lateness what).message := by
  generalize ho : (.error (c.lateness what) : Except ScriptFault String) = outcome at h
  cases h with
  | @noContext before reply _ settles =>
    subst ho
    exact ⟨⟨c.contextMaking cluster, reply⟩, by simp [mail, Exchange.letter?],
      settles.quotes (begins_lateness c what)⟩
  | @inContext before message reply _ _ _ settles =>
    subst ho
    exact ⟨⟨message, reply⟩, by simp [mail, Exchange.letter?],
      settles.quotes (begins_lateness c what)⟩

theorem GaveUp.known {c : Client} {cluster : String} {deadline : Option Instant}
    {exchanges : List (Exchange Wire)} {result : Except ScriptFault String}
    (h : c.GaveUp cluster deadline exchanges result) : deadline ≠ none := by
  cases h with
  | onContext _ _ known => rw [known]; exact Option.some_ne_none _
  | onCommand _ _ known => rw [known]; exact Option.some_ne_none _

end RemoteMounts.Client
