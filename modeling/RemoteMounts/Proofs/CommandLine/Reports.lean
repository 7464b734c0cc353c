import RemoteMounts.Proofs.CommandLine.Loading

/-!
# What the program asks and reports

A run goes through three stages, each of which may end it: the invocation is admitted, by its
declaration or by its ARN (`Admission`); a client of the workspace is made of the settings
(`Connection`); and the operation is done over the wire (`Gives`).  The first two always come to an
end, so what is asked in a run and what it reports are known from the stages
(`report_tells_stage`).
-/

namespace RemoteMounts

/-! ## Tasks -/

/-- What is to be done for an invocation that makes sense. -/
inductive Task
  | mount (verb : MountVerb) (request : Request)
  | unregister (arn : ProfileArn)

namespace Task

/-- What the operation of a task answers. -/
@[reducible]
def Answer : Task → Type
  | mount .create _ => Except MountFailure Receipt
  | mount .read _ => Except MountFailure Found
  | mount .delete _ => Except MountFailure Unit
  | unregister _ => Except ProfileFault Unit

def operation (w : Workflow) : (task : Task) → Errand task.Answer
  | mount .create request => w.create request
  | mount .read request => w.read request
  | mount .delete request => w.delete request
  | unregister arn => Workflow.unregister arn

/-- The fault that an answer is, unless the operation went well. -/
def fault? : (task : Task) → task.Answer → Option InvocationFault
  | mount .create _, .error e => some (.mount e)
  | mount .read _, .error e => some (.mount e)
  | mount .delete _, .error e => some (.mount e)
  | unregister _, .error e => some (.profile e)
  | mount .create _, .ok _ => none
  | mount .read _, .ok _ => none
  | mount .delete _, .ok _ => none
  | unregister _, .ok _ => none

def report : (task : Task) → task.Answer → Report
  | mount .create _, .ok receipt =>
    .success ("mount_point = " ++ receipt.name.path ++ "\n" ++
      "cluster_id = " ++ receipt.cluster ++ "\n" ++ "source = " ++ receipt.source ++ "\n")
  | mount .read _, .ok (.mounted source) => .success (source ++ "\n")
  | mount .read request, .ok .absent => .absent request.name.path
  | mount .delete request, .ok _ => .success ("removed " ++ request.name.path ++ "\n")
  | unregister arn, .ok _ => .success ("unregistered " ++ arn.text ++ "\n")
  | mount .create _, .error e => .failure (.mount e)
  | mount .read _, .error e => .failure (.mount e)
  | mount .delete _, .error e => .failure (.mount e)
  | unregister _, .error e => .failure (.profile e)

/-- An operation that fails is reported by its fault. -/
theorem report_of_fault? {task : Task} {answer : task.Answer} {fault : InvocationFault}
    (h : task.fault? answer = some fault) : task.report answer = .failure fault := by
  rcases task with ⟨_ | _ | _, request⟩ | arn
  all_goals
    cases answer with
    | error e =>
      cases h
      rfl
    | ok _ => cases h

end Task

namespace Invocation

/-! ## The stages of a run -/

section

variable {σ : Type} (r : Respondent Desk σ) (site : Site)

/-- The first stage: what the invocation is about is made out, before anything else is looked at. -/
inductive Admission (s : σ) : Invocation → Except InvocationFault Task → σ → Prop
  | undeclared {verb : MountVerb} {file : String} {chosen : Option String}
    {fault : DeclarationFault} {t : σ} :
    Dialogue.run r.party (Desk.files (Declaration.load file site.scribe)) s =
      (some (.error fault), t) →
    Admission s (.mount verb file chosen) (.error (.declaration fault)) t
  | rejected {verb : MountVerb} {file : String} {chosen : Option String} {d : Declaration}
    {cause : Invalid} {t : σ} :
    Dialogue.run r.party (Desk.files (Declaration.load file site.scribe)) s = (some (.ok d), t) →
    d.requestOn chosen = .error cause →
    Admission s (.mount verb file chosen) (.error (.invalid cause)) t
  | requested {verb : MountVerb} {file : String} {chosen : Option String} {d : Declaration}
    {request : Request} {t : σ} :
    Dialogue.run r.party (Desk.files (Declaration.load file site.scribe)) s = (some (.ok d), t) →
    d.requestOn chosen = .ok request →
    Admission s (.mount verb file chosen) (.ok (.mount verb request)) t
  | malformed {text : String} {cause : Invalid} :
    ProfileArn.parse text = .error cause →
    Admission s (.unregister text) (.error (.invalid cause)) s
  | parsed {text : String} {arn : ProfileArn} :
    ProfileArn.parse text = .ok arn → Admission s (.unregister text) (.ok (.unregister arn)) s

/-- The second stage: the settings are loaded and checked, and a client is made of them. -/
inductive Connection (s : σ) : Except InvocationFault (Client × Workflow) → σ → Prop
  | unloaded {fault : SettingsFault} {t : σ} :
    Dialogue.run r.party (Desk.files (Settings.load site.environment site.scribe)) s =
      (some (.error fault), t) →
    Connection s (.error (.settings fault)) t
  | unsound {settings : Settings} {fault : SettingsFault} {t : σ} :
    Dialogue.run r.party (Desk.files (Settings.load site.environment site.scribe)) s =
      (some (.ok settings), t) →
    settings.check = .error fault → Connection s (.error (.settings fault)) t
  | unbuilt {settings : Settings} {reason : String} {t : σ} :
    Dialogue.run r.party (Desk.files (Settings.load site.environment site.scribe)) s =
      (some (.ok settings), t) →
    settings.check = .ok () → site.transport = .error reason →
    Connection s (.error (.workspace (.noClient reason))) t
  | built {settings : Settings} {t : σ} :
    Dialogue.run r.party (Desk.files (Settings.load site.environment site.scribe)) s =
      (some (.ok settings), t) →
    settings.check = .ok () → site.transport = .ok () →
    Connection s (.ok (Client.ofSettings settings patience site.scribe, workflow settings)) t

def declaring (s : σ) : Invocation → List (Exchange Desk)
  | .mount _ file _ => Dialogue.transcript r (Desk.files (Declaration.load file site.scribe)) s
  | .unregister _ => []

def configuring (s : σ) : List (Exchange Desk) :=
  Dialogue.transcript r (Desk.files (Settings.load site.environment site.scribe)) s

def operating (client : Client) (w : Workflow) (task : Task) : Dialogue Desk task.Answer :=
  Desk.wire (client.perform (task.operation w))

/-- The run gets to the operation of the task, which the client begins in the state `u`. -/
def Starts (s : σ) (i : Invocation) (task : Task) (client : Client) (w : Workflow) (u : σ) : Prop :=
  ∃ t, Admission r site s i (.ok task) t ∧ Connection r site t (.ok (client, w)) u

/-- How far a run gets. -/
inductive Course (s : σ) (i : Invocation) : Prop
  | refused {fault : InvocationFault} {t : σ} : Admission r site s i (.error fault) t → Course s i
  | unconnected {task : Task} {fault : InvocationFault} {t u : σ} :
    Admission r site s i (.ok task) t → Connection r site t (.error fault) u → Course s i
  | started {task : Task} {client : Client} {w : Workflow} {t u : σ} :
    Admission r site s i (.ok task) t → Connection r site t (.ok (client, w)) u → Course s i

/-- The operation of the task is done and gives the answer. -/
def Gives (s : σ) (i : Invocation) (task : Task) (answer : task.Answer) : Prop :=
  ∃ client w u, Starts r site s i task client w u ∧
    (Dialogue.run r.party (operating client w task) u).1 = some answer

inductive Fails (s : σ) (i : Invocation) : InvocationFault → Prop
  | refused {fault : InvocationFault} {t : σ} :
    Admission r site s i (.error fault) t → Fails s i fault
  | unconnected {task : Task} {fault : InvocationFault} {t u : σ} :
    Admission r site s i (.ok task) t → Connection r site t (.error fault) u → Fails s i fault
  | failed {task : Task} {answer : task.Answer} {fault : InvocationFault} :
    Gives r site s i task answer → task.fault? answer = some fault → Fails s i fault

/-- The operation that the invocation is about goes well; of a mount that is read, its source is
written out. -/
def Succeeds (s : σ) (i : Invocation) (out : String) : Prop :=
  match i with
  | .mount .create file chosen =>
    ∃ request receipt,
      Gives r site s (.mount .create file chosen) (.mount .create request) (.ok receipt)
  | .mount .read file chosen =>
    ∃ request source,
      Gives r site s (.mount .read file chosen) (.mount .read request) (.ok (.mounted source)) ∧
        out = source ++ "\n"
  | .mount .delete file chosen =>
    ∃ request, Gives r site s (.mount .delete file chosen) (.mount .delete request) (.ok ())
  | .unregister text => ∃ arn, Gives r site s (.unregister text) (.unregister arn) (.ok ())

end

/-! ## Every run goes through them -/

/-- What the loading of a declaration comes to. -/
def admitted (verb : MountVerb) (chosen : Option String) :
    Except DeclarationFault Declaration → Except InvocationFault Task
  | .error fault => .error (.declaration fault)
  | .ok d =>
    match d.requestOn chosen with
    | .error cause => .error (.invalid cause)
    | .ok request => .ok (.mount verb request)

/-- What the reading of an ARN comes to. -/
def recognized : Except Invalid ProfileArn → Except InvocationFault Task
  | .error cause => .error (.invalid cause)
  | .ok arn => .ok (.unregister arn)

def admitting (site : Site) : Invocation → Dialogue Desk (Except InvocationFault Task)
  | .mount verb file chosen =>
    Desk.files (Declaration.load file site.scribe) >>= fun loaded =>
      .done (admitted verb chosen loaded)
  | .unregister text => .done (recognized (ProfileArn.parse text))

/-- What the loading of settings comes to. -/
def connected (site : Site) :
    Except SettingsFault Settings → Except InvocationFault (Client × Workflow)
  | .error fault => .error (.settings fault)
  | .ok settings =>
    match settings.check with
    | .error fault => .error (.settings fault)
    | .ok _ =>
      match client site settings with
      | .error fault => .error (.workspace fault)
      | .ok client => .ok (client, workflow settings)

theorem connect_eq (site : Site) :
    connect site =
      Desk.files (Settings.load site.environment site.scribe) >>= fun loaded =>
        .done (connected site loaded) := by
  unfold connect loadSettings
  rw [bind_assoc]
  apply bind_congr
  intro loaded
  cases loaded with
  | error fault => rfl
  | ok settings =>
    dsimp only [connected]
    cases settings.check with
    | error fault => rfl
    | ok _ =>
      change (match client site settings with | .error fault => _ | .ok client => _) = _
      cases client site settings <;> rfl

def serve (task : Task) : Except InvocationFault (Client × Workflow) → Dialogue Desk Report
  | .error fault => .done (.failure fault)
  | .ok (client, w) => operating client w task >>= fun answer => .done (task.report answer)

/-- The stages that follow the first one. -/
def proceed (site : Site) : Except InvocationFault Task → Dialogue Desk Report
  | .error fault => .done (.failure fault)
  | .ok task => connect site >>= serve task

theorem wire_perform_bind {α β : Type} (client : Client) (errand : Errand α)
    (next : α → Errand β) :
    Desk.wire (client.perform (errand >>= next)) =
      Desk.wire (client.perform errand) >>= fun a => Desk.wire (client.perform (next a)) := by
  unfold Client.perform
  rw [Dialogue.relay_bind, Desk.wire_bind]

/-- What is done with a mount is reported of its operation. -/
theorem perform_eq_serve (client : Client) (w : Workflow) (verb : MountVerb) (request : Request) :
    (Desk.wire (client.perform (perform w request verb)) >>= fun
      | .error e => .done (Report.failure (.mount e))
      | .ok report => .done report) =
    serve (.mount verb request) (.ok (client, w)) := by
  cases verb with
  | create =>
    rw [perform, wire_perform_bind, bind_assoc, serve]
    apply bind_congr
    intro answer
    cases answer with
    | error e => rfl
    | ok receipt => rfl
  | read =>
    rw [perform, wire_perform_bind, bind_assoc, serve]
    apply bind_congr
    intro answer
    rcases answer with e | source | _
    · rfl
    · rfl
    · rfl
  | delete =>
    rw [perform, wire_perform_bind, bind_assoc, serve]
    apply bind_congr
    intro answer
    cases answer with
    | error e => rfl
    | ok _ => rfl

/-- A run is its stages, one after the other. -/
theorem run_eq (site : Site) (i : Invocation) : i.run site = admitting site i >>= proceed site := by
  cases i with
  | mount verb file chosen =>
    rw [run, dispatch, runMount, loadRequest, admitting]
    rw [bind_assoc, bind_assoc, bind_assoc]
    apply bind_congr
    intro loaded
    cases loaded with
    | error fault => exact Eq.refl (Dialogue.done (Report.failure (.declaration fault)))
    | ok d =>
      dsimp only [admitted]
      generalize d.requestOn chosen = requested
      cases requested with
      | error cause => exact Eq.refl (Dialogue.done (Report.failure (.invalid cause)))
      | ok request =>
        dsimp only [Dialogue.pure_eq_done, Dialogue.done_bind, proceed]
        rw [bind_assoc]
        apply bind_congr
        intro connection
        rcases connection with fault | ⟨client, w⟩
        · rfl
        · dsimp only
          rw [bind_assoc, ← perform_eq_serve]
          apply bind_congr
          intro answer
          cases answer with
          | error e => rfl
          | ok report => rfl
  | unregister text =>
    rewrite [run, dispatch, admitting]
    unfold runUnregister
    -- Nothing is known of the text: what comes of reading it takes the place of the reading, which
    -- would be unfolded below otherwise.
    generalize ProfileArn.parse text = parsed
    cases parsed with
    | error cause => exact Eq.refl (Dialogue.done (Report.failure (.invalid cause)))
    | ok arn =>
      dsimp only [Dialogue.pure_eq_done, Dialogue.done_bind, recognized, proceed]
      rw [bind_assoc]
      apply bind_congr
      intro connection
      rcases connection with fault | ⟨client, w⟩
      · rfl
      · dsimp only
        rw [bind_assoc]
        apply bind_congr
        intro answer
        cases answer with
        | error e => rfl
        | ok _ => rfl

section

variable {σ : Type} {r : Respondent Desk σ} {site : Site} {s t u : σ} {i : Invocation}

theorem Admission.run_eq {x : Except InvocationFault Task} (h : Admission r site s i x t) :
    Dialogue.run r.party (admitting site i) s = (some x, t) := by
  cases h with
  | undeclared loaded => rw [admitting, Dialogue.run_bind_done, loaded]; rfl
  | rejected loaded rejected =>
    rw [admitting, Dialogue.run_bind_done, loaded]
    dsimp only [Option.map_some, admitted]
    rw [rejected]
  | requested loaded requested =>
    rw [admitting, Dialogue.run_bind_done, loaded]
    dsimp only [Option.map_some, admitted]
    rw [requested]
  | malformed malformed => rw [admitting, malformed]; rfl
  | parsed parsed => rw [admitting, parsed]; rfl

theorem Connection.run_eq {x : Except InvocationFault (Client × Workflow)}
    (h : Connection r site s x t) : Dialogue.run r.party (connect site) s = (some x, t) := by
  rw [connect_eq, Dialogue.run_bind_done]
  cases h with
  | unloaded loaded => rw [loaded]; rfl
  | unsound loaded unsound =>
    rw [loaded]
    simp only [Option.map_some, connected, unsound]
  | unbuilt loaded sound unbuilt =>
    rw [loaded]
    simp only [Option.map_some, connected, sound, client, unbuilt]
  | built loaded sound built =>
    rw [loaded]
    simp only [Option.map_some, connected, sound, client, built]

variable (r site s i)

theorem transcript_admitting :
    Dialogue.transcript r (admitting site i) s = declaring r site s i := by
  cases i with
  | mount verb file chosen => exact Dialogue.transcript_bind_done r _ _ s
  | unregister text => rfl

theorem transcript_connect :
    Dialogue.transcript r (connect site) s = configuring r site s := by
  rw [connect_eq, Dialogue.transcript_bind_done, configuring]

variable {r site s i}

/-- After the first stage a run goes on as the stages that follow. -/
theorem run_of_admission {x : Except InvocationFault Task} (h : Admission r site s i x t) :
    Dialogue.transcript r (i.run site) s =
        declaring r site s i ++ Dialogue.transcript r (proceed site x) t ∧
      Dialogue.run r.party (i.run site) s = Dialogue.run r.party (proceed site x) t := by
  rw [Invocation.run_eq, Dialogue.transcript_bind_of_run r h.run_eq, transcript_admitting,
    Dialogue.run_bind, h.run_eq]
  exact ⟨rfl, rfl⟩

/-- After the second stage a run goes on as the last one. -/
theorem run_of_connection {task : Task} {x : Except InvocationFault (Client × Workflow)}
    (h : Admission r site s i (.ok task) t) (h' : Connection r site t x u) :
    Dialogue.transcript r (i.run site) s =
        declaring r site s i ++ configuring r site t ++ Dialogue.transcript r (serve task x) u ∧
      Dialogue.run r.party (i.run site) s = Dialogue.run r.party (serve task x) u := by
  rw [(run_of_admission h).1, (run_of_admission h).2, proceed,
    Dialogue.transcript_bind_of_run r h'.run_eq, transcript_connect, Dialogue.run_bind, h'.run_eq,
    List.append_assoc]
  exact ⟨rfl, rfl⟩

/-- A run that is not admitted asks no more than what it takes to find out. -/
theorem run_refused {fault : InvocationFault} (h : Admission r site s i (.error fault) t) :
    Dialogue.transcript r (i.run site) s = declaring r site s i ∧
      (Dialogue.run r.party (i.run site) s).1 = some (.failure fault) := by
  rw [(run_of_admission h).1, (run_of_admission h).2]
  exact ⟨List.append_nil _, rfl⟩

/-- A run without a client asks no more than what it takes to make one. -/
theorem run_unconnected {task : Task} {fault : InvocationFault}
    (h : Admission r site s i (.ok task) t)
    (h' : Connection r site t (.error fault) u) :
    Dialogue.transcript r (i.run site) s = declaring r site s i ++ configuring r site t ∧
      (Dialogue.run r.party (i.run site) s).1 = some (.failure fault) := by
  rw [(run_of_connection h h').1, (run_of_connection h h').2]
  exact ⟨List.append_nil _, rfl⟩

/-- A run with a client is done as its operation is. -/
theorem run_operated {task : Task} {client : Client} {w : Workflow}
    (h : Admission r site s i (.ok task) t) (h' : Connection r site t (.ok (client, w)) u) :
    Dialogue.transcript r (i.run site) s =
        declaring r site s i ++ configuring r site t ++
          Dialogue.transcript r (operating client w task) u ∧
      (Dialogue.run r.party (i.run site) s).1 =
        (Dialogue.run r.party (operating client w task) u).1.map task.report := by
  rw [(run_of_connection h h').1, (run_of_connection h h').2, serve,
    Dialogue.transcript_bind_done, Dialogue.run_bind_done]
  exact ⟨rfl, rfl⟩

/-! ## What the report tells -/

/-- An answer of the operation is what is reported. -/
theorem Gives.run_eq {task : Task} {answer : task.Answer} (h : Gives r site s i task answer) :
    (Dialogue.run r.party (i.run site) s).1 = some (task.report answer) := by
  obtain ⟨client, w, u, ⟨t, admission, connection⟩, told⟩ := h
  rw [(run_operated admission connection).2, told]
  rfl

/-- A fault of a stage is what is reported. -/
theorem Fails.run_eq {fault : InvocationFault} (h : Fails r site s i fault) :
    (Dialogue.run r.party (i.run site) s).1 = some (.failure fault) := by
  cases h with
  | refused admission => exact (run_refused admission).2
  | unconnected admission connection => exact (run_unconnected admission connection).2
  | failed gives failed => rw [gives.run_eq, Task.report_of_fault? failed]

/-- The command on a mount is the one that was given. -/
theorem Admission.verb {verb : MountVerb} {request : Request}
    (h : Admission r site s i (.ok (.mount verb request)) t) :
    ∃ file chosen, i = .mount verb file chosen := by
  cases h with
  | requested loaded requested => exact ⟨_, _, rfl⟩

theorem Admission.arn {arn : ProfileArn} (h : Admission r site s i (.ok (.unregister arn)) t) :
    ∃ text, i = .unregister text := by
  cases h with
  | parsed parsed => exact ⟨_, rfl⟩

/-- A success is reported as one. -/
theorem Succeeds.run_eq {out : String} (h : Succeeds r site s i out) :
    ∃ written, (Dialogue.run r.party (i.run site) s).1 = some (.success written) := by
  rcases i with ⟨_ | _ | _, file, chosen⟩ | text
  · obtain ⟨request, receipt, gives⟩ := h
    exact ⟨_, gives.run_eq⟩
  · obtain ⟨request, source, gives, -⟩ := h
    exact ⟨_, gives.run_eq⟩
  · obtain ⟨request, gives⟩ := h
    exact ⟨_, gives.run_eq⟩
  · obtain ⟨arn, gives⟩ := h
    exact ⟨_, gives.run_eq⟩

end

end Invocation

end RemoteMounts
