import RemoteMounts.CommandLine.Invocation
import RemoteMounts.Declaration.File
import RemoteMounts.Mount.Workflow
import RemoteMounts.Settings.Load
import RemoteMounts.Workspace.Answer

/-!
# Running an invocation

An invocation goes through stages, and the first that fails decides the report: its request is
loaded and checked, then the settings are loaded and checked and a client is built of them, and only
then is anything sent.  The report says what is to be written and with which code the program ends.
-/

namespace RemoteMounts

@[reducible]
def Interface.beside (I J : Interface) : Interface :=
  ⟨I.Question ⊕ J.Question, fun
    | .inl q => I.Answer q
    | .inr q => J.Answer q⟩

/-- What a program has at hand: files, and the wire to a workspace. -/
@[reducible]
def Desk : Interface :=
  Files.beside Wire

namespace Desk

def files {α : Type} (d : Dialogue Files α) : Dialogue Desk α :=
  d.relay fun q => Dialogue.put (I := Desk) (.inl q)

def wire {α : Type} (d : Dialogue Wire α) : Dialogue Desk α :=
  d.relay fun q => Dialogue.put (I := Desk) (.inr q)

end Desk

inductive InvocationFault
  | declaration (fault : DeclarationFault)
  | invalid (cause : Invalid)
  | settings (fault : SettingsFault)
  | workspace (fault : WorkspaceFault)
  | mount (failure : MountFailure)
  | profile (fault : ProfileFault)
deriving DecidableEq, Inhabited, Repr

def InvocationFault.message : InvocationFault → String
  | declaration fault => fault.message
  | invalid cause => "invalid mount declaration: " ++ cause.message
  | settings fault => "configuration error: " ++ fault.message
  | workspace fault => "workspace client error: " ++ fault.message
  | mount failure => failure.message
  | profile fault => fault.message

/-- How the program ends: its code, and what it writes to each of its outputs. -/
structure Report where
  code : UInt8
  out : String
  err : String
deriving DecidableEq, Inhabited, Repr

namespace Report

def success (out : String) : Report :=
  ⟨0, out, ""⟩

/-- Nothing is mounted at the path. -/
def absent (path : String) : Report :=
  ⟨3, "", path ++ " is not mounted\n"⟩

def failure (fault : InvocationFault) : Report :=
  ⟨1, "", fault.message ++ "\n"⟩

/-- The arguments make no sense. -/
def misuse : Report :=
  ⟨2, "", Invocation.usage⟩

end Report

/-- The request that is declared, on the cluster that is chosen instead unless the choice is blank.
The request must be sound as it is declared and as it is changed. -/
def Declaration.requestOn (d : Declaration) (chosen : Option String) : Except Invalid Request := do
  let declared ← d.request
  let r := { declared with cluster := (chosen.bind Text.filled?).or declared.cluster }
  r.check
  return r

/-- Where an invocation is run. -/
structure Site where
  environment : Environment
  /-- Whether messages can be sent from there at all, or why not. -/
  transport : Except String Unit := .ok ()
  /-- Whoever reads and writes documents there. -/
  scribe : Scribe := {}

namespace Invocation

/-- How often a cluster or a script is asked for at most: practically for ever. -/
def patience : Nat := Nat.pow 2 64

def loadRequest (site : Site) (file : String) (chosen : Option String) :
    Dialogue Desk (Except InvocationFault Request) := do
  match ← Desk.files (Declaration.load file site.scribe) with
  | .error fault => return .error (.declaration fault)
  | .ok d =>
    match d.requestOn chosen with
    | .error cause => return .error (.invalid cause)
    | .ok r => return .ok r

def loadSettings (site : Site) : Dialogue Desk (Except InvocationFault Settings) := do
  match ← Desk.files (Settings.load site.environment site.scribe) with
  | .error fault => return .error (.settings fault)
  | .ok s =>
    match s.check with
    | .error fault => return .error (.settings fault)
    | .ok _ => return .ok s

def workflow (s : Settings) : Workflow :=
  ⟨⟨s.template, s.backoff, patience⟩, s.registers⟩

def client (site : Site) (s : Settings) : Except WorkspaceFault Client :=
  match site.transport with
  | .error reason => .error (.noClient reason)
  | .ok _ => .ok (Client.ofSettings s patience site.scribe)

/-- What an operation needs: a client of the workspace and the workflow, by the settings. -/
def connect (site : Site) : Dialogue Desk (Except InvocationFault (Client × Workflow)) := do
  match ← loadSettings site with
  | .error fault => return .error fault
  | .ok s =>
    match client site s with
    | .error fault => return .error (.workspace fault)
    | .ok client => return .ok (client, workflow s)

def perform (w : Workflow) (r : Request) : MountVerb → Errand (Except MountFailure Report)
  | .create => do
    match ← w.create r with
    | .error e => return .error e
    | .ok receipt =>
      return .ok (.success ("mount_point = " ++ receipt.name.path ++ "\n" ++
        "cluster_id = " ++ receipt.cluster ++ "\n" ++ "source = " ++ receipt.source ++ "\n"))
  | .read => do
    match ← w.read r with
    | .error e => return .error e
    | .ok (.mounted source) => return .ok (.success (source ++ "\n"))
    | .ok .absent => return .ok (.absent r.name.path)
  | .delete => do
    match ← w.delete r with
    | .error e => return .error e
    | .ok _ => return .ok (.success ("removed " ++ r.name.path ++ "\n"))

def runMount (site : Site) (verb : MountVerb) (file : String) (chosen : Option String) :
    Dialogue Desk (Except InvocationFault Report) := do
  match ← loadRequest site file chosen with
  | .error fault => return .error fault
  | .ok r =>
    match ← connect site with
    | .error fault => return .error fault
    | .ok (client, w) =>
      match ← Desk.wire (client.perform (perform w r verb)) with
      | .error e => return .error (.mount e)
      | .ok report => return .ok report

def runUnregister (site : Site) (arn : String) :
    Dialogue Desk (Except InvocationFault Report) :=
  match ProfileArn.parse arn with
  | .error cause => return .error (.invalid cause)
  | .ok arn => do
    match ← connect site with
    | .error fault => return .error fault
    | .ok (client, _) =>
      match ← Desk.wire (client.perform (Workflow.unregister arn)) with
      | .error fault => return .error (.profile fault)
      | .ok _ => return .ok (.success ("unregistered " ++ arn.text ++ "\n"))

/-- Runs an invocation as far as its stages go. -/
def dispatch (site : Site) : Invocation → Dialogue Desk (Except InvocationFault Report)
  | .mount verb file chosen => runMount site verb file chosen
  | .unregister arn => runUnregister site arn

def run (site : Site) (i : Invocation) : Dialogue Desk Report := do
  match ← i.dispatch site with
  | .ok report => return report
  | .error fault => return .failure fault

def runArguments (site : Site) (arguments : List String) : Dialogue Desk Report :=
  match ofArguments? arguments with
  | some i => i.run site
  | none => return .misuse

end Invocation

end RemoteMounts
