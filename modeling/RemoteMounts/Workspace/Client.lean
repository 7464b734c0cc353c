import RemoteMounts.Scribe
import RemoteMounts.Settings.Basic
import RemoteMounts.Workspace.Fault
import RemoteMounts.Workspace.Form
import RemoteMounts.Workspace.Remote
import RemoteMounts.Workspace.Wire

/-!
# Clients of a workspace

A client sends messages to one workspace, with its token, and reads the replies.  A reply that means
success is read as what was asked for, an empty one as an empty object; any other is read as a
refusal, and if it is none its whole text is the message.
-/

namespace RemoteMounts

structure Client where
  /-- The URL of the workspace, without slashes at its end. -/
  base : String
  token : String
  /-- How long a script may run. -/
  commandLimit : Duration
  /-- How long to wait before a script is asked for again. -/
  commandInterval : Duration
  /-- How often a script is asked for at most. -/
  patience : Nat
  /-- Whoever reads the replies. -/
  scribe : Scribe := {}
deriving Inhabited

namespace Client

def make (url token : String) (commandLimit commandInterval : Duration) (patience : Nat)
    (scribe : Scribe := {}) : Client :=
  ⟨Settings.dropSlashes url, token, commandLimit, commandInterval, patience, scribe⟩

/-- The client that the settings describe; it asks for a script once a second. -/
def ofSettings (s : Settings) (patience : Nat) (scribe : Scribe := {}) : Client :=
  make s.baseUrl s.token s.commandLimit (.ofSeconds 1) patience scribe

variable (c : Client)

/-- What a reply that is no success says. -/
def refusal (endpoint : String) (r : Reply) : WorkspaceFault :=
  let said := ((Json.ofString? r.body).bind Remote.refusal?).getD {}
  .refused endpoint r.status said.code (if said.message = "" then r.body else said.message)

def understand {α : Type} (endpoint : String) (read : Json → Option α) (r : Reply) :
    Except WorkspaceFault α :=
  if !r.isSuccess then .error (refusal endpoint r)
  else
    match (Json.ofString? (if Text.trim r.body = "" then "\x7b\x7d" else r.body)).bind read with
    | some a => .ok a
    | none => .error (.undecoded endpoint (c.scribe.reply endpoint r.body))

def exchange {α : Type} (verb : Verb) (endpoint query body : String) (read : Json → Option α) :
    Dialogue Wire (Except WorkspaceFault α) := do
  match ← Wire.ask (.send ⟨verb, c.base, endpoint ++ query, c.token, body⟩) with
  | .error reason => return .error (.unsent endpoint reason)
  | .ok reply => return c.understand endpoint read reply

def get {α : Type} (endpoint : String) (parameters : List (String × String))
    (read : Json → Option α) : Dialogue Wire (Except WorkspaceFault α) :=
  let query := if parameters = [] then "" else "?" ++ Form.query parameters
  c.exchange .get endpoint query "" read

def post {α : Type} (endpoint : String) (body : Datum) (read : Json → Option α) :
    Dialogue Wire (Except WorkspaceFault α) :=
  c.exchange .post endpoint "" body.compact read

end Client

end RemoteMounts
