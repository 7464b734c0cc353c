import RemoteMounts.Workspace.Client

/-!
# Running scripts in a workspace

A script runs in a context of its own, which is made for it and destroyed when it has ended, however
it ended.  The context and the script are asked for until they have come to an end or the time for
both together is over.
-/

namespace RemoteMounts.Client

def language : String := "python"

variable (c : Client)

/-- Asks an endpoint for the status of something until it has come to an end, for at most so many
questions.  The time is over when nothing is left until the deadline; until then there is a pause
between two questions, not longer than the time that is left. -/
def poll {α : Type} (deadline : Option Instant) (what endpoint : String)
    (parameters : List (String × String))
    (ended : Remote.Status → Option (Except ScriptFault α)) :
    (patience : Nat) → Dialogue Wire (Except ScriptFault α)
  | 0 => .cut
  | patience + 1 => do
    match ← c.get endpoint parameters Remote.status? with
    | .error f => return .error f.scriptFault
    | .ok status =>
      match ended status with
      | some outcome => return outcome
      | none =>
        let left := Instant.leftUntil deadline (← Wire.ask .now)
        if left = Duration.zero then
          return .error (WorkspaceFault.stillWaiting what c.commandLimit.seconds).scriptFault
        else
          Wire.ask (.pause (c.commandInterval.shorter left))
          poll deadline what endpoint parameters ended patience

/-- The end of a context's start. -/
def contextEnd (context : String) (s : Remote.Status) : Option (Except ScriptFault Unit) :=
  match s.label with
  | "Running" => some (.ok ())
  | "Error" => some (.error ⟨"execution context " ++ context ++ " failed to start"⟩)
  | _ => none

/-- The end of a script. -/
def scriptEnd (command : String) (s : Remote.Status) : Option (Except ScriptFault String) :=
  match s.label with
  | "Finished" | "Error" =>
    match (s.results.getD {}).output c.scribe.layout with
    | .ok text => some (.ok text)
    | .error complaint => some (.error ⟨complaint⟩)
  | "Cancelled" | "Cancelling" => some (.error ⟨"command " ++ command ++ " was cancelled"⟩)
  | _ => none

def createContext (cluster : String) : Dialogue Wire (Except WorkspaceFault String) :=
  c.post "/api/1.2/contexts/create"
    (.table [("clusterId", .text cluster), ("language", .text language)]) (Remote.idUnder? "id")

def awaitContext (deadline : Option Instant) (cluster context : String) :
    Dialogue Wire (Except ScriptFault Unit) :=
  c.poll deadline "execution context" "/api/1.2/contexts/status"
    [("clusterId", cluster), ("contextId", context)] (contextEnd context) c.patience

def submit (cluster context script : String) : Dialogue Wire (Except WorkspaceFault String) :=
  c.post "/api/1.2/commands/execute"
    (.table
      [("clusterId", .text cluster), ("contextId", .text context), ("language", .text language),
        ("command", .text script)])
    (Remote.idUnder? "id")

def awaitScript (deadline : Option Instant) (cluster context command : String) :
    Dialogue Wire (Except ScriptFault String) :=
  c.poll deadline "remote command" "/api/1.2/commands/status"
    [("clusterId", cluster), ("contextId", context), ("commandId", command)] (c.scriptEnd command)
    c.patience

def destroyContext (cluster context : String) : Dialogue Wire (Except WorkspaceFault Unit) :=
  c.post "/api/1.2/contexts/destroy"
    (.table [("clusterId", .text cluster), ("contextId", .text context)]) Remote.done?

/-- Runs a script in a context that has been made. -/
def runIn (deadline : Option Instant) (cluster context script : String) :
    Dialogue Wire (Except ScriptFault String) := do
  match ← c.awaitContext deadline cluster context with
  | .error f => return .error f
  | .ok _ =>
    match ← c.submit cluster context script with
    | .error f => return .error f.scriptFault
    | .ok command => c.awaitScript deadline cluster context command

/-- Runs a script on a cluster.  Whether its context could be destroyed does not matter. -/
def runScript (cluster script : String) : Dialogue Wire (Except ScriptFault String) := do
  let started ← Wire.ask .now
  match ← c.createContext cluster with
  | .error f => return .error f.scriptFault
  | .ok context =>
    let outcome ← c.runIn (started.after? c.commandLimit) cluster context script
    let _ ← c.destroyContext cluster context
    return outcome

end RemoteMounts.Client
