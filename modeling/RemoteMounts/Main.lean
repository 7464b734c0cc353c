import RemoteMounts.CommandLine.Run

/-!
# The program

Answers the questions of an invocation from the files and the clock of the machine, writes its
report and ends with its code.  No message leaves the machine: the wire is not connected here, and
every message is answered by saying so.
-/

namespace RemoteMounts

def openDirectory (path : String) : IO (Except String Unit) := do
  try
    let _ ← IO.FS.realPath (path ++ "/.")
    return .ok ()
  catch e => return .error (toString e)

def readPath (path : String) : IO Reading := do
  try
    let bytes ← IO.FS.readBinFile path
    return match String.fromUTF8? bytes with
      | some s => .text s
      | none => .unreadable "stream did not contain valid UTF-8"
  catch e =>
    match e, ← openDirectory path with
    | .noFileOrDirectory .., _ | _, .ok _ => return .absent (toString e)
    | _, _ => return .unreadable (toString e)

def locatePath (path : String) : IO (Option String) := do
  match ← openDirectory path with
  | .ok _ => return none
  | .error _ =>
    try return some (← IO.FS.realPath path).toString
    catch _ => return none

def answerFiles : (q : FileQuestion) → IO q.Answer
  | .openDirectory path => openDirectory path
  | .locate path => locatePath path
  | .read path => readPath path

def answerWire (record : IO.Ref Once) : (q : WireQuestion) → IO q.Answer
  | .send _ => return .error "the wire is not connected"
  | .now => return ⟨← IO.monoNanosNow⟩
  | .pause span => IO.sleep (span.nanos / Nat.pow 10 6).toUInt32
  | .enter identity => do
    match (← record.get).enter identity with
    | (.recorded outcome, _) => return some outcome
    | (_, once) =>
      record.set once
      return none
  | .leave identity outcome => record.modify fun o => o.leave identity outcome

def answerDesk (record : IO.Ref Once) : (q : Desk.Question) → IO (Desk.Answer q)
  | .inl q => answerFiles q
  | .inr q => answerWire record q

def converse {α : Type} (record : IO.Ref Once) : Dialogue Desk α → IO (Option α)
  | .done a => return some a
  | .cut => return none
  | .ask q next => do converse record (next (← answerDesk record q))

/-- The variables of the environment that can matter. -/
def readEnvironment : IO Environment := do
  let names := ["HOME", "XDG_CONFIG_HOME", "XDG_CONFIG_DIRS", Settings.fileVariable] ++
    Settings.keys.map fun key => Setting.variableFront ++ Phase.upper key
  let values ← names.mapM fun name => return (name, ← IO.getEnv name)
  return .ofList (values.filterMap fun v => v.2.map (v.1, ·))

end RemoteMounts

open RemoteMounts in
def main (arguments : List String) : IO UInt32 := do
  let record ← IO.mkRef Keyed.empty
  let environment ← readEnvironment
  match ← converse record (Invocation.runArguments { environment } arguments) with
  | some report =>
    (← IO.getStdout).putStr report.out
    (← IO.getStderr).putStr report.err
    return report.code.toUInt32
  | none => return 1
