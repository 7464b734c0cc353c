import RemoteMounts.Scribe
import RemoteMounts.Settings.Document
import RemoteMounts.Settings.File
import RemoteMounts.Settings.Variable

/-!
# Loading settings

Settings come from three layers: what is set when nothing else is, the first file of settings that
can be read, and the variables of the environment.  A later layer replaces the values of an earlier
one.  A file that is not there or cannot be read is passed over, but if no file can be read, one
that was there and could not be is a fault.
-/

namespace RemoteMounts

abbrev Environment : Type :=
  Keyed String

namespace Settings

/-! ## The layers -/

/-- What is set when nothing else is. -/
def defaults : List (String × Datum) :=
  [("spark_version", .text "15.4.x-scala2.12"), ("node_type_id", .text "i3.xlarge"),
    ("autotermination_minutes", .int 10), ("provision_timeout_secs", .int 1200),
    ("poll_interval_secs", .int 10), ("max_poll_interval_secs", .int 60),
    ("command_timeout_secs", .int 600)]

/-- The dots and double underscores of a name as one mark between its steps. -/
def dotted : List Char → List Char
  | [] => []
  | '_' :: '_' :: cs => '.' :: dotted cs
  | c :: cs => c :: dotted cs

/-- The steps to the setting that a variable holds; nothing if it holds none.  Blanks around the
name and around what stands after its beginning count for nothing. -/
def stepsOf? (name : String) : Option (List String) :=
  let lower := (Text.trimmed name.toList).map Char.toLower
  match Text.stripFront? (Setting.variableFront.toList.map Char.toLower) lower with
  | none => none
  | some key =>
    let steps := Text.pieces '.' (Text.trimmed (dotted key))
    if steps.any List.isEmpty then none else some (steps.map String.ofList)

/-- What a variable sets, if it sets anything: a variable that leads below a setting makes a table
of it. -/
def ofVariable? (v : String × String) : Option (String × Datum) :=
  match stepsOf? v.1 with
  | some [key] => some (key, Variable.datum v.2)
  | some (key :: _) => some (key, .table [])
  | _ => none

/-- What the environment sets; of two variables for one setting the later name counts. -/
def ofEnvironment (env : Environment) : List (String × Datum) :=
  (env.entries.filterMap ofVariable?).reverse

/-- The settings of the layers; profiles are registered only where the command line says so, which
has no way to say it. -/
def ofLayers? (environment file : List (String × Datum)) : Option Settings :=
  ofValues? fun key =>
    if key = "register_instance_profiles" then some (.bool false)
    else ((environment.lookup key).or (file.lookup key)).or (defaults.lookup key)

/-! ## Where files of settings are -/

/-- The endings that the name of a file of settings may have if it is not written in TOML. -/
def otherEndings : List String :=
  ["json", "json5", "yaml", "yml"]

/-- The files of settings below a directory of settings. -/
def filesIn (directory : String) : List String :=
  [directory ++ "/lakemount/lakemount.toml", directory ++ "/.lakemount.toml"] ++
    otherEndings.map fun ending => directory ++ "/lakemount/lakemount." ++ ending

def fileVariable : String := Setting.variableFront ++ "CONFIG_PATH"

/-- The places where a file of settings may be, in the order in which they are looked at. -/
def places (env : Environment) : List String :=
  let filled (name : String) : Option String := (env.get? name).filter (· ≠ "")
  let home := filled "HOME"
  let shared := match filled "XDG_CONFIG_DIRS" with
    | some dirs => ((Text.pieces ':' dirs.toList).map String.ofList).filter (· ≠ "")
    | none => ["/etc/xdg"]
  let directories := (filled "XDG_CONFIG_HOME").toList ++ shared ++
    (home.map (· ++ "/.config")).toList
  (filled fileVariable).toList ++ directories.flatMap filesIn ++
    (home.map (· ++ "/.lakemount.toml")).toList ++ ["lakemount.toml"]

/-- What the first of the files that can be read sets. -/
def readFirst (scribe : Scribe) : List String → (failed : List String) →
    Dialogue Files (Except SettingsFault (List (String × Datum)))
  | [], failed =>
    if failed = [] then return .ok [] else return .error (.unloaded (scribe.files failed))
  | path :: rest, failed => do
    match ← Files.ask (.locate path) with
    | none => readFirst scribe rest failed
    | some file =>
      match ← readChain longestChain [] file with
      | some entries => return .ok entries
      | none => readFirst scribe rest (failed ++ [file])

def load (env : Environment) (scribe : Scribe := {}) :
    Dialogue Files (Except SettingsFault Settings) := do
  match ← readFirst scribe (places env) [] with
  | .error fault => return .error fault
  | .ok file =>
    match ofLayers? (ofEnvironment env) file with
    | some s => return .ok s
    | none => return .error (.unloaded (scribe.settings (ofEnvironment env) file))

end Settings

end RemoteMounts
