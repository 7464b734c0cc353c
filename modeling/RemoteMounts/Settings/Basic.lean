import RemoteMounts.Cluster.Backoff
import RemoteMounts.Cluster.Blueprint

/-!
# Settings

How a workspace is reached and how clusters are made there.  Settings are complete once they are
loaded, but need not make sense: `Settings.check` says so, and names the setting that has to be
mended.
-/

namespace RemoteMounts

/-- A setting that can be missing or wrong. -/
inductive Setting
  | host
  | token
  | runtime
  | nodeType
  | poll
  | maxPoll
  | limit
  | command
deriving DecidableEq, Inhabited, Repr

namespace Setting

def title : Setting → String
  | host => "workspace URL"
  | token => "access token"
  | runtime => "runtime version"
  | nodeType => "node type"
  | poll => "poll interval"
  | maxPoll => "maximum poll interval"
  | limit => "provisioning timeout"
  | command => "command timeout"

def key : Setting → String
  | host => "host"
  | token => "token"
  | runtime => "spark_version"
  | nodeType => "node_type_id"
  | poll => "poll_interval_secs"
  | maxPoll => "max_poll_interval_secs"
  | limit => "provision_timeout_secs"
  | command => "command_timeout_secs"

/-- How the variables of the environment begin that hold settings. -/
def variableFront : String := "LAKEMOUNT_"

def variableName (s : Setting) : String :=
  variableFront ++ String.ofList (s.key.toList.map Char.toUpper)

end Setting

/-- Why no settings could be had, or why they make no sense. -/
inductive SettingsFault
  | missing (what : String)
  | wrong (what : String)
  | unloaded (reason : String)
deriving DecidableEq, Inhabited, Repr

def SettingsFault.message : SettingsFault → String
  | missing what => "missing configuration field: " ++ what
  | wrong what => "invalid configuration field: " ++ what
  | unloaded reason => "configuration parsing failed: " ++ reason

namespace Setting

def missing (s : Setting) : SettingsFault :=
  .missing ("missing " ++ s.title ++ ": set " ++ s.variableName ++ " or add " ++ s.key ++
    " to lakemount.toml")

def wrong (s : Setting) (reason : String) : SettingsFault :=
  .wrong ("invalid " ++ s.title ++ " (" ++ s.variableName ++ " / " ++ s.key ++ "): " ++ reason)

end Setting

/-- How a workspace is reached and how clusters are made there. -/
structure Settings where
  host : String
  token : String
  runtime : String
  nodeType : String
  idleMinutes : UInt32
  /-- How long a new cluster is awaited, in seconds. -/
  limit : UInt64
  /-- How long to wait before a cluster is asked for again, in seconds. -/
  poll : UInt64
  /-- The longest interval between two questions for a cluster, in seconds. -/
  maxPoll : UInt64
  /-- How long a script may run, in seconds. -/
  command : UInt64
  /-- Whether instance profiles are registered before they are used. -/
  registers : Bool
deriving DecidableEq, Inhabited

namespace Settings

def dropSlashes (s : String) : String :=
  String.ofList (s.toList.reverse.dropWhile (· = '/')).reverse

/-- The URL of the workspace, to which paths are appended. -/
def baseUrl (s : Settings) : String :=
  dropSlashes (Text.trim s.host)

/-- Names the first setting that is blank but must not be. -/
def checkFilled : List (Setting × String) → Except SettingsFault Unit
  | [] => .ok ()
  | (setting, value) :: rest =>
    if Text.trim value = "" then .error setting.missing else checkFilled rest

/-- Names the first setting that is zero but must not be. -/
def checkPositive : List (Setting × UInt64) → Except SettingsFault Unit
  | [] => .ok ()
  | (setting, value) :: rest =>
    if value = 0 then .error (setting.wrong "must be greater than zero") else checkPositive rest

def hasScheme (s : Settings) : Bool :=
  let host := (Text.trim s.host).toList
  "https://".toList.isPrefixOf host || "http://".toList.isPrefixOf host

/-- Names the first setting that has to be mended. -/
def check (s : Settings) : Except SettingsFault Unit := do
  checkFilled
    [(.host, s.host), (.token, s.token), (.runtime, s.runtime), (.nodeType, s.nodeType)]
  if !s.hasScheme then .error (Setting.host.wrong "expected an http:// or https:// URL")
  checkPositive [(.poll, s.poll), (.limit, s.limit), (.command, s.command)]
  if s.maxPoll < s.poll then
    .error (Setting.maxPoll.wrong "must not be smaller than poll_interval_secs")

/-- What the clusters made for mounts have in common. -/
def template (s : Settings) : Template :=
  ⟨Text.trim s.runtime, Text.trim s.nodeType, s.idleMinutes⟩

def backoff (s : Settings) : Backoff :=
  .make (.ofSeconds s.limit.toNat) (.ofSeconds s.poll.toNat) (.ofSeconds s.maxPoll.toNat)

def commandLimit (s : Settings) : Duration :=
  .ofSeconds s.command.toNat

end Settings

end RemoteMounts
