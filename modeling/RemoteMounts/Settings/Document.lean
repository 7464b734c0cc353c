import RemoteMounts.Datum
import RemoteMounts.Record
import RemoteMounts.Settings.Basic

/-!
# Settings in documents

The fields of settings by their keys.  Every field must be there and be of its type; a number is
never made of a text nor a text of a number.
-/

namespace RemoteMounts

namespace Settings

def keys : List String :=
  ["host", "token", "spark_version", "node_type_id", "autotermination_minutes",
    "provision_timeout_secs", "poll_interval_secs", "max_poll_interval_secs",
    "command_timeout_secs", "register_instance_profiles"]

/-- The number of a datum, if it is a whole one below the bound. -/
def below? (bound : Nat) : Datum → Option Nat
  | .int n => if 0 ≤ n ∧ n < bound then some n.toNat else none
  | _ => none

/-- Settings of the values of the fields in their order. -/
def ofValues? (value? : String → Option Datum) : Option Settings := do
  let text (key : String) : Option String := (value? key).bind Record.asText?
  let word (key : String) : Option UInt64 :=
    ((value? key).bind (below? (Nat.pow 2 64))).map Nat.toUInt64
  return {
    host := ← text "host"
    token := ← text "token"
    runtime := ← text "spark_version"
    nodeType := ← text "node_type_id"
    idleMinutes := (← (value? "autotermination_minutes").bind (below? (Nat.pow 2 32))).toUInt32
    limit := ← word "provision_timeout_secs"
    poll := ← word "poll_interval_secs"
    maxPoll := ← word "max_poll_interval_secs"
    command := ← word "command_timeout_secs"
    registers := ← (value? "register_instance_profiles").bind Record.asBool? }

/-- Settings of a document, which may hold other fields too. -/
def ofDatum? : Datum → Option Settings
  | .table entries => ofValues? fun key => entries.lookup key
  | .list items =>
    if items.length = keys.length then ofValues? fun key => (keys.zip items).lookup key else none
  | _ => none

end Settings

end RemoteMounts
