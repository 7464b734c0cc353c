import RemoteMounts.Cluster.Basic
import RemoteMounts.Datum
import RemoteMounts.Record

/-!
# What a workspace replies

The shapes of replies.  A reply is an object of known fields among others, which do not matter; a
known field must not be repeated.  An object may also be written as the list of its known fields in
their order.
-/

namespace RemoteMounts.Remote

/-- The values of the known fields, in their order. -/
def fields? (names : List String) : Json → Option (List (Option Json))
  | .object fields =>
    if names.all fun name => (fields.filter fun f => f.1 = name).length ≤ 1 then
      some (names.map fun name => fields.lookup name)
    else none
  | .array items =>
    if items.length ≤ names.length then some (Record.padded names.length items) else none
  | _ => none

/-- A text that must be given. -/
def text? : Option Json → Option String
  | some (.text s) => some s
  | _ => none

/-- A text that is empty if it is not given. -/
def textOrEmpty? : Option Json → Option String
  | none => some ""
  | j => text? j

/-- What is read of a value that may be left out or null. -/
def optional? {α : Type} (read : Json → Option α) : Option Json → Option (Option α)
  | none | some .null => some none
  | some j => (read j).map some

/-- Reads nothing of a reply that only says that something has been done. -/
def done? (j : Json) : Option Unit := do
  let _ ← fields? [] j
  return ()

/-- What a workspace says when it refuses a request. -/
structure Refusal where
  code : String := ""
  message : String := ""
deriving DecidableEq, Inhabited, Repr

def refusal? (j : Json) : Option Refusal := do
  match ← fields? ["error_code", "message"] j with
  | [code, message] => return ⟨← textOrEmpty? code, ← textOrEmpty? message⟩
  | _ => none

/-- Reads the instance profile among the attributes of a cluster. -/
def profile? (j : Json) : Option (Option String) := do
  match ← fields? ["instance_profile_arn"] j with
  | [arn] => optional? (fun j => text? (some j)) arn
  | _ => none

def cluster? (j : Json) : Option Cluster := do
  match ← fields? ["cluster_id", "cluster_name", "state", "state_message", "aws_attributes"] j with
  | [id, name, state, note, attributes] =>
    return ⟨← text? id, ← textOrEmpty? name, .ofLabel (← textOrEmpty? state), ← textOrEmpty? note,
      (← optional? profile? attributes).join⟩
  | _ => none

def clusters? (j : Json) : Option (List Cluster) := do
  match ← fields? ["clusters"] j with
  | [none] => return []
  | [some (.array items)] => items.mapM cluster?
  | _ => none

/-- Reads an id under the name of its field. -/
def idUnder? (name : String) (j : Json) : Option String := do
  match ← fields? [name] j with
  | [id] => text? id
  | _ => none

structure Results where
  kind : String := ""
  data : Datum := .null
  summary : Option String := none
  cause : Option String := none
deriving Inhabited

/-- How deeply what a script returned is nested in its reply. -/
def dataDepth : Nat := 2

def data? : Option Json → Option Datum
  | none => some .null
  | some j => if j.depth + dataDepth ≤ Json.maxDepth then j.meaning? else none

def results? (j : Json) : Option Results := do
  match ← fields? ["resultType", "data", "summary", "cause"] j with
  | [kind, data, summary, cause] =>
    return ⟨← textOrEmpty? kind, ← data? data, ← optional? (fun j => text? (some j)) summary,
      ← optional? (fun j => text? (some j)) cause⟩
  | _ => none

structure Status where
  label : String := ""
  results : Option Results := none
deriving Inhabited

def status? (j : Json) : Option Status := do
  match ← fields? ["status", "results"] j with
  | [label, results] => return ⟨← textOrEmpty? label, ← optional? results? results⟩
  | _ => none

/-- The text of what a script returned: nothing is the empty text, a text is itself, and anything
else is its document. -/
def outputText (layout : Json.Layout) : Datum → String
  | .null => ""
  | .text s => s
  | d => d.compact layout

/-- What a script that failed says of it: its summary unless that is blank, else its cause. -/
def Results.complaint (r : Results) : String :=
  ((r.summary.filter fun s => Text.trim s ≠ "").or r.cause).getD
    "remote command failed without a message"

def Results.output (layout : Json.Layout) (r : Results) : Except String String :=
  if r.kind = "error" then .error r.complaint else .ok (outputText layout r.data)

end RemoteMounts.Remote
