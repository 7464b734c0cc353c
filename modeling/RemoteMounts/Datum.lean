import RemoteMounts.Json.Parser
import RemoteMounts.Json.Printer
import RemoteMounts.Json.Real
import RemoteMounts.Keyed

/-!
# Data

A datum is what a document means, in whichever notation it was written.  `Json.datum?` gives the
meaning of a JSON document, and `Datum.json` the document as which a datum is written.
-/

namespace RemoteMounts

inductive Datum
  | null
  | bool (b : Bool)
  | int (n : Int)
  | real (x : Double)
  | text (s : String)
  | moment (s : String)
  | list (items : List Datum)
  | table (entries : List (String × Datum))
deriving Inhabited

namespace Datum

/-- The value bound to the key, of the first entry with it. -/
def get? (key : String) : Datum → Option Datum
  | .table entries => entries.lookup key
  | _ => none

/-- The document of a number of 53 bits, with the fewest digits that read back.  The special values
have no digits and are null. -/
def ofDouble (layout : Json.Layout) : Double → Json
  | .finite negative mantissa exponent =>
    let (digits, power) := Double.shortest mantissa exponent
    .number (layout.lay negative digits power)
  | .infinite _ | .notANumber => .null

section

variable (layout : Json.Layout := .usual)

mutual

/-- The document of the datum, its entries in their order. -/
def json : Datum → Json
  | .null => .null
  | .bool b => .bool b
  | .int n => .number (.ofInt n)
  | .real x => ofDouble layout x
  | .text s | .moment s => .text s
  | .list items => .array (itemsJson items)
  | .table entries => .object (entriesJson entries)

def itemsJson : List Datum → List Json
  | [] => []
  | item :: rest => json item :: itemsJson rest

def entriesJson : List (String × Datum) → List (String × Json)
  | [] => []
  | (key, value) :: rest => (key, json value) :: entriesJson rest

end

/-- The JSON document of the datum without blanks. -/
def compact (d : Datum) : String :=
  (d.json layout).compact

end

def ofTexts (t : Keyed String) : Datum :=
  .table (t.entries.map fun e => (e.1, .text e.2))

end Datum

/-! ## The meaning of a JSON document -/

namespace Json

def maxDepth : Nat := 127

def Number.datum? (n : Number) : Option Datum :=
  match n.int? with
  | some i => some (.int i)
  | none => n.real?.map .real

mutual

/-- The meaning of a document, without regard to its depth.  The entries of a table are in the
order of their keys, and of repeated keys the last counts. -/
def meaning? : Json → Option Datum
  | .null => some .null
  | .bool b => some (.bool b)
  | .number n => n.datum?
  | .text s => some (.text s)
  | .brokenText => none
  | .array items => (itemsMeaning? items).map .list
  | .object fields => (fieldsMeaning? fields []).map .table
  | .brokenObject => none

def itemsMeaning? : List Json → Option (List Datum)
  | [] => some []
  | item :: rest =>
    match meaning? item, itemsMeaning? rest with
    | some d, some ds => some (d :: ds)
    | _, _ => none

/-- The entries so far with the meanings of the fields put among them. -/
def fieldsMeaning? : List (String × Json) → List (String × Datum) → Option (List (String × Datum))
  | [], entries => some entries
  | (key, value) :: rest, entries =>
    match meaning? value with
    | some d => fieldsMeaning? rest (putEntry key d entries)
    | none => none

end

/-- The meaning of a document that is kept as a whole. -/
def datum? (j : Json) : Option Datum :=
  if j.depth ≤ maxDepth then j.meaning? else none

/-- A number need not be kept as the nearest one of 53 bits. -/
example :
    ((ofString? "3e23").bind datum?).map (Datum.compact .usual) = some "2.9999999999999997e23" := by
  decide +kernel

end Json

end RemoteMounts
