import RemoteMounts.Datum
import RemoteMounts.Text.Blank
import RemoteMounts.Yaml.Node

/-!
# The meaning of YAML documents

A scalar without quotes may be read as more than a text: as nothing, a truth value or a number.  No
key may stand twice in a table; the key `<<` takes in the entries of other tables under keys that
the table does not have itself.
-/

namespace RemoteMounts.Yaml

/-! ## Scalars -/

def lowered (cs : List Char) : String :=
  String.ofList (cs.map Char.toLower)

/-- Whether a scalar without quotes stands for nothing. -/
def isNull (s : String) : Bool :=
  s = "" || s = "~" || lowered s.toList = "null"

/-- The base that the front of a number tells, and the digits after it. -/
def based : List Char → Nat × List Char
  | '0' :: c :: rest =>
    match c.toLower with
    | 'x' => (16, rest)
    | 'o' => (8, rest)
    | 'b' => (2, rest)
    | _ => (10, '0' :: c :: rest)
  | cs => (10, cs)

/-- A whole number of 64 bits, with a minus or without one; underscores between its digits count for
nothing. -/
def int? (cs : List Char) : Option Int :=
  let (negative, body) := Text.unsigned cs
  let (base, digits) := based body
  let digits := digits.filter (· ≠ '_')
  if digits.isEmpty || !digits.all fun c => (Json.hexValue? c).any (· < base) then none
  else
    let n := Text.digitsIn base digits
    if cs.head? = some '-' then
      if n ≤ Nat.pow 2 63 then some (if negative then -(n : Int) else n) else none
    else if n < Nat.pow 2 64 then some n
    else none

/-- A decimal number, or one of those that have names. -/
def real? (cs : List Char) : Option Double :=
  let (negative, body) := Text.unsigned cs
  match lowered body with
  | ".inf" | "inf" | "infinity" => some (.infinite negative)
  | ".nan" | "nan" => some .notANumber
  | _ => Text.real? cs

/-- What a scalar without quotes and tag means. -/
def plainDatum (s : String) : Datum :=
  let cs := Text.trimmed s.toList
  if isNull s then .null
  else if lowered cs = "true" then .bool true
  else if lowered cs = "false" then .bool false
  else
    match int? cs, real? cs with
    | some n, _ => .int n
    | none, some x => .real x
    | none, none => .text s

/-- The tag of the name among those that every document knows. -/
def knownTag (name : String) : String :=
  "tag:yaml.org,2002:" ++ name

/-- The meaning of a scalar.  A tag for numbers or truth values wants one. -/
def scalarDatum? (s : String) (isPlain : Bool) (tag : Option String) : Option Datum :=
  let isText := !isPlain || tag = some (knownTag "str") || tag = some "!"
  if tag = some (knownTag "null") then some .null
  else
    match if isText then .text s else plainDatum s with
    | .text s =>
      if tag ∈ ["int", "float", "bool"].map (some ∘ knownTag) then none else some (.text s)
    | d => some d

/-! ## Lists and tables -/

namespace Node

/-- The entries of which no key stands before. -/
def freshEntries (entries more : List (String × Datum)) : List (String × Datum) :=
  more.foldl (fun es e => if es.any (·.1 = e.1) then es else es ++ [e]) entries

/-- Whether a key stands twice. -/
def repeatsKey (entries : List (String × Datum)) : Bool :=
  (freshEntries [] entries).length ≠ entries.length

mutual

def datum? : Node → Option Datum
  | .scalar s isPlain tag => scalarDatum? s isPlain tag
  | .list items => (itemsDatum? items).map .list
  | .table entries =>
    match split? entries with
    | some (own, taken) =>
      if repeatsKey own then none else some (.table (freshEntries own taken))
    | none => none

def itemsDatum? : List Node → Option (List Datum)
  | [] => some []
  | item :: rest =>
    match datum? item, itemsDatum? rest with
    | some d, some ds => some (d :: ds)
    | _, _ => none

/-- The entries of a table, and those that it takes in; of the latter, those that stand last come
first. -/
def split? : List (Node × Node) → Option (List (String × Datum) × List (String × Datum))
  | [] => some ([], [])
  | (.scalar "<<" true none, value) :: rest =>
    match taken? value, split? rest with
    | some more, some (own, taken) => some (own, taken ++ more)
    | _, _ => none
  | (.scalar key _ _, value) :: rest =>
    match datum? value, split? rest with
    | some d, some (own, taken) => some ((key, d) :: own, taken)
    | _, _ => none
  | _ => none

/-- The entries that a table takes in with the node. -/
def taken? : Node → Option (List (String × Datum))
  | .table entries => (split? entries).map fun (own, taken) => own ++ taken
  | .list items => itemsTaken? items
  | .scalar s isPlain _ => if isPlain && isNull s then some [] else none

/-- The entries that a table takes in with the items, those of the last one first. -/
def itemsTaken? : List Node → Option (List (String × Datum))
  | [] => some []
  | item :: rest =>
    match taken? item, itemsTaken? rest with
    | some more, some later => some (later ++ more)
    | _, _ => none

end

end Node

/-- The meaning of a text.  A mark of the byte order at its front counts for nothing, and neither
does what stands after a null character.  A document that holds nothing is an empty table. -/
def ofString? (s : String) : Option Datum :=
  let cs :=
    match s.toList with
    | '\ufeff' :: rest => rest
    | cs => cs
  let node := Node.ofTokens? (Token.ofChars (cs.takeWhile (· ≠ '\x00')))
  match node.bind Node.datum? with
  | some .null => some (.table [])
  | d => d

end RemoteMounts.Yaml
