import RemoteMounts.Datum
import RemoteMounts.Text.Blank
import RemoteMounts.Text.Cut
import RemoteMounts.Text.Number
import RemoteMounts.Toml.Text

/-!
# Values of variables

A variable of the environment is a text, but some texts are read as more than that: truth values,
numbers, texts in quotes, lists and tables.  A text in double quotes is written as in TOML 1.0.
What cannot be read as any of these is the text itself.
-/

namespace RemoteMounts.Variable

/-- Whether the character ends a value that stands in a list or table. -/
def isSeparator (c : Char) : Bool :=
  c = ',' || c = '\x7b' || c = '\x7d' || c = '[' || c = ']'

/-- Whether the character is a blank of ASCII. -/
def isGap (c : Char) : Bool :=
  c = ' ' || c = '\t' || c = '\n' || c = '\x0c' || c = '\r'

def isKeyChar (c : Char) : Bool :=
  c.isAlphanum || c = '_' || c = '-'

/-- A whole number of 64 bits, with a sign or without one. -/
def int? (cs : List Char) : Option Int :=
  match cs with
  | '-' :: digits =>
    (Text.digits? digits).bind fun n => if n ≤ Nat.pow 2 63 then some (-(n : Int)) else none
  | '+' :: digits | digits =>
    (Text.digits? digits).bind fun n => if n < Nat.pow 2 64 then some (n : Int) else none

/-- A value without quotes.  A number with an exponent is one only if it has a point too. -/
def plain (cs : List Char) : Datum :=
  let cs := Text.trimmed cs
  match if '.' ∈ cs then Text.real? cs else none, int? cs with
  | some x, _ => .real x
  | none, some n => .int n
  | none, none => .text (String.ofList cs)

/-- The text from the next token on. -/
def skipGaps (cs : List Char) : List Char :=
  cs.dropWhile isGap

def readKey (cs : List Char) : Option (String × List Char) :=
  match cs with
  | '"' :: rest => (Toml.readBasic .v10 rest).map fun (key, rest) => (String.ofList key, rest)
  | _ =>
    if (cs.takeWhile isKeyChar).isEmpty then none
    else some (String.ofList (cs.takeWhile isKeyChar), cs.dropWhile isKeyChar)

mutual

/-- Reads a value, within a budget of nested calls. -/
def readValue : (budget : Nat) → List Char → Option (Datum × List Char)
  | 0, _ => none
  | budget + 1, cs =>
    let read : Option (Datum × List Char) :=
      match skipGaps cs with
      | 't' :: 'r' :: 'u' :: 'e' :: rest => some (.bool true, rest)
      | 'f' :: 'a' :: 'l' :: 's' :: 'e' :: rest => some (.bool false, rest)
      | '{' :: rest => (readEntries budget rest).map fun (es, rest) => (.table es, rest)
      | '[' :: rest => (readItems budget rest).map fun (ds, rest) => (.list ds, rest)
      | '"' :: rest =>
        (Toml.readBasic .v10 rest).map fun (cs, rest) => (.text (String.ofList cs), rest)
      | '\'' :: c :: '\'' :: rest => some (.text (String.singleton c), rest)
      | '\'' :: _ => none
      | rest =>
        some (plain (rest.takeWhile fun c => !isSeparator c),
          rest.dropWhile fun c => !isSeparator c)
    read.map fun (d, rest) => (d, skipGaps rest)

/-- Reads the items of a list up to and with its end; a comma may stand at the end. -/
def readItems : (budget : Nat) → List Char → Option (List Datum × List Char)
  | 0, _ => none
  | _ + 1, ']' :: rest => some ([], rest)
  | budget + 1, cs =>
    match readValue budget cs with
    | some (d, ',' :: rest) => (readItems budget rest).map fun (ds, rest) => (d :: ds, rest)
    | some (d, ']' :: rest) => some ([d], rest)
    | _ => none

/-- Reads the entries of a table up to and with its end; a comma may stand at the end. -/
def readEntries : (budget : Nat) → List Char → Option (List (String × Datum) × List Char)
  | 0, _ => none
  | _ + 1, '}' :: rest => some ([], rest)
  | budget + 1, cs =>
    match readKey (skipGaps cs) with
    | none => none
    | some (key, rest) =>
      match skipGaps rest with
      | '=' :: rest =>
        match readValue budget rest with
        | some (d, ',' :: rest) =>
          (readEntries budget rest).map fun (es, rest) => ((key, d) :: es, rest)
        | some (d, '}' :: rest) => some ([(key, d)], rest)
        | _ => none
      | _ => none

end

/-- Whether the text is a list of texts between commas. -/
def isListing (cs : List Char) : Bool :=
  ',' ∈ cs && cs.head?.all fun c => c ≠ '[' && c ≠ '\x7b' && c ≠ '"' && c ≠ '\''

def datum (s : String) : Datum :=
  let cs := Text.trimmed s.toList
  if isListing cs then
    .list ((Text.pieces ',' cs).map fun item => .text (String.ofList (Text.trimmed item)))
  else
    match readValue (2 * cs.length + 2) cs with
    | some (d, []) => d
    | _ => .text (String.ofList cs)

end RemoteMounts.Variable
