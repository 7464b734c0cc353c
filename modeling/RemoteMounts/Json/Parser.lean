import RemoteMounts.Json.Basic
import RemoteMounts.Json.Literal

/-!
# Reading JSON documents

Strict JSON: no comments, no commas at the end, one document with blanks around it and nothing
else.  Every call of the reader on a smaller document takes at least one character first, so a
budget of one call for each character is never used up.
-/

namespace RemoteMounts.Json

/-- Whether the character may stand between the tokens of a document. -/
def isSpace (c : Char) : Bool :=
  c = ' ' || c = '\n' || c = '\r' || c = '\t'

def skipSpaces (cs : List Char) : List Char :=
  cs.dropWhile isSpace

def digitsValue (digits : List Char) : Nat :=
  digits.foldl (fun n c => 10 * n + (c.toNat - 48)) 0

/-- Reads the digits after a point, if there is one; a point needs a digit. -/
def readFraction (cs : List Char) : Option (List Char × List Char) :=
  match cs with
  | '.' :: rest =>
    if (rest.takeWhile Char.isDigit).isEmpty then none
    else some (rest.takeWhile Char.isDigit, rest.dropWhile Char.isDigit)
  | _ => some ([], cs)

/-- Reads the exponent, if there is one; its mark needs a digit. -/
def readExponent (cs : List Char) : Option (Option Exponent × List Char) :=
  let signed (sign : Sign) (rest : List Char) : Option (Option Exponent × List Char) :=
    if (rest.takeWhile Char.isDigit).isEmpty then none
    else
      some (some ⟨sign, digitsValue (rest.takeWhile Char.isDigit)⟩, rest.dropWhile Char.isDigit)
  match cs with
  | c :: rest =>
    if c = 'e' ∨ c = 'E' then
      match rest with
      | '+' :: rest => signed .plus rest
      | '-' :: rest => signed .minus rest
      | rest => signed .none rest
    else some (none, cs)
  | [] => some (none, cs)

/-- Reads a number without its sign.  Nothing but zero begins with a zero. -/
def readMagnitude (negative : Bool) (cs : List Char) : Option (Number × List Char) :=
  let whole := cs.takeWhile Char.isDigit
  if whole.isEmpty ∨ (whole.head? = some '0' ∧ whole.length ≠ 1) then none
  else
    match readFraction (cs.dropWhile Char.isDigit) with
    | none => none
    | some (fraction, rest) =>
      match readExponent rest with
      | none => none
      | some (exponent, rest) =>
        some (⟨negative, digitsValue (whole ++ fraction), fraction.length, exponent⟩, rest)

def readNumber (cs : List Char) : Option (Number × List Char) :=
  match cs with
  | '-' :: rest => readMagnitude true rest
  | _ => readMagnitude false cs

/-- Reads the rest of a text literal, after its opening quote. -/
def readText (cs : List Char) : Option (Json × List Char) :=
  match readPieces cs with
  | none => none
  | some (pieces, rest) =>
    match joinPieces pieces with
    | some chars => some (.text (String.ofList chars), rest)
    | none => some (.brokenText, rest)

/-- The object with one field more in front. -/
def withField (key value : Json) : Json → Json
  | .object fields =>
    match key with
    | .text key => .object ((key, value) :: fields)
    | _ => .brokenObject
  | _ => .brokenObject

mutual

/-- Reads a value, within a budget of nested calls. -/
def readValue : Nat → List Char → Option (Json × List Char)
  | 0, _ => none
  | budget + 1, cs =>
    match skipSpaces cs with
    | 'n' :: 'u' :: 'l' :: 'l' :: rest => some (.null, rest)
    | 't' :: 'r' :: 'u' :: 'e' :: rest => some (.bool true, rest)
    | 'f' :: 'a' :: 'l' :: 's' :: 'e' :: rest => some (.bool false, rest)
    | '"' :: rest => readText rest
    | '[' :: rest =>
      match skipSpaces rest with
      | ']' :: rest => some (.array [], rest)
      | rest => (readItems budget rest).map fun read => (.array read.1, read.2)
    | '{' :: rest =>
      match skipSpaces rest with
      | '}' :: rest => some (.object [], rest)
      | rest => readFields budget rest
    | rest => (readNumber rest).map fun read => (.number read.1, read.2)

/-- Reads the items of a list up to and with its end. -/
def readItems : Nat → List Char → Option (List Json × List Char)
  | 0, _ => none
  | budget + 1, cs =>
    match readValue budget cs with
    | none => none
    | some (item, rest) =>
      match skipSpaces rest with
      | ',' :: rest => (readItems budget rest).map fun read => (item :: read.1, read.2)
      | ']' :: rest => some ([item], rest)
      | _ => none

/-- Reads the fields of an object up to and with its end. -/
def readFields : Nat → List Char → Option (Json × List Char)
  | 0, _ => none
  | budget + 1, cs =>
    match skipSpaces cs with
    | '"' :: rest =>
      match readText rest with
      | none => none
      | some (key, rest) =>
        match skipSpaces rest with
        | ':' :: rest =>
          match readValue budget rest with
          | none => none
          | some (value, rest) =>
            match skipSpaces rest with
            | ',' :: rest =>
              (readFields budget rest).map fun read => (withField key value read.1, read.2)
            | '}' :: rest => some (withField key value (.object []), rest)
            | _ => none
        | _ => none
    | _ => none

end

def parse? (text : List Char) : Option Json :=
  match readValue (2 * text.length + 1) text with
  | some (value, rest) => if (skipSpaces rest).isEmpty then some value else none
  | none => none

def ofString? (s : String) : Option Json :=
  parse? s.toList

end RemoteMounts.Json
