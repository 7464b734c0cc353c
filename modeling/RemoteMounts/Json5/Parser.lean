import RemoteMounts.Datum
import RemoteMounts.Json5.Literal
import RemoteMounts.Text.Number

/-!
# Reading JSON5 documents

JSON with comments, a comma at the end, keys without quotes and more ways to write a number.  Whole
numbers have 64 bits with their sign, those in base sixteen 32 bits and no sign; any other number
must be finite unless it is named.  Of entries with the same key the last one counts.
-/

namespace RemoteMounts.Json5

/-! ## Between the tokens -/

def isSpace (c : Char) : Bool :=
  let n := c.toNat
  isLineEnd c || n = 9 || n = 11 || n = 12 || n = 0x20 || n = 0xA0 || n = 0xFEFF || n = 0x1680 ||
    (0x2000 ≤ n && n ≤ 0x200A) || n = 0x202F || n = 0x205F || n = 0x3000

def afterComment? : List Char → Option (List Char)
  | [] => none
  | '*' :: '/' :: rest => some rest
  | _ :: rest => afterComment? rest

/-- The text from the next token on.  A comment that does not end is none. -/
def skip : (budget : Nat) → List Char → List Char
  | 0, cs => cs
  | budget + 1, cs =>
    match cs.dropWhile isSpace with
    | '/' :: '/' :: rest => skip budget (rest.dropWhile fun c => !isLineEnd c)
    | '/' :: '*' :: rest =>
      match afterComment? rest with
      | some rest => skip budget rest
      | none => '/' :: '*' :: rest
    | rest => rest

/-! ## Numbers -/

/-- Whether the character belongs to the digits of a number in base sixteen. -/
def isHexDigit (c : Char) : Bool :=
  (Json.hexValue? c).isSome

/-- Reads the exponent of a number, if it has one; its mark needs a digit. -/
def readExponent (cs : List Char) : Option (List Char × List Char) :=
  match cs with
  | c :: rest =>
    if Text.isExponentMark c then
      let sign := rest.takeWhile fun c => c = '+' || c = '-'
      let digits := (rest.drop sign.length).takeWhile Char.isDigit
      if 1 < sign.length ∨ digits.isEmpty then none
      else some (c :: sign ++ digits, rest.drop (sign.length + digits.length))
    else some ([], cs)
  | [] => some ([], cs)

/-- Reads the point of a number and the digits after it, which need not be there. -/
def readFraction (cs : List Char) : List Char × List Char :=
  match cs with
  | '.' :: rest => ('.' :: rest.takeWhile Char.isDigit, rest.dropWhile Char.isDigit)
  | _ => ([], cs)

/-- The finite number that the characters write. -/
def finite? (cs : List Char) : Option Double :=
  match Text.real? cs with
  | some (.finite negative mantissa exponent) => some (.finite negative mantissa exponent)
  | _ => none

/-- The whole number if it has 64 bits with its sign. -/
def word? (n : Int) : Option Int :=
  if -(Nat.pow 2 63 : Int) ≤ n ∧ n < (Nat.pow 2 63 : Int) then some n else none

/-- Reads a decimal number after its sign.  Nothing but zero begins with a zero. -/
def readDecimal (sign cs : List Char) : Option (Datum × List Char) := do
  let whole := cs.takeWhile Char.isDigit
  let (fraction, rest) := readFraction (cs.dropWhile Char.isDigit)
  let (exponent, rest) ← readExponent rest
  if whole.head? = some '0' ∧ whole.length ≠ 1 then none
  else if fraction.isEmpty ∧ exponent.isEmpty then
    let n ← Text.digits? whole
    return (.int (← word? (if sign = ['-'] then -(n : Int) else n)), rest)
  else return (.real (← finite? (sign ++ whole ++ fraction ++ exponent)), rest)

/-- Reads a number.  What is named or written in base sixteen has no plus, and the latter no minus
either. -/
def readNumber (cs : List Char) : Option (Datum × List Char) :=
  match cs with
  | '0' :: 'x' :: rest | '0' :: 'X' :: rest =>
    let digits := rest.takeWhile isHexDigit
    let n := Text.digitsIn 16 digits
    if digits.isEmpty ∨ Nat.pow 2 32 ≤ n then none else some (.int n, rest.dropWhile isHexDigit)
  | '-' :: 'I' :: 'n' :: 'f' :: 'i' :: 'n' :: 'i' :: 't' :: 'y' :: rest =>
    some (.real (.infinite true), rest)
  | 'I' :: 'n' :: 'f' :: 'i' :: 'n' :: 'i' :: 't' :: 'y' :: rest =>
    some (.real (.infinite false), rest)
  | '-' :: 'N' :: 'a' :: 'N' :: rest | 'N' :: 'a' :: 'N' :: rest => some (.real .notANumber, rest)
  | '-' :: rest => readDecimal ['-'] rest
  | '+' :: rest => readDecimal ['+'] rest
  | rest => readDecimal [] rest

/-! ## Values -/

mutual

/-- Reads a value, within a budget of nested calls. -/
def readValue : (budget : Nat) → List Char → Option (Datum × List Char)
  | 0, _ => none
  | budget + 1, cs =>
    match skip cs.length cs with
    | 'n' :: 'u' :: 'l' :: 'l' :: rest => some (.null, rest)
    | 't' :: 'r' :: 'u' :: 'e' :: rest => some (.bool true, rest)
    | 'f' :: 'a' :: 'l' :: 's' :: 'e' :: rest => some (.bool false, rest)
    | '[' :: rest =>
      match skip rest.length rest with
      | ']' :: rest => some (.list [], rest)
      | rest => (readItems budget rest).map fun (items, rest) => (.list items, rest)
    | '{' :: rest =>
      match skip rest.length rest with
      | '}' :: rest => some (.table [], rest)
      | rest => (readEntries budget [] rest).map fun (entries, rest) => (.table entries, rest)
    | c :: rest =>
      if c = '"' ∨ c = '\'' then
        (readText? (c :: rest)).map fun (text, rest) => (.text text, rest)
      else readNumber (c :: rest)
    | [] => none

/-- Reads the items of a list up to and with its end; a comma may stand before it. -/
def readItems : (budget : Nat) → List Char → Option (List Datum × List Char)
  | 0, _ => none
  | budget + 1, cs =>
    match readValue budget cs with
    | none => none
    | some (item, rest) =>
      match skip rest.length rest with
      | ']' :: rest => some ([item], rest)
      | ',' :: rest =>
        match skip rest.length rest with
        | ']' :: rest => some ([item], rest)
        | rest => (readItems budget rest).map fun (items, rest) => (item :: items, rest)
      | _ => none

/-- Reads the entries of a table up to and with its end and puts them among those so far; a comma
may stand before the end. -/
def readEntries : (budget : Nat) → (entries : List (String × Datum)) → List Char →
    Option (List (String × Datum) × List Char)
  | 0, _, _ => none
  | budget + 1, entries, cs =>
    match readKey? (skip cs.length cs) with
    | none => none
    | some (key, rest) =>
      match skip rest.length rest with
      | ':' :: rest =>
        match readValue budget rest with
        | none => none
        | some (value, rest) =>
          let entries := putEntry key value entries
          match skip rest.length rest with
          | '}' :: rest => some (entries, rest)
          | ',' :: rest =>
            match skip rest.length rest with
            | '}' :: rest => some (entries, rest)
            | rest => readEntries budget entries rest
          | _ => none
      | _ => none

end

def ofString? (s : String) : Option Datum :=
  let cs := s.toList
  match readValue (2 * cs.length + 1) cs with
  | some (d, rest) => if (skip rest.length rest).isEmpty then some d else none
  | none => none

end RemoteMounts.Json5
