import RemoteMounts.Datum
import RemoteMounts.Text.Number
import RemoteMounts.Toml.Text

/-!
# Values without quotes

Truth values, numbers, dates and times.  A moment is kept as its text in the common form: a capital
`T` between date and time, seconds, `Z` for no offset.  TOML 1.0 wants every number to be one that
can be kept; in TOML 1.1 something that is only formed like a number may stand for one, and is kept
as no number.
-/

namespace RemoteMounts.Toml

/-- The characters without the underscores between them; nothing if one does not stand between two
of the class. -/
def grouped? (ofClass : Char → Bool) (cs : List Char) : Option (List Char) :=
  let groups := Text.pieces '_' cs
  if groups.all fun g => !g.isEmpty && g.all ofClass then some groups.flatten else none

/-- The digits of a number in base ten, which begin with a zero only if there is no other. -/
def decimal? (cs : List Char) : Option (List Char) :=
  match grouped? Char.isDigit cs with
  | some digits => if digits.length ≠ 1 ∧ digits.head? = some '0' then none else some digits
  | none => none

/-- A whole number in base ten, or without a sign in another base. -/
def int? (cs : List Char) : Option Int :=
  match cs with
  | '0' :: 'x' :: digits =>
    (grouped? (fun c => (Json.hexValue? c).isSome) digits).map fun ds => (Text.digitsIn 16 ds : Int)
  | '0' :: 'o' :: digits =>
    (grouped? (fun c => '0' ≤ c && c ≤ '7') digits).map fun ds => (Text.digitsIn 8 ds : Int)
  | '0' :: 'b' :: digits =>
    (grouped? (fun c => c = '0' || c = '1') digits).map fun ds => (Text.digitsIn 2 ds : Int)
  | _ =>
    let (negative, body) := Text.unsigned cs
    (decimal? body).map fun ds =>
      if negative then -(Text.digitsIn 10 ds : Int) else Text.digitsIn 10 ds

/-- The exponent of a number, if it has one, and what stands before it. -/
def exponent? (cs : List Char) : Option (List Char × Option Int) :=
  let front := cs.takeWhile fun c => c ≠ 'e' && c ≠ 'E'
  match cs.dropWhile fun c => c ≠ 'e' && c ≠ 'E' with
  | [] => some (front, none)
  | _ :: power =>
    let (negative, digits) := Text.unsigned power
    (grouped? Char.isDigit digits).map fun ds =>
      (front, some (if negative then -(Text.digitsIn 10 ds : Int) else Text.digitsIn 10 ds))

/-- A number with a point or an exponent, or one of the special values; nothing if it is beyond the
greatest one. -/
def real? (cs : List Char) : Option Double :=
  let (negative, body) := Text.unsigned cs
  let real (digits fraction : List Char) (power : Int) : Option Double :=
    Double.ofDecimal? negative (Text.digitsIn 10 (digits ++ fraction)) (power - fraction.length)
  if body = "inf".toList then some (.infinite negative)
  else if body = "nan".toList then some .notANumber
  else do
    let (front, power) ← exponent? body
    match Text.cut? '.' front with
    | some (whole, fraction) =>
      real (← decimal? whole) (← grouped? Char.isDigit fraction) (power.getD 0)
    | none => real (← decimal? front) [] (← power)

/-! ## What is formed like a number -/

/-- Whether the underscores stand between characters of the class.  A sign may come first, and what
follows the last underscore need only begin with the class. -/
def isLooselyGrouped (ofClass : Char → Bool) (cs : List Char) : Bool :=
  match Text.pieces '_' cs with
  | [] | [_] => true
  | first :: others =>
    !first.isEmpty && (first.length = 1 || first.getLast?.any ofClass) &&
      others.all (fun piece => piece.head?.any ofClass) &&
      others.dropLast.all fun piece => piece.getLast?.any ofClass

/-- Whether the characters are digits of the base and underscores between them; there need not be
any. -/
def isLooseIn (ofBase : Char → Bool) (cs : List Char) : Bool :=
  cs.isEmpty || ((Text.pieces '_' cs).all fun piece => !piece.isEmpty && piece.all ofBase)

/-- The text after digits and underscores, of which one must be a digit.  If a zero cannot be the
first of several digits, `zeroLed` is false. -/
def skipDigits? (zeroLed : Bool) (cs : List Char) : Option (List Char) :=
  let digits := (cs.takeWhile fun c => c.isDigit || c = '_').countP Char.isDigit
  if digits = 0 ∨ (digits ≠ 1 ∧ zeroLed = false ∧ cs.head? = some '0') then none
  else some (cs.dropWhile fun c => c.isDigit || c = '_')

/-- Whether the characters are digits, a point and an exponent, of which only the digits before the
point are needed. -/
def isLooseReal (cs : List Char) : Bool :=
  let fraction (cs : List Char) : Option (List Char) :=
    match cs with
    | '.' :: rest => skipDigits? true rest
    | _ => some cs
  let exponent (cs : List Char) : Option (List Char) :=
    match cs with
    | c :: rest => if c = 'e' ∨ c = 'E' then skipDigits? true (Text.unsigned rest).2 else some cs
    | [] => some cs
  (((skipDigits? false cs).bind fraction).bind exponent).any List.isEmpty

/-- Whether the characters are formed like a number: the first of them after the digits decides what
sort of number it is taken for. -/
def isLooseNumber (cs : List Char) : Bool :=
  let (_, body) := Text.unsigned cs
  let isSigned := body.length ≠ cs.length
  match body with
  | '0' :: 'x' :: digits => !isSigned && isLooseIn (fun c => (Json.hexValue? c).isSome) digits
  | '0' :: 'o' :: digits => !isSigned && isLooseIn (fun c => '0' ≤ c && c ≤ '7') digits
  | '0' :: 'b' :: digits => !isSigned && isLooseIn (fun c => c = '0' || c = '1') digits
  | _ =>
    let rest := body.dropWhile Char.isDigit
    if rest.any fun c => c = '.' || c = 'e' || c = 'E' then
      isLooseReal body && isLooselyGrouped Char.isDigit cs
    else
      (body.head? ≠ some '0' || body = ['0']) && (rest.isEmpty || rest.head? = some '_') &&
        !body.isEmpty && isLooselyGrouped (fun c => (Json.hexValue? c).isSome) cs

/-! ## Dates and times -/

/-- The number that two digits write, if it is in range. -/
def two? (low high : Nat) (a b : Char) : Option Nat :=
  if a.isDigit ∧ b.isDigit then
    let n := Text.digitsIn 10 [a, b]
    if low ≤ n ∧ n ≤ high then some n else none
  else none

def daysIn (year month : Nat) : Nat :=
  let leap := year % 4 = 0 ∧ (year % 100 ≠ 0 ∨ year % 400 = 0)
  if month = 2 then if leap then 29 else 28
  else if month ∈ [4, 6, 9, 11] then 30
  else 31

/-- Whether the characters are a day of the calendar. -/
def isDate : List Char → Bool
  | [a, b, c, d, '-', e, f, '-', g, h] =>
    [a, b, c, d].all Char.isDigit &&
      match two? 1 12 e f with
      | some month => (two? 1 (daysIn (Text.digitsIn 10 [a, b, c, d]) month) g h).isSome
      | none => false
  | _ => false

/-- The text of a time without its offset, and the offset; since TOML 1.1 seconds may be left
out. -/
def time? (edition : Edition) : List Char → Option (List Char × List Char)
  | a :: b :: ':' :: c :: d :: rest => do
    let _ ← two? 0 23 a b
    let _ ← two? 0 59 c d
    let minutes := [a, b, ':', c, d]
    match rest with
    | ':' :: e :: f :: rest =>
      let _ ← two? 0 60 e f
      let seconds := minutes ++ [':', e, f]
      match rest with
      | '.' :: rest =>
        let digits := rest.takeWhile Char.isDigit
        if digits.isEmpty then none
        else
          let kept := ((digits.take 9).reverse.dropWhile (· = '0')).reverse
          return (if kept.isEmpty then seconds else seconds ++ '.' :: kept,
            rest.dropWhile Char.isDigit)
      | _ => return (seconds, rest)
    | _ => if edition = .v11 then return (minutes ++ [':', '0', '0'], rest) else none
  | _ => none

/-- The text of an offset, which may be empty.  No offset at all is not negative. -/
def offset? : List Char → Option (List Char)
  | [] => some []
  | ['Z'] | ['z'] => some ['Z']
  | [sign, a, b, ':', c, d] => do
    let hours ← two? 0 23 a b
    let minutes ← two? 0 59 c d
    let sign := if hours = 0 ∧ minutes = 0 ∧ sign = '-' then '+' else sign
    if sign = '+' ∨ sign = '-' then return [sign, a, b, ':', c, d] else none
  | _ => none

/-- The text of a date, a time of day, or both, with or without an offset. -/
def moment? (edition : Edition) (cs : List Char) : Option (List Char) :=
  let date := cs.take 10
  let timeOfDay : Option (List Char) :=
    match time? edition cs with
    | some (time, []) => some time
    | _ => none
  match cs.drop 10 with
  | [] => if isDate date then some date else timeOfDay
  | mark :: rest =>
    if isDate date ∧ (mark = 'T' ∨ mark = 't' ∨ mark = ' ') then do
      let (time, rest) ← time? edition rest
      return date ++ 'T' :: (time ++ (← offset? rest))
    else timeOfDay

/-- The value that characters without quotes write. -/
def scalar? (edition : Edition) (cs : List Char) : Option Datum :=
  if cs = "true".toList then some (.bool true)
  else if cs = "false".toList then some (.bool false)
  else
    match int? cs, real? cs, moment? edition cs with
    | some n, _, _ => some (.int n)
    | none, some x, _ => some (.real x)
    | none, none, some m => some (.moment (String.ofList m))
    | none, none, none =>
      if edition = .v11 ∧ isLooseNumber cs then some (.real .notANumber) else none

/-- Whether the character ends a value without quotes. -/
def endsScalar (c : Char) : Bool :=
  c = '=' || c = ',' || c = '[' || c = ']' || c = '\x7b' || c = '\x7d' || c = '#' || c = ' ' ||
    c = '\t' || c = '\n' || c = '\r'

/-- Reads a value without quotes; a blank may stand between a date and a time. -/
def readScalar (edition : Edition) (cs : List Char) : Option (Datum × List Char) :=
  let token := cs.takeWhile fun c => !endsScalar c
  let rest := cs.dropWhile fun c => !endsScalar c
  let more : List Char :=
    match rest with
    | ' ' :: d :: rest =>
      if isDate token ∧ d.isDigit then ' ' :: (d :: rest).takeWhile fun c => !endsScalar c else []
    | _ => []
  (scalar? edition (token ++ more)).map fun d => (d, rest.drop more.length)

end RemoteMounts.Toml
