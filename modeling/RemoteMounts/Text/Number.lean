import RemoteMounts.Double
import RemoteMounts.Json.Literal
import RemoteMounts.Text.Cut

/-!
# Numbers written in a text

What the notations for data have in common when they write a number: a sign in front, digits of a
base, and a decimal number with a point and an exponent.
-/

namespace RemoteMounts.Text

/-- Splits a sign off: whether it is a minus, and what stands after it. -/
def unsigned : List Char → Bool × List Char
  | '-' :: cs => (true, cs)
  | '+' :: cs => (false, cs)
  | cs => (false, cs)

def digitsIn (base : Nat) (digits : List Char) : Nat :=
  digits.foldl (fun n c => n * base + (Json.hexValue? c).getD 0) 0

/-- The character whose number the digits of base sixteen write. -/
def numbered? (digits : List Char) : Option Char :=
  if digits.all fun c => (Json.hexValue? c).isSome then
    let n := digitsIn 16 digits
    if n < 0xD800 ∨ (0xE000 ≤ n ∧ n < 0x110000) then some (Char.ofNat n) else none
  else none

/-- The number that decimal digits write; nothing if there is none or something else. -/
def digits? (cs : List Char) : Option Nat :=
  if cs.isEmpty ∨ !cs.all Char.isDigit then none else some (digitsIn 10 cs)

/-- The power of ten that stands after the mark of an exponent. -/
def power? (cs : List Char) : Option Int :=
  let (below, digits) := unsigned cs
  (digits? digits).map fun n => if below then -(n : Int) else n

def isExponentMark (c : Char) : Bool :=
  c = 'e' || c = 'E'

/-- A decimal number.  A digit must stand before or after the point, and one after the mark of an
exponent; what is beyond the greatest number is infinite. -/
def real? (cs : List Char) : Option Double := do
  let (negative, body) := unsigned cs
  let front := body.takeWhile fun c => !isExponentMark c
  let (whole, fraction) := (cut? '.' front).getD (front, [])
  let coefficient ← digits? (whole ++ fraction)
  let power : Int ←
    match body.dropWhile fun c => !isExponentMark c with
    | [] => some 0
    | _ :: power => power? power
  let nearest := Double.ofDecimal? negative coefficient (power - fraction.length)
  return nearest.getD (.infinite negative)

end RemoteMounts.Text
