/-!
# Numbers of 53 bits

A decimal number is kept as the nearest number with a 53-bit mantissa, the even one of two equally
near, and written with the fewest digits that read back as the same number, the nearest such digits
to it.  Products and quotients are rounded in the same way.  All arithmetic is on natural numbers.
-/

namespace RemoteMounts

/-- A number of 53 bits: a sign and `mantissa * 2 ^ exponent`, or one of the special values. -/
inductive Double
  | finite (negative : Bool) (mantissa : Nat) (exponent : Int)
  | infinite (negative : Bool)
  | notANumber
deriving DecidableEq, Inhabited, Repr

namespace Double

/-! ## The nearest number -/

/-- The quotient rounded to the nearest whole number, to the even one of two equally near. -/
def roundDiv (num den : Nat) : Nat :=
  let q := num / den
  let twice := 2 * (num % den)
  if twice < den then q
  else if den < twice then q + 1
  else q + q % 2

/-- The fraction `num / den * 2 ^ (-shift)` as numerator and denominator. -/
def scaled (num den : Nat) (shift : Int) : Nat × Nat :=
  if shift < 0 then (num * Nat.pow 2 (-shift).toNat, den) else (num, den * Nat.pow 2 shift.toNat)

/-- The exponent with which the fraction's mantissa has 53 bits, or the least one there is. -/
def exponentFor (num den : Nat) : Int :=
  let guess : Int := (num.log2 : Int) - (den.log2 : Int) - 53
  let (n, d) := scaled num den guess
  max (-1074) (if d * Nat.pow 2 53 ≤ n then guess + 1 else guess)

/-- The greatest exponent of a finite number. -/
def lastExponent : Int := 971

/-- The number nearest to a positive fraction; nothing if it is beyond the greatest one. -/
def nearest? (negative : Bool) (num den : Nat) : Option Double :=
  let e := exponentFor num den
  let (n, d) := scaled num den e
  let m := roundDiv n d
  let (m, e) := if m = Nat.pow 2 53 then (Nat.pow 2 52, e + 1) else (m, e)
  if lastExponent < e then none else some (.finite negative m e)

def zero (negative : Bool) : Double :=
  .finite negative 0 (-1074)

def digitCount (n : Nat) : Nat :=
  (Nat.toDigits 10 n).length

/-- The number nearest to `coefficient * 10 ^ power`; nothing if it is beyond the greatest one. -/
def ofDecimal? (negative : Bool) (coefficient : Nat) (power : Int) : Option Double :=
  let size : Int := digitCount coefficient + power
  if coefficient = 0 ∨ size < -400 then some (zero negative)
  else if 400 < size then none
  else if power < 0 then nearest? negative coefficient (Nat.pow 10 (-power).toNat)
  else nearest? negative (coefficient * Nat.pow 10 power.toNat) 1

/-! ## Products and quotients -/

/-- The number nearest to the product of two finite ones; nothing if it is beyond the greatest
one. -/
def times? : Double → Double → Option Double
  | .finite a m e, .finite b n f =>
    if m = 0 ∨ n = 0 then some (zero (a != b))
    else
      let (num, den) := scaled (m * n) 1 (-(e + f))
      nearest? (a != b) num den
  | _, _ => none

/-- The number nearest to the quotient of two finite ones; nothing if it is beyond the greatest one
or the divisor is zero. -/
def over? : Double → Double → Option Double
  | .finite a m e, .finite b n f =>
    if n = 0 then none
    else if m = 0 then some (zero (a != b))
    else
      let (num, den) := scaled m n (f - e)
      nearest? (a != b) num den
  | _, _ => none

def isZero : Double → Bool
  | .finite _ 0 _ => true
  | _ => false

def signed (negative : Bool) : Double → Double
  | .finite _ m e => .finite negative m e
  | .infinite _ => .infinite negative
  | .notANumber => .notANumber

/-! ## The shortest digits -/

/-- The decimals that read back as `m * 2 ^ e` lie between these bounds, given in units of
`2 ^ (e - 2)`; the ends belong to them when `m` is even. -/
def bounds (m : Nat) (e : Int) : Nat × Nat :=
  (if m = Nat.pow 2 52 ∧ -1074 < e then 4 * m - 1 else 4 * m - 2, 4 * m + 2)

/-- A candidate `digits * 10 ^ power` and the bounds over one denominator: the candidate, the lower
bound, the value and the upper bound. -/
def compared (m : Nat) (e : Int) (digits : Nat) (power : Int) : Nat × Nat × Nat × Nat :=
  let (low, high) := bounds m e
  let shift := e - 2
  let two : Nat → Nat := fun x => if shift < 0 then x else x * Nat.pow 2 shift.toNat
  let unit : Nat := if shift < 0 then Nat.pow 2 (-shift).toNat else 1
  if power < 0 then
    let ten := Nat.pow 10 (-power).toNat
    (digits * unit, two low * ten, two (4 * m) * ten, two high * ten)
  else (digits * Nat.pow 10 power.toNat * unit, two low, two (4 * m), two high)

/-- Whether a candidate reads back as `m * 2 ^ e`. -/
def readsBack (m : Nat) (e : Int) (digits : Nat) (power : Int) : Bool :=
  let (x, low, _, high) := compared m e digits power
  if m % 2 = 0 then low ≤ x && x ≤ high else low < x && x < high

/-- How far a candidate lies from `m * 2 ^ e`, in units that depend on the power alone. -/
def distance (m : Nat) (e : Int) (digits : Nat) (power : Int) : Nat :=
  let (x, _, v, _) := compared m e digits power
  if x ≤ v then v - x else x - v

/-- The whole part of `m * 2 ^ e / 10 ^ power`. -/
def wholePart (m : Nat) (e : Int) (power : Int) : Nat :=
  let num := if e < 0 then m else m * Nat.pow 2 e.toNat
  let den := if e < 0 then Nat.pow 2 (-e).toNat else 1
  if power < 0 then num * Nat.pow 10 (-power).toNat / den else num / (den * Nat.pow 10 power.toNat)

/-- The candidate of this power nearest to the value, if one of its two neighbours reads back. -/
def onGrid? (m : Nat) (e : Int) (power : Int) : Option (Nat × Int) :=
  let below := wholePart m e power
  let above := below + 1
  match readsBack m e below power && below != 0, readsBack m e above power with
  | false, false => none
  | true, false => some (below, power)
  | false, true => some (above, power)
  | true, true =>
    let d := distance m e below power
    let u := distance m e above power
    if d < u then some (below, power)
    else if u < d then some (above, power)
    else some (if below % 2 = 0 then below else above, power)

/-- The first grid with a hit, from the coarsest of `steps` grids down to the finest. -/
def searchGrids (m : Nat) (e : Int) : (steps : Nat) → (power : Int) → Nat × Int
  | 0, power => (wholePart m e power, power)
  | steps + 1, power =>
    match onGrid? m e power with
    | some found => found
    | none => searchGrids m e steps (power - 1)

/-- A power of ten that is at least the value: the coarsest grid worth a look. -/
def coarsest (m : Nat) (e : Int) : Int :=
  let bits : Int := (m.log2 : Int) + e + 1
  if bits < 0 then -((-bits).toNat * 30102 / 100000 : Nat) + 1
  else (bits.toNat * 30103 / 100000 : Nat) + 1

/-- The fewest digits that read back, without zeros at the end, and the power of ten they count. -/
def shortest (m : Nat) (e : Int) : Nat × Int :=
  if m = 0 then (0, 0) else searchGrids m e 22 (coarsest m e)

end Double

end RemoteMounts
