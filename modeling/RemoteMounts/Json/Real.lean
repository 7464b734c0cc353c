import RemoteMounts.Double
import RemoteMounts.Json.Basic

/-!
# Numbers of a JSON document as a reader keeps them

A whole number in the range of 64 bits, signed or not, is kept as it is.  Any other is kept as
a number of 53 bits, which is not always the nearest one: as many of the digits as fit into 64 bits
are rounded to such a number, and that is multiplied or divided by a power of ten, itself rounded,
and rounded again.
-/

namespace RemoteMounts.Json.Number

/-- The number as an integer, if it is one and has 64 bits; zero with a sign is none. -/
def int? (n : Number) : Option Int :=
  if n.decimals = 0 ∧ n.exponent = none then
    if n.negative then
      if 0 < n.coefficient ∧ n.coefficient ≤ Nat.pow 2 63 then some (-n.coefficient) else none
    else if n.coefficient < Nat.pow 2 64 then some n.coefficient
    else none
  else none

/-! ## The digits that count -/

/-- Digits that have been read. -/
structure Cut where
  /-- The number that the digits which count are. -/
  value : Nat := 0
  /-- The power of ten of the last of them. -/
  power : Int := 0
  /-- Whether a digit did not fit any more; the digits after it do not count. -/
  full : Bool := false

namespace Cut

/-- Whether the digit counts no more. -/
def overflows (c : Cut) (digit : Nat) : Bool :=
  c.full || Nat.pow 2 64 ≤ 10 * c.value + digit

/-- One digit before the point has been read. -/
def whole (c : Cut) (digit : Char) : Cut :=
  let d := digit.toNat - 48
  if c.overflows d then { c with power := c.power + 1, full := true }
  else { c with value := 10 * c.value + d }

/-- One digit after the point has been read. -/
def decimal (c : Cut) (digit : Char) : Cut :=
  let d := digit.toNat - 48
  if c.overflows d then { c with full := true }
  else { c with value := 10 * c.value + d, power := c.power - 1 }

end Cut

/-- The digits of the number that count.  Behind the point a digit may fit again after one before the
point did not. -/
def cut (n : Number) : Cut :=
  let whole := n.wholeDigits.foldl Cut.whole {}
  n.decimalDigits.foldl Cut.decimal { whole with full := false }

/-! ## Powers of ten -/

/-- The greatest power of ten that is a number of 53 bits. -/
def greatestPower : Nat := 308

/-- The power of ten, rounded. -/
def ten? (power : Nat) : Option Double :=
  Double.ofDecimal? false 1 power

/-- The number times a power of ten.  Zero is zero whatever the power. -/
def raised? (x : Double) (power : Nat) : Option Double :=
  if x.isZero then some x
  else if greatestPower < power then none
  else (ten? power).bind x.times?

/-- The number divided by the greatest power of ten so many times and then by another one. -/
def lowered? (power : Nat) : (rounds : Nat) → Double → Option Double
  | 0, x => (ten? power).bind x.over?
  | rounds + 1, x =>
    if x.isZero then some x
    else ((ten? greatestPower).bind x.over?).bind (lowered? power rounds)

/-- The number times a power of ten, which may be negative. -/
def scaled? (x : Double) (power : Int) : Option Double :=
  if 0 ≤ power then raised? x power.toNat
  else
    let below := (-power).toNat
    let rounds := (below - 1) / greatestPower
    lowered? (below - rounds * greatestPower) rounds x

/-- The number as one of 53 bits; nothing if it is beyond the greatest one. -/
def real? (n : Number) : Option Double :=
  ((Double.ofDecimal? false n.cut.value 0).bind fun x =>
    scaled? x (n.cut.power + n.shift)).map (Double.signed n.negative)

end RemoteMounts.Json.Number
