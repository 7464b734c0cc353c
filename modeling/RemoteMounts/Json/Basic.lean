/-!
# JSON documents

A document as it is written: the entries of an object in their order with repeated keys kept, a
number by its digits, and a text literal that names half a character marked as such, since no text
holds it; so is an object with such a literal as a key.  What a reader of the document makes of these
is said where it is read.
-/

namespace RemoteMounts

/-- What stands before the digits of an exponent. -/
inductive Json.Sign
  | none
  | plus
  | minus
deriving DecidableEq, Inhabited, Repr

structure Json.Exponent where
  sign : Json.Sign
  digits : Nat
deriving DecidableEq, Inhabited, Repr

/-- A number as written. -/
structure Json.Number where
  negative : Bool
  /-- The digits, also those after the point. -/
  coefficient : Nat
  /-- How many of the digits stand after the point; there is no point before none. -/
  decimals : Nat
  exponent : Option Json.Exponent
deriving DecidableEq, Inhabited, Repr

inductive Json
  | null
  | bool (b : Bool)
  | number (n : Json.Number)
  | text (s : String)
  | brokenText
  | array (items : List Json)
  | object (fields : List (String × Json))
  | brokenObject
deriving Inhabited

namespace Json

/-- The last digits of a number, so many of them. -/
def lastDigits (n : Nat) : (count : Nat) → List Char
  | 0 => []
  | count + 1 => lastDigits (n / 10) count ++ [Nat.digitChar (n % 10)]

def Exponent.value (e : Exponent) : Int :=
  match e.sign with
  | .minus => -e.digits
  | .none | .plus => e.digits

/-- The exponent with a sign only if it is negative. -/
def Exponent.ofInt (e : Int) : Exponent :=
  ⟨if e < 0 then .minus else .none, e.natAbs⟩

@[simp] theorem Exponent.value_ofInt (e : Int) : (ofInt e).value = e := by
  unfold ofInt value
  by_cases negative : e < 0
  · simp only [negative, if_true]
    omega
  · simp only [negative, if_false]
    omega

/-- The power of ten by which the digits with their point are multiplied. -/
def Number.shift (n : Number) : Int :=
  (n.exponent.map Exponent.value).getD 0

/-- The power of ten of the last digit. -/
def Number.power (n : Number) : Int :=
  n.shift - n.decimals

/-- The digits before the point; zero if there are no others. -/
def Number.wholeDigits (n : Number) : List Char :=
  Nat.toDigits 10 (n.coefficient / Nat.pow 10 n.decimals)

def Number.decimalDigits (n : Number) : List Char :=
  lastDigits n.coefficient n.decimals

def Number.ofInt (n : Int) : Number :=
  ⟨decide (n < 0), n.natAbs, 0, none⟩

def ofNat (n : Nat) : Json :=
  .number (.ofInt n)

/-- The field of an object, of the last entry with the key. -/
def field? (key : String) : Json → Option Json
  | .object fields => fields.reverse.lookup key
  | _ => none

mutual

def depth : Json → Nat
  | .array items => itemsDepth items + 1
  | .object fields => fieldsDepth fields + 1
  | _ => 0

def itemsDepth : List Json → Nat
  | [] => 0
  | item :: rest => max (depth item) (itemsDepth rest)

def fieldsDepth : List (String × Json) → Nat
  | [] => 0
  | (_, value) :: rest => max (depth value) (fieldsDepth rest)

end

end Json

end RemoteMounts
