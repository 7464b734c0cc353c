import RemoteMounts.Json.Basic
import RemoteMounts.Json.Literal

/-!
# Writing JSON documents

A document is written without blanks, the fields of an object in their order and a number by its
digits.  Where the digits of a number get their point and whether there is an exponent is said by
a `Layout`.  A text literal that names half a character is written as the literal of a half that
stands alone.
-/

namespace RemoteMounts.Json

/-! ## Laying numbers out -/

/-- The number `coefficient * 10 ^ power`, with a point or an exponent.  The point stands within or
beside the digits while the number has at most 16 whole digits and at most four zeros after the
point; otherwise one digit stands before the point. -/
def Number.laidOut (negative : Bool) (coefficient : Nat) (power : Int) : Number :=
  let count := (Nat.toDigits 10 coefficient).length
  let point : Int := count + power
  if 0 ≤ power ∧ point ≤ 16 then
    ⟨negative, coefficient * Nat.pow 10 (power.toNat + 1), 1, none⟩
  else if -5 < point ∧ point ≤ 16 then ⟨negative, coefficient, (-power).toNat, none⟩
  else ⟨negative, coefficient, count - 1, some (.ofInt (point - 1))⟩

theorem Number.coefficient_laidOut (negative : Bool) (coefficient : Nat) (power : Int) :
    ∃ zeros : Nat,
      (laidOut negative coefficient power).coefficient = coefficient * Nat.pow 10 zeros ∧
        (laidOut negative coefficient power).power + zeros = power := by
  have digits : 0 < (Nat.toDigits 10 coefficient).length :=
    List.length_pos_iff.mpr Nat.toDigits_ne_nil
  unfold laidOut
  dsimp only
  split
  · refine ⟨power.toNat + 1, rfl, ?_⟩
    simp [Number.power, shift]
    omega
  · split
    · refine ⟨0, (Nat.mul_one _).symm, ?_⟩
      simp [Number.power, shift]
      omega
    · refine ⟨0, (Nat.mul_one _).symm, ?_⟩
      simp [Number.power, shift]
      omega

/-- How numbers are laid out: zeros may be put behind the digits, and where the point stands or
which exponent there is makes up for it. -/
structure Layout where
  lay : (negative : Bool) → (coefficient : Nat) → (power : Int) → Number
  negative_lay : ∀ negative coefficient power, (lay negative coefficient power).negative = negative
  coefficient_lay : ∀ negative coefficient power, ∃ zeros : Nat,
    (lay negative coefficient power).coefficient = coefficient * Nat.pow 10 zeros ∧
      (lay negative coefficient power).power + zeros = power

/-- The layout that has an exponent only where there would be many zeros. -/
def Layout.usual : Layout where
  lay := Number.laidOut
  negative_lay negative coefficient power := by
    unfold Number.laidOut
    dsimp only
    split
    · rfl
    · split <;> rfl
  coefficient_lay := Number.coefficient_laidOut

instance : Inhabited Layout := ⟨.usual⟩

/-! ## Writing -/

def Sign.chars : Sign → List Char
  | none => []
  | plus => ['+']
  | minus => ['-']

def exponentChars : Option Exponent → List Char
  | none => []
  | some e => 'e' :: (e.sign.chars ++ Nat.toDigits 10 e.digits)

def Number.chars (n : Number) : List Char :=
  (if n.negative then ['-'] else []) ++
    (n.wholeDigits ++ ((if n.decimals = 0 then [] else '.' :: n.decimalDigits) ++
      exponentChars n.exponent))

mutual

def chars : Json → List Char
  | .null => ['n', 'u', 'l', 'l']
  | .bool true => ['t', 'r', 'u', 'e']
  | .bool false => ['f', 'a', 'l', 's', 'e']
  | .number n => n.chars
  | .text s => literalChars s.toList
  | .brokenText => ['"', '\\', 'u', 'd', '8', '0', '0', '"']
  | .array items => '[' :: (itemsChars items ++ [']'])
  | .object fields => '\x7b' :: (fieldsChars fields ++ ['\x7d'])
  | .brokenObject =>
    ['\x7b', '"', '\\', 'u', 'd', '8', '0', '0', '"', ':', 'n', 'u', 'l', 'l', '\x7d']

def itemsChars : List Json → List Char
  | [] => []
  | [item] => chars item
  | item :: rest => chars item ++ ',' :: itemsChars rest

def fieldsChars : List (String × Json) → List Char
  | [] => []
  | [(key, value)] => literalChars key.toList ++ ':' :: chars value
  | (key, value) :: rest =>
    literalChars key.toList ++ ':' :: (chars value ++ ',' :: fieldsChars rest)

end

def compact (j : Json) : String :=
  String.ofList j.chars

end RemoteMounts.Json
