/-!
# Text literals of a JSON document

A text is written between double quotes: quotes and backslashes are escaped, the controls below
U+0020 by a letter or by four hexadecimal digits, and every other character stands for itself.
Reading also takes the escapes that writing never makes; an escape may name half of a character
beyond U+FFFF, and two such halves in a row are one character.
-/

namespace RemoteMounts.Json

/-- A hexadecimal digit, lower case. -/
def hexDigit (n : Nat) : Char :=
  if n < 10 then Char.ofNat (48 + n) else Char.ofNat (87 + n)

def escape (c : Char) : List Char :=
  match c with
  | '"' => ['\\', '"']
  | '\\' => ['\\', '\\']
  | '\x08' => ['\\', 'b']
  | '\t' => ['\\', 't']
  | '\n' => ['\\', 'n']
  | '\x0c' => ['\\', 'f']
  | '\r' => ['\\', 'r']
  | c =>
    if c.toNat < 0x20 then
      ['\\', 'u', '0', '0', hexDigit (c.toNat / 16), hexDigit (c.toNat % 16)]
    else [c]

def literalChars (cs : List Char) : List Char :=
  '"' :: (cs.flatMap escape ++ ['"'])

def literal (s : String) : String :=
  String.ofList (literalChars s.toList)

/-! ## Reading a literal -/

/-- What one character or escape of a literal stands for: a character, or half of one. -/
inductive Piece
  | char (c : Char)
  | half (code : Nat)
deriving DecidableEq

/-- The value of a hexadecimal digit of either case. -/
def hexValue? (c : Char) : Option Nat :=
  let n := c.toNat
  if 48 ≤ n ∧ n ≤ 57 then some (n - 48)
  else if 97 ≤ n ∧ n ≤ 102 then some (n - 87)
  else if 65 ≤ n ∧ n ≤ 70 then some (n - 55)
  else none

def hexNumber? (a b c d : Char) : Option Nat :=
  match hexValue? a, hexValue? b, hexValue? c, hexValue? d with
  | some a, some b, some c, some d => some (((a * 16 + b) * 16 + c) * 16 + d)
  | _, _, _, _ => none

/-- The character, or half of one, that a number of four hexadecimal digits names. -/
def Piece.ofCode (code : Nat) : Piece :=
  if 0xD800 ≤ code ∧ code < 0xE000 then .half code else .char (Char.ofNat code)

def shortEscape? (c : Char) : Option Char :=
  match c with
  | '"' => some '"'
  | '\\' => some '\\'
  | '/' => some '/'
  | 'b' => some '\x08'
  | 'f' => some '\x0c'
  | 'n' => some '\n'
  | 'r' => some '\r'
  | 't' => some '\t'
  | _ => none

/-- Reads up to and with the closing quote; the rest follows it. -/
def readPieces : List Char → Option (List Piece × List Char)
  | [] => none
  | '"' :: rest => some ([], rest)
  | '\\' :: 'u' :: a :: b :: c :: d :: rest =>
    match hexNumber? a b c d, readPieces rest with
    | some code, some (pieces, rest) => some (Piece.ofCode code :: pieces, rest)
    | _, _ => none
  | '\\' :: e :: rest =>
    match shortEscape? e, readPieces rest with
    | some c, some (pieces, rest) => some (.char c :: pieces, rest)
    | _, _ => none
  | c :: rest =>
    if c.toNat < 0x20 then none
    else
      match readPieces rest with
      | some (pieces, rest) => some (.char c :: pieces, rest)
      | none => none

/-- Joins halves to characters; nothing if a half stands alone. -/
def joinPieces : List Piece → Option (List Char)
  | [] => some []
  | .char c :: pieces => (joinPieces pieces).map (c :: ·)
  | .half high :: .half low :: pieces =>
    if high < 0xDC00 ∧ 0xDC00 ≤ low then
      (joinPieces pieces).map
        (Char.ofNat (0x10000 + (high - 0xD800) * 0x400 + (low - 0xDC00)) :: ·)
    else none
  | .half _ :: _ => none

/-! ## Reading what was written -/

theorem readPieces_escape (c : Char) (rest : List Char) :
    readPieces (escape c ++ rest) =
      (readPieces rest).map fun read => (Piece.char c :: read.1, read.2) := by
  have hex : ∀ n, n < 16 → hexValue? (hexDigit n) = some n := by decide
  unfold escape
  split
  all_goals try (simp [readPieces, shortEscape?]; cases readPieces rest <;> rfl)
  rename_i h₁ h₂ h₃ h₄ h₅ h₆ h₇
  split
  · rename_i hlow
    have hcode : hexNumber? '0' '0' (hexDigit (c.toNat / 16)) (hexDigit (c.toNat % 16)) =
        some c.toNat := by
      rw [hexNumber?, hex _ (by omega), hex _ (by omega),
        show hexValue? '0' = some 0 from by decide]
      simp only [Option.some.injEq]
      omega
    have hchar : Piece.ofCode c.toNat = .char c := by
      unfold Piece.ofCode
      rw [if_neg (by omega), Char.ofNat_toNat]
    simp only [List.cons_append, List.nil_append, readPieces, hcode]
    cases readPieces rest <;> simp [hchar]
  · rename_i hlow
    simp only [List.cons_append, List.nil_append]
    rw [readPieces.eq_def]
    split
    · rename_i heq
      exact absurd heq (by simp)
    · rename_i heq
      exact absurd (List.cons.inj heq).1 h₁
    · rename_i heq
      exact absurd (List.cons.inj heq).1 h₂
    · rename_i heq
      exact absurd (List.cons.inj heq).1 h₂
    · rename_i heq
      obtain ⟨rfl, rfl⟩ := List.cons.inj heq
      rw [if_neg hlow]
      cases readPieces rest <;> rfl

theorem readPieces_literal (cs rest : List Char) :
    readPieces (cs.flatMap escape ++ '"' :: rest) = some (cs.map Piece.char, rest) := by
  induction cs with
  | nil => simp [readPieces]
  | cons c cs ih => simp [List.flatMap_cons, List.append_assoc, readPieces_escape, ih]

theorem joinPieces_chars (cs : List Char) : joinPieces (cs.map Piece.char) = some cs := by
  induction cs with
  | nil => rfl
  | cons c cs ih => simp [joinPieces, ih]

end RemoteMounts.Json
