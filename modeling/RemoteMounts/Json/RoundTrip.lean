import RemoteMounts.Json.Parser
import RemoteMounts.Json.Printer

/-!
# Reading JSON documents that were written

Main statement: every document is read back as it was (`ofString?_compact`), its numbers digit by
digit.  The same is said of a document within a text, of the items of a list and of the fields of an
object, for any budget that is large enough.
-/

namespace RemoteMounts.Json

/-! ## Numbers -/

theorem digitsValue_toDigits (n : Nat) : digitsValue (Nat.toDigits 10 n) = n :=
  Nat.ofDigitChars_toDigits (b := 10) (n := n) (by decide) (by decide)

theorem isDigit_of_mem_toDigits {n : Nat} {c : Char} (h : c ∈ Nat.toDigits 10 n) :
    c.isDigit = true :=
  Nat.isDigit_of_mem_toDigits (by decide) (by decide) h

/-- Only zero is written with a zero in front. -/
theorem eq_zero_of_head?_toDigits (n : Nat) (h : (Nat.toDigits 10 n).head? = some '0') : n = 0 := by
  induction n using Nat.strongRecOn with
  | ind n ih =>
    by_cases hlt : n < 10
    · have one : ∀ d, d < 10 → d.digitChar = '0' → d = 0 := by decide
      rw [Nat.toDigits_of_lt_base hlt] at h
      exact one n hlt (Option.some.inj h)
    · rw [Nat.toDigits_of_base_le (by decide) (by omega), List.head?_append,
        Option.or_eq_some_iff] at h
      rcases h with h | h
      · have := ih (n / 10) (by omega) h
        omega
      · exact absurd h.1 (by simp)

/-- Of two characters only one of which is in a class, none is the other. -/
theorem ne_of_class {p : Char → Bool} {c d : Char} (hc : p c = true) (hd : p d = false) :
    c ≠ d := by
  rintro rfl
  exact Bool.noConfusion (hd.symm.trans hc)

/-- Whether no number goes on with the text. -/
def EndsNumber (rest : List Char) : Prop :=
  ∀ c ∈ rest.head?, c.isDigit = false ∧ c ≠ '.' ∧ c ≠ 'e' ∧ c ≠ 'E'

theorem takeWhile_digits {digits rest : List Char} (hd : ∀ c ∈ digits, c.isDigit = true)
    (hr : ∀ c ∈ rest.head?, c.isDigit = false) :
    (digits ++ rest).takeWhile Char.isDigit = digits ∧
      (digits ++ rest).dropWhile Char.isDigit = rest := by
  rw [List.takeWhile_append_of_pos hd, List.dropWhile_append_of_pos hd]
  cases rest with
  | nil => simp
  | cons c rest => simp [hr c rfl]

theorem head?_toDigits (n : Nat) : ∃ c cs, Nat.toDigits 10 n = c :: cs ∧ c.isDigit = true := by
  cases h : Nat.toDigits 10 n with
  | nil => exact absurd h Nat.toDigits_ne_nil
  | cons c cs => exact ⟨c, cs, rfl, isDigit_of_mem_toDigits (n := n) (h ▸ List.mem_cons_self)⟩

@[simp] theorem length_lastDigits (n count : Nat) : (lastDigits n count).length = count := by
  induction count generalizing n with
  | zero => rfl
  | succ count ih => rw [lastDigits, List.length_append, ih, List.length_singleton]

theorem isDigit_of_mem_lastDigits {n count : Nat} {c : Char} (h : c ∈ lastDigits n count) :
    c.isDigit = true := by
  induction count generalizing n with
  | zero => cases h
  | succ count ih =>
    rcases List.mem_append.mp h with h | h
    · exact ih h
    · obtain rfl := List.mem_singleton.mp h
      have digit : ∀ d < 10, (Nat.digitChar d).isDigit = true := by decide
      exact digit _ (Nat.mod_lt _ (by decide))

theorem digitsValue_append_digit (digits : List Char) {d : Nat} (h : d < 10) :
    digitsValue (digits ++ [Nat.digitChar d]) = 10 * digitsValue digits + d := by
  have value : ∀ d < 10, (Nat.digitChar d).toNat - 48 = d := by decide
  simp [digitsValue, List.foldl_append, value d h]

/-- The digits before the last ones and the last ones are the number. -/
theorem digitsValue_lastDigits (n count : Nat) :
    digitsValue (Nat.toDigits 10 (n / Nat.pow 10 count) ++ lastDigits n count) = n := by
  induction count generalizing n with
  | zero =>
    rw [lastDigits, List.append_nil, digitsValue_toDigits]
    exact Nat.div_one n
  | succ count ih =>
    have split : n / Nat.pow 10 (count + 1) = n / 10 / Nat.pow 10 count := by
      rw [Nat.div_div_eq_div_mul, Nat.mul_comm]
      rfl
    rw [lastDigits, ← List.append_assoc, digitsValue_append_digit _ (Nat.mod_lt _ (by decide)),
      split, ih, Nat.div_add_mod]

theorem readFraction_decimals {n : Number} {rest : List Char}
    (hr : ∀ c ∈ rest.head?, c.isDigit = false ∧ c ≠ '.') :
    readFraction ((if n.decimals = 0 then [] else '.' :: n.decimalDigits) ++ rest) =
      some (n.decimalDigits, rest) := by
  have digits : ∀ c ∈ n.decimalDigits, c.isDigit = true := fun c mem =>
    isDigit_of_mem_lastDigits mem
  by_cases none : n.decimals = 0
  · have empty : n.decimalDigits = [] := by rw [Number.decimalDigits, none, lastDigits]
    rw [if_pos none, List.nil_append, empty]
    unfold readFraction
    split
    · exact absurd rfl (hr '.' rfl).2
    · rfl
  · have filled : n.decimalDigits.isEmpty = false := by
      rw [List.isEmpty_eq_false_iff, ← List.length_pos_iff, Number.decimalDigits, length_lastDigits]
      exact Nat.pos_of_ne_zero none
    obtain ⟨taken, left⟩ := takeWhile_digits digits fun c mem => (hr c mem).1
    simp [if_neg none, readFraction, taken, left, filled]

theorem readExponent_chars (exponent : Option Exponent) {rest : List Char} (hr : EndsNumber rest) :
    readExponent (exponentChars exponent ++ rest) = some (exponent, rest) := by
  cases exponent with
  | none =>
    unfold readExponent
    cases rest with
    | nil => rfl
    | cons c rest => simp [exponentChars, (hr c rfl).2.2.1, (hr c rfl).2.2.2]
  | some e =>
    obtain ⟨sign, digits⟩ := e
    obtain ⟨taken, left⟩ := takeWhile_digits
      (fun c h => isDigit_of_mem_toDigits (n := digits) h) fun c mem => (hr c mem).1
    have filled : (Nat.toDigits 10 digits).isEmpty = false := by
      simp [Nat.toDigits_ne_nil]
    cases sign with
    | plus | minus =>
      simp [exponentChars, Sign.chars, readExponent, taken, left, filled, digitsValue_toDigits]
    | none =>
      -- The digits begin with no sign, so that none is read.
      obtain ⟨c, cs, first, digit⟩ := head?_toDigits digits
      have plus : c ≠ '+' := ne_of_class digit (by decide)
      have minus : c ≠ '-' := ne_of_class digit (by decide)
      have value := digitsValue_toDigits digits
      rw [first, List.cons_append] at taken left
      rw [first] at value
      simp [exponentChars, Sign.chars, readExponent, first, plus, minus, taken, left, value]

theorem readMagnitude_chars (n : Number) {rest : List Char} (hr : EndsNumber rest) :
    readMagnitude n.negative
        (n.wholeDigits ++ ((if n.decimals = 0 then [] else '.' :: n.decimalDigits) ++
          exponentChars n.exponent) ++ rest) =
      some (n, rest) := by
  generalize tail_eq : exponentChars n.exponent ++ rest = tail
  have later : ∀ c ∈ tail.head?, c.isDigit = false ∧ c ≠ '.' := by
    subst tail_eq
    cases n.exponent with
    | none => exact fun c mem => ⟨(hr c mem).1, (hr c mem).2.1⟩
    | some e =>
      intro c mem
      obtain rfl : 'e' = c := by simpa [exponentChars] using mem
      decide
  have point : ∀ c ∈ ((if n.decimals = 0 then [] else '.' :: n.decimalDigits) ++ tail).head?,
      c.isDigit = false := by
    by_cases none : n.decimals = 0
    · rw [if_pos none]
      exact fun c mem => (later c mem).1
    · rw [if_neg none]
      intro c mem
      obtain rfl : '.' = c := by simpa using mem
      decide
  have digits : ∀ c ∈ n.wholeDigits, c.isDigit = true := fun c h => isDigit_of_mem_toDigits h
  obtain ⟨taken, left⟩ := takeWhile_digits digits point
  have front : ¬(n.wholeDigits.isEmpty = true ∨
      (n.wholeDigits.head? = some '0' ∧ n.wholeDigits.length ≠ 1)) := by
    rintro (h | ⟨h, hl⟩)
    · exact Nat.toDigits_ne_nil (List.isEmpty_iff.mp h)
    · rw [Number.wholeDigits, eq_zero_of_head?_toDigits _ h] at hl
      exact hl rfl
  have fraction := readFraction_decimals (n := n) later
  have value : digitsValue (n.wholeDigits ++ n.decimalDigits) = n.coefficient :=
    digitsValue_lastDigits _ _
  have count : n.decimalDigits.length = n.decimals := length_lastDigits _ _
  rw [List.append_assoc, List.append_assoc, tail_eq]
  unfold readMagnitude
  simp only [taken, left, if_neg front, fraction]
  rw [← tail_eq, readExponent_chars n.exponent hr]
  simp only [value, count]

theorem readNumber_chars (n : Number) {rest : List Char} (hr : EndsNumber rest) :
    readNumber (n.chars ++ rest) = some (n, rest) := by
  have read := readMagnitude_chars n hr
  unfold Number.chars
  cases sign : n.negative with
  | true => simpa [readNumber, sign] using read
  | false =>
    obtain ⟨c, cs, hc, hd⟩ := head?_toDigits (n.coefficient / Nat.pow 10 n.decimals)
    have hne : c ≠ '-' := ne_of_class hd (by decide)
    rw [sign, Number.wholeDigits, hc] at read
    simp only [Bool.false_eq_true, if_false, List.nil_append, Number.wholeDigits, hc,
      List.cons_append] at read ⊢
    unfold readNumber
    split
    · rename_i heq
      exact absurd (List.cons.inj heq).1 hne
    · exact read

/-! ## Documents -/

theorem readText_literal (s : String) (rest : List Char) :
    literalChars s.toList ++ rest = '"' :: (s.toList.flatMap escape ++ '"' :: rest) ∧
    readText (s.toList.flatMap escape ++ '"' :: rest) = some (.text s, rest) := by
  constructor
  · simp [literalChars]
  · simp [readText, readPieces_literal, joinPieces_chars]

theorem skipSpaces_cons {c : Char} (h : isSpace c = false) (cs : List Char) :
    skipSpaces (c :: cs) = c :: cs := by
  simp [skipSpaces, h]

/-! ## Reading back -/

def beginsNumber (c : Char) : Bool :=
  c = '-' || c.isDigit

theorem isSpace_of_beginsNumber {c : Char} (h : beginsNumber c = true) : isSpace c = false := by
  have other : ∀ d, beginsNumber d = false → c ≠ d := fun d hd => ne_of_class h hd
  simp [isSpace, other ' ' (by decide), other '\n' (by decide), other '\r' (by decide),
    other '\t' (by decide)]

/-- What begins like a number is read as one. -/
theorem readValue_number {c : Char} (cs : List Char) (budget : Nat) (h : beginsNumber c = true) :
    readValue (budget + 1) (c :: cs) =
      (readNumber (c :: cs)).map fun read => (.number read.1, read.2) := by
  simp only [readValue, skipSpaces_cons (isSpace_of_beginsNumber h)]
  split
  all_goals
    first | rfl | (rename_i heq; exact absurd (List.cons.inj heq).1 (ne_of_class h (by decide)))

theorem head?_number_chars (n : Number) :
    ∃ c cs, n.chars = c :: cs ∧ beginsNumber c = true := by
  obtain ⟨c, cs, hc, hd⟩ := head?_toDigits (n.coefficient / Nat.pow 10 n.decimals)
  unfold Number.chars
  cases n.negative with
  | true => exact ⟨'-', _, rfl, by decide⟩
  | false =>
    rw [Number.wholeDigits, hc]
    exact ⟨c, _, rfl, by simp [beginsNumber, hd]⟩

/-- The text of a document begins with no blank and no end of a list or an object. -/
theorem head?_chars (j : Json) :
    ∃ c cs, j.chars = c :: cs ∧ isSpace c = false ∧ c ≠ ']' := by
  cases j with
  | number n =>
    obtain ⟨c, cs, hc, hn⟩ := head?_number_chars n
    exact ⟨c, cs, hc, isSpace_of_beginsNumber hn, ne_of_class hn (by decide)⟩
  | bool b => cases b <;> exact ⟨_, _, rfl, by decide, by decide⟩
  | _ => exact ⟨_, _, rfl, by decide, by decide⟩

mutual

theorem readValue_chars : ∀ (j : Json) (budget : Nat) (rest : List Char),
    2 * j.chars.length ≤ budget → EndsNumber rest →
    readValue budget (j.chars ++ rest) = some (j, rest)
  | .null, 0, _, hb, _ => absurd hb (by decide)
  | .null, budget + 1, rest, _, _ => by
    simp [chars, readValue, skipSpaces_cons (show isSpace 'n' = false by decide)]
  | .bool true, 0, _, hb, _ => absurd hb (by decide)
  | .bool true, budget + 1, rest, _, _ => by
    simp [chars, readValue, skipSpaces_cons (show isSpace 't' = false by decide)]
  | .bool false, 0, _, hb, _ => absurd hb (by decide)
  | .bool false, budget + 1, rest, _, _ => by
    simp [chars, readValue, skipSpaces_cons (show isSpace 'f' = false by decide)]
  | .number n, 0, _, hb, _ => by
    obtain ⟨c, cs, hc, -⟩ := head?_number_chars n
    simp [chars, hc] at hb
  | .number n, budget + 1, rest, _, hr => by
    obtain ⟨c, cs, hc, hn⟩ := head?_number_chars n
    have read := readNumber_chars n hr
    rw [hc, List.cons_append] at read
    rw [chars, hc, List.cons_append, readValue_number _ _ hn, read]
    rfl
  | .text s, 0, _, hb, _ => by simp [chars, literalChars] at hb
  | .text s, budget + 1, rest, _, _ => by
    obtain ⟨written, read⟩ := readText_literal s rest
    rw [chars, written]
    simp only [readValue, skipSpaces_cons (show isSpace '"' = false by decide), read]
  | .brokenText, 0, _, hb, _ => absurd hb (by decide)
  | .brokenText, budget + 1, rest, _, _ => by
    simp only [chars, List.cons_append, List.nil_append, readValue,
      skipSpaces_cons (show isSpace '"' = false by decide)]
    rfl
  | .array [], 0, _, hb, _ => by simp [chars] at hb
  | .array [], budget + 1, rest, _, _ => by
    simp [chars, itemsChars, readValue, skipSpaces_cons (show isSpace '[' = false by decide),
      skipSpaces_cons (show isSpace ']' = false by decide)]
  | .array (item :: items), 0, _, hb, _ => by simp [chars] at hb
  | .array (item :: items), budget + 1, rest, hb, _ => by
    have read := readItems_chars item items budget rest
      (by simp [chars] at hb; omega)
    obtain ⟨c, cs, hc, hs, hne⟩ := head?_chars item
    obtain ⟨tail, ht⟩ : ∃ tail, itemsChars (item :: items) ++ ']' :: rest = c :: tail := by
      cases items <;> simp [itemsChars, hc]
    rw [ht] at read
    simp only [chars, List.cons_append, List.append_assoc, List.nil_append, readValue,
      skipSpaces_cons (show isSpace '[' = false by decide), ht, skipSpaces_cons hs]
    split
    · rename_i heq
      exact absurd (List.cons.inj heq).1 hne
    · rw [read]
      rfl
  | .object [], 0, _, hb, _ => by simp [chars] at hb
  | .object [], budget + 1, rest, _, _ => by
    simp [chars, fieldsChars, readValue, skipSpaces_cons (show isSpace '\x7b' = false by decide),
      skipSpaces_cons (show isSpace '\x7d' = false by decide)]
  | .object (field :: fields), 0, _, hb, _ => by simp [chars] at hb
  | .object ((key, value) :: fields), budget + 1, rest, hb, _ => by
    have read := readFields_chars key value fields budget rest
      (by simp [chars] at hb; omega)
    obtain ⟨tail, ht⟩ : ∃ tail,
        fieldsChars ((key, value) :: fields) ++ '\x7d' :: rest = '"' :: tail := by
      cases fields <;> simp [fieldsChars, literalChars]
    rw [ht] at read
    simp only [chars, List.cons_append, List.append_assoc, List.nil_append, readValue,
      skipSpaces_cons (show isSpace '\x7b' = false by decide), ht,
      skipSpaces_cons (show isSpace '"' = false by decide)]
    exact read
  | .brokenObject, budget, rest, hb, _ => by
    obtain ⟨more, rfl⟩ : ∃ more, budget = more + 3 := ⟨budget - 3, by simp [chars] at hb; omega⟩
    simp only [chars, List.cons_append, List.nil_append, readValue, readFields,
      skipSpaces_cons (show isSpace '\x7b' = false by decide),
      skipSpaces_cons (show isSpace '"' = false by decide)]
    rfl

theorem readItems_chars : ∀ (item : Json) (items : List Json) (budget : Nat) (rest : List Char),
    2 * (itemsChars (item :: items)).length + 1 ≤ budget →
    readItems budget (itemsChars (item :: items) ++ ']' :: rest) = some (item :: items, rest)
  | item, items, 0, _, hb => by omega
  | item, [], budget + 1, rest, hb => by
    have read := readValue_chars item budget (']' :: rest)
      (by simp [itemsChars] at hb; omega) (by simp [EndsNumber])
    simp only [itemsChars, readItems, read, skipSpaces_cons (show isSpace ']' = false by decide)]
  | item, next :: items, budget + 1, rest, hb => by
    have read := readValue_chars item budget
      (',' :: (itemsChars (next :: items) ++ ']' :: rest))
      (by simp [itemsChars] at hb; omega) (by simp [EndsNumber])
    have later := readItems_chars next items budget rest
      (by simp [itemsChars] at hb; omega)
    simp only [itemsChars, List.append_assoc, List.cons_append, readItems, read,
      skipSpaces_cons (show isSpace ',' = false by decide), later]
    rfl

theorem readFields_chars : ∀ (key : String) (value : Json) (fields : List (String × Json))
    (budget : Nat) (rest : List Char),
    2 * (fieldsChars ((key, value) :: fields)).length + 1 ≤ budget →
    readFields budget (fieldsChars ((key, value) :: fields) ++ '\x7d' :: rest) =
      some (.object ((key, value) :: fields), rest)
  | key, value, fields, 0, _, hb => by omega
  | key, value, [], budget + 1, rest, hb => by
    have read := readValue_chars value budget ('\x7d' :: rest)
      (by simp [fieldsChars] at hb; omega) (by simp [EndsNumber])
    obtain ⟨written, readKey⟩ := readText_literal key (':' :: (value.chars ++ '\x7d' :: rest))
    simp only [fieldsChars, List.append_assoc, List.cons_append, written, readFields,
      skipSpaces_cons (show isSpace '"' = false by decide), readKey,
      skipSpaces_cons (show isSpace ':' = false by decide), read,
      skipSpaces_cons (show isSpace '\x7d' = false by decide), withField]
  | key, value, (k, v) :: fields, budget + 1, rest, hb => by
    have read := readValue_chars value budget
      (',' :: (fieldsChars ((k, v) :: fields) ++ '\x7d' :: rest))
      (by simp [fieldsChars] at hb; omega) (by simp [EndsNumber])
    have later := readFields_chars k v fields budget rest
      (by simp [fieldsChars] at hb; omega)
    obtain ⟨written, readKey⟩ := readText_literal key
      (':' :: (value.chars ++ ',' :: (fieldsChars ((k, v) :: fields) ++ '\x7d' :: rest)))
    simp only [fieldsChars, List.append_assoc, List.cons_append, written, readFields,
      skipSpaces_cons (show isSpace '"' = false by decide), readKey,
      skipSpaces_cons (show isSpace ':' = false by decide), read,
      skipSpaces_cons (show isSpace ',' = false by decide), later]
    rfl

end

/-- Every document is read back as it was. -/
theorem parse?_chars (j : Json) : parse? j.chars = some j := by
  have read := readValue_chars j (2 * j.chars.length + 1) [] (by omega) (by simp [EndsNumber])
  rw [List.append_nil] at read
  simp [parse?, read, skipSpaces]

theorem ofString?_compact (j : Json) : ofString? j.compact = some j := by
  simpa [ofString?, compact] using parse?_chars j

end RemoteMounts.Json
