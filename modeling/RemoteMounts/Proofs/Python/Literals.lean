import RemoteMounts.Proofs.Json.OneLine
import RemoteMounts.Text.Blank

/-!
# Literals as Python reads them

The part of Python's grammar by which a script takes in what is written into it: a text between
double quotes on one line, and a dictionary of such texts.  A text of Python is a row of code
points, which may be halves of characters.  Where the readers give a result Python reads the same;
they give none for an escape by name, for a text of several lines and for texts that are joined by
standing side by side, none of which is ever written.

A literal of a JSON document is read in Python as the text it was made of, whatever follows it but
another quote (`readText_literalChars`), and an object of texts as the dictionary of its entries
(`readDisplay_textFields`).  The two languages do not agree on all literals; they agree on the ones
that are written, which are made of the pieces in `IsPiece`.
-/

namespace RemoteMounts.Python

def codes (s : String) : List Nat :=
  s.toList.map Char.toNat

theorem codes_injective : Function.Injective codes := by
  intro s t same
  exact String.toList_inj.mp ((List.map_inj_right fun _ _ => Char.toNat_inj.mp).mp same)

/-! ## Escapes -/

/-- The code point that a backslash and one further character stand for. -/
def shortEscape? : Char → Option Nat
  | '\\' => some 0x5c
  | '\x27' => some 0x27
  | '"' => some 0x22
  | 'a' => some 7
  | 'b' => some 8
  | 't' => some 9
  | 'n' => some 10
  | 'v' => some 11
  | 'f' => some 12
  | 'r' => some 13
  | _ => none

def octalValue? (c : Char) : Option Nat :=
  if 48 ≤ c.toNat ∧ c.toNat ≤ 55 then some (c.toNat - 48) else none

/-- The number written by up to so many further octal digits, after the value of those before. -/
def octalDigits : Nat → Nat → List Char → Nat × List Char
  | 0, value, cs => (value, cs)
  | _ + 1, value, [] => (value, [])
  | count + 1, value, c :: cs =>
    match octalValue? c with
    | some digit => octalDigits count (8 * value + digit) cs
    | none => (value, c :: cs)

/-- The number written by just so many further hexadecimal digits, after the value of those
before. -/
def hexDigits? : Nat → Nat → List Char → Option (Nat × List Char)
  | 0, value, cs => some (value, cs)
  | _ + 1, _, [] => none
  | count + 1, value, c :: cs =>
    match Json.hexValue? c with
    | some digit => hexDigits? count (16 * value + digit) cs
    | none => none

/-- The code point that so many hexadecimal digits name. -/
def codeOfDigits? (count : Nat) (cs : List Char) : Option (List Nat × List Char) :=
  match hexDigits? count 0 cs with
  | some (code, rest) => if code < 0x110000 then some ([code], rest) else none
  | none => none

/-- What the characters after a backslash stand for.  A line break after it is left out, and a
character that begins no escape is kept with the backslash. -/
def readEscape : List Char → Option (List Nat × List Char)
  | [] => none
  | c :: cs =>
    match shortEscape? c, octalValue? c with
    | some code, _ => some ([code], cs)
    | none, some digit => some ([(octalDigits 2 digit cs).1], (octalDigits 2 digit cs).2)
    | none, none =>
      match c with
      | 'x' => codeOfDigits? 2 cs
      | 'u' => codeOfDigits? 4 cs
      | 'U' => codeOfDigits? 8 cs
      | 'N' | '\x00' => none
      | '\n' => some ([], cs)
      | '\r' => some ([], if cs.head? = some '\n' then cs.tail else cs)
      | _ => some ([0x5c, c.toNat], cs)

theorem length_octalDigits (count value : Nat) (cs : List Char) :
    (octalDigits count value cs).2.length ≤ cs.length := by
  induction count generalizing value cs with
  | zero => exact Nat.le_refl _
  | succ count ih =>
    cases cs with
    | nil => exact Nat.le_refl _
    | cons c cs =>
      rw [octalDigits]
      split
      · exact Nat.le_succ_of_le (ih _ cs)
      · exact Nat.le_refl _

theorem length_hexDigits? {count value code : Nat} {cs rest : List Char}
    (h : hexDigits? count value cs = some (code, rest)) : rest.length ≤ cs.length := by
  induction count generalizing value cs with
  | zero =>
    cases h
    exact Nat.le_refl _
  | succ count ih =>
    cases cs with
    | nil => exact nomatch h
    | cons c cs =>
      rw [hexDigits?] at h
      split at h
      · exact Nat.le_succ_of_le (ih h)
      · exact nomatch h

theorem length_codeOfDigits? {count : Nat} {cs rest : List Char} {points : List Nat}
    (h : codeOfDigits? count cs = some (points, rest)) : rest.length ≤ cs.length := by
  unfold codeOfDigits? at h
  split at h
  · rename_i read
    split at h
    · cases h
      exact length_hexDigits? read
    · exact nomatch h
  · exact nomatch h

/-- An escape is not longer than what it is read from. -/
theorem length_readEscape {cs rest : List Char} {points : List Nat}
    (h : readEscape cs = some (points, rest)) : rest.length < cs.length := by
  cases cs with
  | nil => exact nomatch h
  | cons c cs =>
    rw [List.length_cons, Nat.lt_succ_iff]
    unfold readEscape at h
    dsimp only at h
    split at h
    · cases h
      exact Nat.le_refl _
    · cases h
      exact length_octalDigits ..
    · split at h
      · exact length_codeOfDigits? h
      · exact length_codeOfDigits? h
      · exact length_codeOfDigits? h
      · exact nomatch h
      · exact nomatch h
      · cases h
        exact Nat.le_refl _
      · cases h
        split <;> simp
      · cases h
        exact Nat.le_refl _

/-! ## Texts -/

/-- Whether the character ends the line or the program, so that no text goes on after it. -/
def breaksText (c : Char) : Bool :=
  c = '\n' || c = '\r' || c = '\x00'

/-- Reads up to and with the closing quote; the rest follows it. -/
def readBody : List Char → Option (List Nat × List Char)
  | [] => none
  | c :: cs =>
    if c = '"' then some ([], cs)
    else if c = '\\' then
      match _h : readEscape cs with
      | some (points, rest) => (readBody rest).map fun read => (points ++ read.1, read.2)
      | none => none
    else if breaksText c then none
    else (readBody cs).map fun read => (c.toNat :: read.1, read.2)
termination_by cs => cs.length
decreasing_by
  · exact Nat.lt_succ_of_lt (length_readEscape ‹_›)
  · exact Nat.lt_succ_self _

/-- Reads a text of one line between double quotes; three of them in a row begin a text of several
lines. -/
def readText : List Char → Option (List Nat × List Char)
  | '"' :: '"' :: '"' :: _ => none
  | '"' :: cs => readBody cs
  | _ => none

theorem readBody_quote (cs : List Char) : readBody ('"' :: cs) = some ([], cs) := by
  rw [readBody, if_pos rfl]

theorem readBody_backslash {cs rest : List Char} {points : List Nat}
    (h : readEscape cs = some (points, rest)) :
    readBody ('\\' :: cs) = (readBody rest).map fun read => (points ++ read.1, read.2) := by
  rw [readBody, if_neg (by decide), if_pos rfl]
  split
  · rename_i read
    cases read.symm.trans h
    rfl
  · rename_i none
    exact nomatch none.symm.trans h

theorem readBody_plain {c : Char} (quote : c ≠ '"') (backslash : c ≠ '\\')
    (high : 0x20 ≤ c.toNat) (cs : List Char) :
    readBody (c :: cs) = (readBody cs).map fun read => (c.toNat :: read.1, read.2) := by
  have goesOn : ¬ breaksText c = true := by
    intro breaks
    simp only [breaksText, Bool.or_eq_true, decide_eq_true_eq] at breaks
    rcases breaks with (rfl | rfl) | rfl
    all_goals exact absurd high (by decide)
  rw [readBody, if_neg quote, if_neg backslash, if_neg goesOn]

theorem length_readBody {cs rest : List Char} {points : List Nat}
    (h : readBody cs = some (points, rest)) : rest.length < cs.length := by
  fun_induction readBody cs generalizing points with
  | case1 => exact nomatch h
  | case2 cs =>
    cases h
    exact Nat.lt_succ_self _
  | case3 cs notQuote between after escape ih =>
    obtain ⟨⟨later, left⟩, body, same⟩ := Option.map_eq_some_iff.mp h
    cases same
    exact Nat.lt_succ_of_lt (Nat.lt_trans (ih body) (length_readEscape (by assumption)))
  | case4 => exact nomatch h
  | case5 => exact nomatch h
  | case6 c cs _ _ _ ih =>
    obtain ⟨⟨later, left⟩, body, same⟩ := Option.map_eq_some_iff.mp h
    cases same
    exact Nat.lt_succ_of_lt (ih body)

theorem length_readText {cs rest : List Char} {points : List Nat}
    (h : readText cs = some (points, rest)) : rest.length < cs.length := by
  unfold readText at h
  split at h
  · exact nomatch h
  · exact Nat.lt_succ_of_lt (length_readBody h)
  · exact nomatch h

/-! ## Literals of a document -/

/-- A piece of a written literal: a character that stands for itself, or an escape that means the
same in both languages. -/
inductive IsPiece : List Char → Prop
  | plain {c : Char} : 0x20 ≤ c.toNat → c ≠ '"' → c ≠ '\\' → IsPiece [c]
  | short {c : Char} : c ∈ ['"', '\\', 'b', 't', 'n', 'f', 'r'] → IsPiece ['\\', c]
  | code {high low : Char} : (Json.hexValue? high).isSome → (Json.hexValue? low).isSome →
    IsPiece ['\\', 'u', '0', '0', high, low]

theorem hexValue?_hexDigit : ∀ n < 16, Json.hexValue? (Json.hexDigit n) = some n := by
  decide

theorem isPiece_escape (c : Char) : IsPiece (Json.escape c) := by
  unfold Json.escape
  split
  case h_8 notQuote notBackslash _ _ _ _ _ =>
    split
    · refine .code ?_ ?_
      · rw [hexValue?_hexDigit _ (by omega)]
        rfl
      · rw [hexValue?_hexDigit _ (by omega)]
        rfl
    · exact .plain (by omega) notQuote notBackslash
  all_goals exact .short (by decide)

theorem readBody_short {c : Char} {code : Nat} (h : shortEscape? c = some code) (rest : List Char) :
    readBody ('\\' :: c :: rest) = (readBody rest).map fun read => (code :: read.1, read.2) := by
  have escape : readEscape (c :: rest) = some ([code], rest) := by
    simp only [readEscape, h]
  exact readBody_backslash escape

/-- A code point below 256 is read from two zeros and two further digits. -/
theorem readEscape_code {code : Nat} (h : code < 256) (rest : List Char) :
    readEscape ('u' :: '0' :: '0' :: Json.hexDigit (code / 16) :: Json.hexDigit (code % 16) ::
      rest) = some ([code], rest) := by
  have zero : Json.hexValue? '0' = some 0 := by decide
  have high := hexValue?_hexDigit (code / 16) (by omega)
  have low := hexValue?_hexDigit (code % 16) (by omega)
  have number : 16 * (16 * (16 * (16 * 0 + 0) + 0) + code / 16) + code % 16 = code := by omega
  have digits : hexDigits? 4 0 ('0' :: '0' :: Json.hexDigit (code / 16) ::
      Json.hexDigit (code % 16) :: rest) = some (code, rest) := by
    simp only [hexDigits?, zero, high, low, number]
  have named : codeOfDigits? 4 ('0' :: '0' :: Json.hexDigit (code / 16) ::
      Json.hexDigit (code % 16) :: rest) = some ([code], rest) := by
    simp only [codeOfDigits?, digits]
    rw [if_pos (by omega)]
  exact named

/-- Each character is read back from what it was written as. -/
theorem readBody_escape (c : Char) (rest : List Char) :
    readBody (Json.escape c ++ rest) =
      (readBody rest).map fun read => (c.toNat :: read.1, read.2) := by
  unfold Json.escape
  split
  case h_8 notQuote notBackslash _ _ _ _ _ =>
    split
    · exact readBody_backslash (readEscape_code (by omega) rest)
    · exact readBody_plain notQuote notBackslash (by omega) rest
  all_goals exact readBody_short rfl rest

theorem readBody_literal (cs rest : List Char) :
    readBody (cs.flatMap Json.escape ++ '"' :: rest) = some (cs.map Char.toNat, rest) := by
  induction cs with
  | nil => exact readBody_quote rest
  | cons c cs ih =>
    rw [List.flatMap_cons, List.append_assoc, readBody_escape, ih]
    rfl

/-- No piece begins with a quote. -/
theorem head?_piece {piece : List Char} (h : IsPiece piece) :
    ∃ c rest, piece = c :: rest ∧ c ≠ '"' := by
  cases h with
  | plain _ notQuote _ => exact ⟨_, _, rfl, notQuote⟩
  | short _ => exact ⟨_, _, rfl, by decide⟩
  | code _ _ => exact ⟨_, _, rfl, by decide⟩

/-- A literal is read as the text it was made of, unless another quote follows it. -/
theorem readText_literalChars (cs rest : List Char) (h : rest.head? ≠ some '"') :
    readText (Json.literalChars cs ++ rest) = some (cs.map Char.toNat, rest) := by
  have body := readBody_literal cs rest
  rw [Json.literalChars, List.cons_append, List.append_assoc, List.singleton_append]
  cases cs with
  | nil =>
    -- Two quotes in a row; a third one would begin a text of several lines.
    cases rest with
    | nil => exact body
    | cons d rest =>
      have other : d ≠ '"' := fun same => h (by rw [same]; rfl)
      rw [List.flatMap_nil, List.nil_append] at body ⊢
      rw [readText]
      · exact body
      · rintro _ ⟨⟩
        exact other rfl
  | cons c cs =>
    obtain ⟨d, piece, split, other⟩ := head?_piece (isPiece_escape c)
    rw [List.flatMap_cons, List.append_assoc, split, List.cons_append] at body ⊢
    rw [readText]
    · exact body
    · intro _ same
      exact other (List.cons.inj same).1

/-- A literal that is never written: JSON reads a slash, Python a backslash and a slash. -/
example : readText "\"\\/\"".toList = some ([92, 47], []) ∧
    Json.parse? "\"\\/\"".toList = some (.text "/") :=
  ⟨by cbv, rfl⟩

/-! ## Dictionaries -/

/-- Whether the character may stand between the parts of a dictionary. -/
def isBlank (c : Char) : Bool :=
  c = ' ' || c = '\t' || c = '\n' || c = '\x0c' || c = '\r'

/-- The program from the next character on that is not blank. -/
def skipBlanks (cs : List Char) : List Char :=
  cs.dropWhile isBlank

def readEntry (cs : List Char) : Option ((List Nat × List Nat) × List Char) :=
  match readText cs with
  | none => none
  | some (key, rest) =>
    match skipBlanks rest with
    | ':' :: rest =>
      (readText (skipBlanks rest)).map fun value => ((key, value.1), skipBlanks value.2)
    | _ => none

theorem length_skipBlanks (cs : List Char) : (skipBlanks cs).length ≤ cs.length :=
  (List.dropWhile_suffix _).length_le

theorem length_readEntry {cs rest : List Char} {entry : List Nat × List Nat}
    (h : readEntry cs = some (entry, rest)) : rest.length < cs.length := by
  unfold readEntry at h
  split at h
  · exact nomatch h
  · rename_i key after readKey
    split at h
    · rename_i colon
      obtain ⟨⟨value, left⟩, readValue, same⟩ := Option.map_eq_some_iff.mp h
      cases same
      have first := length_readText readKey
      have blanks := length_skipBlanks after
      have second := length_readText readValue
      rw [colon, List.length_cons] at blanks
      exact Nat.lt_of_le_of_lt (length_skipBlanks _) (Nat.lt_trans second
        (Nat.lt_of_le_of_lt (length_skipBlanks _) (by omega)))
    · exact nomatch h

/-- Reads the entries of a dictionary up to and with its closing brace; a comma may follow the last
one. -/
def readEntries (cs : List Char) : Option (List (List Nat × List Nat) × List Char) :=
  match _h : readEntry cs with
  | some (entry, '\x7d' :: rest) => some ([entry], rest)
  | some (entry, ',' :: rest) =>
    match (skipBlanks rest).head? with
    | some '\x7d' => some ([entry], (skipBlanks rest).tail)
    | _ => (readEntries (skipBlanks rest)).map fun read => (entry :: read.1, read.2)
  | _ => none
termination_by cs.length
decreasing_by
  have shorter := length_readEntry ‹_›
  have blanks := length_skipBlanks rest
  rw [List.length_cons] at shorter
  omega

/-- Reads a dictionary of texts, with its entries in the order in which they are written. -/
def readDisplay : List Char → Option (List (List Nat × List Nat) × List Char)
  | '\x7b' :: cs =>
    match skipBlanks cs with
    | '\x7d' :: rest => some ([], rest)
    | cs => readEntries cs
  | _ => none

theorem readEntries_last {cs rest : List Char} {entry : List Nat × List Nat}
    (h : readEntry cs = some (entry, '\x7d' :: rest)) :
    readEntries cs = some ([entry], rest) := by
  rw [readEntries]
  split
  · rename_i read
    cases read.symm.trans h
    rfl
  · rename_i read
    exact nomatch read.symm.trans h
  · rename_i none _
    exact absurd h (none _ _)

theorem readEntries_comma {cs rest : List Char} {entry : List Nat × List Nat}
    (h : readEntry cs = some (entry, ',' :: rest)) (more : (skipBlanks rest).head? ≠ some '\x7d') :
    readEntries cs =
      (readEntries (skipBlanks rest)).map fun read => (entry :: read.1, read.2) := by
  rw [readEntries]
  split
  · rename_i read
    exact nomatch read.symm.trans h
  · rename_i read
    cases read.symm.trans h
    split
    · rename_i last
      exact absurd last more
    · rfl
  · rename_i _ none
    exact absurd h (none _ _)

theorem skipBlanks_of_head {cs : List Char} (h : ∀ c ∈ cs.head?, isBlank c = false) :
    skipBlanks cs = cs :=
  Text.dropWhile_eq_self_of_head h

/-- Before a literal there is nothing to skip. -/
theorem skipBlanks_literalChars (cs rest : List Char) :
    skipBlanks (Json.literalChars cs ++ rest) = Json.literalChars cs ++ rest :=
  skipBlanks_of_head fun c hc => by
    obtain rfl : '"' = c := Option.some.inj hc
    rfl

/-- An entry is read from two literals with a colon between them. -/
theorem readEntry_literals (key value : String) {c : Char} (rest : List Char) (quote : c ≠ '"')
    (blank : isBlank c = false) :
    readEntry (Json.literalChars key.toList ++
        ':' :: (Json.literalChars value.toList ++ c :: rest)) =
      some ((codes key, codes value), c :: rest) := by
  have readKey := readText_literalChars key.toList
    (':' :: (Json.literalChars value.toList ++ c :: rest)) (by simp)
  have readValue := readText_literalChars value.toList (c :: rest) (by simpa using quote)
  have colon : skipBlanks (':' :: (Json.literalChars value.toList ++ c :: rest)) =
      ':' :: (Json.literalChars value.toList ++ c :: rest) := rfl
  have after : skipBlanks (c :: rest) = c :: rest :=
    skipBlanks_of_head fun d hd => by
      obtain rfl : c = d := Option.some.inj hd
      exact blank
  simp only [readEntry, readKey, colon, skipBlanks_literalChars, readValue, Option.map_some, after]
  rfl

/-- The fields of an object of texts begin with a literal. -/
theorem fieldsChars_textFields_eq (entry : String × String) (entries : List (String × String)) :
    ∃ more, Json.fieldsChars (Json.textFields (entry :: entries)) =
      Json.literalChars entry.1.toList ++ more := by
  cases entries with
  | nil => exact ⟨_, rfl⟩
  | cons next entries => exact ⟨_, rfl⟩

/-- The fields of an object of texts are read as the entries of a dictionary. -/
theorem readEntries_textFields (rest : List Char) :
    ∀ (entry : String × String) (entries : List (String × String)),
      readEntries (Json.fieldsChars (Json.textFields (entry :: entries)) ++ '\x7d' :: rest) =
        some ((entry :: entries).map fun e => (codes e.1, codes e.2), rest)
  | (key, value), [] => by
    have read := readEntry_literals key value (c := '\x7d') rest (by decide) rfl
    simp only [List.map_cons, List.map_nil, Json.fieldsChars, Json.chars, List.append_assoc,
      List.cons_append]
    exact readEntries_last read
  | (key, value), next :: entries => by
    have later := readEntries_textFields rest next entries
    obtain ⟨more, begins⟩ := fieldsChars_textFields_eq next entries
    have split : Json.fieldsChars (Json.textFields ((key, value) :: next :: entries)) =
        Json.literalChars key.toList ++ ':' :: (Json.literalChars value.toList ++
          ',' :: Json.fieldsChars (Json.textFields (next :: entries))) := by
      simp only [List.map_cons, Json.fieldsChars, Json.chars]
    rw [split]
    generalize Json.fieldsChars (Json.textFields (next :: entries)) = fields at later begins ⊢
    have read := readEntry_literals key value (c := ',') (fields ++ '\x7d' :: rest) (by decide) rfl
    have nothing : skipBlanks (fields ++ '\x7d' :: rest) = fields ++ '\x7d' :: rest := by
      rw [begins, List.append_assoc, skipBlanks_literalChars]
    have goesOn : (skipBlanks (fields ++ '\x7d' :: rest)).head? ≠ some '\x7d' := by
      rw [nothing, begins]
      simp [Json.literalChars]
    rw [List.append_assoc, List.cons_append, List.append_assoc, List.cons_append,
      readEntries_comma read goesOn, nothing, later]
    rfl

/-- An object of texts is read as the dictionary of its entries. -/
theorem readDisplay_textFields (entries : List (String × String)) (rest : List Char) :
    readDisplay (Json.chars (.object (Json.textFields entries)) ++ rest) =
      some (entries.map fun e => (codes e.1, codes e.2), rest) := by
  rw [Json.chars, List.cons_append, List.append_assoc, List.singleton_append]
  cases entries with
  | nil => rfl
  | cons entry entries =>
    obtain ⟨more, begins⟩ := fieldsChars_textFields_eq entry entries
    have read := readEntries_textFields rest entry entries
    rw [begins, List.append_assoc] at read ⊢
    rw [readDisplay, skipBlanks_literalChars]
    split
    · rename_i empty
      exact absurd (List.cons.inj empty).1 (by decide)
    · exact read

end RemoteMounts.Python
