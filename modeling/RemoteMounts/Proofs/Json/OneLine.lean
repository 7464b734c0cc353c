import RemoteMounts.Datum
import RemoteMounts.Json.RoundTrip
import RemoteMounts.Proofs.Text.Lines

/-!
# Documents on one line

A text literal and a table of texts are written without control characters, so neither holds a line
break (`noControl_literalChars`, `noControl_ofTexts`).  A list whose commas are each followed by
a space reads as the list of its items (`parse?_spaced`), and a table of texts that is an item of it
is kept as it is (`datum?_texts`).
-/

namespace RemoteMounts

namespace Json

theorem hexDigit_not_control : ∀ n < 16, 0x20 ≤ (hexDigit n).toNat := by
  decide

theorem noControl_escape (c : Char) : Text.NoControl (escape c) := by
  unfold escape
  split
  case h_8 =>
    split
    · have high := hexDigit_not_control (c.toNat / 16) (by omega)
      have low := hexDigit_not_control (c.toNat % 16) (by omega)
      simp only [Text.noControl_cons]
      exact ⟨by decide, by decide, by decide, by decide, high, low, by decide⟩
    · rw [Text.noControl_cons]
      exact ⟨by omega, by decide⟩
  all_goals decide

/-- A literal holds no control characters, whatever text it stands for. -/
theorem noControl_literalChars (cs : List Char) : Text.NoControl (literalChars cs) := by
  rw [literalChars, Text.noControl_cons, Text.noControl_append]
  refine ⟨by decide, fun d hd => ?_, by decide⟩
  obtain ⟨c, -, hd⟩ := List.mem_flatMap.mp hd
  exact noControl_escape c d hd

theorem parse?_literalChars (s : String) : parse? (literalChars s.toList) = some (.text s) :=
  parse?_chars (.text s)

abbrev textFields (entries : List (String × String)) : List (String × Json) :=
  entries.map fun e => (e.1, .text e.2)

/-- The fields of an object of texts are pairs of literals with commas between them. -/
theorem fieldsChars_textFields :
    ∀ entries : List (String × String),
      fieldsChars (textFields entries) =
        [','].intercalate (entries.map fun e =>
          literalChars e.1.toList ++ ':' :: literalChars e.2.toList)
  | [] => rfl
  | [(key, value)] => by
    simp [fieldsChars, chars, List.intercalate]
  | (key, value) :: next :: rest => by
    have later := fieldsChars_textFields (next :: rest)
    simp only [List.map_cons, fieldsChars, chars, List.intercalate] at later ⊢
    rw [later]
    simp

theorem noControl_textFields :
    ∀ entries : List (String × String), Text.NoControl (fieldsChars (textFields entries))
  | [] => by decide
  | [(key, value)] => by
    simp only [List.map_cons, List.map_nil, fieldsChars, chars, Text.noControl_append,
      Text.noControl_cons]
    exact ⟨noControl_literalChars _, by decide, noControl_literalChars _⟩
  | (key, value) :: next :: rest => by
    have later := noControl_textFields (next :: rest)
    simp only [List.map_cons, fieldsChars, chars, Text.noControl_append,
      Text.noControl_cons] at later ⊢
    exact ⟨noControl_literalChars _, by decide, noControl_literalChars _, by decide, later⟩

/-! ## Lists with spaces -/

theorem readValue_space (budget : Nat) (cs : List Char) :
    readValue budget (' ' :: cs) = readValue budget cs := by
  cases budget with
  | zero => rfl
  | succ budget =>
    have skip : skipSpaces (' ' :: cs) = skipSpaces cs := rfl
    simp only [readValue, skip]

theorem readItems_space (budget : Nat) (cs : List Char) :
    readItems budget (' ' :: cs) = readItems budget cs := by
  cases budget with
  | zero => rfl
  | succ budget => simp only [readItems, readValue_space]

/-- The items with a comma and a space between them. -/
def spacedChars : List Json → List Char
  | [] => []
  | [item] => chars item
  | item :: rest => chars item ++ ',' :: ' ' :: spacedChars rest

theorem readItems_spaced :
    ∀ (item : Json) (items : List Json) (budget : Nat) (rest : List Char),
      2 * (spacedChars (item :: items)).length + 1 ≤ budget →
      readItems budget (spacedChars (item :: items) ++ ']' :: rest) = some (item :: items, rest)
  | item, items, 0, _, hb => by omega
  | item, [], budget + 1, rest, hb => by
    have read := readValue_chars item budget (']' :: rest)
      (by simp [spacedChars] at hb; omega) (by simp [EndsNumber])
    simp only [spacedChars, readItems, read, skipSpaces_cons (show isSpace ']' = false by decide)]
  | item, next :: items, budget + 1, rest, hb => by
    have read := readValue_chars item budget
      (',' :: ' ' :: (spacedChars (next :: items) ++ ']' :: rest))
      (by simp [spacedChars] at hb; omega) (by simp [EndsNumber])
    have later := readItems_spaced next items budget rest
      (by simp [spacedChars] at hb; omega)
    simp only [spacedChars, List.append_assoc, List.cons_append, readItems, read,
      skipSpaces_cons (show isSpace ',' = false by decide), readItems_space, later]
    rfl

/-- A list is read by its items, also when a space follows each comma. -/
theorem parse?_spaced (item : Json) (items : List Json) :
    parse? ('[' :: (spacedChars (item :: items) ++ [']'])) = some (.array (item :: items)) := by
  have read := readItems_spaced item items
    (2 * ('[' :: (spacedChars (item :: items) ++ [']'])).length) []
    (by rw [List.length_cons, List.length_append]; omega)
  obtain ⟨c, cs, hc, hs, hne⟩ := head?_chars item
  obtain ⟨tail, ht⟩ : ∃ tail, spacedChars (item :: items) ++ [']'] = c :: tail := by
    cases items <;> simp [spacedChars, hc]
  rw [ht] at read ⊢
  have value : readValue (2 * ('[' :: c :: tail).length + 1) ('[' :: c :: tail) =
      some (.array (item :: items), []) := by
    simp only [readValue, skipSpaces_cons (show isSpace '[' = false by decide),
      skipSpaces_cons hs]
    split
    · rename_i heq
      exact absurd (List.cons.inj heq).1 hne
    · rw [read]
      rfl
  simp only [parse?, value]
  rfl

/-! ## Tables of texts -/

theorem fieldsDepth_textFields :
    ∀ entries : List (String × String), fieldsDepth (textFields entries) = 0
  | [] => rfl
  | _ :: rest => by
    simpa [fieldsDepth, depth] using fieldsDepth_textFields rest

/-- The entries of a rising list are put behind each other. -/
theorem fieldsMeaning?_textFields :
    ∀ (entries : List (String × String)) (known : List (String × Datum)),
      RisingKeys (known ++ entries.map fun e => (e.1, Datum.text e.2)) →
      fieldsMeaning? (textFields entries) known =
        some (known ++ entries.map fun e => (e.1, Datum.text e.2))
  | [], known, _ => by rw [List.map_nil, List.append_nil]; rfl
  | (key, value) :: rest, known, rising => by
    have above : ∀ e ∈ known, e.1 < key := fun e he =>
      (List.pairwise_append.mp rising).2.2 e he _ List.mem_cons_self
    rw [List.map_cons, List.append_cons] at rising ⊢
    have later := fieldsMeaning?_textFields rest (known ++ [(key, .text value)]) rising
    simp only [textFields, List.map_cons, fieldsMeaning?, meaning?, putEntry_of_above above]
    exact later

end Json

namespace Datum

theorem entriesJson_texts {layout : Json.Layout} :
    ∀ entries : List (String × String),
      entriesJson layout (entries.map fun e => (e.1, .text e.2)) = Json.textFields entries
  | [] => rfl
  | (key, value) :: rest => by simp [entriesJson, json, entriesJson_texts rest]

/-- A table of texts is written as an object of texts. -/
theorem json_ofTexts {layout : Json.Layout} (t : Keyed String) :
    (ofTexts t).json layout = .object (Json.textFields t.entries) := by
  rw [ofTexts, json, entriesJson_texts]

theorem noControl_ofTexts (t : Keyed String) : Text.NoControl (ofTexts t).json.chars := by
  rw [json_ofTexts, Json.chars, Text.noControl_cons, Text.noControl_append]
  exact ⟨by decide, Json.noControl_textFields t.entries, by decide⟩

end Datum

/-- Two texts and a table of texts are kept as they are. -/
theorem Json.datum?_texts (first second : String) (t : Keyed String) :
    datum? (.array [.text first, .text second, (Datum.ofTexts t).json]) =
      some (.list [.text first, .text second, Datum.ofTexts t]) := by
  have shallow :
      depth (.array [.text first, .text second, .object (textFields t.entries)]) = 2 := by
    simp [depth, itemsDepth, fieldsDepth_textFields]
  have kept := fieldsMeaning?_textFields t.entries [] (t.rising.map _ fun _ _ less => less)
  rw [Datum.json_ofTexts]
  simp [datum?, shallow, maxDepth, meaning?, itemsMeaning?, kept, Datum.ofTexts]

end RemoteMounts
