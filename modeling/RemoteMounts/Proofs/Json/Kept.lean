import RemoteMounts.Datum
import RemoteMounts.Json.RoundTrip

/-!
# Documents that are kept

`Kept layout j k` says which document a reader keeps of a document: texts and truth values as they
are, a whole number of 64 bits by its digits and any other number by the shortest digits of what it
is rounded to, the items of a list in their order, and of the fields of an object the last of each
key, in the order of the keys.  What a datum is written as is what was kept of the document that
means it (`kept_of_meaning?`), and nothing else is (`eq_of_kept`).  Whatever is written has no blank
outside its texts (`unspaced_compact`).
-/

namespace RemoteMounts

namespace Json

/-- What is kept of a document. -/
inductive Kept (layout : Layout) : Json → Json → Prop
  | null : Kept layout .null .null
  | bool (b : Bool) : Kept layout (.bool b) (.bool b)
  | text (s : String) : Kept layout (.text s) (.text s)
  | int {n : Number} {i : Int} :
    n.int? = some i → Kept layout (.number n) (.number (.ofInt i))
  | real {n : Number} {x : Double} :
    n.int? = none → n.real? = some x → Kept layout (.number n) (Datum.ofDouble layout x)
  | array {items kept : List Json} :
    kept.length = items.length →
    (∀ (i : Nat) (item k : Json), items[i]? = some item → kept[i]? = some k →
      Kept layout item k) →
    Kept layout (.array items) (.array kept)
  | object {fields kept : List (String × Json)} :
    RisingKeys kept →
    (∀ key, kept.lookup key = none ↔ (object fields).field? key = none) →
    (∀ (key : String) (value k : Json), (object fields).field? key = some value →
      kept.lookup key = some k → Kept layout value k) →
    Kept layout (.object fields) (.object kept)

/-! ## What a document means is kept of it -/

theorem Number.datum?_eq_some_iff {n : Number} {d : Datum} :
    n.datum? = some d ↔
      (∃ i, n.int? = some i ∧ d = .int i) ∨
        n.int? = none ∧ ∃ x, n.real? = some x ∧ d = .real x := by
  unfold Number.datum?
  cases n.int? with
  | some i => simp [eq_comm]
  | none => simp [Option.map_eq_some_iff, @eq_comm _ d]

theorem getElem?_of_itemsMeaning? :
    ∀ {items : List Json} {ds : List Datum}, itemsMeaning? items = some ds →
      ds.length = items.length ∧
        ∀ (i : Nat) (item : Json), items[i]? = some item →
          ∃ d, item.meaning? = some d ∧ ds[i]? = some d
  | [], ds, h => by
    cases h
    refine ⟨rfl, fun i item found => ?_⟩
    cases found
  | item :: rest, ds, h => by
    rw [itemsMeaning?] at h
    split at h
    · next d later meant meantLater =>
      cases h
      obtain ⟨length, found⟩ := getElem?_of_itemsMeaning? meantLater
      refine ⟨congrArg (· + 1) length, fun i other at_i => ?_⟩
      cases i with
      | zero =>
        cases at_i
        exact ⟨d, meant, rfl⟩
      | succ i => exact found i other at_i
    · cases h

theorem rising_of_fieldsMeaning? :
    ∀ {fields : List (String × Json)} {known entries : List (String × Datum)},
      fieldsMeaning? fields known = some entries → RisingKeys known → RisingKeys entries
  | [], _, _, h, rising => by
    cases h
    exact rising
  | (key, value) :: rest, known, entries, h, rising => by
    rw [fieldsMeaning?] at h
    split at h
    · exact rising_of_fieldsMeaning? h (risingKeys_putEntry _ _ rising)
    · cases h

/-- The last field with a key counts, and where there is none, what was known before. -/
theorem lookup_of_fieldsMeaning? :
    ∀ {fields : List (String × Json)} {known entries : List (String × Datum)},
      fieldsMeaning? fields known = some entries → ∀ key,
        ((object fields).field? key = none → entries.lookup key = known.lookup key) ∧
        ∀ value, (object fields).field? key = some value →
          ∃ d, value.meaning? = some d ∧ entries.lookup key = some d
  | [], _, _, h, key => by
    cases h
    refine ⟨fun _ => rfl, fun value found => ?_⟩
    cases found
  | (name, first) :: rest, known, entries, h, key => by
    rw [fieldsMeaning?] at h
    split at h
    · next d meant =>
      obtain ⟨missing, given⟩ := lookup_of_fieldsMeaning? h key
      have last : (object ((name, first) :: rest)).field? key =
          ((object rest).field? key).or (if key = name then some first else none) := by
        simp [field?, List.lookup_append, Keyed.lookup_cons_eq]
      rw [last]
      rw [Keyed.lookup_putEntry] at missing
      cases later : (object rest).field? key with
      | some value =>
        refine ⟨fun none => (Option.some_ne_none value none).elim, fun other same => ?_⟩
        cases same
        exact given value later
      | none =>
        rw [Option.none_or]
        by_cases here : key = name
        · rw [if_pos here] at missing ⊢
          refine ⟨fun none => (Option.some_ne_none first none).elim, fun other same => ?_⟩
          cases same
          exact ⟨d, meant, missing later⟩
        · rw [if_neg here] at missing ⊢
          refine ⟨fun _ => missing later, fun other none => ?_⟩
          cases none
    · cases h

end Json

namespace Datum

variable {layout : Json.Layout}

theorem itemsJson_eq_map : ∀ items : List Datum, itemsJson layout items = items.map (json layout)
  | [] => rfl
  | item :: rest => by rw [itemsJson, itemsJson_eq_map rest, List.map_cons]

theorem entriesJson_eq_map :
    ∀ entries : List (String × Datum),
      entriesJson layout entries = entries.map fun e => (e.1, e.2.json layout)
  | [] => rfl
  | (key, value) :: rest => by rw [entriesJson, entriesJson_eq_map rest, List.map_cons]

theorem lookup_entriesJson (key : String) :
    ∀ entries : List (String × Datum),
      (entriesJson layout entries).lookup key = (entries.lookup key).map (json layout)
  | [] => rfl
  | (k, value) :: rest => by
    rw [entriesJson, Keyed.lookup_cons_eq, Keyed.lookup_cons_eq, lookup_entriesJson key rest]
    split <;> rfl

/-- However a number of 53 bits is laid out, its digits are the shortest ones, with zeros behind
them. -/
theorem ofDouble_finite (negative : Bool) (mantissa : Nat) (exponent : Int) :
    ∃ n : Json.Number, ofDouble layout (.finite negative mantissa exponent) = .number n ∧
      n.negative = negative ∧
      ∃ zeros : Nat,
        n.coefficient = (Double.shortest mantissa exponent).1 * Nat.pow 10 zeros ∧
          n.power + zeros = (Double.shortest mantissa exponent).2 :=
  ⟨_, rfl, layout.negative_lay .., layout.coefficient_lay ..⟩

theorem rising_entriesJson {entries : List (String × Datum)} (rising : RisingKeys entries) :
    RisingKeys (entriesJson layout entries) := by
  rw [entriesJson_eq_map]
  exact rising.map _ fun _ _ less => less

end Datum

namespace Json

variable {layout : Layout}

/-- The last field with a key is one of the fields. -/
theorem mem_of_field? {fields : List (String × Json)} {key : String} {value : Json}
    (last : (object fields).field? key = some value) : (key, value) ∈ fields := by
  obtain ⟨before, after, split, -⟩ := List.lookup_eq_some_iff.mp last
  exact List.mem_reverse.mp (by rw [split]; simp)

/-- Each item is written at its place. -/
theorem getElem?_itemsJson (layout : Layout) {items : List Json} {ds : List Datum}
    (h : itemsMeaning? items = some ds) :
    (Datum.itemsJson layout ds).length = items.length ∧
      ∀ (i : Nat) (item : Json), items[i]? = some item →
        ∃ d, item.meaning? = some d ∧
          (Datum.itemsJson layout ds)[i]? = some (d.json layout) := by
  obtain ⟨length, found⟩ := getElem?_of_itemsMeaning? h
  rw [Datum.itemsJson_eq_map]
  refine ⟨by rw [List.length_map, length], fun i item at_i => ?_⟩
  obtain ⟨d, meaning, there⟩ := found i item at_i
  exact ⟨d, meaning, by rw [List.getElem?_map, there]; rfl⟩

/-- The last field with each key is written under it. -/
theorem lookup_entriesJson_of_fields (layout : Layout) {fields : List (String × Json)}
    {entries : List (String × Datum)} (h : fieldsMeaning? fields [] = some entries) (key : String) :
    ((object fields).field? key = none → (Datum.entriesJson layout entries).lookup key = none) ∧
      ∀ value, (object fields).field? key = some value →
        ∃ d, value.meaning? = some d ∧
          (Datum.entriesJson layout entries).lookup key = some (d.json layout) := by
  obtain ⟨missing, given⟩ := lookup_of_fieldsMeaning? h key
  rw [Datum.lookup_entriesJson]
  refine ⟨fun none => by rw [missing none]; rfl, fun value last => ?_⟩
  obtain ⟨d, meaning, bound⟩ := given value last
  exact ⟨d, meaning, by rw [bound]; rfl⟩

theorem rising_entriesJson_of_fields {fields : List (String × Json)}
    {entries : List (String × Datum)} (h : fieldsMeaning? fields [] = some entries) :
    RisingKeys (Datum.entriesJson layout entries) :=
  Datum.rising_entriesJson (rising_of_fieldsMeaning? h List.Pairwise.nil)

mutual

/-- The document as which the meaning of a document is written is kept of it. -/
theorem kept_of_meaning? : ∀ (j : Json) {d : Datum}, j.meaning? = some d →
    Kept layout j (d.json layout)
  | .null, _, h => by
    cases h
    exact .null
  | .bool b, _, h => by
    cases h
    exact .bool b
  | .number n, d, h => by
    rcases Number.datum?_eq_some_iff.mp h with ⟨i, whole, rfl⟩ | ⟨broken, x, rounded, rfl⟩
    · exact .int whole
    · exact .real broken rounded
  | .text s, _, h => by
    cases h
    exact .text s
  | .array items, _, h => by
    obtain ⟨ds, meant, rfl⟩ := Option.map_eq_some_iff.mp h
    obtain ⟨length, found⟩ := getElem?_itemsJson layout meant
    rw [Datum.json]
    refine .array length fun i item k at_i kept => ?_
    obtain ⟨d, meaning, there⟩ := found i item at_i
    cases there.symm.trans kept
    exact kept_of_item items item (List.mem_of_getElem? at_i) meaning
  | .object fields, _, h => by
    obtain ⟨entries, meant, rfl⟩ := Option.map_eq_some_iff.mp h
    have found := lookup_entriesJson_of_fields layout meant
    rw [Datum.json]
    refine .object (rising_entriesJson_of_fields meant) (fun key => ?_)
      fun key value k last kept => ?_
    · refine ⟨fun unbound => ?_, (found key).1⟩
      cases last : (object fields).field? key with
      | none => rfl
      | some value =>
        obtain ⟨d, -, bound⟩ := (found key).2 value last
        cases bound.symm.trans unbound
    · obtain ⟨d, meaning, bound⟩ := (found key).2 value last
      cases bound.symm.trans kept
      exact kept_of_field fields (key, value) (mem_of_field? last) meaning

theorem kept_of_item : ∀ (items : List Json), ∀ item ∈ items, ∀ {d : Datum},
    item.meaning? = some d → Kept layout item (d.json layout)
  | first :: rest, item, mem, d, h => by
    rcases List.mem_cons.mp mem with same | later
    · rw [same] at h ⊢
      exact kept_of_meaning? first h
    · exact kept_of_item rest item later h

theorem kept_of_field : ∀ (fields : List (String × Json)), ∀ field ∈ fields, ∀ {d : Datum},
    field.2.meaning? = some d → Kept layout field.2 (d.json layout)
  | (key, value) :: rest, field, mem, d, h => by
    rcases List.mem_cons.mp mem with same | later
    · rw [same] at h ⊢
      exact kept_of_meaning? value h
    · exact kept_of_field rest field later h

end

/-- Nothing else is kept of it. -/
theorem eq_of_kept {j k : Json} (h : Kept layout j k) :
    ∀ {d : Datum}, j.meaning? = some d → k = d.json layout := by
  induction h with
  | null | bool | text =>
    intro d meant
    cases meant
    rfl
  | int whole =>
    intro d meant
    rcases Number.datum?_eq_some_iff.mp meant with ⟨i, same, rfl⟩ | ⟨broken, -⟩
    · cases whole.symm.trans same
      rfl
    · cases whole.symm.trans broken
  | real broken rounded =>
    intro d meant
    rcases Number.datum?_eq_some_iff.mp meant with ⟨i, whole, -⟩ | ⟨-, x, same, rfl⟩
    · cases whole.symm.trans broken
    · cases rounded.symm.trans same
      rfl
  | @array items kept length _ ih =>
    intro d h
    obtain ⟨ds, meant, rfl⟩ := Option.map_eq_some_iff.mp h
    obtain ⟨written, found⟩ := getElem?_itemsJson layout meant
    rw [Datum.json]
    congr 1
    apply List.ext_getElem?
    intro i
    cases at_i : items[i]? with
    | none =>
      have beyond := List.getElem?_eq_none_iff.mp at_i
      rw [List.getElem?_eq_none (by omega), List.getElem?_eq_none (by omega)]
    | some item =>
      obtain ⟨d, meaning, there⟩ := found i item at_i
      have within := (List.getElem?_eq_some_iff.mp at_i).1
      have kept_i : kept[i]? = some kept[i] := List.getElem?_eq_getElem (by omega)
      rw [kept_i, there, ih i item _ at_i kept_i meaning]
  | @object fields kept rising same _ ih =>
    intro d h
    obtain ⟨entries, meant, rfl⟩ := Option.map_eq_some_iff.mp h
    have found := lookup_entriesJson_of_fields layout meant
    rw [Datum.json]
    congr 1
    refine Keyed.eq_of_lookup_eq rising (rising_entriesJson_of_fields meant) fun key => ?_
    cases last : (object fields).field? key with
    | none => rw [(same key).mpr last, (found key).1 last]
    | some value =>
      obtain ⟨d, meaning, bound⟩ := (found key).2 value last
      cases at_key : kept.lookup key with
      | none => cases last.symm.trans ((same key).mp at_key)
      | some k => rw [bound, ih key value k last at_key meaning]

/-! ## Blanks -/

/-- What of a text stands outside its literals, which begin and end with a quote. -/
def outside : (within : Bool) → List Char → List Char
  | _, [] => []
  | true, '\\' :: _ :: cs => outside true cs
  | true, '"' :: cs => outside false cs
  | true, _ :: cs => outside true cs
  | false, '"' :: cs => outside true cs
  | false, c :: cs => c :: outside false cs

/-- There is no blank outside the literals. -/
def Unspaced (cs : List Char) : Prop :=
  ∀ c ∈ outside false cs, isSpace c = false

/-- Whether the character is neither a quote nor a blank. -/
def isBare (c : Char) : Bool :=
  c ≠ '"' && !isSpace c

theorem unspaced_cons {c : Char} {cs : List Char} (bare : isBare c = true) (h : Unspaced cs) :
    Unspaced (c :: cs) := by
  obtain ⟨quote, space⟩ : c ≠ '"' ∧ isSpace c = false := by simpa [isBare] using bare
  have beyond : outside false (c :: cs) = c :: outside false cs := by simp [outside]
  rw [Unspaced, beyond]
  exact List.forall_mem_cons.mpr ⟨space, h⟩

theorem unspaced_append {cs rest : List Char} (bare : cs.all isBare = true) (h : Unspaced rest) :
    Unspaced (cs ++ rest) := by
  induction cs with
  | nil => exact h
  | cons c cs ih =>
    rw [List.all_cons, Bool.and_eq_true] at bare
    obtain ⟨first, later⟩ := bare
    exact unspaced_cons first (ih later)

/-- An escaped character does not end a literal. -/
theorem outside_escape (c : Char) (cs : List Char) :
    outside true (escape c ++ cs) = outside true cs := by
  have inside {c : Char} (quote : c ≠ '"') (slash : c ≠ '\\') (cs : List Char) :
      outside true (c :: cs) = outside true cs := by
    rw [outside.eq_def]
    split
    all_goals simp_all
  have digit : ∀ n < 16, hexDigit n ≠ '"' ∧ hexDigit n ≠ '\\' := by decide
  unfold escape
  split
  case h_8 =>
    next quote slash _ _ _ _ _ =>
    split
    · obtain ⟨highQuote, highSlash⟩ := digit (c.toNat / 16) (by omega)
      obtain ⟨lowQuote, lowSlash⟩ := digit (c.toNat % 16) (by omega)
      simp only [List.cons_append, List.nil_append, outside]
      rw [inside (by decide) (by decide), inside (by decide) (by decide),
        inside highQuote highSlash, inside lowQuote lowSlash]
    · exact inside quote slash cs
  all_goals rfl

theorem outside_literal (cs rest : List Char) :
    outside false (literalChars cs ++ rest) = outside false rest := by
  have inside : outside true (cs.flatMap escape ++ '"' :: rest) = outside false rest := by
    induction cs with
    | nil => rfl
    | cons c cs ih => rw [List.flatMap_cons, List.append_assoc, outside_escape, ih]
  simpa [literalChars, outside] using inside

theorem unspaced_literal {cs rest : List Char} (h : Unspaced rest) :
    Unspaced (literalChars cs ++ rest) := by
  rw [Unspaced, outside_literal]
  exact h

theorem isBare_of_isDigit {c : Char} (h : c.isDigit = true) : isBare c = true := by
  have quote : c ≠ '"' := ne_of_class h (by decide)
  have space : isSpace c = false := isSpace_of_beginsNumber (by simp [beginsNumber, h])
  simp [isBare, quote, space]

theorem unspaced_digits {digits rest : List Char} (digit : ∀ c ∈ digits, c.isDigit = true)
    (h : Unspaced rest) : Unspaced (digits ++ rest) :=
  unspaced_append (List.all_eq_true.mpr fun c mem => isBare_of_isDigit (digit c mem)) h

theorem unspaced_number (n : Number) {rest : List Char} (h : Unspaced rest) :
    Unspaced (n.chars ++ rest) := by
  have exponent : Unspaced (exponentChars n.exponent ++ rest) := by
    cases n.exponent with
    | none => exact h
    | some e =>
      have digits : Unspaced (Nat.toDigits 10 e.digits ++ rest) :=
        unspaced_digits (fun c mem => isDigit_of_mem_toDigits mem) h
      rw [exponentChars, List.cons_append, List.append_assoc]
      refine unspaced_cons (by decide) ?_
      cases e.sign with
      | none => exact digits
      | plus | minus => exact unspaced_cons (by decide) digits
  have decimals : Unspaced
      ((if n.decimals = 0 then [] else '.' :: n.decimalDigits) ++
        (exponentChars n.exponent ++ rest)) := by
    split
    · exact exponent
    · exact unspaced_cons (by decide)
        (unspaced_digits (fun c mem => isDigit_of_mem_lastDigits mem) exponent)
  have whole : Unspaced (n.wholeDigits ++
      ((if n.decimals = 0 then [] else '.' :: n.decimalDigits) ++
        (exponentChars n.exponent ++ rest))) :=
    unspaced_digits (fun c mem => isDigit_of_mem_toDigits mem) decimals
  simp only [Number.chars, List.append_assoc]
  split
  · exact unspaced_cons (by decide) whole
  · exact whole

mutual

/-- A document is written without a blank outside its texts. -/
theorem unspaced_chars : ∀ (j : Json) {rest : List Char}, Unspaced rest → Unspaced (j.chars ++ rest)
  | .null, _, h => unspaced_append (by decide) h
  | .bool true, _, h => unspaced_append (by decide) h
  | .bool false, _, h => unspaced_append (by decide) h
  | .number n, _, h => unspaced_number n h
  | .text _, _, h => unspaced_literal h
  | .brokenText, _, h => h
  | .array items, rest, h => by
    rw [chars, List.cons_append, List.append_assoc]
    exact unspaced_cons (by decide) (unspaced_items items (unspaced_cons (by decide) h))
  | .object fields, rest, h => by
    rw [chars, List.cons_append, List.append_assoc]
    exact unspaced_cons (by decide) (unspaced_fields fields (unspaced_cons (by decide) h))
  | .brokenObject, rest, h => by
    have null : Unspaced ([':', 'n', 'u', 'l', 'l', '\x7d'] ++ rest) :=
      unspaced_append (by decide) h
    exact unspaced_cons (by decide) null

theorem unspaced_items : ∀ (items : List Json) {rest : List Char}, Unspaced rest →
    Unspaced (itemsChars items ++ rest)
  | [], _, h => h
  | [item], _, h => unspaced_chars item h
  | item :: next :: items, rest, h => by
    simp only [itemsChars, List.append_assoc, List.cons_append]
    exact unspaced_chars item (unspaced_cons (by decide) (unspaced_items (next :: items) h))

theorem unspaced_fields : ∀ (fields : List (String × Json)) {rest : List Char}, Unspaced rest →
    Unspaced (fieldsChars fields ++ rest)
  | [], _, h => h
  | [(key, value)], _, h => by
    rw [fieldsChars, List.append_assoc, List.cons_append]
    exact unspaced_literal (unspaced_cons (by decide) (unspaced_chars value h))
  | (key, value) :: next :: fields, rest, h => by
    simp only [fieldsChars, List.append_assoc, List.cons_append]
    exact unspaced_literal (unspaced_cons (by decide)
      (unspaced_chars value (unspaced_cons (by decide) (unspaced_fields (next :: fields) h))))

end

theorem unspaced_compact (j : Json) : Unspaced j.compact.toList := by
  have empty : Unspaced [] := List.forall_mem_nil _
  have written := unspaced_chars j empty
  rw [List.append_nil] at written
  rwa [compact, String.toList_ofList]

end Json

end RemoteMounts
