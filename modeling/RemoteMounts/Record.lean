import RemoteMounts.Datum

/-!
# Records in documents

A record is written as a table of its fields.  It may also be written as a list of their values in
the order of the fields, shorter than the record if the fields at the end need not be given.
`Record.values?_ofFields` says that a written record gives its values back.
-/

namespace RemoteMounts

/-- Where the notations differ in what they let pass. -/
structure Dialect where
  /-- Whether a record written as a list may have further items. -/
  allowsSurplus : Bool
  /-- Whether the datum may stand beside the name of a choice that has nothing beside it. -/
  isEmptyChoice : Datum → Bool

namespace Dialect

def json : Dialect where
  allowsSurplus := false
  isEmptyChoice
    | .null => true
    | _ => false

def toml : Dialect where
  allowsSurplus := true
  isEmptyChoice
    | .table [] | .list [] => true
    | _ => false

end Dialect

namespace Record

/-- The items, and nothing for each field after them. -/
def padded {α : Type} : Nat → List α → List (Option α)
  | 0, _ => []
  | n + 1, [] => none :: padded n []
  | n + 1, item :: items => some item :: padded n items

/-- What the record gives for each of the fields, in their order; nothing if it gives anything
else. -/
def values? (dialect : Dialect) (fields : List String) : Datum → Option (List (Option Datum))
  | .table entries =>
    if entries.all fun e => e.1 ∈ fields then some (fields.map fun key => entries.lookup key)
    else none
  | .list items =>
    if dialect.allowsSurplus ∨ items.length ≤ fields.length then
      some (padded fields.length items)
    else none
  | _ => none

/-- A text that must be given. -/
def text? : Option Datum → Option String
  | some (.text s) => some s
  | _ => none

/-- What is read of a value that may be left out, with what it is then. -/
def orElse {α : Type} (absent : α) (read : Datum → Option α) : Option Datum → Option α
  | none => some absent
  | some d => read d

/-- What is read of a value that may be left out or null. -/
def optional? {α : Type} (read : Datum → Option α) : Option Datum → Option (Option α)
  | none | some .null => some none
  | some d => (read d).map some

def asText? (d : Datum) : Option String :=
  text? (some d)

def asBool? : Datum → Option Bool
  | .bool b => some b
  | _ => none

/-- The key under which a moment shows its text to someone who expects a table. -/
def momentKey : String := "$__toml_private_datetime"

def asTexts? : Datum → Option (Keyed String)
  | .table entries =>
    (entries.mapM fun e => (asText? e.2).map (e.1, ·)).map Keyed.ofList
  | .moment s => some (.ofList [(momentKey, s)])
  | _ => none

/-- The table of those fields that have a value. -/
def ofFields (fields : List (String × Option Datum)) : Datum :=
  .table (fields.filterMap fun f => f.2.map (f.1, ·))

/-- The datum of a value that is left out if there is none. -/
def ofOption {α : Type} (write : α → Datum) : Option α → Option Datum
  | none => none
  | some a => some (write a)

/-! ## Reading what was written -/

theorem lookup_filterMap_of_not_mem {key : String} :
    ∀ {fields : List (String × Option Datum)}, key ∉ fields.map (·.1) →
      (fields.filterMap fun f => f.2.map (f.1, ·)).lookup key = none
  | [], _ => rfl
  | (k, v) :: rest, h => by
    simp only [List.map_cons, List.mem_cons, not_or] at h
    have ih := lookup_filterMap_of_not_mem h.2
    cases v with
    | none => simpa using ih
    | some d => simpa [List.lookup_cons, beq_false_of_ne h.1] using ih

theorem map_lookup_filterMap :
    ∀ {fields : List (String × Option Datum)}, (fields.map (·.1)).Nodup →
      (fields.map (·.1)).map
          (fun key => (fields.filterMap fun f => f.2.map (f.1, ·)).lookup key) =
        fields.map (·.2)
  | [], _ => rfl
  | (k, v) :: rest, h => by
    obtain ⟨hk, hrest⟩ := List.nodup_cons.mp h
    have ih := map_lookup_filterMap hrest
    cases v with
    | none =>
      have hnone := lookup_filterMap_of_not_mem hk
      simpa [hnone] using ih
    | some d =>
      have later : ∀ key ∈ rest.map (·.1),
          ((k, d) :: rest.filterMap fun f => f.2.map (f.1, ·)).lookup key =
            (rest.filterMap fun f => f.2.map (f.1, ·)).lookup key := by
        intro key hkey
        have hne : key ≠ k := fun e => hk (e ▸ hkey)
        rw [List.lookup_cons, beq_false_of_ne hne]
      have := (List.map_congr_left later).trans ih
      simpa using this

/-- A written record gives its values back. -/
theorem values?_ofFields (dialect : Dialect) {fields : List (String × Option Datum)}
    (h : (fields.map (·.1)).Nodup) :
    values? dialect (fields.map (·.1)) (ofFields fields) = some (fields.map (·.2)) := by
  have known : (fields.filterMap fun f => f.2.map (f.1, ·)).all
      (fun e => decide (e.1 ∈ fields.map (·.1))) = true := by
    simp only [List.all_eq_true, decide_eq_true_eq]
    intro e he
    obtain ⟨f, hf, hfe⟩ := List.mem_filterMap.mp he
    obtain ⟨d, -, rfl⟩ := Option.map_eq_some_iff.mp hfe
    exact List.mem_map_of_mem hf
  simp only [values?, ofFields, known, if_true, map_lookup_filterMap h]

/-! ## Parts that may be left out -/

theorem mapM_asText? :
    ∀ entries : List (String × String),
      ((entries.map fun e => (e.1, Datum.text e.2)).mapM fun e => (asText? e.2).map (e.1, ·)) =
        some entries
  | [] => rfl
  | (key, value) :: rest => by
    rw [List.map_cons, List.mapM_cons, mapM_asText? rest]
    rfl

theorem asTexts?_ofTexts (t : Keyed String) : asTexts? (Datum.ofTexts t) = some t := by
  rw [Datum.ofTexts, asTexts?, mapM_asText?, Option.map_some, Keyed.ofList_entries]

/-- What is written of a value that may be left out is read as that value, where null is read as no
such value. -/
theorem optional?_ofOption {α : Type} {read : Datum → Option α} {write : α → Datum}
    (back : ∀ a, read (write a) = some a) (null : read .null = none) (o : Option α) :
    optional? read (ofOption write o) = some o := by
  cases o with
  | none => rfl
  | some a =>
    rw [ofOption, optional?, back, Option.map_some]
    intro written
    have none := back a
    rw [written, null] at none
    exact nomatch none

theorem optional?_text (o : Option String) :
    optional? asText? (ofOption .text o) = some o := by
  have back (s : String) : asText? (.text s) = some s := rfl
  exact optional?_ofOption back rfl o

/-- A field is missing from a written record if it has no value. -/
theorem get?_ofFields_eq_none_iff {fields : List (String × Option Datum)} {key : String} :
    (ofFields fields).get? key = none ↔ ∀ f ∈ fields, f.1 = key → f.2 = none := by
  simp only [ofFields, Datum.get?, List.lookup_eq_none_iff]
  constructor
  · intro missing f mem named
    cases value : f.2 with
    | none => rfl
    | some d =>
      have written := missing (f.1, d) (List.mem_filterMap.mpr ⟨f, mem, by rw [value]; rfl⟩)
      simp [named] at written
  · intro empty e he
    obtain ⟨f, mem, same⟩ := List.mem_filterMap.mp he
    obtain ⟨d, value, rfl⟩ := Option.map_eq_some_iff.mp same
    simp only [bne_iff_ne, ne_eq]
    intro named
    exact nomatch value.symm.trans (empty f mem named.symm)

theorem ofOption_eq_none_iff {α : Type} {write : α → Datum} {o : Option α} :
    ofOption write o = none ↔ o = none := by
  cases o <;> simp [ofOption]

/-! ## What is refused -/

/-- A record with a field of another name is refused. -/
theorem values?_of_stranger (dialect : Dialect) {fields : List String}
    {entries : List (String × Datum)} {entry : String × Datum} (mem : entry ∈ entries)
    (stranger : entry.1 ∉ fields) : values? dialect fields (.table entries) = none := by
  have unknown : ¬ entries.all (fun e => decide (e.1 ∈ fields)) = true := by
    intro known
    exact stranger (by simpa using List.all_eq_true.mp known entry mem)
  rw [values?, if_neg unknown]

/-- A table that is read gives each field what is bound to its name. -/
theorem eq_of_values?_table {dialect : Dialect} {fields : List String}
    {entries : List (String × Datum)} {values : List (Option Datum)}
    (h : values? dialect fields (.table entries) = some values) :
    values = fields.map fun key => entries.lookup key := by
  rw [values?] at h
  split at h
  · exact (Option.some.inj h).symm
  · exact nomatch h

/-- A table that is no value of a part makes the part unreadable, also if it may be left out. -/
theorem optional?_table {α : Type} {read : Datum → Option α} {entries : List (String × Datum)}
    (h : read (.table entries) = none) : optional? read (some (.table entries)) = none := by
  rw [optional?, h, Option.map_none]
  exact fun null => nomatch null

end Record

end RemoteMounts
