/-!
# Tables with text keys

A `Keyed β` binds texts to values and lists its entries in the order of their keys, code point by
code point.  Two tables that give every key the same answer are equal (`Keyed.ext_get?`), so a
table has one written form.
-/

namespace RemoteMounts

variable {β : Type}

/-- Binds the key in a rising list of entries; an entry with the same key is replaced. -/
def putEntry (key : String) (value : β) : List (String × β) → List (String × β)
  | [] => [(key, value)]
  | (k, v) :: rest =>
    if key < k then (key, value) :: (k, v) :: rest
    else if key = k then (key, value) :: rest
    else (k, v) :: putEntry key value rest

/-- A list of entries is rising when its keys are strictly ordered. -/
abbrev RisingKeys (entries : List (String × β)) : Prop :=
  entries.Pairwise fun a b => a.1 < b.1

theorem mem_putEntry {key : String} {value : β} {entry : String × β} :
    ∀ {entries : List (String × β)},
      entry ∈ putEntry key value entries → entry = (key, value) ∨ entry ∈ entries
  | [], h => by simpa [putEntry] using h
  | (k, v) :: rest, h => by
    unfold putEntry at h
    split at h
    · simpa using h
    · split at h
      · rcases List.mem_cons.mp h with h | h
        · exact .inl h
        · exact .inr (List.mem_cons_of_mem _ h)
      · rcases List.mem_cons.mp h with h | h
        · exact .inr (h ▸ List.mem_cons_self)
        · exact (mem_putEntry h).imp_right (List.mem_cons_of_mem _)

theorem risingKeys_putEntry (key : String) (value : β) :
    ∀ {entries : List (String × β)}, RisingKeys entries → RisingKeys (putEntry key value entries)
  | [], _ => by simp [putEntry]
  | (k, v) :: rest, h => by
    obtain ⟨first, later⟩ := List.pairwise_cons.mp h
    unfold putEntry
    split
    · rename_i hlt
      refine List.pairwise_cons.mpr ⟨fun e he => ?_, h⟩
      rcases List.mem_cons.mp he with rfl | he
      · exact hlt
      · exact String.lt_trans hlt (first e he)
    · rename_i hlt
      split
      · rename_i heq
        subst heq
        exact List.pairwise_cons.mpr ⟨first, later⟩
      · rename_i hne
        refine List.pairwise_cons.mpr ⟨fun e he => ?_, risingKeys_putEntry key value later⟩
        rcases mem_putEntry he with rfl | he
        · exact Std.lt_of_le_of_ne (String.not_lt.mp hlt) (fun e => hne e.symm)
        · exact first e he

/-- A key above all others is bound at the end. -/
theorem putEntry_of_above {key : String} {value : β} :
    ∀ {entries : List (String × β)}, (∀ e ∈ entries, e.1 < key) →
      putEntry key value entries = entries ++ [(key, value)]
  | [], _ => rfl
  | (k, v) :: rest, above => by
    have below := above (k, v) List.mem_cons_self
    have notBefore : ¬ key < k := fun less => String.lt_irrefl k (String.lt_trans below less)
    have other : key ≠ k := fun same => String.lt_irrefl k (same ▸ below)
    have later : putEntry key value rest = rest ++ [(key, value)] :=
      putEntry_of_above fun e he => above e (List.mem_cons_of_mem _ he)
    rw [putEntry, if_neg notBefore, if_neg other, later]
    rfl

/-- A finite table from texts to values. -/
structure Keyed (β : Type) where
  /-- The entries in the order of their keys. -/
  entries : List (String × β)
  rising : RisingKeys entries := by exact List.Pairwise.nil
deriving DecidableEq

namespace Keyed

instance : Inhabited (Keyed β) := ⟨⟨[], List.Pairwise.nil⟩⟩

def empty : Keyed β := ⟨[], List.Pairwise.nil⟩

def get? (t : Keyed β) (key : String) : Option β :=
  t.entries.lookup key

def contains (t : Keyed β) (key : String) : Bool :=
  (t.get? key).isSome

def insert (t : Keyed β) (key : String) (value : β) : Keyed β :=
  ⟨putEntry key value t.entries, risingKeys_putEntry key value t.rising⟩

def erase (t : Keyed β) (key : String) : Keyed β :=
  ⟨t.entries.filter fun e => e.1 ≠ key, t.rising.filter _⟩

/-- The table of a list of bindings; a later binding of a key replaces an earlier one. -/
def ofList (bindings : List (String × β)) : Keyed β :=
  bindings.foldl (fun t b => t.insert b.1 b.2) empty

def size (t : Keyed β) : Nat :=
  t.entries.length

/-- The bound values in the order of their keys. -/
def values (t : Keyed β) : List β :=
  t.entries.map (·.2)

/-! ## Looking up -/

@[simp] theorem get?_empty (key : String) : (empty : Keyed β).get? key = none := rfl

/-- Looking up compares with the first key, then goes on. -/
theorem lookup_cons_eq (key k : String) (v : β) (rest : List (String × β)) :
    ((k, v) :: rest).lookup key = if key = k then some v else rest.lookup key := by
  by_cases h : key = k
  · simp [h]
  · simp [List.lookup_cons, beq_false_of_ne h, h]

theorem lookup_putEntry (key other : String) (value : β) :
    ∀ entries : List (String × β),
      (putEntry key value entries).lookup other =
        if other = key then some value else entries.lookup other
  | [] => by simp [putEntry, lookup_cons_eq]
  | (k, v) :: rest => by
    have ih := lookup_putEntry key other value rest
    unfold putEntry
    split
    · simp only [lookup_cons_eq]
    · split
      · rename_i heq
        subst heq
        by_cases h : other = key <;> simp [lookup_cons_eq, h]
      · rename_i hne
        by_cases h : other = k
        · subst h
          simp [Ne.symm hne]
        · simp [lookup_cons_eq, h, ih]

@[simp] theorem get?_insert (t : Keyed β) (key other : String) (value : β) :
    (t.insert key value).get? other = if other = key then some value else t.get? other :=
  lookup_putEntry key other value t.entries

theorem lookup_filter_ne (key other : String) :
    ∀ entries : List (String × β),
      (entries.filter fun e => e.1 ≠ key).lookup other =
        if other = key then none else entries.lookup other
  | [] => by simp
  | (k, v) :: rest => by
    have ih := lookup_filter_ne key other rest
    by_cases hk : k = key
    · subst hk
      by_cases h : other = k <;> simpa [lookup_cons_eq, h] using ih
    · by_cases h : other = k
      · subst h
        simp [hk]
      · simpa [lookup_cons_eq, hk, h] using ih

@[simp] theorem get?_erase (t : Keyed β) (key other : String) :
    (t.erase key).get? other = if other = key then none else t.get? other :=
  lookup_filter_ne key other t.entries

/-! ## One written form -/

theorem lookup_eq_none_of_below {key : String} :
    ∀ {entries : List (String × β)}, (∀ e ∈ entries, key < e.1) → entries.lookup key = none
  | [], _ => rfl
  | (k, v) :: rest, h => by
    have hk : key ≠ k := fun e => String.lt_irrefl k (e ▸ h (k, v) List.mem_cons_self)
    simp only [lookup_cons_eq, hk, if_false]
    exact lookup_eq_none_of_below fun e he => h e (List.mem_cons_of_mem _ he)

theorem eq_of_lookup_eq :
    ∀ {xs ys : List (String × β)}, RisingKeys xs → RisingKeys ys →
      (∀ key, xs.lookup key = ys.lookup key) → xs = ys
  | [], [], _, _, _ => rfl
  | [], (k, v) :: ys, _, _, h => by simpa [lookup_cons_eq] using h k
  | (k, v) :: xs, [], _, _, h => by simpa [lookup_cons_eq] using h k
  | (k, v) :: xs, (l, w) :: ys, hx, hy, h => by
    obtain ⟨hx₁, hx₂⟩ := List.pairwise_cons.mp hx
    obtain ⟨hy₁, hy₂⟩ := List.pairwise_cons.mp hy
    have hkl : k = l := by
      apply Decidable.byContradiction
      intro hne
      rcases Decidable.em (k < l) with hlt | hge
      · have hnone : ((l, w) :: ys).lookup k = none :=
          lookup_eq_none_of_below fun e he => by
            rcases List.mem_cons.mp he with rfl | he
            · exact hlt
            · exact String.lt_trans hlt (hy₁ e he)
        have := h k
        rw [hnone] at this
        simp at this
      · have hlt : l < k := Std.lt_of_le_of_ne (String.not_lt.mp hge) (fun e => hne e.symm)
        have hnone : ((k, v) :: xs).lookup l = none :=
          lookup_eq_none_of_below fun e he => by
            rcases List.mem_cons.mp he with rfl | he
            · exact hlt
            · exact String.lt_trans hlt (hx₁ e he)
        have := h l
        rw [hnone] at this
        simp at this
    subst hkl
    have hvw : v = w := by simpa [lookup_cons_eq] using h k
    subst hvw
    congr 1
    refine eq_of_lookup_eq hx₂ hy₂ fun key => ?_
    by_cases hkey : key = k
    · subst hkey
      rw [lookup_eq_none_of_below hx₁, lookup_eq_none_of_below hy₁]
    · simpa [lookup_cons_eq, hkey] using h key

abbrev keys (bindings : List (String × β)) : List String :=
  bindings.map (·.1)

theorem keys_nodup_of_rising {entries : List (String × β)} (h : RisingKeys entries) :
    (keys entries).Nodup := by
  refine List.pairwise_map.mpr (h.imp ?_)
  rintro ⟨k, v⟩ ⟨l, w⟩ less rfl
  exact String.lt_irrefl _ less

theorem lookup_eq_none_iff_keys {key : String} :
    ∀ {entries : List (String × β)}, entries.lookup key = none ↔ key ∉ keys entries
  | [] => by simp
  | (k, v) :: rest => by
    rw [lookup_cons_eq, keys, List.map_cons, List.mem_cons, not_or, ← lookup_eq_none_iff_keys]
    by_cases h : key = k <;> simp [h]

/-- Where no key is there twice, looking up finds exactly the entries. -/
theorem lookup_eq_some_iff_mem {key : String} {value : β} :
    ∀ {entries : List (String × β)}, (keys entries).Nodup →
      (entries.lookup key = some value ↔ (key, value) ∈ entries)
  | [], _ => by simp
  | (k, v) :: rest, h => by
    obtain ⟨first, later⟩ := List.nodup_cons.mp h
    have ih : rest.lookup key = some value ↔ (key, value) ∈ rest := lookup_eq_some_iff_mem later
    rw [lookup_cons_eq, List.mem_cons, ← ih]
    by_cases hk : key = k
    · subst hk
      rw [if_pos rfl, lookup_eq_none_iff_keys.mpr first]
      simp [eq_comm]
    · simp [hk]

/-- The order of the entries does not matter for looking up. -/
theorem lookup_eq_of_perm {xs ys : List (String × β)} (same : xs.Perm ys)
    (distinct : (keys xs).Nodup) (key : String) : xs.lookup key = ys.lookup key := by
  have distinctToo : (keys ys).Nodup := (same.map _).nodup_iff.mp distinct
  apply Option.ext
  intro value
  rw [lookup_eq_some_iff_mem distinct, lookup_eq_some_iff_mem distinctToo, same.mem_iff]

/-- Where no key is there twice, the entries of a key are what looking it up finds. -/
theorem filter_key {key : String} :
    ∀ {entries : List (String × β)}, (keys entries).Nodup →
      (entries.filter fun e => e.1 = key) = ((entries.lookup key).map fun v => (key, v)).toList
  | [], _ => rfl
  | (k, v) :: rest, distinct => by
    obtain ⟨first, later⟩ := List.nodup_cons.mp distinct
    have ih : (rest.filter fun e => e.1 = key) = _ := filter_key later
    rw [lookup_cons_eq]
    by_cases same : k = key
    · subst same
      rw [lookup_eq_none_iff_keys.mpr first] at ih
      simpa using ih
    · rw [if_neg (Ne.symm same), ← ih]
      simp [same]

theorem get?_eq_some_iff_mem {t : Keyed β} {key : String} {value : β} :
    t.get? key = some value ↔ (key, value) ∈ t.entries :=
  lookup_eq_some_iff_mem (keys_nodup_of_rising t.rising)

theorem contains_iff {t : Keyed β} {key : String} :
    t.contains key = true ↔ ∃ entry ∈ t.entries, entry.1 = key := by
  rw [contains, Option.isSome_iff_exists]
  constructor
  · rintro ⟨value, bound⟩
    exact ⟨_, get?_eq_some_iff_mem.mp bound, rfl⟩
  · rintro ⟨⟨key, value⟩, mem, rfl⟩
    exact ⟨value, get?_eq_some_iff_mem.mpr mem⟩

theorem mem_values_iff {t : Keyed β} {value : β} :
    value ∈ t.values ↔ ∃ key, t.get? key = some value := by
  unfold values get?
  rw [List.mem_map]
  constructor
  · rintro ⟨⟨key, v⟩, hm, rfl⟩
    exact ⟨key, get?_eq_some_iff_mem.mpr hm⟩
  · rintro ⟨key, hk⟩
    exact ⟨(key, value), get?_eq_some_iff_mem.mp hk, rfl⟩

/-- Tables that answer every key alike are equal. -/
theorem ext_get? {s t : Keyed β} (h : ∀ key, s.get? key = t.get? key) : s = t := by
  obtain ⟨xs, hx⟩ := s
  obtain ⟨ys, hy⟩ := t
  obtain rfl : xs = ys := eq_of_lookup_eq hx hy h
  rfl

/-- Of two bindings of a key the later one counts. -/
theorem insert_insert (t : Keyed β) (key : String) (v w : β) :
    (t.insert key v).insert key w = t.insert key w := by
  apply ext_get?
  intro other
  by_cases h : other = key <;> simp [h]

/-- To bind a key to what it is bound to changes nothing. -/
theorem insert_of_get? {t : Keyed β} {key : String} {value : β} (h : t.get? key = some value) :
    t.insert key value = t := by
  apply ext_get?
  intro other
  by_cases hk : other = key
  · rw [hk, get?_insert, if_pos rfl, h]
  · rw [get?_insert, if_neg hk]

/-! ## Tables of lists -/

/-- Binding the entries of a list one after another binds them as the list does, if no key is there
twice. -/
theorem get?_foldl_insert :
    ∀ {bindings : List (String × β)} (t : Keyed β), (keys bindings).Nodup → ∀ key : String,
      (bindings.foldl (fun t b => t.insert b.1 b.2) t).get? key =
        (bindings.lookup key).or (t.get? key)
  | [], t, _, key => rfl
  | (k, v) :: rest, t, distinct, key => by
    obtain ⟨first, later⟩ := List.nodup_cons.mp distinct
    rw [List.foldl_cons, get?_foldl_insert _ later, get?_insert, lookup_cons_eq]
    by_cases hk : key = k
    · subst hk
      rw [lookup_eq_none_iff_keys.mpr first, if_pos rfl, if_pos rfl]
      rfl
    · rw [if_neg hk, if_neg hk]

theorem get?_ofList {bindings : List (String × β)} (distinct : (keys bindings).Nodup)
    (key : String) : (ofList bindings).get? key = bindings.lookup key := by
  rw [ofList, get?_foldl_insert _ distinct, get?_empty, Option.or_none]

theorem get?_ofList_eq_none_iff {bindings : List (String × β)} (distinct : (keys bindings).Nodup)
    {key : String} : (ofList bindings).get? key = none ↔ key ∉ keys bindings := by
  rw [get?_ofList distinct, lookup_eq_none_iff_keys]

/-- A table is the table of its entries. -/
theorem ofList_entries (t : Keyed β) : ofList t.entries = t :=
  ext_get? fun key => get?_ofList (keys_nodup_of_rising t.rising) key

/-- Lists with the same keys in the same order are known by looking these up. -/
theorem eq_of_keys_eq :
    ∀ {xs ys : List (String × β)}, keys xs = keys ys → (keys xs).Nodup →
      (∀ key ∈ keys xs, xs.lookup key = ys.lookup key) → xs = ys
  | [], [], _, _, _ => rfl
  | (k, v) :: xs, (l, w) :: ys, same, distinct, h => by
    obtain ⟨first, later⟩ := List.nodup_cons.mp distinct
    obtain ⟨key, rest⟩ := List.cons_eq_cons.mp same
    obtain rfl : k = l := key
    obtain rfl : v = w := by simpa [lookup_cons_eq] using h k List.mem_cons_self
    refine congrArg _ (eq_of_keys_eq rest later fun key mem => ?_)
    have other : key ≠ k := fun e => first (e ▸ mem)
    simpa [lookup_cons_eq, other] using h key (List.mem_cons_of_mem _ mem)

/-- Lists with the same keys in the same order, no key twice, make the same table only if they are
the same list. -/
theorem eq_of_ofList_eq {xs ys : List (String × β)} (same : keys xs = keys ys)
    (distinct : (keys xs).Nodup) (h : ofList xs = ofList ys) : xs = ys :=
  eq_of_keys_eq same distinct fun key _ => by
    rw [← get?_ofList distinct, h, get?_ofList (same ▸ distinct)]

theorem length_putEntry {key : String} {value : β} :
    ∀ {entries : List (String × β)}, key ∉ keys entries →
      (putEntry key value entries).length = entries.length + 1
  | [], _ => rfl
  | (k, v) :: rest, h => by
    obtain ⟨other, later⟩ := not_or.mp (mt List.mem_cons.mpr h)
    rw [putEntry, if_neg (show key ≠ k from other)]
    split
    · rfl
    · rw [List.length_cons, length_putEntry later, List.length_cons]

/-- A key that is new adds one to the size. -/
theorem size_insert {t : Keyed β} {key : String} (new : t.get? key = none) (value : β) :
    (t.insert key value).size = t.size + 1 :=
  length_putEntry (lookup_eq_none_iff_keys.mp new)

theorem eq_empty_of_size {t : Keyed β} (h : t.size = 0) : t = empty := by
  obtain ⟨entries, rising⟩ := t
  obtain rfl := List.length_eq_zero_iff.mp h
  rfl

end Keyed

end RemoteMounts
