import Mathlib.Data.List.Nodup
import RemoteMounts.Proofs.Mount.Arguments

/-!
# Further settings

The further settings of a mount are put among those that are made of its storage, one after another
in the order of their keys.  They are all put there, or the first key that is blank or is taken
decides on the failure; a key can be taken by the storage and, since keys that differ may be the
same without the blanks around them, by a smaller key (`further_settings_added`).
-/

namespace RemoteMounts

/-! ## One key after another -/

/-- What is wrong with a key that is to be put among the settings. -/
inductive Unfit (settings : Keyed String) (key : String) : Invalid → Prop
  | blank : Text.trim key = "" → Unfit settings key (.emptyField "extra_configs key")
  | taken : Text.trim key ≠ "" → settings.contains (Text.trim key) = true →
    Unfit settings key (.takenSetting (Text.trim key))

def trimKeys (entries : List (String × String)) : List (String × String) :=
  entries.map fun e => (Text.trim e.1, e.2)

/-- The settings with all the entries put among them. -/
def withAll (settings : Keyed String) (entries : List (String × String)) : Keyed String :=
  (trimKeys entries).foldl (fun t e => t.insert e.1 e.2) settings

/-- No key of the entries is blank, is there already or is there twice. -/
structure Fit (settings : Keyed String) (entries : List (String × String)) : Prop where
  filled : ∀ key ∈ Keyed.keys (trimKeys entries), key ≠ ""
  free : ∀ key ∈ Keyed.keys (trimKeys entries), settings.get? key = none
  distinct : (Keyed.keys (trimKeys entries)).Nodup

theorem fit_cons {settings : Keyed String} {key value : String} {rest : List (String × String)} :
    Fit settings ((key, value) :: rest) ↔
      Text.trim key ≠ "" ∧ settings.get? (Text.trim key) = none ∧
        Fit (settings.insert (Text.trim key) value) rest := by
  constructor
  · rintro ⟨filled, free, distinct⟩
    obtain ⟨first, later⟩ := List.nodup_cons.mp distinct
    refine ⟨filled _ List.mem_cons_self, free _ List.mem_cons_self,
      fun k mem => filled k (List.mem_cons_of_mem _ mem), fun k mem => ?_, later⟩
    have other : k ≠ Text.trim key := by
      rintro rfl
      exact first mem
    rw [Keyed.get?_insert, if_neg other]
    exact free k (List.mem_cons_of_mem _ mem)
  · rintro ⟨filled, free, later⟩
    have other : ∀ k ∈ Keyed.keys (trimKeys rest), k ≠ Text.trim key ∧ settings.get? k = none := by
      intro k mem
      have absent := later.free k mem
      rw [Keyed.get?_insert] at absent
      split at absent
      · cases absent
      · exact ⟨‹_›, absent⟩
    refine ⟨?_, ?_, List.nodup_cons.mpr ⟨fun mem => (other _ mem).1 rfl, later.distinct⟩⟩
    · exact List.forall_mem_cons.mpr ⟨filled, later.filled⟩
    · exact List.forall_mem_cons.mpr ⟨free, fun k mem => (other k mem).2⟩

/-- All entries are added, or the first that is unfit among those before it decides. -/
theorem addSettings_cases (entries : List (String × String)) (settings : Keyed String) :
    Fit settings entries ∧ addSettings settings entries = .ok (withAll settings entries) ∨
      ∃ before key value after cause, entries = before ++ (key, value) :: after ∧
        Fit settings before ∧ Unfit (withAll settings before) key cause ∧
        addSettings settings entries = .error cause := by
  -- A key that is added is taken for the rest, so the settings grow along the induction.
  induction entries generalizing settings with
  | nil => exact .inl ⟨⟨nofun, nofun, .nil⟩, rfl⟩
  | cons entry rest ih =>
    obtain ⟨key, value⟩ := entry
    have none : Fit settings [] := ⟨nofun, nofun, .nil⟩
    by_cases blank : Text.trim key = ""
    · refine .inr ⟨[], key, value, rest, _, rfl, none, .blank blank, ?_⟩
      rw [addSettings, if_pos blank]
    · by_cases taken : settings.contains (Text.trim key) = true
      · refine .inr ⟨[], key, value, rest, _, rfl, none, .taken blank taken, ?_⟩
        rw [addSettings, if_neg blank, if_pos taken]
      · have free : settings.get? (Text.trim key) = Option.none := by
          simpa [Keyed.contains] using taken
        rw [addSettings, if_neg blank, if_neg taken]
        rcases ih (settings.insert (Text.trim key) value) with ⟨fit, added⟩ | failed
        · exact .inl ⟨fit_cons.mpr ⟨blank, free, fit⟩, added⟩
        · obtain ⟨before, later, w, after, cause, split, fit, unfit, told⟩ := failed
          refine .inr ⟨(key, value) :: before, later, w, after, cause, by rw [split]; rfl,
            fit_cons.mpr ⟨blank, free, fit⟩, unfit, told⟩

/-! ## What is there in the end -/

theorem mem_keys_trimKeys {entries : List (String × String)} {key : String} :
    key ∈ Keyed.keys (trimKeys entries) ↔ ∃ e ∈ entries, Text.trim e.1 = key := by
  simp [Keyed.keys, trimKeys]

theorem keys_trimKeys (entries : List (String × String)) :
    Keyed.keys (trimKeys entries) = entries.map fun e => Text.trim e.1 := by
  simp [Keyed.keys, trimKeys]

/-- Keys that fit are told apart without the blanks around them. -/
theorem Fit.eq_of_trim_eq {settings : Keyed String} {entries : List (String × String)}
    (fit : Fit settings entries) {e f : String × String} (he : e ∈ entries) (hf : f ∈ entries)
    (same : Text.trim e.1 = Text.trim f.1) : e = f :=
  List.inj_on_of_nodup_map (keys_trimKeys entries ▸ fit.distinct) he hf same

theorem get?_withAll {settings : Keyed String} {entries : List (String × String)}
    (fit : Fit settings entries) (key : String) :
    (withAll settings entries).get? key =
      ((trimKeys entries).lookup key).or (settings.get? key) :=
  Keyed.get?_foldl_insert settings fit.distinct key

theorem get?_withAll_eq_some_iff {settings : Keyed String} {entries : List (String × String)}
    (fit : Fit settings entries) {key value : String} :
    (withAll settings entries).get? key = some value ↔
      settings.get? key = some value ∨ ∃ k, (k, value) ∈ entries ∧ Text.trim k = key := by
  have mem : (key, value) ∈ trimKeys entries ↔ ∃ k, (k, value) ∈ entries ∧ Text.trim k = key := by
    simp [trimKeys]
  rw [get?_withAll fit, Option.or_eq_some_iff, Keyed.lookup_eq_some_iff_mem fit.distinct,
    Keyed.lookup_eq_none_iff_keys, mem]
  constructor
  · rintro (added | ⟨-, own⟩)
    · exact .inr added
    · exact .inl own
  · rintro (own | added)
    · refine .inr ⟨fun there => ?_, own⟩
      rw [fit.free key there] at own
      cases own
    · exact .inl added

theorem contains_withAll {settings : Keyed String} {entries : List (String × String)}
    (fit : Fit settings entries) {key : String} :
    (withAll settings entries).contains key = true ↔
      settings.contains key = true ∨ ∃ e ∈ entries, Text.trim e.1 = key := by
  simp only [Keyed.contains, Option.isSome_iff_exists, get?_withAll_eq_some_iff fit]
  constructor
  · rintro ⟨value, own | ⟨k, mem, same⟩⟩
    · exact .inl ⟨value, own⟩
    · exact .inr ⟨_, mem, same⟩
  · rintro (⟨value, own⟩ | ⟨e, mem, same⟩)
    · exact ⟨value, .inl own⟩
    · exact ⟨e.2, .inr ⟨e.1, mem, same⟩⟩

theorem size_withAll {entries : List (String × String)} {settings : Keyed String}
    (fit : Fit settings entries) :
    (withAll settings entries).size = settings.size + entries.length := by
  induction entries generalizing settings with
  | nil => rfl
  | cons entry rest ih =>
    obtain ⟨-, free, later⟩ := fit_cons.mp fit
    have first : (settings.insert (Text.trim entry.1) entry.2).size = settings.size + 1 :=
      Keyed.size_insert free entry.2
    have all : (withAll settings (entry :: rest)).size = _ := ih later
    rw [all, first, List.length_cons]
    omega

/-! ## The first key that is unfit -/

/-- What is wrong with a key among further settings: it is blank, or it is taken by the storage or
by a smaller key. -/
inductive FlawedKey (own extra : Keyed String) (key : String) : Invalid → Prop
  | blank : Text.trim key = "" → FlawedKey own extra key (.emptyField "extra_configs key")
  | taken : Text.trim key ≠ "" →
    (own.contains (Text.trim key) = true ∨
      ∃ earlier, extra.contains earlier = true ∧ earlier < key ∧
        Text.trim earlier = Text.trim key) →
    FlawedKey own extra key (.takenSetting (Text.trim key))

/-- The key has this flaw and no smaller key has any. -/
structure FirstFlaw (own extra : Keyed String) (key : String) (cause : Invalid) : Prop where
  bound : extra.contains key = true
  flawed : FlawedKey own extra key cause
  first : ∀ earlier, extra.contains earlier = true → earlier < key →
    ∀ other, ¬ FlawedKey own extra earlier other

theorem FlawedKey.unique {own extra : Keyed String} {key : String} {cause other : Invalid}
    (h : FlawedKey own extra key cause) (h' : FlawedKey own extra key other) : cause = other := by
  cases h with
  | blank blank =>
    cases h' with
    | blank => rfl
    | taken filled => exact absurd blank filled
  | taken filled =>
    cases h' with
    | blank blank => exact absurd blank filled
    | taken => rfl

theorem FirstFlaw.unique {own extra : Keyed String} {key key' : String} {cause cause' : Invalid}
    (h : FirstFlaw own extra key cause) (h' : FirstFlaw own extra key' cause') :
    cause = cause' := by
  by_cases less : key < key'
  · exact absurd h.flawed (h'.first key h.bound less cause)
  · by_cases more : key' < key
    · exact absurd h'.flawed (h.first key' h'.bound more cause')
    · obtain rfl : key = key' :=
        String.le_antisymm (String.not_lt.mp more) (String.not_lt.mp less)
      exact h.flawed.unique h'.flawed

theorem mem_before_iff {entries before after : List (String × String)} {key value : String}
    (rising : RisingKeys entries) (split : entries = before ++ (key, value) :: after)
    {e : String × String} : e ∈ before ↔ e ∈ entries ∧ e.1 < key := by
  subst split
  obtain ⟨-, later, across⟩ := List.pairwise_append.mp rising
  constructor
  · intro mem
    exact ⟨List.mem_append_left _ mem, across e mem _ List.mem_cons_self⟩
  · rintro ⟨mem, less⟩
    rcases List.mem_append.mp mem with mem | mem
    · exact mem
    · exfalso
      rcases List.mem_cons.mp mem with rfl | mem
      · exact String.lt_irrefl _ less
      · exact String.lt_irrefl _ (String.lt_trans less ((List.pairwise_cons.mp later).1 e mem))

section

variable {own extra : Keyed String}

/-- No key has a flaw among entries that fit, if these go up to it. -/
theorem not_flawed_of_fit {entries : List (String × String)} (fit : Fit own entries)
    {e : String × String} (mem : e ∈ entries)
    (lower : ∀ f ∈ extra.entries, f.1 < e.1 → f ∈ entries) {cause : Invalid} :
    ¬ FlawedKey own extra e.1 cause := by
  have there : Text.trim e.1 ∈ Keyed.keys (trimKeys entries) := mem_keys_trimKeys.mpr ⟨e, mem, rfl⟩
  rintro (blank | ⟨-, taken⟩)
  · exact fit.filled _ there blank
  · rcases taken with bound | ⟨earlier, bound, less, same⟩
    · simp [Keyed.contains, fit.free _ there] at bound
    · obtain ⟨f, memExtra, rfl⟩ := Keyed.contains_iff.mp bound
      obtain rfl := fit.eq_of_trim_eq (lower f memExtra less) mem same
      exact String.lt_irrefl _ less

/-- The entry at which adding stops has the first key that has a flaw. -/
theorem firstFlaw_of_unfit {before after : List (String × String)} {key value : String}
    {cause : Invalid} (split : extra.entries = before ++ (key, value) :: after)
    (fit : Fit own before) (unfit : Unfit (withAll own before) key cause) :
    FirstFlaw own extra key cause := by
  -- The entries rise, so those that have been added are just those with a smaller key.
  have below : ∀ {e}, e ∈ before ↔ e ∈ extra.entries ∧ e.1 < key :=
    mem_before_iff extra.rising split
  have mem : (key, value) ∈ extra.entries := split ▸ List.mem_append_cons_self
  refine ⟨Keyed.contains_iff.mpr ⟨_, mem, rfl⟩, ?_, ?_⟩
  · cases unfit with
    | blank blank => exact .blank blank
    | taken filled taken =>
      refine .taken filled ((contains_withAll fit).mp taken |>.imp_right ?_)
      rintro ⟨e, mem, same⟩
      obtain ⟨there, less⟩ := below.mp mem
      exact ⟨e.1, Keyed.contains_iff.mpr ⟨e, there, rfl⟩, less, same⟩
  · intro earlier bound less other
    obtain ⟨e, there, rfl⟩ := Keyed.contains_iff.mp bound
    refine not_flawed_of_fit fit (below.mpr ⟨there, less⟩) fun f memExtra lower => ?_
    exact below.mpr ⟨memExtra, String.lt_trans lower less⟩

theorem not_firstFlaw_of_fit (fit : Fit own extra.entries) {key : String} {cause : Invalid} :
    ¬ FirstFlaw own extra key cause := by
  rintro ⟨bound, flawed, -⟩
  obtain ⟨e, mem, rfl⟩ := Keyed.contains_iff.mp bound
  exact not_flawed_of_fit fit mem (fun f there _ => there) flawed

/-- Adding fails with the cause that the first flaw gives, and only then. -/
theorem addSettings_eq_error_iff {cause : Invalid} :
    addSettings own extra.entries = .error cause ↔ ∃ key, FirstFlaw own extra key cause := by
  rcases addSettings_cases extra.entries own with ⟨fit, added⟩ | failed
  · rw [added]
    exact ⟨nofun, fun ⟨key, first⟩ => absurd first (not_firstFlaw_of_fit fit)⟩
  · obtain ⟨before, key, value, after, told, split, fit, unfit, failed⟩ := failed
    have first := firstFlaw_of_unfit split fit unfit
    rw [failed]
    constructor
    · rintro ⟨⟩
      exact ⟨key, first⟩
    · rintro ⟨key', other⟩
      rw [first.unique other]

/-- Adding succeeds when no key is blank, taken by the storage, or the same as another without the
blanks around them. -/
theorem fit_entries_iff :
    Fit own extra.entries ↔
      (∀ key, extra.contains key = true →
        Text.trim key ≠ "" ∧ own.contains (Text.trim key) = false) ∧
      ∀ j k, extra.contains j = true → extra.contains k = true → Text.trim j = Text.trim k →
        j = k := by
  constructor
  · intro fit
    refine ⟨fun key bound => ?_, fun j k hj hk same => ?_⟩
    · obtain ⟨e, mem, rfl⟩ := Keyed.contains_iff.mp bound
      have there := mem_keys_trimKeys.mpr ⟨e, mem, rfl⟩
      exact ⟨fit.filled _ there, by simp [Keyed.contains, fit.free _ there]⟩
    · obtain ⟨e, he, rfl⟩ := Keyed.contains_iff.mp hj
      obtain ⟨f, hf, rfl⟩ := Keyed.contains_iff.mp hk
      rw [fit.eq_of_trim_eq he hf same]
  · rintro ⟨single, apart⟩
    have bound : ∀ e ∈ extra.entries, extra.contains e.1 = true := fun e mem =>
      Keyed.contains_iff.mpr ⟨e, mem, rfl⟩
    refine ⟨fun key there => ?_, fun key there => ?_, ?_⟩
    · obtain ⟨e, mem, rfl⟩ := mem_keys_trimKeys.mp there
      exact (single e.1 (bound e mem)).1
    · obtain ⟨e, mem, rfl⟩ := mem_keys_trimKeys.mp there
      simpa [Keyed.contains] using (single e.1 (bound e mem)).2
    · rw [keys_trimKeys]
      refine List.pairwise_map.mpr (extra.rising.imp_of_mem fun {e f} he hf less same => ?_)
      have := apart e.1 f.1 (bound e he) (bound f hf) same
      exact String.lt_irrefl _ (this ▸ less)

/-- Whether adding succeeds, and with what. -/
theorem addSettings_eq_ok_iff {settings : Keyed String} :
    addSettings own extra.entries = .ok settings ↔
      Fit own extra.entries ∧ settings = withAll own extra.entries := by
  rcases addSettings_cases extra.entries own with ⟨fit, added⟩ | failed
  · rw [added]
    exact ⟨fun h => ⟨fit, (Except.ok.inj h).symm⟩, fun h => congrArg _ h.2.symm⟩
  · obtain ⟨before, key, value, after, told, split, fit, unfit, failed⟩ := failed
    rw [failed]
    exact ⟨nofun, fun h => absurd (firstFlaw_of_unfit split fit unfit) (not_firstFlaw_of_fit h.1)⟩

end

namespace Attachment

theorem args_eq {a : Attachment} {own : MountArgs} (h : a.storage.args = .ok own) :
    a.args = addSettings own.settings a.extra.entries >>= fun settings =>
      pure ⟨own.uri, settings⟩ := by
  rw [args, h]
  rfl

/-- The arguments of a storage with further settings are those of the storage, the further settings
put among its own without the blanks around their keys.  There are any just if no key is blank, none
is taken by the storage, and no two are the same without the blanks around them; else the first key
with a flaw, in the order of the keys, decides on the cause. -/
theorem further_settings_added {a : Attachment} {own : MountArgs} (h : a.storage.args = .ok own) :
    ((∃ x, a.args = .ok x) ↔
      (∀ key, a.extra.contains key = true →
        Text.trim key ≠ "" ∧ own.settings.contains (Text.trim key) = false) ∧
      ∀ j k, a.extra.contains j = true → a.extra.contains k = true → Text.trim j = Text.trim k →
        j = k) ∧
    (∀ x, a.args = .ok x →
      x.uri = own.uri ∧ x.settings.size = own.settings.size + a.extra.size ∧
        ∀ key value, x.settings.get? key = some value ↔
          own.settings.get? key = some value ∨
            ∃ k, a.extra.get? k = some value ∧ Text.trim k = key) ∧
    ∀ cause, a.args = .error cause ↔ ∃ key, FirstFlaw own.settings a.extra key cause := by
  have made : ∀ {x : MountArgs}, a.args = .ok x ↔
      Fit own.settings a.extra.entries ∧ x = ⟨own.uri, withAll own.settings a.extra.entries⟩ := by
    intro x
    simp only [args_eq h, bind_eq_ok_iff, addSettings_eq_ok_iff, pure, Except.pure, Except.ok.injEq]
    constructor
    · rintro ⟨_, ⟨fit, rfl⟩, rfl⟩
      exact ⟨fit, rfl⟩
    · rintro ⟨fit, rfl⟩
      exact ⟨_, ⟨fit, rfl⟩, rfl⟩
  refine ⟨?_, fun x hx => ?_, fun cause => ?_⟩
  · rw [← fit_entries_iff]
    exact ⟨fun ⟨x, hx⟩ => (made.mp hx).1, fun fit => ⟨_, made.mpr ⟨fit, rfl⟩⟩⟩
  · obtain ⟨fit, rfl⟩ := made.mp hx
    refine ⟨rfl, size_withAll fit, fun key value => ?_⟩
    simp only [get?_withAll_eq_some_iff fit, Keyed.get?_eq_some_iff_mem]
  · rw [← addSettings_eq_error_iff, args_eq h]
    cases addSettings own.settings a.extra.entries with
    | error e => exact ⟨by rintro ⟨⟩; rfl, by rintro ⟨⟩; rfl⟩
    | ok settings => exact ⟨nofun, nofun⟩

/-- Two keys that differ by a blank: the greater of them is taken, although a key after it is
blank. -/
theorem further_settings_added_padded :
    let extra : Keyed String := .ofList [(" k", "1"), ("k", "2"), ("\u3000", "3")]
    let a : Attachment := ⟨.gcs "b", extra⟩
    a.storage.args = .ok ⟨"gs://b", .empty⟩ ∧ a.args = .error (.takenSetting "k") := by
  intro extra a
  have own : a.storage.args = .ok ⟨"gs://b", .empty⟩ := by rfl
  have split : extra.entries = [(" k", "1")] ++ ("k", "2") :: [("\u3000", "3")] := by decide
  have fit : Fit .empty [(" k", "1")] := ⟨by decide, by decide, by decide⟩
  have taken : Unfit (withAll .empty [(" k", "1")]) "k" (.takenSetting "k") :=
    .taken (by decide) (by decide)
  exact ⟨own, ((further_settings_added own).2.2 _).mpr ⟨"k", firstFlaw_of_unfit split fit taken⟩⟩

end Attachment

end RemoteMounts
