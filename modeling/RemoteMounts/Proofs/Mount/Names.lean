import RemoteMounts.Mount.Point
import RemoteMounts.Proofs.Mount.Embedding
import RemoteMounts.Proofs.Path.Resolution

/-!
# The paths of mounts

Names are of a few ASCII characters, and all that is claimed of the path of a mount rests on which
characters these are: none is a slash, so a name is one step below the directory of all mounts and
names are told apart by their paths; none needs an escape, so a script holds the path as it is,
between quotes; and none is a space, so the path holds nothing by which an error is taken to mean that
there is no mount (`path_canonical`).
-/

namespace RemoteMounts

namespace Json

/-- The character stands for itself in a literal. -/
def IsVerbatim (c : Char) : Prop :=
  0x20 ≤ c.toNat ∧ c ≠ '"' ∧ c ≠ '\\'

theorem escape_of_isVerbatim {c : Char} (h : IsVerbatim c) : escape c = [c] := by
  obtain ⟨high, quote, backslash⟩ := h
  unfold escape
  split
  case h_8 => rw [if_neg (by omega)]
  all_goals simp_all

/-- A text of such characters is its own literal, between quotes. -/
theorem literal_of_isVerbatim {s : String} (h : ∀ c ∈ s.toList, IsVerbatim c) :
    literal s = "\"" ++ s ++ "\"" := by
  have same : ∀ cs : List Char, (∀ c ∈ cs, IsVerbatim c) → cs.flatMap escape = cs := by
    intro cs verbatim
    induction cs with
    | nil => rfl
    | cons c cs ih =>
      obtain ⟨first, later⟩ := List.forall_mem_cons.mp verbatim
      rw [List.flatMap_cons, escape_of_isVerbatim first, ih later, List.singleton_append]
  rw [← String.toList_inj]
  simp [literal, literalChars, same s.toList h]

end Json

namespace Text

/-- A text in quotes between two others holds a part without quotes only if one of the three does. -/
theorem contains_quoted_iff {before s after part : String} (free : '"' ∉ part.toList) :
    Contains (before ++ ("\"" ++ s ++ "\"") ++ after) part ↔
      Contains before part ∨ Contains s part ∨ Contains after part := by
  have split : (before ++ ("\"" ++ s ++ "\"") ++ after).toList =
      before.toList ++ '"' :: (s.toList ++ '"' :: after.toList) := by
    simp [String.toList_append]
  unfold Contains
  rw [split, infix_append_mark_iff free, infix_append_mark_iff free]

end Text

namespace Script

/-- What is within the line that depends on the texts is within the script. -/
theorem Frames.contains {before after : List (List Char)} {line : List Char} {script part : String}
    (h : Frames before line after script) (within : part.toList <:+: line) :
    Text.Contains script part := by
  obtain ⟨front, back, split⟩ := within
  refine ⟨(before.flatMap fun l => l ++ ['\n']) ++ front,
    back ++ '\n' :: after.flatMap fun l => l ++ ['\n'], ?_⟩
  rw [h.written, ← split]
  simp

/-- Every script holds the literal of its path. -/
theorem contains_literal (path : String) (args : MountArgs) :
    ∀ script ∈ [create path args, read path, delete path],
      Text.Contains script (Json.literal path) := by
  have whole : Json.literalChars path.toList = (Json.literal path).toList :=
    (toList_literal path).symm
  simp only [List.forall_mem_cons, List.not_mem_nil, false_imp_iff, implies_true, and_true]
  refine ⟨(frames_create path args).contains ?_, (frames_read path).contains ?_,
    (frames_delete path).contains ?_⟩
  · simp only [whole, List.append_assoc]
    exact (List.prefix_append _ _).isInfix.trans (List.suffix_append _ _).isInfix
  · rw [whole]
    exact List.infix_append _ _ _
  · rw [whole]
    exact (List.suffix_append _ _).isInfix

end Script

namespace MountName

/-! ## Which names there are -/

/-- An ASCII letter or digit, an underscore, a hyphen or a dot. -/
def IsPortable (c : Char) : Prop :=
  ('a' ≤ c ∧ c ≤ 'z') ∨ ('A' ≤ c ∧ c ≤ 'Z') ∨ ('0' ≤ c ∧ c ≤ '9') ∨ c ∈ ['_', '-', '.']

instance (c : Char) : Decidable (IsPortable c) :=
  inferInstanceAs (Decidable (_ ∨ _ ∨ _ ∨ _))

/-- The text is of such characters, it is not empty, and it does not mean a directory. -/
structure IsAllowed (s : String) : Prop where
  filled : s ≠ ""
  portable : ∀ c ∈ s.toList, IsPortable c
  notHere : s ≠ "."
  notAbove : s ≠ ".."

theorem isNameChar_iff {c : Char} : isNameChar c = true ↔ IsPortable c := by
  have upper : c.isUpper = true ↔ 'A' ≤ c ∧ c ≤ 'Z' := decide_eq_true_iff
  have lower : c.isLower = true ↔ 'a' ≤ c ∧ c ≤ 'z' :=
    Bool.and_eq_true_iff.trans (and_congr decide_eq_true_iff decide_eq_true_iff)
  have digit : c.isDigit = true ↔ '0' ≤ c ∧ c ≤ '9' :=
    Bool.and_eq_true_iff.trans (and_congr decide_eq_true_iff decide_eq_true_iff)
  have letter : c.isAlpha = true ↔ c.isUpper = true ∨ c.isLower = true := Bool.or_eq_true_iff
  simp only [isNameChar, Char.isAlphanum, Bool.or_eq_true, decide_eq_true_eq, letter, lower, upper,
    digit, IsPortable, List.mem_cons, List.not_mem_nil, or_false]
  constructor
  · rintro (((((capital | small) | figure) | rfl) | rfl) | rfl) <;> simp [*]
  · rintro (small | capital | figure | rfl | rfl | rfl) <;> simp [*]

theorem isName_iff {s : String} : isName s = true ↔ IsAllowed s := by
  simp only [isName, Bool.and_eq_true, List.all_eq_true, decide_eq_true_eq, isNameChar_iff]
  constructor
  · rintro ⟨⟨⟨filled, notHere⟩, notAbove⟩, portable⟩
    exact ⟨filled, portable, notHere, notAbove⟩
  · rintro ⟨filled, portable, notHere, notAbove⟩
    exact ⟨⟨⟨filled, notHere⟩, notAbove⟩, portable⟩

theorem allowed (name : MountName) : IsAllowed name.text :=
  isName_iff.mp name.sound

theorem ofText_eq_ok_iff {s : String} {name : MountName} : ofText s = .ok name ↔ name.text = s := by
  unfold ofText
  constructor
  · intro made
    split at made
    · cases made
      rfl
    · cases made
  · rintro rfl
    rw [dif_pos name.sound]

theorem ofText_eq_error_iff {s : String} {e : Invalid} :
    ofText s = .error e ↔ ¬ IsAllowed s ∧ e = .badMountName s := by
  rw [← isName_iff]
  unfold ofText
  split
  next named => simp [named]
  next other => simp [other, eq_comm]

/-! ## Their paths -/

theorem IsPortable.toNat_lt {c : Char} (h : IsPortable c) : 0x20 < c.toNat := by
  rcases h with ⟨low, -⟩ | ⟨low, -⟩ | ⟨low, -⟩ | mark
  · exact Nat.lt_of_lt_of_le (m := 'a'.toNat) (by decide) low
  · exact Nat.lt_of_lt_of_le (m := 'A'.toNat) (by decide) low
  · exact Nat.lt_of_lt_of_le (m := '0'.toNat) (by decide) low
  · simp only [List.mem_cons, List.not_mem_nil, or_false] at mark
    rcases mark with rfl | rfl | rfl <;> decide

theorem IsPortable.not_mem {c : Char} (h : IsPortable c) : c ∉ [' ', '"', '/', '\\'] := by
  simp only [List.mem_cons, List.not_mem_nil, or_false]
  rintro (rfl | rfl | rfl | rfl) <;> exact absurd h (by decide)

variable (name : MountName)

/-- The name is one step, and the step enters a directory. -/
theorem enters_text : Path.Enters name.text.toList where
  named := by
    have allowed := name.allowed
    simp only [List.mem_cons, List.not_mem_nil, or_false, not_or]
    exact ⟨by simpa using allowed.filled, fun same => allowed.notHere (String.toList_inj.mp same),
      fun same => allowed.notAbove (String.toList_inj.mp same)⟩
  single := fun mem => (name.allowed.portable _ mem).not_mem (by decide)

theorem path_eq_join : name.path = Path.join [[], "mnt".toList, name.text.toList] := by
  rw [← String.toList_inj, Path.toList_join]
  simp [path, directory]

theorem enters_steps : ∀ step ∈ ["mnt".toList, name.text.toList], Path.Enters step :=
  List.forall_mem_cons.mpr ⟨⟨by decide, by decide⟩, List.forall_mem_singleton.mpr name.enters_text⟩

theorem resolve_path : Path.resolve name.path = name.path :=
  Path.resolve_eq_self_iff.mpr ⟨_, name.enters_steps, name.path_eq_join⟩

theorem pieces_path :
    Text.pieces '/' name.path.toList = [[], "mnt".toList, name.text.toList] := by
  rw [path_eq_join]
  exact Path.pieces_join fun step mem => (name.enters_steps step mem).single

theorem path_inj {name other : MountName} : name.path = other.path ↔ name.text = other.text := by
  rw [← String.toList_inj, ← String.toList_inj]
  simp [path, String.toList_append]

/-- A path is of the characters of names and of slashes. -/
theorem portable_path : ∀ c ∈ name.path.toList, c = '/' ∨ IsPortable c := by
  have front : directory.toList.all fun c => c = '/' ∨ IsPortable c := by decide
  rw [path, String.toList_append]
  refine List.forall_mem_append.mpr ⟨?_, fun c mem => .inr (name.allowed.portable c mem)⟩
  simpa only [List.all_eq_true, decide_eq_true_eq] using front

theorem literal_path : Json.literal name.path = "\"" ++ name.path ++ "\"" := by
  refine Json.literal_of_isVerbatim fun c mem => ?_
  rcases name.portable_path c mem with rfl | portable
  · exact ⟨by decide, by decide, by decide⟩
  · have marks := portable.not_mem
    simp only [List.mem_cons, List.not_mem_nil, or_false, not_or] at marks
    exact ⟨Nat.le_of_lt portable.toNat_lt, marks.2.1, marks.2.2.2⟩

/-- What holds a space is not within a path. -/
theorem not_contains_path {part : String} (space : ' ' ∈ part.toList) :
    ¬ Text.Contains name.path part := by
  intro within
  rcases name.portable_path ' ' (within.subset space) with slash | portable
  · exact absurd slash (by decide)
  · exact portable.not_mem (by decide)

/-- The names of mounts are the texts of ASCII letters, digits, underscores, hyphens and dots that are
not empty and do not mean a directory; any other text is refused as it is.  Names are told apart by
their paths.  The path of a mount is the directory of all mounts and one step more, which enters a
directory, so that it is already resolved; a script holds it as it is, between quotes; and it holds
neither of the texts by which an error is taken to mean that there is no mount, so that an error which
quotes it is taken so only for what it says before or after. -/
theorem path_canonical :
    (∀ s, (∃ name, ofText s = .ok name) ↔ IsAllowed s) ∧
      (∀ s e, ofText s = .error e ↔ ¬ IsAllowed s ∧ e = .badMountName s) ∧
      (∀ s t name other, ofText s = .ok name → ofText t = .ok other →
        (name.path = other.path ↔ s = t)) ∧
      ∀ s name, ofText s = .ok name →
        (name.path = "/mnt/" ++ s ∧ Path.Enters s.toList ∧
          Text.pieces '/' name.path.toList = [[], "mnt".toList, s.toList] ∧
          Path.resolve name.path = name.path) ∧
        (Json.literal name.path = "\"" ++ name.path ++ "\"" ∧
          ∀ args, ∀ script ∈ [Script.create name.path args, Script.read name.path,
            Script.delete name.path], Text.Contains script ("\"" ++ name.path ++ "\"")) ∧
        ∀ marker ∈ [Script.notMounted, MountPoint.notMounted],
          ¬ Text.Contains name.path marker ∧
            ∀ before after, Text.Contains (before ++ Json.literal name.path ++ after) marker ↔
              Text.Contains before marker ∨ Text.Contains after marker := by
  refine ⟨?_, fun s e => ofText_eq_error_iff, ?_, ?_⟩
  · intro s
    simp only [ofText_eq_ok_iff]
    constructor
    · rintro ⟨name, rfl⟩
      exact name.allowed
    · intro allowed
      exact ⟨⟨s, isName_iff.mpr allowed⟩, rfl⟩
  · intro s t name other first second
    rw [path_inj, ofText_eq_ok_iff.mp first, ofText_eq_ok_iff.mp second]
  · intro s name made
    obtain rfl := ofText_eq_ok_iff.mp made
    refine ⟨⟨rfl, name.enters_text, name.pieces_path, name.resolve_path⟩,
      ⟨name.literal_path, fun args => ?_⟩, fun marker known => ?_⟩
    · rw [← literal_path]
      exact Script.contains_literal name.path args
    · have marks : ' ' ∈ marker.toList ∧ '"' ∉ marker.toList := by
        revert marker
        decide
      have absent := name.not_contains_path marks.1
      refine ⟨absent, fun before after => ?_⟩
      rw [literal_path, Text.contains_quoted_iff marks.2]
      simp only [absent, false_or]

end MountName

end RemoteMounts
