/-!
# Blanks and trimming

Blank characters are those with the Unicode property White_Space.  Every name, identifier and path
that a person types is read without the blanks around it; `trim` is that reading, and it is
idempotent (`trim_trim`).
-/

namespace RemoteMounts.Text

/-- Whether the character is white space: tabs, line breaks, spaces of any width, separators. -/
def isBlank (c : Char) : Bool :=
  let n := c.toNat
  (9 ≤ n && n ≤ 13) || n = 0x20 || n = 0x85 || n = 0xA0 || n = 0x1680 ||
    (0x2000 ≤ n && n ≤ 0x200A) || n = 0x2028 || n = 0x2029 || n = 0x202F || n = 0x205F ||
    n = 0x3000

/-- The characters without the blanks before the first and after the last other one. -/
def trimmed (cs : List Char) : List Char :=
  ((cs.dropWhile isBlank).reverse.dropWhile isBlank).reverse

def trim (s : String) : String :=
  String.ofList (trimmed s.toList)

/-- The trimmed text, unless nothing is left of it. -/
def filled? (s : String) : Option String :=
  if trim s = "" then none else some (trim s)

@[simp] theorem toList_trim (s : String) : (trim s).toList = trimmed s.toList := by
  simp [trim]

/-! ## What trimming leaves -/

theorem dropWhile_eq_self_of_head {p : Char → Bool} :
    ∀ {cs : List Char}, (∀ c ∈ cs.head?, p c = false) → cs.dropWhile p = cs
  | [], _ => rfl
  | c :: cs, h => by simp [h c (by simp)]

theorem head_dropWhile {p : Char → Bool} :
    ∀ {cs : List Char}, ∀ c ∈ (cs.dropWhile p).head?, p c = false
  | [], _, h => by simp at h
  | c :: cs, d, h => by
    by_cases hc : p c = true
    · rw [List.dropWhile_cons_of_pos hc] at h
      exact head_dropWhile d h
    · rw [List.dropWhile_cons_of_neg hc] at h
      obtain rfl : c = d := by simpa using h
      simpa using hc

/-- Dropping from the end keeps the head, as long as something is left. -/
theorem head_reverse_dropWhile {p : Char → Bool} {cs : List Char} :
    ∀ c ∈ (cs.reverse.dropWhile p).reverse.head?, c ∈ cs.head? := by
  intro c hc
  have key : (cs.reverse.dropWhile p).reverse <+: cs := by
    have := List.dropWhile_suffix p (l := cs.reverse)
    simpa using List.reverse_prefix.mpr this
  obtain ⟨rest, h⟩ := key
  rw [← h]
  cases hl : (cs.reverse.dropWhile p).reverse with
  | nil => simp [hl] at hc
  | cons a l => simpa [hl] using hc

theorem trimmed_trimmed (cs : List Char) : trimmed (trimmed cs) = trimmed cs := by
  have front : (trimmed cs).dropWhile isBlank = trimmed cs :=
    dropWhile_eq_self_of_head fun c hc => head_dropWhile c (head_reverse_dropWhile c hc)
  have back : (trimmed cs).reverse.dropWhile isBlank = (trimmed cs).reverse :=
    dropWhile_eq_self_of_head fun c hc => head_dropWhile c (by simpa [trimmed] using hc)
  unfold trimmed at *
  rw [front, back, List.reverse_reverse]

@[simp] theorem trim_trim (s : String) : trim (trim s) = trim s := by
  rw [← String.toList_inj, toList_trim, toList_trim, trimmed_trimmed]

/-- A text that begins with another character is not blank. -/
theorem trim_ne_empty {s : String} {c : Char} {cs : List Char} (hs : s.toList = c :: cs)
    (hc : isBlank c = false) : trim s ≠ "" := by
  intro empty
  have none : trimmed s.toList = [] := by
    rw [← toList_trim, empty]
    rfl
  rw [hs, trimmed, List.dropWhile_cons_of_neg (by simp [hc]), List.reverse_eq_nil_iff,
    List.reverse_cons, List.dropWhile_append] at none
  split at none <;> simp [hc] at none

theorem trim_filled {s t : String} (h : filled? s = some t) : trim t = t ∧ t ≠ "" := by
  unfold filled? at h
  split at h
  · simp at h
  · obtain rfl : trim s = t := by simpa using h
    simp_all

theorem filled?_eq_self {s : String} (trimmed : trim s = s) (filled : s ≠ "") :
    filled? s = some s := by
  rw [filled?, trimmed, if_neg filled]

end RemoteMounts.Text
