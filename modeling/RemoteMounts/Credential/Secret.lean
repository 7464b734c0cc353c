import RemoteMounts.Invalid
import RemoteMounts.Text.Blank
import RemoteMounts.Text.Cut

/-!
# References to secrets

A secret is kept where the mount runs and never travels: a request names the scope that holds it and
its key there, and what travels is a placeholder of the two.  Neither part may hold a character that
the placeholder itself uses.
-/

namespace RemoteMounts

namespace Secret

/-- Whether the character could be taken for a part of a placeholder. -/
def isReserved (c : Char) : Bool :=
  c = '/' || c = '\x7b' || c = '\x7d' || Text.isBlank c

/-- Whether the text can stand in a placeholder. -/
def isPart (s : String) : Bool :=
  s ≠ "" && s.toList.all fun c => !isReserved c

end Secret

/-- A reference to a secret: the scope that holds it and its key there. -/
structure Secret where
  scope : String
  key : String
  scope_isPart : Secret.isPart scope = true
  key_isPart : Secret.isPart key = true
deriving DecidableEq

namespace Secret

/-- The reference to the key in the scope, both without the blanks around them. -/
def make (scope key : String) : Except Invalid Secret :=
  if h : isPart (Text.trim scope) = true ∧ isPart (Text.trim key) = true then
    .ok ⟨Text.trim scope, Text.trim key, h.1, h.2⟩
  else .error (.badSecret scope key)

/-- The text that stands for the secret wherever it is needed. -/
def placeholder (s : Secret) : String :=
  "\x7b\x7bsecrets/" ++ s.scope ++ "/" ++ s.key ++ "\x7d\x7d"

/-! ## Which texts make a reference, and which reference a placeholder is of -/

theorem make_eq_ok_iff {scope key : String} {s : Secret} :
    make scope key = .ok s ↔ s.scope = Text.trim scope ∧ s.key = Text.trim key := by
  unfold make
  constructor
  · intro made
    split at made
    · cases made
      exact ⟨rfl, rfl⟩
    · cases made
  · obtain ⟨scope', key', scope_isPart, key_isPart⟩ := s
    rintro ⟨rfl, rfl⟩
    rw [dif_pos ⟨scope_isPart, key_isPart⟩]

theorem not_mem_of_isPart {s : String} {c : Char} (part : isPart s = true)
    (reserved : isReserved c = true) : c ∉ s.toList := by
  intro mem
  simp only [isPart, Bool.and_eq_true, List.all_eq_true] at part
  simpa [reserved] using part.2 c mem

/-- A placeholder is of one reference only. -/
theorem placeholder_inj {s t : Secret} : s.placeholder = t.placeholder ↔ s = t := by
  constructor
  · intro same
    obtain ⟨scope, key, scope_isPart, key_isPart⟩ := s
    obtain ⟨scope', key', scope_isPart', key_isPart'⟩ := t
    simp only [placeholder, ← String.toList_inj, String.toList_append, List.append_assoc,
      List.append_cancel_left_eq] at same
    obtain ⟨scopes, rest⟩ := Text.append_mark_inj (not_mem_of_isPart scope_isPart rfl)
      (not_mem_of_isPart scope_isPart' rfl) same
    obtain rfl := String.toList_inj.mp scopes
    obtain rfl := String.toList_inj.mp (List.append_cancel_right rest)
    rfl
  · rintro rfl
    rfl

end Secret

end RemoteMounts
