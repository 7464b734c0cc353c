import RemoteMounts.Text.Cut

/-!
# Lines and parts of a text

Lines that hold no line break, each ended by a line feed, are the lines of the text that they make
up (`lines_flatMap`).  A text mentions another exactly when it contains it (`mentions_iff`), no part
without a mark reaches across the mark (`infix_append_mark_iff`), and texts are told apart by their
first letters (`Begins.ne`).
-/

namespace RemoteMounts.Text

/-- Whether the characters could be one line of a text. -/
def IsLine (cs : List Char) : Prop :=
  '\n' ∉ cs ∧ '\r' ∉ cs

instance (cs : List Char) : Decidable (IsLine cs) :=
  inferInstanceAs (Decidable (_ ∧ _))

theorem isLine_cons {c : Char} {cs : List Char} :
    IsLine (c :: cs) ↔ (c ≠ '\n' ∧ c ≠ '\r') ∧ IsLine cs := by
  simp only [IsLine, List.mem_cons, not_or, ne_comm (a := c)]
  exact and_and_and_comm

/-- Whether no character is a control below the space. -/
def NoControl (cs : List Char) : Prop :=
  ∀ c ∈ cs, 0x20 ≤ c.toNat

instance (cs : List Char) : Decidable (NoControl cs) :=
  decidable_of_iff (cs.all fun c => Nat.ble 0x20 c.toNat) (by simp [NoControl])

theorem noControl_append {xs ys : List Char} :
    NoControl (xs ++ ys) ↔ NoControl xs ∧ NoControl ys :=
  List.forall_mem_append

theorem noControl_cons {c : Char} {cs : List Char} :
    NoControl (c :: cs) ↔ 0x20 ≤ c.toNat ∧ NoControl cs :=
  List.forall_mem_cons

/-- A text without controls makes a line, since both line breaks are controls. -/
theorem isLine_of_noControl {cs : List Char} (h : NoControl cs) : IsLine cs :=
  ⟨fun hc => absurd (h _ hc) (by decide), fun hc => absurd (h _ hc) (by decide)⟩

/-- A line is the first line of the text that goes on after its line feed. -/
theorem lines_line_append {line : List Char} (h : IsLine line) (rest : List Char) :
    lines (line ++ '\n' :: rest) = line :: lines rest := by
  induction line with
  | nil => rfl
  | cons c line ih =>
    obtain ⟨⟨hn, hr⟩, hline⟩ := isLine_cons.mp h
    have ih := ih hline
    rw [List.cons_append, lines.eq_def]
    split
    · rename_i heq
      exact absurd heq (List.cons_ne_nil _ _)
    · rename_i heq
      exact absurd (List.cons.inj heq).1 hn
    · rename_i heq
      exact absurd (List.cons.inj heq).1 hr
    · rename_i heq
      obtain ⟨rfl, rfl⟩ := List.cons.inj heq
      rw [ih]

/-- Lines written one after the other, each with its line feed, are read back as they were. -/
theorem lines_flatMap :
    ∀ {written : List (List Char)}, (∀ line ∈ written, IsLine line) →
      lines (written.flatMap fun line => line ++ ['\n']) = written
  | [], _ => rfl
  | line :: written, h => by
    have first := h line List.mem_cons_self
    have later := lines_flatMap fun l hl => h l (List.mem_cons_of_mem _ hl)
    rw [List.flatMap_cons, List.append_assoc, List.singleton_append, lines_line_append first, later]

/-! ## Ends and parts -/

theorem stripLast?_append (last c : Char) (cs : List Char) :
    stripLast? last (cs ++ [c]) = if c = last then some cs else none := by
  simp [stripLast?]

theorem stripLast?_eq_some_iff {last : Char} {text rest : List Char} :
    stripLast? last text = some rest ↔ text = rest ++ [last] := by
  constructor
  · intro h
    rcases List.eq_nil_or_concat text with rfl | ⟨front, c, rfl⟩
    · cases h
    · rw [List.concat_eq_append] at h ⊢
      rw [stripLast?_append] at h
      by_cases same : c = last
      · rw [if_pos same] at h
        rw [Option.some.inj h, same]
      · rw [if_neg same] at h
        cases h
  · rintro rfl
    rw [stripLast?_append, if_pos rfl]

theorem stripFront?_append (front rest : List Char) :
    stripFront? front (front ++ rest) = some rest :=
  stripFront?_eq_some_iff.mpr rfl

theorem stripFront?_eq_none_iff {front text : List Char} :
    stripFront? front text = none ↔ ¬ front <+: text := by
  rw [Option.eq_none_iff_forall_ne_some]
  constructor
  · rintro none ⟨rest, rfl⟩
    exact none rest (stripFront?_append front rest)
  · intro other rest some
    exact other ⟨rest, (stripFront?_eq_some_iff.mp some).symm⟩

theorem hasPart_iff (part : List Char) :
    ∀ text : List Char, hasPart part text = true ↔ part <:+: text
  | [] => by simp [hasPart]
  | c :: cs => by
    rw [hasPart, Bool.or_eq_true, List.isPrefixOf_iff_prefix, hasPart_iff part cs,
      List.infix_cons_iff]

/-- The characters of the part stand in a row somewhere in the text. -/
def Contains (text part : String) : Prop :=
  part.toList <:+: text.toList

theorem mentions_iff (text part : String) : mentions text part = true ↔ Contains text part :=
  hasPart_iff part.toList text.toList

instance (text part : String) : Decidable (Contains text part) :=
  decidable_of_iff _ (mentions_iff text part)

/-- A part without a mark lies before the mark or behind it: it can neither cross nor hold it. -/
theorem prefix_append_mark_iff {mark : Char} {part front rest : List Char} (free : mark ∉ part) :
    part <+: front ++ mark :: rest ↔ part <+: front := by
  induction front generalizing part with
  | nil =>
    cases part with
    | nil => simp
    | cons c part =>
      have other : c ≠ mark := fun same => free (same ▸ List.mem_cons_self)
      simp [other]
  | cons d front ih =>
    cases part with
    | nil => simp
    | cons c part =>
      have later := ih fun mem => free (List.mem_cons_of_mem c mem)
      rw [List.cons_append, List.cons_prefix_cons, List.cons_prefix_cons, later]

theorem infix_append_mark_iff {mark : Char} {part front rest : List Char} (free : mark ∉ part) :
    part <:+: front ++ mark :: rest ↔ part <:+: front ∨ part <:+: rest := by
  induction front with
  | nil =>
    have first : part <+: [] ++ mark :: rest ↔ part <+: [] := prefix_append_mark_iff free
    rw [List.nil_append] at first ⊢
    rw [List.infix_cons_iff, first, List.prefix_nil, List.infix_nil]
  | cons d front ih =>
    have first : part <+: d :: front ++ mark :: rest ↔ part <+: d :: front :=
      prefix_append_mark_iff free
    rw [List.cons_append] at first ⊢
    rw [List.infix_cons_iff, List.infix_cons_iff, first, ih, or_assoc]

/-! ## First letters -/

/-- The text begins with this letter. -/
def Begins (text : String) (c : Char) : Prop :=
  text.toList.head? = some c

instance (text : String) (c : Char) : Decidable (Begins text c) :=
  inferInstanceAs (Decidable (_ = _))

theorem Begins.append {text : String} {c : Char} (h : Begins text c) (more : String) :
    Begins (text ++ more) c := by
  rw [Begins, String.toList_append, List.head?_append, h]
  rfl

/-- Texts that begin differently are different. -/
theorem Begins.ne {s t : String} {c d : Char} (hs : Begins s c) (ht : Begins t d) (other : c ≠ d) :
    s ≠ t := by
  rintro rfl
  exact other (Option.some.inj (hs.symm.trans ht))

end RemoteMounts.Text
