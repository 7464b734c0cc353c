/-!
# Cutting text

Cutting a text at a mark, at line ends and at a known beginning or end.  `cut?_eq_some_iff` says
that a text is cut at the first mark and nowhere else, and so in one way only (`append_mark_inj`).
Pieces between marks are read back from the text that they make up (`pieces_marked`).
-/

namespace RemoteMounts.Text

/-- The text before the first mark and the text after it; nothing if there is no mark. -/
def cut? (mark : Char) : List Char → Option (List Char × List Char)
  | [] => none
  | c :: cs =>
    if c = mark then some ([], cs)
    else (cut? mark cs).map fun parts => (c :: parts.1, parts.2)

/-- The text after the last mark; all of it if there is none. -/
def afterLast (mark : Char) : List Char → List Char
  | [] => []
  | c :: cs => if mark ∈ c :: cs then if mark ∈ cs then afterLast mark cs else cs else c :: cs

/-- The text after a known beginning, if it starts so. -/
def stripFront? : (front text : List Char) → Option (List Char)
  | [], text => some text
  | _ :: _, [] => none
  | c :: front, d :: text => if c = d then stripFront? front text else none

/-- The text before a known last character, if it ends so. -/
def stripLast? (last : Char) (text : List Char) : Option (List Char) :=
  match text.getLast? with
  | none => none
  | some c => if c = last then some text.dropLast else none

def hasPart (part : List Char) : List Char → Bool
  | [] => part.isEmpty
  | c :: cs => part.isPrefixOf (c :: cs) || hasPart part cs

def mentions (text part : String) : Bool :=
  hasPart part.toList text.toList

/-- The lines of a text.  A line ends at a line feed, which a carriage return may precede; what
follows the last line feed is a line unless it is empty. -/
def lines : List Char → List (List Char)
  | [] => []
  | '\n' :: cs => [] :: lines cs
  | '\r' :: '\n' :: cs => [] :: lines cs
  | c :: cs =>
    match lines cs with
    | [] => [[c]]
    | line :: rest => (c :: line) :: rest

/-- The pieces of a text between marks. -/
def pieces (mark : Char) : List Char → List (List Char)
  | [] => [[]]
  | c :: cs =>
    match pieces mark cs with
    | [] => [[c]]
    | piece :: rest => if c = mark then [] :: piece :: rest else (c :: piece) :: rest

/-! ## Where the cut falls -/

theorem cut?_eq_some_iff {mark : Char} {text before after : List Char} :
    cut? mark text = some (before, after) ↔
      mark ∉ before ∧ text = before ++ mark :: after := by
  induction text generalizing before with
  | nil => simp [cut?]
  | cons c cs ih =>
    by_cases hc : c = mark
    · subst hc
      cases before with
      | nil => simp [cut?]
      | cons d ds => simp [cut?]; intro h; simp_all
    · cases before with
      | nil => simp [cut?, hc]
      | cons d ds =>
        simp only [cut?, hc, if_false, Option.map_eq_some_iff, Prod.exists, Prod.mk.injEq,
          List.cons.injEq, List.mem_cons, not_or, List.cons_append]
        constructor
        · rintro ⟨a, b, h, ⟨rfl, rfl⟩, rfl⟩
          have := ih.mp h
          exact ⟨⟨fun e => hc e.symm, this.1⟩, rfl, this.2⟩
        · rintro ⟨⟨_, hd⟩, rfl, h⟩
          exact ⟨ds, after, ih.mpr ⟨hd, h⟩, ⟨rfl, rfl⟩, rfl⟩

theorem cut?_eq_none_iff {mark : Char} {text : List Char} :
    cut? mark text = none ↔ mark ∉ text := by
  induction text with
  | nil => simp [cut?]
  | cons c cs ih =>
    by_cases hc : c = mark
    · simp [cut?, hc]
    · simp [cut?, hc, ih, Ne.symm hc]

/-- A text is cut in one way: what stands before the first mark and what stands after it are known
from the text. -/
theorem append_mark_inj {mark : Char} {xs ys us vs : List Char} (hx : mark ∉ xs) (hy : mark ∉ ys)
    (h : xs ++ mark :: us = ys ++ mark :: vs) : xs = ys ∧ us = vs := by
  have left : cut? mark (xs ++ mark :: us) = some (xs, us) := cut?_eq_some_iff.mpr ⟨hx, rfl⟩
  have right : cut? mark (ys ++ mark :: vs) = some (ys, vs) := cut?_eq_some_iff.mpr ⟨hy, rfl⟩
  rw [h, right] at left
  simpa [eq_comm] using left

theorem stripFront?_eq_some_iff {front text rest : List Char} :
    stripFront? front text = some rest ↔ text = front ++ rest := by
  induction front generalizing text with
  | nil => simp [stripFront?]
  | cons c front ih =>
    cases text with
    | nil => simp [stripFront?]
    | cons d text =>
      by_cases hc : c = d
      · simp [stripFront?, hc, ih]
      · simp [stripFront?, hc, Ne.symm hc]

/-! ## Pieces between marks -/

section

variable {mark : Char}

theorem pieces_ne_nil (cs : List Char) : pieces mark cs ≠ [] := by
  cases cs with
  | nil => simp [pieces]
  | cons c cs =>
    rw [pieces]
    split
    · simp
    · split <;> simp

theorem not_mem_of_mem_pieces {cs piece : List Char} (h : piece ∈ pieces mark cs) :
    mark ∉ piece := by
  induction cs generalizing piece with
  | nil => simp_all [pieces]
  | cons c cs ih =>
    rw [pieces] at h
    split at h
    next none => exact absurd none (pieces_ne_nil cs)
    next first others split =>
      rw [split] at ih
      by_cases here : c = mark
      · rw [if_pos here] at h
        rcases List.mem_cons.mp h with rfl | h
        · exact List.not_mem_nil
        · exact ih h
      · rw [if_neg here] at h
        rcases List.mem_cons.mp h with rfl | h
        · rw [List.mem_cons, not_or]
          exact ⟨Ne.symm here, ih List.mem_cons_self⟩
        · exact ih (List.mem_cons_of_mem _ h)

/-- A text without a mark is one piece. -/
theorem pieces_of_not_mem {cs : List Char} (h : mark ∉ cs) : pieces mark cs = [cs] := by
  induction cs with
  | nil => rfl
  | cons c cs ih =>
    obtain ⟨other, free⟩ : ¬ mark = c ∧ mark ∉ cs := by simpa using h
    rw [pieces, ih free]
    simp [Ne.symm other]

/-- What stands before the first mark is the first piece. -/
theorem pieces_append_mark {cs : List Char} (h : mark ∉ cs) (rest : List Char) :
    pieces mark (cs ++ mark :: rest) = cs :: pieces mark rest := by
  induction cs with
  | nil =>
    rw [List.nil_append, pieces]
    split
    next none => exact absurd none (pieces_ne_nil rest)
    next first others split => rw [if_pos rfl, split]
  | cons c cs ih =>
    obtain ⟨other, free⟩ : ¬ mark = c ∧ mark ∉ cs := by simpa using h
    rw [List.cons_append, pieces, ih free]
    simp [Ne.symm other]

/-- Pieces are read back from the text in which a mark stands before each of them but the first. -/
theorem pieces_marked {cs : List Char} {others : List (List Char)}
    (h : ∀ piece ∈ cs :: others, mark ∉ piece) :
    pieces mark (cs ++ others.flatMap fun piece => mark :: piece) = cs :: others := by
  induction others generalizing cs with
  | nil => simp [pieces_of_not_mem (h cs List.mem_cons_self)]
  | cons piece others ih =>
    obtain ⟨first, later⟩ := List.forall_mem_cons.mp h
    rw [List.flatMap_cons, List.cons_append, pieces_append_mark first, ih later]

end

end RemoteMounts.Text
