import RemoteMounts.Proofs.Declaration.Acceptance

/-!
# What a placeholder refers to

A placeholder is found by its braces: whoever resolves it looks for two opening ones and reads up to
two closing ones (`Text.braced`), and reads a reference from what stands between them (`ofInside?`).
Since no part of a reference holds a brace or a slash, each reference is read back from its
placeholder (`ofInside?_eq_some_iff`), also where placeholders stand in other text, as long as that
text brings no braces of its own (`references_embedded`); and then there is no other way to find
double braces in it (`placeholder_unambiguous`).
-/

namespace RemoteMounts

namespace Text

/-! ## Double braces -/

/-- The texts that stand in double braces, in their order.  Two opening braces begin one, and what has
been read of it since is kept until two closing braces end it; one that does not end is none. -/
def braced : (inside : Option (List Char)) → List Char → List (List Char)
  | none, '\x7b' :: '\x7b' :: cs => braced (some []) cs
  | none, _ :: cs => braced none cs
  | some seen, '\x7d' :: '\x7d' :: cs => seen :: braced none cs
  | some seen, c :: cs => braced (some (seen ++ [c])) cs
  | _, [] => []

structure IsBraceless (cs : List Char) : Prop where
  noOpening : '\x7b' ∉ cs
  noClosing : '\x7d' ∉ cs

theorem IsBraceless.append {xs ys : List Char} (hx : IsBraceless xs) (hy : IsBraceless ys) :
    IsBraceless (xs ++ ys) where
  noOpening := by simp [hx.noOpening, hy.noOpening]
  noClosing := by simp [hx.noClosing, hy.noClosing]

/-- Text without an opening brace begins nothing. -/
theorem braced_none_append {front : List Char} (free : '\x7b' ∉ front) (cs : List Char) :
    braced none (front ++ cs) = braced none cs := by
  induction front with
  | nil => rfl
  | cons c front ih =>
    obtain ⟨other, later⟩ : ¬ '\x7b' = c ∧ '\x7b' ∉ front := by simpa using free
    rw [List.cons_append, braced.eq_2 c _ fun _ same _ => other same.symm, ih later]

theorem braced_none_of_not_mem {cs : List Char} (free : '\x7b' ∉ cs) : braced none cs = [] := by
  have all := braced_none_append free []
  rwa [List.append_nil] at all

/-- Text without a closing brace is kept. -/
theorem braced_some_append {inner : List Char} (free : '\x7d' ∉ inner) (seen cs : List Char) :
    braced (some seen) (inner ++ cs) = braced (some (seen ++ inner)) cs := by
  induction inner generalizing seen with
  | nil => rw [List.nil_append, List.append_nil]
  | cons c inner ih =>
    obtain ⟨other, later⟩ : ¬ '\x7d' = c ∧ '\x7d' ∉ inner := by simpa using free
    rw [List.cons_append, braced.eq_4 seen c _ fun _ same _ => other same.symm, ih later,
      List.append_assoc, List.singleton_append]

def brace (inner : List Char) : List Char :=
  '\x7b' :: '\x7b' :: (inner ++ ['\x7d', '\x7d'])

/-- A text in double braces is found there, and what follows is looked through in its turn. -/
theorem braced_brace_append {front inner : List Char} (free : '\x7b' ∉ front)
    (closed : '\x7d' ∉ inner) (cs : List Char) :
    braced none (front ++ (brace inner ++ cs)) = inner :: braced none cs := by
  have after : brace inner ++ cs = '\x7b' :: '\x7b' :: (inner ++ '\x7d' :: '\x7d' :: cs) := by
    simp [brace]
  rw [braced_none_append free, after, braced.eq_1, braced_some_append closed, List.nil_append,
    braced.eq_3]

theorem isBraceless_iff_count {cs : List Char} :
    IsBraceless cs ↔ cs.count '\x7b' = 0 ∧ cs.count '\x7d' = 0 := by
  rw [List.count_eq_zero, List.count_eq_zero]
  exact ⟨fun h => ⟨h.noOpening, h.noClosing⟩, fun h => ⟨h.1, h.2⟩⟩

/-- Double braces around a text are two braces of each kind. -/
theorem count_brace_append (xs inner ys : List Char) :
    (xs ++ (brace inner ++ ys)).count '\x7b' =
        xs.count '\x7b' + inner.count '\x7b' + ys.count '\x7b' + 2 ∧
      (xs ++ (brace inner ++ ys)).count '\x7d' =
        xs.count '\x7d' + inner.count '\x7d' + ys.count '\x7d' + 2 := by
  constructor
  · simp [brace]
    omega
  · simp [brace]
    omega

/-- Among text without braces, double braces are in one place only. -/
theorem brace_append_inj {before inner after u m v : List Char} (hb : IsBraceless before)
    (hi : IsBraceless inner) (ha : IsBraceless after)
    (same : before ++ (brace inner ++ after) = u ++ (brace m ++ v)) :
    u = before ∧ m = inner ∧ v = after := by
  -- There are two braces of each kind on either side, so none is left for `u`, `m` and `v`.
  obtain ⟨opening, closing⟩ := count_brace_append before inner after
  obtain ⟨opening', closing'⟩ := count_brace_append u m v
  rw [same, opening'] at opening
  rw [same, closing'] at closing
  rw [isBraceless_iff_count] at hb hi ha
  have hu : IsBraceless u := isBraceless_iff_count.mpr (by omega)
  have hm : IsBraceless m := isBraceless_iff_count.mpr (by omega)
  rw [← isBraceless_iff_count] at hb hi
  simp only [brace, List.cons_append, List.append_assoc] at same
  obtain ⟨rfl, rest⟩ := append_mark_inj hb.noOpening hu.noOpening same
  obtain ⟨rfl, tail⟩ := append_mark_inj hi.noClosing hm.noClosing (List.cons.inj rest).2
  exact ⟨rfl, rfl, (List.cons.inj tail).2.symm⟩

end Text

namespace Secret

/-! ## References in a text -/

def front : List Char := "secrets/".toList

def inside (s : Secret) : List Char :=
  front ++ (s.scope.toList ++ '/' :: s.key.toList)

/-- The reference that stands between braces, if one does. -/
def ofInside? (cs : List Char) : Option Secret :=
  match Text.stripFront? front cs with
  | none => none
  | some named =>
    match Text.cut? '/' named with
    | none => none
    | some (scope, key) =>
      if h : isPart (.ofList scope) = true ∧ isPart (.ofList key) = true then
        some ⟨.ofList scope, .ofList key, h.1, h.2⟩
      else none

/-- The references in a text, in their order. -/
def references (text : String) : List Secret :=
  (Text.braced none text.toList).filterMap ofInside?

/-- A text with placeholders in it, each after some other text. -/
def embedded : List (String × Secret) → (last : String) → String
  | [], last => last
  | (text, s) :: others, last => text ++ s.placeholder ++ embedded others last

theorem toList_placeholder (s : Secret) : s.placeholder.toList = Text.brace s.inside := by
  have begins : "\x7b\x7bsecrets/".toList = '\x7b' :: '\x7b' :: front := by decide
  have between : "/".toList = ['/'] := by decide
  have ends : "\x7d\x7d".toList = ['\x7d', '\x7d'] := by decide
  simp only [placeholder, Text.brace, inside, String.toList_append, begins, between, ends,
    List.append_assoc, List.cons_append, List.nil_append]

/-- Reading a reference accepts exactly what a placeholder has between its braces. -/
theorem ofInside?_eq_some_iff {cs : List Char} {s : Secret} :
    ofInside? cs = some s ↔ cs = s.inside := by
  unfold ofInside?
  constructor
  · intro read
    cases begins : Text.stripFront? front cs with
    | none => simp [begins] at read
    | some named =>
      obtain rfl := Text.stripFront?_eq_some_iff.mp begins
      cases parts : Text.cut? '/' named with
      | none => simp [begins, parts] at read
      | some parts' =>
        obtain ⟨scope, key⟩ := parts'
        obtain ⟨-, rfl⟩ := Text.cut?_eq_some_iff.mp parts
        simp only [begins, parts] at read
        split at read
        · cases read
          simp [inside]
        · cases read
  · rintro rfl
    have begins : Text.stripFront? front s.inside =
        some (s.scope.toList ++ '/' :: s.key.toList) :=
      Text.stripFront?_eq_some_iff.mpr rfl
    have parts : Text.cut? '/' (s.scope.toList ++ '/' :: s.key.toList) =
        some (s.scope.toList, s.key.toList) :=
      Text.cut?_eq_some_iff.mpr ⟨not_mem_of_isPart s.scope_isPart rfl, rfl⟩
    simp [begins, parts, s.scope_isPart, s.key_isPart]

theorem isBraceless_part {s : String} (part : isPart s = true) : Text.IsBraceless s.toList :=
  ⟨not_mem_of_isPart part rfl, not_mem_of_isPart part rfl⟩

theorem isBraceless_inside (s : Secret) : Text.IsBraceless s.inside := by
  have begins : Text.IsBraceless front := ⟨by decide, by decide⟩
  have slash : Text.IsBraceless ['/'] := ⟨by decide, by decide⟩
  have key := slash.append (isBraceless_part s.key_isPart)
  exact begins.append ((isBraceless_part s.scope_isPart).append key)

theorem braced_embedded {pieces : List (String × Secret)} {last : String}
    (h : ∀ p ∈ pieces, Text.IsBraceless p.1.toList) :
    Text.braced none (embedded pieces last).toList =
      pieces.map (fun p => p.2.inside) ++ Text.braced none last.toList := by
  induction pieces with
  | nil => rfl
  | cons p pieces ih =>
    obtain ⟨text, s⟩ := p
    obtain ⟨first, later⟩ := List.forall_mem_cons.mp h
    rw [embedded, String.toList_append, String.toList_append, toList_placeholder, List.append_assoc,
      Text.braced_brace_append first.noOpening s.isBraceless_inside.noClosing, ih later,
      List.map_cons, List.cons_append]

/-- In text without other braces, the references are those of its placeholders, in their order. -/
theorem references_embedded {pieces : List (String × Secret)} {last : String}
    (h : ∀ p ∈ pieces, Text.IsBraceless p.1.toList) (hl : Text.IsBraceless last.toList) :
    references (embedded pieces last) = pieces.map fun p => p.2 := by
  have read : (ofInside? ∘ fun p : String × Secret => p.2.inside) = some ∘ fun p => p.2 :=
    funext fun p => ofInside?_eq_some_iff.mpr rfl
  rw [references, braced_embedded h, Text.braced_none_of_not_mem hl.noOpening, List.append_nil,
    List.filterMap_map, read, List.filterMap_eq_map]

/-! ## The placeholder of a reference -/

theorem make_eq_error_iff {scope key : String} {e : Invalid} :
    make scope key = .error e ↔
      ¬ (IsSecretPart scope ∧ IsSecretPart key) ∧ e = .badSecret scope key := by
  rw [← isPart_trim_iff, ← isPart_trim_iff]
  unfold make
  split
  next parts => simp [parts]
  next other =>
    exact ⟨fun same => ⟨other, (Except.error.inj same).symm⟩,
      fun h => congrArg Except.error h.2.symm⟩

/-- The text between the braces of a placeholder. -/
theorem toList_inside (s : Secret) : ("secrets/" ++ s.scope ++ "/" ++ s.key).toList = s.inside := by
  have between : "/".toList = ['/'] := by decide
  rw [String.toList_append, String.toList_append, String.toList_append, between, List.append_assoc,
    List.append_assoc]
  rfl

/-- A text in double braces, between two others. -/
theorem toList_braces (u m v : String) :
    (u ++ "\x7b\x7b" ++ m ++ "\x7d\x7d" ++ v).toList =
      u.toList ++ (Text.brace m.toList ++ v.toList) := by
  have begins : "\x7b\x7b".toList = ['\x7b', '\x7b'] := by decide
  have ends : "\x7d\x7d".toList = ['\x7d', '\x7d'] := by decide
  simp only [String.toList_append, begins, ends, Text.brace, List.append_assoc, List.cons_append,
    List.nil_append]

section

variable {before after : String} (hb : Text.IsBraceless before.toList)
  (ha : Text.IsBraceless after.toList) (s : Secret)

include hb ha

/-- Between texts without braces, a placeholder is the one text in double braces. -/
theorem braced_around :
    Text.braced none (before ++ s.placeholder ++ after).toList = [s.inside] := by
  have pieces : ∀ p ∈ [(before, s)], Text.IsBraceless p.1.toList := List.forall_mem_singleton.mpr hb
  have found : Text.braced none (before ++ s.placeholder ++ after).toList =
      [s.inside] ++ Text.braced none after.toList := braced_embedded pieces
  rw [found, Text.braced_none_of_not_mem ha.noOpening, List.append_nil]

theorem references_around : references (before ++ s.placeholder ++ after) = [s] := by
  have pieces : ∀ p ∈ [(before, s)], Text.IsBraceless p.1.toList := List.forall_mem_singleton.mpr hb
  exact references_embedded pieces ha

/-- There is one way to find it. -/
theorem around_inj {u m v : String}
    (same : before ++ s.placeholder ++ after = u ++ "\x7b\x7b" ++ m ++ "\x7d\x7d" ++ v) :
    u = before ∧ m = "secrets/" ++ s.scope ++ "/" ++ s.key ∧ v = after := by
  have lists := congrArg String.toList same
  rw [toList_braces, String.toList_append, String.toList_append, toList_placeholder,
    List.append_assoc] at lists
  simpa only [← toList_inside, String.toList_inj] using
    Text.brace_append_inj hb s.isBraceless_inside ha lists

end

/-- A scope and a key make a reference exactly if, without the blanks around them, neither is empty
and neither holds a blank, a slash or a brace; the placeholder is then of these two parts, and the
reference is read back from it, so that references are told apart by their placeholders.  In other
text without braces, the placeholder is the only text in double braces, and there is only one way to
find double braces there. -/
theorem placeholder_unambiguous :
    (∀ scope key,
      ((∃ s, make scope key = .ok s) ↔ IsSecretPart scope ∧ IsSecretPart key) ∧
        ∀ e, make scope key = .error e ↔
          ¬ (IsSecretPart scope ∧ IsSecretPart key) ∧ e = .badSecret scope key) ∧
      (∀ scope key s, make scope key = .ok s →
        s.placeholder =
            "\x7b\x7bsecrets/" ++ Text.trim scope ++ "/" ++ Text.trim key ++ "\x7d\x7d" ∧
          s.scope = Text.trim scope ∧ s.key = Text.trim key ∧ references s.placeholder = [s] ∧
          ∀ before after : String,
            Text.IsBraceless before.toList → Text.IsBraceless after.toList →
            Text.braced none (before ++ s.placeholder ++ after).toList =
                [("secrets/" ++ Text.trim scope ++ "/" ++ Text.trim key).toList] ∧
              references (before ++ s.placeholder ++ after) = [s] ∧
              ∀ u m v, before ++ s.placeholder ++ after = u ++ "\x7b\x7b" ++ m ++ "\x7d\x7d" ++ v →
                u = before ∧ m = "secrets/" ++ Text.trim scope ++ "/" ++ Text.trim key ∧ v = after) ∧
      ∀ scope key scope' key' s t, make scope key = .ok s → make scope' key' = .ok t →
        (s.placeholder = t.placeholder ↔ s = t) := by
  refine ⟨fun scope key => ⟨exists_make_iff, fun e => make_eq_error_iff⟩, ?_, ?_⟩
  · intro scope key s made
    obtain ⟨scopes, keys⟩ := make_eq_ok_iff.mp made
    have bare : Text.IsBraceless "".toList := ⟨by decide, by decide⟩
    have alone := references_around bare bare s
    rw [String.empty_append, String.append_empty] at alone
    rw [← scopes, ← keys]
    refine ⟨rfl, rfl, rfl, alone, fun before after hb ha => ⟨?_, references_around hb ha s, ?_⟩⟩
    · rw [toList_inside]
      exact braced_around hb ha s
    · exact fun u m v same => around_inj hb ha s same
  · exact fun _ _ _ _ s t _ _ => placeholder_inj

end Secret

end RemoteMounts
