import RemoteMounts.Credential.ProfileArn

/-!
# The grammar of instance profile ARNs

Reading an ARN cuts the trimmed text at its first five colons.  It accepts exactly the texts of the
grammar `ProfileArn.IsText`, and of any other text it tells the first thing that is missing: the
beginning, a section, or the name of a profile (`parse_by_grammar`).  The name of the profile is what
follows the last slash of the resource, since the resource itself has one (`afterLast_append`).
-/

namespace RemoteMounts

namespace Text

variable {mark : Char}

/-! ## Marks in a text -/

/-- One cut needs one mark, and what comes after it needs the others. -/
theorem isSome_cut?_bind {β : Type} {text : List Char} {k : Nat}
    {next : List Char × List Char → Option β}
    (h : ∀ before after, (next (before, after)).isSome = true ↔ k ≤ after.count mark) :
    ((cut? mark text).bind next).isSome = true ↔ k + 1 ≤ text.count mark := by
  cases hc : cut? mark text with
  | none =>
    have none : text.count mark = 0 := List.count_eq_zero.mpr (cut?_eq_none_iff.mp hc)
    simp [none]
  | some parts =>
    obtain ⟨before, after⟩ := parts
    obtain ⟨free, rfl⟩ := cut?_eq_some_iff.mp hc
    have before : before.count mark = 0 := List.count_eq_zero.mpr free
    simp [h, before]

theorem afterLast_of_not_mem {cs : List Char} (h : mark ∉ cs) : afterLast mark cs = cs := by
  cases cs with
  | nil => rfl
  | cons c cs => rw [afterLast, if_neg h]

theorem afterLast_mark_cons (cs : List Char) : afterLast mark (mark :: cs) = afterLast mark cs := by
  rw [afterLast, if_pos List.mem_cons_self]
  split
  · rfl
  · rename_i none
    rw [afterLast_of_not_mem none]

/-- What stands before some mark does not matter. -/
theorem afterLast_append (front cs : List Char) :
    afterLast mark (front ++ mark :: cs) = afterLast mark cs := by
  induction front with
  | nil => exact afterLast_mark_cons cs
  | cons c front ih =>
    have later : mark ∈ front ++ mark :: cs := by simp
    rw [List.cons_append, afterLast, if_pos (List.mem_cons_of_mem c later), if_pos later, ih]

/-- What follows the last mark holds none, and a mark stands before it unless it is all. -/
theorem afterLast_spec (mark : Char) (cs : List Char) :
    mark ∉ afterLast mark cs ∧
      (cs = afterLast mark cs ∨ ∃ front, cs = front ++ mark :: afterLast mark cs) := by
  induction cs with
  | nil => exact ⟨List.not_mem_nil, .inl rfl⟩
  | cons c cs ih =>
    by_cases here : mark ∈ cs
    · obtain ⟨free, split⟩ := ih
      have same : afterLast mark (c :: cs) = afterLast mark cs := by
        rw [afterLast, if_pos (List.mem_cons_of_mem c here), if_pos here]
      rw [same]
      refine ⟨free, .inr ?_⟩
      rcases split with all | ⟨front, split⟩
      · exact absurd here (all ▸ free)
      · exact ⟨c :: front, by rw [List.cons_append, ← split]⟩
    · by_cases first : c = mark
      · subst first
        rw [afterLast_mark_cons, afterLast_of_not_mem here]
        exact ⟨here, .inr ⟨[], rfl⟩⟩
      · have none : mark ∉ c :: cs := by simp [Ne.symm first, here]
        rw [afterLast_of_not_mem none]
        exact ⟨none, .inl rfl⟩

end Text

namespace ProfileArn

/-! ## What is missing -/

/-- A text has its sections if it has five colons. -/
theorem isSome_sections?_iff {cs : List Char} :
    (sections? cs).isSome = true ↔ 5 ≤ cs.count ':' :=
  Text.isSome_cut?_bind fun _ _ => Text.isSome_cut?_bind fun _ _ => Text.isSome_cut?_bind
    fun _ _ => Text.isSome_cut?_bind fun _ _ => Text.isSome_cut?_bind fun _ _ => by simp

def HasFront (s : String) : Prop :=
  ∃ rest, s = "arn:" ++ rest

theorem isSome_stripFront?_iff {s : String} :
    (Text.stripFront? arnFront s.toList).isSome = true ↔ HasFront s := by
  simp only [Option.isSome_iff_exists, Text.stripFront?_eq_some_iff, HasFront, ← String.toList_inj,
    String.toList_append, arnFront]
  constructor
  · rintro ⟨rest, split⟩
    exact ⟨.ofList rest, by simpa using split⟩
  · rintro ⟨rest, split⟩
    exact ⟨rest.toList, split⟩

/-- The first thing that a text lacks to name a profile, told in these words. -/
inductive Lacks (s : String) : Invalid → Prop
  | front {flaw : ArnFlaw} :
    ¬ HasFront s → flaw.message = "invalid prefix" → Lacks s (.notAnArn flaw)
  | sections {flaw : ArnFlaw} :
    HasFront s → s.toList.count ':' < 5 → flaw.message = "not enough sections" →
    Lacks s (.notAnArn flaw)
  | profile : HasFront s → 5 ≤ s.toList.count ':' → ¬ IsText s → Lacks s (.notAProfile s)

theorem lacks_front_iff {s : String} {e : Invalid} (h : ¬ HasFront s) :
    Lacks s e ↔ e = .notAnArn .noPrefix := by
  constructor
  · rintro (@⟨flaw, -, words⟩ | ⟨front, -, -⟩ | ⟨front, -, -⟩)
    · cases flaw with
      | noPrefix => rfl
      | tooFewSections => simp [ArnFlaw.message] at words
    · exact absurd front h
    · exact absurd front h
  · rintro rfl
    exact .front h rfl

theorem lacks_sections_iff {s : String} {e : Invalid} (h : HasFront s)
    (few : s.toList.count ':' < 5) : Lacks s e ↔ e = .notAnArn .tooFewSections := by
  constructor
  · rintro (⟨none, -⟩ | @⟨flaw, -, -, words⟩ | ⟨-, many, -⟩)
    · exact absurd h none
    · cases flaw with
      | noPrefix => simp [ArnFlaw.message] at words
      | tooFewSections => rfl
    · omega
  · rintro rfl
    exact .sections h few rfl

theorem lacks_profile_iff {s : String} {e : Invalid} (h : HasFront s)
    (enough : 5 ≤ s.toList.count ':') : Lacks s e ↔ ¬ IsText s ∧ e = .notAProfile s := by
  constructor
  · rintro (⟨none, -⟩ | ⟨-, few, -⟩ | ⟨-, -, other⟩)
    · exact absurd h none
    · omega
    · exact ⟨other, rfl⟩
  · rintro ⟨other, rfl⟩
    exact .profile h enough other

theorem flaw?_eq_some_iff {s : String} {e : Invalid} : flaw? s = some e ↔ Lacks s e := by
  have sound : _ ↔ IsText s := flaw?_eq_none_iff
  unfold flaw? at sound ⊢
  cases front : Text.stripFront? arnFront s.toList with
  | none =>
    have none : ¬ HasFront s := by rw [← isSome_stripFront?_iff, front]; nofun
    simp [lacks_front_iff none, eq_comm]
  | some rest =>
    have begins : HasFront s := by rw [← isSome_stripFront?_iff, front]; rfl
    rw [front] at sound
    cases parts : sections? s.toList with
    | none =>
      have few : ¬ 5 ≤ s.toList.count ':' := by rw [← isSome_sections?_iff, parts]; nofun
      simp [lacks_sections_iff begins (Nat.lt_of_not_le few), eq_comm]
    | some parts' =>
      obtain ⟨named, resource⟩ := parts'
      have enough : 5 ≤ s.toList.count ':' := by rw [← isSome_sections?_iff, parts]; rfl
      rw [parts] at sound
      rw [lacks_profile_iff begins enough, ← sound]
      by_cases profile : named = service ∧ isProfileResource resource = true
      · simp [profile]
      · simp [profile, eq_comm (a := e)]

/-- The cause for which a text is rejected is the first thing that it lacks. -/
theorem parse_eq_error_iff {s : String} {e : Invalid} :
    parse s = .error e ↔ Lacks (Text.trim s) e := by
  rw [← flaw?_eq_some_iff]
  constructor
  · intro rejected
    cases flaw : flaw? (Text.trim s) with
    | none => cases (parse_of_flaw_eq_none flaw).symm.trans rejected
    | some other => cases (parse_of_flaw_eq_some flaw).symm.trans rejected; rfl
  · exact parse_of_flaw_eq_some

/-! ## What is read -/

/-- The name of the profile is what follows the last slash of the name in the resource. -/
theorem profileName_eq {arn : ProfileArn} {partition region account name : String}
    (written : arn.text = "arn:" ++ partition ++ ":iam:" ++ region ++ ":" ++ account ++
      ":instance-profile/" ++ name) :
    arn.profileName = .ofList (Text.afterLast '/' name.toList) := by
  have split : arn.text.toList =
      ("arn:" ++ partition ++ ":iam:" ++ region ++ ":" ++ account ++ ":instance-profile").toList ++
        '/' :: name.toList := by
    rw [written]
    simp [String.toList_append]
  rw [profileName, split, Text.afterLast_append]

/-- Reading an ARN accepts exactly the texts of the grammar, whatever blanks are around them, and
keeps such a text without the blanks; the profile has the name that follows the last slash.  Any
other text is rejected for the first thing that it lacks.  What was read reads back as itself, and
two texts read as one ARN exactly if they differ in the blanks around them only. -/
theorem parse_by_grammar (s : String) :
    ((∃ arn, parse s = .ok arn) ↔ IsText (Text.trim s)) ∧
      (∀ arn, parse s = .ok arn → arn.text = Text.trim s ∧
        ∀ partition region account name : String,
          Text.trim s = "arn:" ++ partition ++ ":iam:" ++ region ++ ":" ++ account ++
            ":instance-profile/" ++ name →
          '/' ∉ arn.profileName.toList ∧
            (name = arn.profileName ∨ ∃ path, name = path ++ "/" ++ arn.profileName)) ∧
      (∀ e, parse s = .error e ↔ Lacks (Text.trim s) e) ∧
      (∀ arn, parse s = .ok arn → parse arn.text = .ok arn) ∧
      ∀ t a b, parse s = .ok a → parse t = .ok b → (a = b ↔ Text.trim s = Text.trim t) := by
  refine ⟨exists_parse_iff, ?_, fun e => parse_eq_error_iff, fun arn _ => parse_text arn, ?_⟩
  · intro arn parsed
    refine ⟨text_of_parse parsed, fun partition region account name written => ?_⟩
    obtain ⟨free, split⟩ := Text.afterLast_spec '/' name.toList
    rw [profileName_eq ((text_of_parse parsed).trans written), String.toList_ofList]
    refine ⟨free, ?_⟩
    rcases split with all | ⟨front, split⟩
    · exact .inl (by rw [← all, String.ofList_toList])
    · refine .inr ⟨.ofList front, ?_⟩
      rw [← String.toList_inj]
      simpa [String.toList_append] using split
  · intro t a b first second
    constructor
    · rintro rfl
      rw [← text_of_parse first, ← text_of_parse second]
    · intro same
      rw [parse_eq_of_trim_eq same, second] at first
      exact (Except.ok.inj first).symm

end ProfileArn

end RemoteMounts
