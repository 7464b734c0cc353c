import RemoteMounts.Invalid
import RemoteMounts.Text.Blank
import RemoteMounts.Text.Cut

/-!
# Instance profile ARNs

An instance profile is named by an ARN, a text of six sections between colons: `arn`, a partition,
the service `iam`, a region, an account and the resource, which may hold further colons.  The
resource of a profile is `instance-profile/` and a name, which may be a path.
-/

namespace RemoteMounts

namespace ProfileArn

/-- How every ARN begins. -/
def arnFront : List Char := "arn:".toList

/-- The service to which instance profiles belong. -/
def service : List Char := "iam".toList

/-- How the resource of every instance profile begins. -/
def resourceFront : List Char := "instance-profile/".toList

/-- The service and the resource of a text with six sections. -/
def sections? (cs : List Char) : Option (List Char × List Char) := do
  let (_, cs) ← Text.cut? ':' cs
  let (_, cs) ← Text.cut? ':' cs
  let (service, cs) ← Text.cut? ':' cs
  let (_, cs) ← Text.cut? ':' cs
  let (_, resource) ← Text.cut? ':' cs
  return (service, resource)

def isProfileResource (resource : List Char) : Bool :=
  match Text.stripFront? resourceFront resource with
  | some name => !name.isEmpty
  | none => false

/-- Why a trimmed text does not name an instance profile, if it does not. -/
def flaw? (s : String) : Option Invalid :=
  if (Text.stripFront? arnFront s.toList).isNone then some (.notAnArn .noPrefix)
  else
    match sections? s.toList with
    | none => some (.notAnArn .tooFewSections)
    | some (named, resource) =>
      if named = service ∧ isProfileResource resource then none else some (.notAProfile s)

end ProfileArn

/-- The ARN of an instance profile, without blanks around it. -/
structure ProfileArn where
  /-- The ARN as a text. -/
  text : String
  trimmed : Text.trim text = text
  sound : ProfileArn.flaw? text = none
deriving DecidableEq

namespace ProfileArn

/-- Reads an ARN, disregarding the blanks around it. -/
def parse (s : String) : Except Invalid ProfileArn :=
  match h : flaw? (Text.trim s) with
  | some flaw => .error flaw
  | none => .ok ⟨Text.trim s, Text.trim_trim s, h⟩

/-- The name of the profile, without the path before it. -/
def profileName (arn : ProfileArn) : String :=
  String.ofList (Text.afterLast '/' arn.text.toList)

/-! ## What reading accepts -/

theorem text_of_parse {s : String} {arn : ProfileArn} (h : parse s = .ok arn) :
    arn.text = Text.trim s := by
  unfold parse at h
  split at h
  · exact nomatch h
  · obtain rfl := Except.ok.inj h
    rfl

theorem parse_of_flaw_eq_none {s : String} (h : flaw? (Text.trim s) = none) :
    parse s = .ok ⟨Text.trim s, Text.trim_trim s, h⟩ := by
  unfold parse
  split
  · rename_i flaw hf
    exact absurd (hf.symm.trans h) (Option.some_ne_none flaw)
  · rfl

theorem parse_of_flaw_eq_some {s : String} {flaw : Invalid} (h : flaw? (Text.trim s) = some flaw) :
    parse s = .error flaw := by
  unfold parse
  split
  · rename_i other hf
    rw [Option.some.inj (hf.symm.trans h)]
  · rename_i hf
    exact absurd (h.symm.trans hf) (Option.some_ne_none flaw)

/-- An ARN reads back as itself. -/
theorem parse_text (arn : ProfileArn) : parse arn.text = .ok arn := by
  obtain ⟨text, trimmed, sound⟩ := arn
  rw [parse_of_flaw_eq_none (by rw [trimmed]; exact sound)]
  simp only [trimmed]

/-- Two texts name one profile when they differ only in the blanks around them. -/
theorem parse_eq_of_trim_eq {s t : String} (h : Text.trim s = Text.trim t) : parse s = parse t := by
  cases hf : flaw? (Text.trim s) with
  | none =>
    rw [parse_of_flaw_eq_none hf, parse_of_flaw_eq_none (h ▸ hf)]
    simp only [h]
  | some flaw => rw [parse_of_flaw_eq_some hf, parse_of_flaw_eq_some (h ▸ hf)]

/-! ## Which texts are ARNs of profiles -/

theorem sections?_eq_some_iff {cs named resource : List Char} :
    sections? cs = some (named, resource) ↔
      ∃ front partition region account,
        (':' ∉ front ∧ ':' ∉ partition ∧ ':' ∉ named ∧ ':' ∉ region ∧ ':' ∉ account) ∧
          cs = front ++ ':' :: (partition ++ ':' :: (named ++ ':' ::
            (region ++ ':' :: (account ++ ':' :: resource)))) := by
  simp only [sections?, bind, Option.bind_eq_some_iff, Prod.exists, Text.cut?_eq_some_iff, pure,
    Option.some.injEq, Prod.mk.injEq]
  constructor
  · rintro ⟨front, _, ⟨hf, rfl⟩, partition, _, ⟨hp, rfl⟩, _, _, ⟨hn, rfl⟩, region, _, ⟨hr, rfl⟩,
      account, _, ⟨ha, rfl⟩, rfl, rfl⟩
    exact ⟨front, partition, region, account, ⟨hf, hp, hn, hr, ha⟩, rfl⟩
  · rintro ⟨front, partition, region, account, ⟨hf, hp, hn, hr, ha⟩, rfl⟩
    exact ⟨front, _, ⟨hf, rfl⟩, partition, _, ⟨hp, rfl⟩, named, _, ⟨hn, rfl⟩, region, _, ⟨hr, rfl⟩,
      account, _, ⟨ha, rfl⟩, rfl, rfl⟩

theorem isProfileResource_iff {resource : List Char} :
    isProfileResource resource = true ↔ ∃ name, name ≠ [] ∧ resource = resourceFront ++ name := by
  unfold isProfileResource
  constructor
  · intro profile
    split at profile
    next name stripped =>
      exact ⟨name, by simpa using profile, Text.stripFront?_eq_some_iff.mp stripped⟩
    next => cases profile
  · rintro ⟨name, filled, split⟩
    rw [Text.stripFront?_eq_some_iff.mpr split]
    simpa using filled

/-- The text is `arn`, a partition, the service `iam`, a region, an account and `instance-profile/`
with a name, with colons between them. -/
def IsText (s : String) : Prop :=
  ∃ partition region account name : String,
    (':' ∉ partition.toList ∧ ':' ∉ region.toList ∧ ':' ∉ account.toList) ∧ name ≠ "" ∧
      s = "arn:" ++ partition ++ ":iam:" ++ region ++ ":" ++ account ++ ":instance-profile/" ++ name

theorem eq_sections_iff {s partition region account name : String} :
    s = "arn:" ++ partition ++ ":iam:" ++ region ++ ":" ++ account ++ ":instance-profile/" ++ name ↔
      s.toList = ['a', 'r', 'n'] ++ ':' :: (partition.toList ++ ':' :: (service ++ ':' ::
        (region.toList ++ ':' :: (account.toList ++ ':' :: (resourceFront ++ name.toList))))) := by
  have front : "arn:".toList = ['a', 'r', 'n'] ++ [':'] := by decide
  have middle : ":iam:".toList = ':' :: (service ++ [':']) := by decide
  have colon : ":".toList = [':'] := by decide
  have last : ":instance-profile/".toList = ':' :: resourceFront := by decide
  rw [← String.toList_inj]
  simp only [String.toList_append, front, middle, colon, last, List.append_assoc, List.cons_append,
    List.nil_append]

theorem isText_iff {s : String} :
    IsText s ↔ (∃ rest, s.toList = arnFront ++ rest) ∧
      ∃ resource, sections? s.toList = some (service, resource) ∧
        isProfileResource resource = true := by
  have marked : ∀ rest, arnFront ++ rest = ['a', 'r', 'n'] ++ ':' :: rest := by simp [arnFront]
  constructor
  · rintro ⟨partition, region, account, name, ⟨hp, hr, ha⟩, filled, whole⟩
    have split := eq_sections_iff.mp whole
    have named : name.toList ≠ [] := fun none => filled (String.toList_eq_nil_iff.mp none)
    refine ⟨⟨_, split.trans (marked _).symm⟩, _, ?_, isProfileResource_iff.mpr ⟨_, named, rfl⟩⟩
    exact sections?_eq_some_iff.mpr ⟨_, _, _, _, ⟨by simp, hp, by simp [service], hr, ha⟩, split⟩
  · rintro ⟨⟨rest, begins⟩, resource, parts, profile⟩
    obtain ⟨name, filled, rfl⟩ := isProfileResource_iff.mp profile
    obtain ⟨front, partition, region, account, ⟨hf, hp, -, hr, ha⟩, split⟩ :=
      sections?_eq_some_iff.mp parts
    have same := (marked rest).symm.trans (begins.symm.trans split)
    obtain ⟨rfl, -⟩ := Text.append_mark_inj (by simp) hf same
    refine ⟨.ofList partition, .ofList region, .ofList account, .ofList name,
      ⟨by simpa, by simpa, by simpa⟩, fun none => filled ?_, eq_sections_iff.mpr ?_⟩
    · simpa using String.toList_eq_nil_iff.mpr none
    · simpa using split

theorem flaw?_eq_none_iff {s : String} : flaw? s = none ↔ IsText s := by
  have begins : (Text.stripFront? arnFront s.toList).isNone = false ↔
      ∃ rest, s.toList = arnFront ++ rest := by
    simp only [Option.isNone_eq_false_iff, Option.isSome_iff_exists, Text.stripFront?_eq_some_iff]
  rw [isText_iff, ← begins]
  unfold flaw?
  cases (Text.stripFront? arnFront s.toList).isNone with
  | true => simp
  | false =>
    cases sections? s.toList with
    | none => simp
    | some parts =>
      obtain ⟨named, resource⟩ := parts
      simp [and_assoc]

/-- Reading accepts the ARNs of profiles, whatever blanks are around them, and nothing else. -/
theorem exists_parse_iff {s : String} : (∃ arn, parse s = .ok arn) ↔ IsText (Text.trim s) := by
  rw [← flaw?_eq_none_iff]
  constructor
  · rintro ⟨arn, parsed⟩
    rw [← text_of_parse parsed]
    exact arn.sound
  · intro sound
    exact ⟨_, parse_of_flaw_eq_none sound⟩

end ProfileArn

end RemoteMounts
