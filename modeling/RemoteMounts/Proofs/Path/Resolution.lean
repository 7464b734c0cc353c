import RemoteMounts.Path

/-!
# Where a path leads

Followed from the root, a path leads to a place: a step that is empty or a single dot stays, two dots
lead back to the directory above, and any other step enters a directory.  A place has one path that
only enters directories (`resolve`), and resolving leaves a path as it is exactly if it is such a path
(`resolve_eq_self_iff`).
-/

namespace RemoteMounts

namespace Path

/-- The step enters a directory: it is one step, it does not stay and it does not lead upwards. -/
structure Enters (step : List Char) : Prop where
  named : step ∉ [[], ['.'], ['.', '.']]
  single : '/' ∉ step

/-- Where one more step leads from a place, which is the list of the directories entered on the way;
above the root there is nothing. -/
def follow (place : List (List Char)) (step : List Char) : List (List Char) :=
  if step = [] ∨ step = ['.'] then place
  else if step = ['.', '.'] then place.dropLast
  else place ++ [step]

def place (path : String) : List (List Char) :=
  (Text.pieces '/' path.toList).foldl follow []

/-- The path to the same place that only enters directories. -/
def resolve (path : String) : String :=
  join ([] :: place path)

/-! ## Places -/

theorem follow_enters {step : List Char} (h : Enters step) (place : List (List Char)) :
    follow place step = place ++ [step] := by
  have named := h.named
  simp only [List.mem_cons, List.not_mem_nil, or_false, not_or] at named
  simp [follow, named]

theorem foldl_follow_enters {steps : List (List Char)} (h : ∀ step ∈ steps, Enters step)
    (place : List (List Char)) : steps.foldl follow place = place ++ steps := by
  induction steps generalizing place with
  | nil => simp
  | cons step steps ih =>
    obtain ⟨first, later⟩ := List.forall_mem_cons.mp h
    rw [List.foldl_cons, follow_enters first, ih later, List.append_assoc, List.singleton_append]

/-- A place stays one of directories, whatever the step. -/
theorem enters_of_mem_follow {place : List (List Char)} {step : List Char}
    (h : ∀ s ∈ place, Enters s) (single : '/' ∉ step) : ∀ s ∈ follow place step, Enters s := by
  unfold follow
  split
  next idle => exact h
  next moves =>
    split
    next upwards => exact fun s mem => h s (List.dropLast_subset _ mem)
    next other =>
      refine List.forall_mem_append.mpr ⟨h, List.forall_mem_singleton.mpr ⟨?_, single⟩⟩
      rw [not_or] at moves
      simpa only [List.mem_cons, List.not_mem_nil, or_false, not_or] using
        ⟨moves.1, moves.2, other⟩

theorem enters_of_mem_foldl {steps place : List (List Char)} (h : ∀ s ∈ place, Enters s)
    (single : ∀ step ∈ steps, '/' ∉ step) : ∀ s ∈ steps.foldl follow place, Enters s := by
  induction steps generalizing place with
  | nil => exact h
  | cons step steps ih =>
    obtain ⟨first, later⟩ := List.forall_mem_cons.mp single
    exact ih (enters_of_mem_follow h first) later

theorem enters_of_mem_place {path : String} : ∀ step ∈ place path, Enters step :=
  enters_of_mem_foldl nofun fun _ mem => Text.not_mem_of_mem_pieces mem

/-! ## Resolved paths -/

theorem flatten_intersperse (first : List Char) (steps : List (List Char)) :
    ((first :: steps).intersperse ['/']).flatten = first ++ steps.flatMap fun s => '/' :: s := by
  induction steps generalizing first with
  | nil => simp
  | cons step steps ih => simp [List.intersperse, ih]

/-- The path of a place begins with a slash, and has one before each step. -/
theorem toList_join {step : List Char} {steps : List (List Char)} :
    (join ([] :: step :: steps)).toList = (step :: steps).flatMap fun s => '/' :: s := by
  rw [join, if_neg (by simp), String.toList_ofList, flatten_intersperse, List.nil_append]

theorem pieces_join {step : List Char} {steps : List (List Char)}
    (h : ∀ s ∈ step :: steps, '/' ∉ s) :
    Text.pieces '/' (join ([] :: step :: steps)).toList = [] :: step :: steps := by
  have single : ∀ s ∈ [] :: step :: steps, '/' ∉ s :=
    List.forall_mem_cons.mpr ⟨List.not_mem_nil, h⟩
  rw [toList_join]
  exact Text.pieces_marked single

/-- A path that only enters directories leads to the place that they are. -/
theorem place_join {steps : List (List Char)} (h : ∀ step ∈ steps, Enters step) :
    place (join ([] :: steps)) = steps := by
  cases steps with
  | nil => decide
  | cons step steps =>
    rw [place, pieces_join fun s mem => (h s mem).single, List.foldl_cons,
      show follow [] [] = [] from rfl, foldl_follow_enters h, List.nil_append]

theorem resolve_eq_self_iff {path : String} :
    resolve path = path ↔ ∃ steps, (∀ step ∈ steps, Enters step) ∧ path = join ([] :: steps) := by
  constructor
  · intro same
    exact ⟨place path, enters_of_mem_place, same.symm⟩
  · rintro ⟨steps, enters, rfl⟩
    rw [resolve, place_join enters]

example : resolve "/mnt/./team/../../etc//passwd/" = "/etc/passwd" := by decide +kernel

end Path

end RemoteMounts
