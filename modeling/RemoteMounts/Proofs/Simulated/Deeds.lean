import RemoteMounts.Proofs.Mount.Embedding
import RemoteMounts.Simulated.Mounts

/-!
# What the mount scripts do

Each mount script is read as the one deed that it was written for, with the path and the source it
was given, whatever characters these hold (`ofScript_create`, `ofScript_read`, `ofScript_delete`).
Since a literal holds no line break, the line that carries the arguments is found where it was
written, and the three kinds of scripts are never taken for one another.
-/

namespace RemoteMounts

namespace Simulated.Deed

theorem lineAfter?_unlines {front : String} {written : List String}
    (h : ∀ line ∈ written, Text.NoControl line.toList) :
    lineAfter? front (Script.unlines written) =
      written.findSome? fun line => Text.stripFront? front.toList line.toList := by
  rw [lineAfter?, Script.lines_unlines h, List.findSome?_map]
  rfl

/-! ## Mounting -/

theorem no_call_in_definition :
    ∀ line ∈ Script.definition, Text.stripFront? Script.callFront.toList line.toList = none := by
  decide +kernel

theorem lineAfter?_create (path : String) (args : MountArgs) :
    lineAfter? Script.callFront (Script.create path args) =
      some (Json.spacedChars (Script.argumentItems path args) ++ [')']) := by
  rw [Script.create, lineAfter?_unlines (Script.noControl_create path args), List.findSome?_append,
    List.findSome?_eq_none_iff.mpr no_call_in_definition, Option.none_or, List.findSome?_cons,
    Script.toList_callLine, Text.stripFront?_append]

/-- The arguments of the call are read as what was written. -/
theorem listItems?_arguments (path : String) (args : MountArgs) :
    listItems? ('[' :: (Json.spacedChars (Script.argumentItems path args) ++ [']'])) =
      some [.text path, .text args.uri, Datum.ofTexts args.settings] := by
  rw [listItems?, Script.parse?_arguments, Option.bind_some, Script.argumentItems,
    Json.datum?_texts]

/-- The script that mounts is read as mounting that source at that path. -/
theorem ofScript_create (path : String) (args : MountArgs) :
    ofScript (Script.create path args) = .ok (.bind path args.uri) := by
  have front : (Text.stripFront? "def safe_mount".toList
      (Script.create path args).toList).isSome = true := by
    rw [Script.create, Script.toList_unlines, Script.definition, List.cons_append, List.map_cons,
      List.flatMap_cons]
    rfl
  simp only [ofScript, front, if_true, ofCall, lineAfter?_create, Option.bind_some,
    Text.stripLast?_append, listItems?_arguments]

/-! ## Looking and clearing -/

/-- A literal is read back, whether or not a colon follows it. -/
theorem literalText?_literal (s : String) :
    literalText? (Json.literal s).toList = some s := by
  simp only [literalText?, Script.toList_literal, Json.parse?_literalChars]

theorem stripLast?_literal (s : String) : Text.stripLast? ':' (Json.literal s).toList = none := by
  rw [Script.toList_literal, Json.literalChars, ← List.cons_append, Text.stripLast?_append]
  rfl

/-- The script that looks is read as looking at that path. -/
theorem ofScript_read (path : String) : ofScript (Script.read path) = .ok (.look path) := by
  have notCall : Text.stripFront? "def safe_mount".toList (Script.read path).toList = none := by
    rw [Script.read, Script.toList_unlines, List.map_cons, List.flatMap_cons]
    rfl
  have notClear : lineAfter? Script.pathFront (Script.read path) = none := by
    rw [Script.read, lineAfter?_unlines (Script.noControl_read path)]
    simp only [List.findSome?_cons, List.findSome?_nil, String.toList_append]
    rfl
  have look : lineAfter? Script.matchFront (Script.read path) =
      some ((Json.literal path).toList ++ [':']) := by
    rw [Script.read, lineAfter?_unlines (Script.noControl_read path)]
    simp only [List.findSome?_cons, String.toList_append, List.append_assoc]
    rfl
  simp only [ofScript, notCall, Option.isSome_none, Bool.false_eq_true, if_false, literalAfter?,
    notClear, Option.bind_none, look, Option.bind_some, Text.stripLast?_append, if_true,
    Option.getD_some, literalText?_literal]

/-- The script that clears is read as clearing that path. -/
theorem ofScript_delete (path : String) : ofScript (Script.delete path) = .ok (.clear path) := by
  have notCall : Text.stripFront? "def safe_mount".toList (Script.delete path).toList = none := by
    rw [Script.delete, Script.toList_unlines, List.map_cons, List.flatMap_cons,
      String.toList_append]
    rfl
  have clear : lineAfter? Script.pathFront (Script.delete path) =
      some (Json.literal path).toList := by
    rw [Script.delete, lineAfter?_unlines (Script.noControl_delete path)]
    simp only [List.findSome?_cons, String.toList_append, Text.stripFront?_append]
  simp only [ofScript, notCall, Option.isSome_none, Bool.false_eq_true, if_false, literalAfter?,
    clear, Option.bind_some, stripLast?_literal, Option.getD_none, literalText?_literal]

end Simulated.Deed

end RemoteMounts
