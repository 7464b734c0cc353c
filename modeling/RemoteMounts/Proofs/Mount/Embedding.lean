import RemoteMounts.Mount.Script
import RemoteMounts.Proofs.Python.Literals

/-!
# What a script embeds

The scripts that work on a mount differ from each other only in one line, and there only in the
literals that stand for the path, the source and the settings.  Whatever characters these hold, the
line stays one line without control characters, and both JSON and Python read each literal as the
very text it was made of, and nothing beyond it (`scripts_embed_texts`).  So no text can end its
literal, begin another line or become a part of the program.
-/

namespace RemoteMounts.Script

/-! ## The lines of a script -/

theorem toList_unlines (written : List String) :
    (unlines written).toList = (written.map String.toList).flatMap fun line => line ++ ['\n'] := by
  simp [unlines, List.flatMap_map]

/-- The lines of a script are the ones it was made of. -/
theorem lines_unlines {written : List String}
    (h : ∀ line ∈ written, Text.NoControl line.toList) :
    Text.lines (unlines written).toList = written.map String.toList := by
  rw [toList_unlines]
  exact Text.lines_flatMap fun line hline => by
    obtain ⟨s, hs, rfl⟩ := List.mem_map.mp hline
    exact Text.isLine_of_noControl (h s hs)

theorem noControl_definition :
    ∀ line ∈ definition, Text.NoControl line.toList := by
  decide +kernel

def argumentItems (path : String) (args : MountArgs) : List Json :=
  [.text path, .text args.uri, (Datum.ofTexts args.settings).json]

theorem toList_callLine (path : String) (args : MountArgs) :
    (callLine path args).toList =
      callFront.toList ++ (Json.spacedChars (argumentItems path args) ++ [')']) := by
  simp [callLine, argumentItems, Json.spacedChars, Json.chars, Json.literal, Datum.compact,
    Json.compact]

/-- The arguments are read as the items of a list. -/
theorem parse?_arguments (path : String) (args : MountArgs) :
    Json.parse? ('[' :: (Json.spacedChars (argumentItems path args) ++ [']'])) =
      some (.array (argumentItems path args)) :=
  Json.parse?_spaced _ _

theorem toList_literal (s : String) : (Json.literal s).toList = Json.literalChars s.toList := by
  simp [Json.literal]

theorem noControl_literal (s : String) : Text.NoControl (Json.literal s).toList := by
  rw [toList_literal]
  exact Json.noControl_literalChars s.toList

theorem noControl_callLine (path : String) (args : MountArgs) :
    Text.NoControl (callLine path args).toList := by
  rw [toList_callLine, argumentItems]
  simp only [Json.spacedChars, Json.chars, Text.noControl_append, Text.noControl_cons]
  exact ⟨by decide, ⟨Json.noControl_literalChars _, by decide, by decide,
    Json.noControl_literalChars _, by decide, by decide, Datum.noControl_ofTexts _⟩, by decide⟩

theorem noControl_create (path : String) (args : MountArgs) :
    ∀ line ∈ definition ++ [callLine path args, "dbutils.notebook.exit(mount_source)"],
      Text.NoControl line.toList := by
  intro line hline
  rcases List.mem_append.mp hline with hline | hline
  · exact noControl_definition line hline
  · simp only [List.mem_cons, List.not_mem_nil, or_false] at hline
    rcases hline with rfl | rfl
    · exact noControl_callLine path args
    · decide

theorem noControl_read (path : String) :
    ∀ line ∈
      ["dbutils.fs.refreshMounts()", "for mount in dbutils.fs.mounts():",
        matchFront ++ Json.literal path ++ ":", "        dbutils.notebook.exit(mount.source)",
        "raise Exception(" ++ Json.literal notMounted ++ ")"],
      Text.NoControl line.toList := by
  simp only [List.forall_mem_cons, List.not_mem_nil, false_imp_iff, implies_true, and_true,
    String.toList_append, Text.noControl_append]
  exact ⟨by decide +kernel, by decide +kernel, ⟨⟨by decide +kernel, noControl_literal path⟩,
    by decide⟩, by decide +kernel, ⟨by decide +kernel, noControl_literal _⟩, by decide⟩

theorem noControl_delete (path : String) :
    ∀ line ∈
      [pathFront ++ Json.literal path, "dbutils.fs.refreshMounts()",
        "if any(mount.mountPoint == mount_point for mount in dbutils.fs.mounts()):",
        "    dbutils.fs.unmount(mount_point)", "    dbutils.fs.refreshMounts()",
        "dbutils.notebook.exit(" ++ Json.literal success ++ ")"],
      Text.NoControl line.toList := by
  simp only [List.forall_mem_cons, List.not_mem_nil, false_imp_iff, implies_true, and_true,
    String.toList_append, Text.noControl_append]
  exact ⟨⟨by decide +kernel, noControl_literal path⟩, by decide +kernel, by decide +kernel,
    by decide +kernel, by decide +kernel, ⟨by decide +kernel, noControl_literal _⟩, by decide⟩

/-! ## What stands for a text -/

/-- The characters stand for the text: they are one literal of the pieces that JSON and Python
share, and either language reads them as the text.  In Python whatever follows is left alone, unless
it is another quote. -/
structure Stands (written : List Char) (s : String) : Prop where
  pieces : ∃ pieces : List (List Char), (∀ piece ∈ pieces, Python.IsPiece piece) ∧
    written = '"' :: (pieces.flatten ++ ['"'])
  json : Json.parse? written = some (.text s)
  python : ∀ rest : List Char, rest.head? ≠ some '"' →
    Python.readText (written ++ rest) = some (Python.codes s, rest)

/-- The characters stand for the table: between braces they are the literals of its keys and values
in order, and Python reads them as a dictionary of its entries, without a key twice. -/
structure StandsForTable (written : List Char) (t : Keyed String) : Prop where
  entries : ∃ literal : String → List Char, (∀ s, Stands (literal s) s) ∧
    written = '\x7b' :: ([','].intercalate
      (t.entries.map fun e => literal e.1 ++ ':' :: literal e.2) ++ ['\x7d'])
  python : ∀ rest : List Char, Python.readDisplay (written ++ rest) =
    some (t.entries.map fun e => (Python.codes e.1, Python.codes e.2), rest)
  distinct : (t.entries.map fun e => Python.codes e.1).Nodup

theorem stands_literal (s : String) : Stands (Json.literalChars s.toList) s where
  pieces := by
    refine ⟨s.toList.map Json.escape, fun piece mem => ?_, rfl⟩
    obtain ⟨c, -, rfl⟩ := List.mem_map.mp mem
    exact Python.isPiece_escape c
  json := Json.parse?_literalChars s
  python := Python.readText_literalChars s.toList

theorem standsForTable_ofTexts (t : Keyed String) :
    StandsForTable (Datum.ofTexts t).json.chars t where
  entries := by
    refine ⟨fun s => Json.literalChars s.toList, stands_literal, ?_⟩
    rw [Datum.json_ofTexts, Json.chars, Json.fieldsChars_textFields]
  python := by
    intro rest
    rw [Datum.json_ofTexts]
    exact Python.readDisplay_textFields t.entries rest
  distinct := by
    refine t.rising.map _ fun e f less same => ?_
    exact String.lt_irrefl f.1 (Python.codes_injective same ▸ less)

/-! ## The scripts -/

/-- The script is a line among lines that do not depend on it, each ended by a line feed and without
control characters otherwise. -/
structure Frames (before : List (List Char)) (line : List Char) (after : List (List Char))
    (script : String) : Prop where
  written : script.toList = (before ++ line :: after).flatMap fun l => l ++ ['\n']
  noControl : ∀ l ∈ before ++ line :: after, Text.NoControl l
  lines : Text.lines script.toList = before ++ line :: after

theorem frames_unlines {before after : List String} {line : String}
    (h : ∀ l ∈ before ++ line :: after, Text.NoControl l.toList) :
    Frames (before.map String.toList) line.toList (after.map String.toList)
      (unlines (before ++ line :: after)) where
  written := by
    rw [toList_unlines, List.map_append, List.map_cons]
  noControl := by
    rw [← List.map_cons, ← List.map_append]
    exact fun l mem => by
      obtain ⟨s, hs, rfl⟩ := List.mem_map.mp mem
      exact h s hs
  lines := by
    rw [lines_unlines h, List.map_append, List.map_cons]

theorem frames_create (path : String) (args : MountArgs) :
    Frames (definition.map String.toList)
      ("mount_source = safe_mount(".toList ++
        (Json.literalChars path.toList ++ ", ".toList ++ Json.literalChars args.uri.toList ++
          ", ".toList ++ (Datum.ofTexts args.settings).json.chars) ++ ")".toList)
      ["dbutils.notebook.exit(mount_source)".toList] (create path args) := by
  have call : (callLine path args).toList = "mount_source = safe_mount(".toList ++
      (Json.literalChars path.toList ++ ", ".toList ++ Json.literalChars args.uri.toList ++
        ", ".toList ++ (Datum.ofTexts args.settings).json.chars) ++ ")".toList := by
    simp [toList_callLine, callFront, argumentItems, Json.spacedChars, Json.chars]
  rw [← call]
  exact frames_unlines (noControl_create path args)

theorem frames_read (path : String) :
    Frames ["dbutils.fs.refreshMounts()".toList, "for mount in dbutils.fs.mounts():".toList]
      ("    if mount.mountPoint == ".toList ++ Json.literalChars path.toList ++ ":".toList)
      ["        dbutils.notebook.exit(mount.source)".toList,
        ("raise Exception(" ++ Json.literal notMounted ++ ")").toList] (read path) := by
  have line : (matchFront ++ Json.literal path ++ ":").toList =
      "    if mount.mountPoint == ".toList ++ Json.literalChars path.toList ++ ":".toList := by
    rw [String.toList_append, String.toList_append, toList_literal, matchFront]
  rw [← line]
  exact @frames_unlines [_, _] [_, _] _ (noControl_read path)

theorem frames_delete (path : String) :
    Frames [] ("mount_point = ".toList ++ Json.literalChars path.toList)
      ["dbutils.fs.refreshMounts()".toList,
        "if any(mount.mountPoint == mount_point for mount in dbutils.fs.mounts()):".toList,
        "    dbutils.fs.unmount(mount_point)".toList, "    dbutils.fs.refreshMounts()".toList,
        ("dbutils.notebook.exit(" ++ Json.literal success ++ ")").toList] (delete path) := by
  have line : (pathFront ++ Json.literal path).toList =
      "mount_point = ".toList ++ Json.literalChars path.toList := by
    rw [String.toList_append, toList_literal, pathFront]
  rw [← line]
  exact @frames_unlines [] [_, _, _, _, _] _ (noControl_delete path)

/-- The arguments of the call, set in brackets, are a document of what they stand for. -/
theorem datum?_arguments (path : String) (args : MountArgs) :
    (Json.parse? ("[".toList ++ (Json.literalChars path.toList ++ ", ".toList ++
        Json.literalChars args.uri.toList ++ ", ".toList ++
          (Datum.ofTexts args.settings).json.chars) ++ "]".toList)).bind Json.datum? =
      some (.list [.text path, .text args.uri, Datum.ofTexts args.settings]) := by
  have brackets : "[".toList ++ (Json.literalChars path.toList ++ ", ".toList ++
      Json.literalChars args.uri.toList ++ ", ".toList ++
        (Datum.ofTexts args.settings).json.chars) ++ "]".toList =
      '[' :: (Json.spacedChars (argumentItems path args) ++ [']']) := by
    simp [argumentItems, Json.spacedChars, Json.chars]
  rw [brackets, parse?_arguments, Option.bind_some, argumentItems, Json.datum?_texts]

/-- Whatever characters a path, a source and settings hold, a script has the same lines before and
after the one that embeds them, and no control character but the line feeds that end its lines.  The
call in the script that mounts has three arguments; set in brackets they are a JSON document of the
path, the source and the settings, and in Python they are a literal of the path, a literal of the
source and a dictionary of literals for the settings.  In the scripts that look and clear, a literal
of the path is all that is embedded. -/
theorem scripts_embed_texts :
    (∃ before after, ∀ path args, ∃ a b c,
      Frames before ("mount_source = safe_mount(".toList ++
        (a ++ ", ".toList ++ b ++ ", ".toList ++ c) ++ ")".toList) after (create path args) ∧
      (Json.parse? ("[".toList ++ (a ++ ", ".toList ++ b ++ ", ".toList ++ c) ++ "]".toList)).bind
        Json.datum? = some (.list [.text path, .text args.uri, Datum.ofTexts args.settings]) ∧
      Stands a path ∧ Stands b args.uri ∧ StandsForTable c args.settings) ∧
    (∃ before after, ∀ path, ∃ a,
      Frames before ("    if mount.mountPoint == ".toList ++ a ++ ":".toList) after (read path) ∧
      Stands a path) ∧
    ∃ before after, ∀ path, ∃ a,
      Frames before ("mount_point = ".toList ++ a) after (delete path) ∧ Stands a path := by
  refine ⟨⟨_, _, fun path args => ⟨_, _, _, frames_create path args, datum?_arguments path args,
    stands_literal path, stands_literal args.uri, standsForTable_ofTexts args.settings⟩⟩, ?_, ?_⟩
  · exact ⟨_, _, fun path => ⟨_, frames_read path, stands_literal path⟩⟩
  · exact ⟨_, _, fun path => ⟨_, frames_delete path, stands_literal path⟩⟩

end RemoteMounts.Script
