import RemoteMounts.Toml.Scalar
import RemoteMounts.Toml.Tables
import RemoteMounts.Toml.Text

/-!
# Reading TOML documents

A document is a series of lines: headers that open tables, and bindings of dotted keys to values.
Each call of the reader on what follows takes at least one character first, so a budget of one call
for each character is never used up.
-/

namespace RemoteMounts.Toml

/-- The text after a comment, which runs to the end of the line. -/
def skipComment : List Char → List Char
  | '#' :: rest => rest.dropWhile isPlain
  | cs => cs

/-- The rest after the end of a line, before which a comment may stand. -/
def readLineEnd (cs : List Char) : Option (List Char) :=
  match skipComment (cs.dropWhile isGap) with
  | [] => some []
  | '\n' :: rest => some rest
  | '\r' :: '\n' :: rest => some rest
  | _ => none

/-- The text after gaps, comments and line ends. -/
def skipLines : (budget : Nat) → List Char → List Char
  | 0, cs => cs
  | budget + 1, cs =>
    match skipComment (cs.dropWhile isGap) with
    | '\n' :: rest => skipLines budget rest
    | '\r' :: '\n' :: rest => skipLines budget rest
    | rest => rest

/-- The text after what may stand between the tokens of a table between braces: gaps, and since
TOML 1.1 comments and line ends too. -/
def skipInside (edition : Edition) (budget : Nat) (cs : List Char) : List Char :=
  match edition with
  | .v10 => cs.dropWhile isGap
  | .v11 => skipLines budget cs

mutual

/-- Reads a value, in which lists and tables are nested at most to the depth. -/
def readValue (edition : Edition) : (budget depth : Nat) → List Char → Option (Datum × List Char)
  | 0, _, _ => none
  | budget + 1, depth, cs =>
    match cs, depth with
    | '[' :: _, 0 | '{' :: _, 0 => none
    | '[' :: rest, depth + 1 =>
      (readItems edition budget depth (skipLines budget rest)).map fun (items, rest) =>
        (.list items, rest)
    | '{' :: rest, depth + 1 =>
      match skipInside edition budget rest with
      | '}' :: rest => some (.table [], rest)
      | rest =>
        (readFields edition budget depth [] rest).map fun (fields, rest) =>
          (.table (Node.entriesDatum fields), rest)
    | '"' :: _, _ | '\'' :: _, _ =>
      (readText edition cs).map fun (text, rest) => (.text (String.ofList text), rest)
    | _, _ => readScalar edition cs

/-- Reads the items of a list up to and with its end; a comma may stand at the end. -/
def readItems (edition : Edition) : (budget depth : Nat) → List Char →
    Option (List Datum × List Char)
  | 0, _, _ => none
  | _ + 1, _, ']' :: rest => some ([], rest)
  | budget + 1, depth, cs =>
    match readValue edition budget depth cs with
    | none => none
    | some (item, rest) =>
      match skipLines budget rest with
      | ',' :: rest =>
        (readItems edition budget depth (skipLines budget rest)).map fun (items, rest) =>
          (item :: items, rest)
      | ']' :: rest => some ([item], rest)
      | _ => none

/-- Reads the bindings of a table between braces, up to and with its end, and adds them to those
read so far; since TOML 1.1 a comma may stand at the end. -/
def readFields (edition : Edition) : (budget depth : Nat) → (fields : List (String × Node)) →
    List Char → Option (List (String × Node) × List Char)
  | 0, _, _, _ => none
  | budget + 1, depth, fields, cs =>
    match readBinding edition (skipInside edition budget) budget depth cs with
    | none => none
    | some ((path, key, d), rest) =>
      match Node.bind path key d fields, skipInside edition budget rest with
      | some fields, '}' :: rest => some (fields, rest)
      | some fields, ',' :: rest =>
        match skipInside edition budget rest with
        | '}' :: rest => if edition = .v11 then some (fields, rest) else none
        | rest => readFields edition budget depth fields rest
      | _, _ => none

/-- Reads a dotted key and its value, with what may be skipped around the sign between them. -/
def readBinding (edition : Edition) (skip : List Char → List Char) : (budget depth : Nat) →
    List Char → Option ((List String × String × Datum) × List Char)
  | 0, _, _ => none
  | budget + 1, depth, cs =>
    match readKey edition cs with
    | none => none
    | some (path, key, rest) =>
      match skip rest with
      | '=' :: rest =>
        (readValue edition budget depth (skip rest)).map fun (d, rest) => ((path, key, d), rest)
      | _ => none

end

/-- What has been read of a document: its tables, and the path of the table at hand. -/
structure Draft where
  root : List (String × Node)
  header : List String

/-- Reads one header, after its bracket. -/
def readHeader (edition : Edition) (root : List (String × Node)) (cs : List Char) :
    Option (Draft × List Char) :=
  match cs with
  | '[' :: rest =>
    match readKey edition rest with
    | some (path, key, ']' :: ']' :: rest) =>
      (Node.openElement path key root).map fun root => (⟨root, path ++ [key]⟩, rest)
    | _ => none
  | _ =>
    match readKey edition cs with
    | some (path, key, ']' :: rest) =>
      (Node.openTable path key root).map fun root => (⟨root, path ++ [key]⟩, rest)
    | _ => none

/-- Reads one line that is not blank. -/
def readLine (edition : Edition) (budget : Nat) (draft : Draft) (cs : List Char) :
    Option (Draft × List Char) :=
  match cs with
  | '[' :: rest => readHeader edition draft.root rest
  | _ =>
    match readBinding edition (List.dropWhile isGap) budget edition.most cs with
    | some ((path, key, d), rest) =>
      (Node.bindUnder draft.header path key d draft.root).map fun root =>
        ({ draft with root }, rest)
    | none => none

def readLines (edition : Edition) : (budget : Nat) → Draft → List Char → Option Draft
  | 0, _, _ => none
  | budget + 1, draft, cs =>
    match skipLines (budget + 1) cs with
    | [] => some draft
    | rest =>
      match readLine edition (2 * (budget + 1)) draft rest with
      | none => none
      | some (draft, rest) =>
        match readLineEnd rest with
        | none => none
        | some rest => readLines edition budget draft rest

/-- The meaning of a document, at whose front a byte order mark may stand. -/
def parse? (edition : Edition) (text : List Char) : Option Datum :=
  let text :=
    match text with
    | '\ufeff' :: rest => rest
    | text => text
  (readLines edition (text.length + 1) ⟨[], []⟩ text).map fun draft =>
    .table (Node.entriesDatum draft.root)

def ofString? (edition : Edition) (s : String) : Option Datum :=
  parse? edition s.toList

end RemoteMounts.Toml
