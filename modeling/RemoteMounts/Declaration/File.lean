import RemoteMounts.Declaration.Document
import RemoteMounts.Files
import RemoteMounts.Path
import RemoteMounts.Scribe
import RemoteMounts.Toml.Parser

/-!
# Declarations in files

A declaration is kept in a TOML file.  Its directory is opened before the file itself is read, and a
fault names the path at which it was met.
-/

namespace RemoteMounts

inductive DeclarationFault
  | unread (path reason : String)
  | unparsed (path reason : String)
deriving DecidableEq, Inhabited, Repr

namespace DeclarationFault

def message : DeclarationFault → String
  | unread path reason => "failed to read " ++ path ++ ": " ++ reason
  | unparsed path reason => "failed to parse " ++ path ++ ": " ++ reason

def noName : String := "declaration path is missing a filename"

end DeclarationFault

namespace Declaration

/-- The declaration that a text in TOML 1.1 gives. -/
def ofText? (s : String) : Option Declaration :=
  (Toml.ofString? .v11 s).bind (ofDatum? .toml)

def load (path : String) (scribe : Scribe := {}) :
    Dialogue Files (Except DeclarationFault Declaration) :=
  match Path.name? path with
  | none => return .error (.unread path DeclarationFault.noName)
  | some name => do
    let directory := Path.directory path
    match ← Files.ask (.openDirectory directory) with
    | .error reason => return .error (.unread directory reason)
    | .ok _ =>
      match ← Files.ask (.read (directory ++ "/" ++ name)) with
      | .absent reason | .unreadable reason => return .error (.unread path reason)
      | .text s =>
        match ofText? s with
        | some d => return .ok d
        | none => return .error (.unparsed path (scribe.declaration s))

end Declaration

end RemoteMounts
