import RemoteMounts.Invalid

/-!
# Mount names

A mount has a name, and its path is the name in the directory of all mounts.  Names are of letters,
digits, underscores, hyphens and dots, so that a name is one step of a path and nothing in it needs
quoting; the two names that mean a directory itself and the one above it are not mount names.
-/

namespace RemoteMounts

namespace MountName

def isNameChar (c : Char) : Bool :=
  c.isAlphanum || c = '_' || c = '-' || c = '.'

def isName (s : String) : Bool :=
  s ≠ "" && s ≠ "." && s ≠ ".." && s.toList.all isNameChar

/-- The directory of all mounts. -/
def directory : String := "/mnt/"

end MountName

structure MountName where
  /-- The name as a text. -/
  text : String
  sound : MountName.isName text = true
deriving DecidableEq

namespace MountName

def ofText (s : String) : Except Invalid MountName :=
  if h : isName s = true then .ok ⟨s, h⟩ else .error (.badMountName s)

def path (name : MountName) : String :=
  directory ++ name.text

end MountName

end RemoteMounts
