import RemoteMounts.Dialogue

/-!
# Files

What is asked of a file system: whether a directory can be opened, where a file is, and what it
says.
-/

namespace RemoteMounts

inductive Reading
  | text (s : String)
  /-- There is no such file. -/
  | absent (reason : String)
  /-- There is something, but it cannot be read as text. -/
  | unreadable (reason : String)
deriving DecidableEq, Inhabited, Repr

inductive FileQuestion
  | openDirectory (path : String)
  /-- The one path of a file, whichever way it was reached; a directory is no file. -/
  | locate (path : String)
  | read (path : String)
deriving DecidableEq, Inhabited, Repr

@[reducible]
def FileQuestion.Answer : FileQuestion → Type
  | openDirectory _ => Except String Unit
  | locate _ => Option String
  | read _ => Reading

/-- The interface of a file system. -/
@[reducible]
def Files : Interface :=
  ⟨FileQuestion, FileQuestion.Answer⟩

def Files.ask (q : FileQuestion) : Dialogue Files q.Answer :=
  Dialogue.put (I := Files) q

end RemoteMounts
