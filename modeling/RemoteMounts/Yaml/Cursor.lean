/-!
# Places in a text

A YAML text is read from place to place.  A place knows its line and column, which tell how far a
line is indented, and whether anything but blanks stands before it on its line.
-/

namespace RemoteMounts.Yaml

/-- Whether the character is a blank within a line. -/
def isGap (c : Char) : Bool :=
  c = ' ' || c = '\t'

def isLineEnd (c : Char) : Bool :=
  c = '\n' || c = '\r'

/-- Whether the character is a sign of lists and tables between brackets. -/
def isFlowSign (c : Char) : Bool :=
  c = ',' || c = '[' || c = ']' || c = '\x7b' || c = '\x7d'

/-- Whether the text begins with a blank or a line end, or is empty. -/
def beginsGap (cs : List Char) : Bool :=
  cs.head?.all fun c => isGap c || isLineEnd c

/-- A place in a text. -/
structure Cursor where
  /-- The text from the place on. -/
  left : List Char
  /-- How many characters stand before the place. -/
  index : Nat := 0
  line : Nat := 0
  column : Nat := 0
  /-- Whether nothing but blanks has been passed since the line began. -/
  fresh : Bool := true
deriving DecidableEq, Inhabited, Repr

namespace Cursor

/-- Whether the line, or the text, ends here. -/
def atLineEnd (c : Cursor) : Bool :=
  c.left.head?.all isLineEnd

/-- The place so many blanks or characters of a comment further on. -/
def skip (c : Cursor) (n : Nat) : Cursor :=
  { c with left := c.left.drop n, index := c.index + n, column := c.column + n }

/-- The place so many other characters further on. -/
def pass (c : Cursor) (n : Nat) : Cursor :=
  { c.skip n with fresh := false }

/-- The beginning of the next line, from the end of a line. -/
def nextLine (c : Cursor) : Cursor :=
  let n := if ['\r', '\n'].isPrefixOf c.left then 2 else 1
  ⟨c.left.drop n, c.index + n, c.line + 1, 0, true⟩

def lineEnd (c : Cursor) : Cursor :=
  c.skip (c.left.takeWhile fun c => !isLineEnd c).length

/-- The place after blanks and a comment, before which a blank must stand. -/
def afterGaps? (c : Cursor) : Option Cursor :=
  let gaps := c.left.takeWhile isGap
  let after := c.skip gaps.length
  if after.left.head? = some '#' then
    if gaps.isEmpty then none else some after.lineEnd
  else some after

/-- Whether the mark of three characters stands here as a word of its own. -/
def atMark (c : Cursor) (mark : String) : Bool :=
  mark.toList.isPrefixOf c.left && beginsGap (c.left.drop 3)

/-- Whether the mark of a document's beginning or end stands here. -/
def atDocumentMark (c : Cursor) : Bool :=
  c.atMark "---" || c.atMark "..."

end Cursor

end RemoteMounts.Yaml
