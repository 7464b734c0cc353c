import RemoteMounts.Json.Literal
import RemoteMounts.Text.Letter

/-!
# Texts and names of a JSON5 document

A text stands between quotes of either kind; it may hold every character but a line end, and a
backslash at the end of a line joins it to the next one.  A key may also be a name: letters, digits
and a few signs without quotes.  In both, an escape may name half of a character beyond U+FFFF.
-/

namespace RemoteMounts.Json5

def isLineEnd (c : Char) : Bool :=
  c = '\n' || c = '\r' || c = '\u2028' || c = '\u2029'

/-- What a backslash and the character stand for together.  Most characters stand for themselves. -/
def escape? (c : Char) : Option Char :=
  match c with
  | 'b' => some '\x08'
  | 'f' => some '\x0c'
  | 'n' => some '\n'
  | 'r' => some '\r'
  | 't' => some '\t'
  | 'v' => some '\x0b'
  | 'u' | 'x' => none
  | c => if c.isDigit then none else some c

/-- Puts a piece, if there is one, before those that are read after it. -/
def before (piece : Option Json.Piece) (read : Option (List Json.Piece × List Char)) :
    Option (List Json.Piece × List Char) :=
  match piece, read with
  | some piece, some (pieces, rest) => some (piece :: pieces, rest)
  | _, _ => none

/-- Reads a text up to and with its closing quote; the rest follows it. -/
def readPieces (quote : Char) : List Char → Option (List Json.Piece × List Char)
  | [] => none
  | '\\' :: '\r' :: '\n' :: rest => readPieces quote rest
  | '\\' :: 'u' :: a :: b :: c :: d :: rest =>
    before ((Json.hexNumber? a b c d).map .ofCode) (readPieces quote rest)
  | '\\' :: 'x' :: a :: b :: rest =>
    before ((Json.hexNumber? '0' '0' a b).map .ofCode) (readPieces quote rest)
  | '\\' :: '0' :: rest =>
    if rest.head?.any Char.isDigit then none
    else before (some (.char '\x00')) (readPieces quote rest)
  | '\\' :: c :: rest =>
    if isLineEnd c then readPieces quote rest
    else before ((escape? c).map .char) (readPieces quote rest)
  | c :: rest =>
    if c = quote then some ([], rest)
    else if c = '\\' ∨ isLineEnd c then none
    else before (some (.char c)) (readPieces quote rest)

def beginsName (c : Char) : Bool :=
  c = '$' || c = '_' || Text.isLetter c

def continuesName (c : Char) : Bool :=
  beginsName c || c = '\u200c' || c = '\u200d' || Text.continuesName c

/-- Reads as much of a name as there is; escapes may name any character. -/
def readName (begun : Bool) : List Char → List Json.Piece × List Char
  | '\\' :: 'u' :: a :: b :: c :: d :: rest =>
    match Json.hexNumber? a b c d with
    | some code =>
      let (pieces, after) := readName true rest
      (.ofCode code :: pieces, after)
    | none => ([], '\\' :: 'u' :: a :: b :: c :: d :: rest)
  | c :: rest =>
    if beginsName c || begun && continuesName c then
      let (pieces, after) := readName true rest
      (.char c :: pieces, after)
    else ([], c :: rest)
  | [] => ([], [])

/-- The text that the pieces make, and the rest. -/
def joined? (read : List Json.Piece × List Char) : Option (String × List Char) :=
  (Json.joinPieces read.1).map fun cs => (String.ofList cs, read.2)

def readText? (cs : List Char) : Option (String × List Char) :=
  match cs with
  | '"' :: rest => (readPieces '"' rest).bind joined?
  | '\'' :: rest => (readPieces '\'' rest).bind joined?
  | _ => none

/-- Reads a key: a text or a name. -/
def readKey? (cs : List Char) : Option (String × List Char) :=
  match readName false cs with
  | ([], _) => readText? cs
  | read => joined? read

end RemoteMounts.Json5
