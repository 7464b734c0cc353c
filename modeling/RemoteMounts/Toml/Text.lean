import RemoteMounts.Text.Number

/-!
# Texts of a TOML document

A text stands between double quotes, where a backslash begins an escape, or between single quotes,
where every character stands for itself; three quotes on each side let it run over several lines.
The editions of TOML differ in the escapes that there are and in what a line end of two characters
stands for.
-/

namespace RemoteMounts.Toml

inductive Edition
  /-- TOML 1.0: every number of a document must be one, and lines end alike in every text. -/
  | v10
  /-- TOML 1.1: a table between braces may run over several lines. -/
  | v11
deriving DecidableEq, Inhabited, Repr

/-- Whether the character separates tokens of a line. -/
def isGap (c : Char) : Bool :=
  c = ' ' || c = '\t'

/-- Whether the character may stand in a comment or a text on one line: no control but the tab. -/
def isPlain (c : Char) : Bool :=
  c = '\t' || (' ' ≤ c && c ≠ '\x7f')

/-- The character that a letter after a backslash stands for. -/
def shortEscape? (edition : Edition) (c : Char) : Option Char :=
  match c with
  | 'b' => some '\x08'
  | 't' => some '\t'
  | 'n' => some '\n'
  | 'f' => some '\x0c'
  | 'r' => some '\r'
  | 'e' => if edition = .v11 then some '\x1b' else none
  | '"' => some '"'
  | '\\' => some '\\'
  | _ => none

/-- The character whose number two hexadecimal digits write, where these may follow an `x`. -/
def byte? (edition : Edition) (a b : Char) : Option Char :=
  if edition = .v11 then Text.numbered? [a, b] else none

/-- What a line end of two characters stands for in a text of several lines. -/
def longLineEnd : Edition → List Char
  | .v10 => ['\n']
  | .v11 => ['\r', '\n']

def before (c : Char) (read : Option (List Char × List Char)) : Option (List Char × List Char) :=
  read.map fun (cs, rest) => (c :: cs, rest)

/-- Puts a character, if there is one, before what is read after it. -/
def before? (c : Option Char) (read : Option (List Char × List Char)) :
    Option (List Char × List Char) :=
  c.bind fun c => before c read

/-- Reads a text on one line, after its double quote, up to and with the closing one. -/
def readBasic (edition : Edition) : List Char → Option (List Char × List Char)
  | [] => none
  | '"' :: rest => some ([], rest)
  | '\\' :: 'x' :: a :: b :: rest => before? (byte? edition a b) (readBasic edition rest)
  | '\\' :: 'u' :: a :: b :: c :: d :: rest =>
    before? (Text.numbered? [a, b, c, d]) (readBasic edition rest)
  | '\\' :: 'U' :: a :: b :: c :: d :: e :: f :: g :: h :: rest =>
    before? (Text.numbered? [a, b, c, d, e, f, g, h]) (readBasic edition rest)
  | '\\' :: c :: rest => before? (shortEscape? edition c) (readBasic edition rest)
  | c :: rest => if isPlain c then before c (readBasic edition rest) else none

/-- Reads a text on one line, after its single quote, up to and with the closing one. -/
def readLiteral : List Char → Option (List Char × List Char)
  | [] => none
  | '\'' :: rest => some ([], rest)
  | c :: rest => if isPlain c then before c (readLiteral rest) else none

/-- Whether nothing but gaps comes before the end of the line. -/
def endsLine (cs : List Char) : Bool :=
  match cs.dropWhile isGap with
  | '\n' :: _ | '\r' :: '\n' :: _ => true
  | _ => false

/-- Reads a text of several lines, after its double quotes, up to and with the closing ones, before
which one or two more quotes belong to the text.  A backslash at the end of a line joins it to the
next character that is no gap and no line end; `skips` says that this one is looked for. -/
def readBasicLines (edition : Edition) :
    (skips : Bool) → List Char → Option (List Char × List Char)
  | _, [] => none
  | _, '"' :: '"' :: '"' :: '"' :: '"' :: rest => some (['"', '"'], rest)
  | _, '"' :: '"' :: '"' :: '"' :: rest => some (['"'], rest)
  | _, '"' :: '"' :: '"' :: rest => some ([], rest)
  | true, '\n' :: rest => readBasicLines edition true rest
  | true, '\r' :: '\n' :: rest => readBasicLines edition true rest
  | true, ' ' :: rest => readBasicLines edition true rest
  | true, '\t' :: rest => readBasicLines edition true rest
  | _, '\n' :: rest => before '\n' (readBasicLines edition false rest)
  | _, '\r' :: '\n' :: rest =>
    (readBasicLines edition false rest).map fun (cs, rest) => (longLineEnd edition ++ cs, rest)
  | _, '\\' :: 'x' :: a :: b :: rest =>
    before? (byte? edition a b) (readBasicLines edition false rest)
  | _, '\\' :: 'u' :: a :: b :: c :: d :: rest =>
    before? (Text.numbered? [a, b, c, d]) (readBasicLines edition false rest)
  | _, '\\' :: 'U' :: a :: b :: c :: d :: e :: f :: g :: h :: rest =>
    before? (Text.numbered? [a, b, c, d, e, f, g, h]) (readBasicLines edition false rest)
  | _, '\\' :: c :: rest =>
    if endsLine (c :: rest) then readBasicLines edition true (c :: rest)
    else before? (shortEscape? edition c) (readBasicLines edition false rest)
  | _, c :: rest => if isPlain c then before c (readBasicLines edition false rest) else none

/-- Reads a text of several lines, after its single quotes, up to and with the closing ones, before
which one or two more quotes belong to the text. -/
def readLiteralLines (edition : Edition) : List Char → Option (List Char × List Char)
  | [] => none
  | '\'' :: '\'' :: '\'' :: '\'' :: '\'' :: rest => some (['\'', '\''], rest)
  | '\'' :: '\'' :: '\'' :: '\'' :: rest => some (['\''], rest)
  | '\'' :: '\'' :: '\'' :: rest => some ([], rest)
  | '\n' :: rest => before '\n' (readLiteralLines edition rest)
  | '\r' :: '\n' :: rest =>
    (readLiteralLines edition rest).map fun (cs, rest) => (longLineEnd edition ++ cs, rest)
  | c :: rest => if isPlain c then before c (readLiteralLines edition rest) else none

/-- The text without a line end at its front. -/
def skipLineEnd : List Char → List Char
  | '\n' :: rest => rest
  | '\r' :: '\n' :: rest => rest
  | cs => cs

/-- Reads a text of any kind; nothing if there is no quote. -/
def readText (edition : Edition) : List Char → Option (List Char × List Char)
  | '"' :: '"' :: '"' :: rest => readBasicLines edition false (skipLineEnd rest)
  | '"' :: rest => readBasic edition rest
  | '\'' :: '\'' :: '\'' :: rest => readLiteralLines edition (skipLineEnd rest)
  | '\'' :: rest => readLiteral rest
  | _ => none

/-! ## Keys -/

/-- Whether the character may stand in a key without quotes. -/
def isBare (c : Char) : Bool :=
  c.isAlphanum || c = '_' || c = '-'

def readKeyPart (edition : Edition) (cs : List Char) : Option (String × List Char) :=
  match cs with
  | '"' :: rest => (readBasic edition rest).map fun (key, rest) => (String.ofList key, rest)
  | '\'' :: rest => (readLiteral rest).map fun (key, rest) => (String.ofList key, rest)
  | _ =>
    if (cs.takeWhile isBare).isEmpty then none
    else some (String.ofList (cs.takeWhile isBare), cs.dropWhile isBare)

/-- Reads the parts of a dotted key, at most so many, with gaps around its dots: the last part comes
apart from those before it. -/
def readParts (edition : Edition) : (most : Nat) → List Char →
    Option (List String × String × List Char)
  | 0, _ => none
  | most + 1, cs =>
    match readKeyPart edition (cs.dropWhile isGap) with
    | none => none
    | some (part, rest) =>
      match rest.dropWhile isGap with
      | '.' :: rest =>
        (readParts edition most rest).map fun (path, key, rest) => (part :: path, key, rest)
      | rest => some ([], part, rest)

/-- How many parts a dotted key may have, and how deeply lists and tables may be nested. -/
def Edition.most : Edition → Nat
  | .v10 => 79
  | .v11 => 80

/-- Reads a dotted key.  Only the first edition bounds its parts. -/
def readKey (edition : Edition) (cs : List Char) : Option (List String × String × List Char) :=
  readParts edition (if edition = .v10 then edition.most else cs.length) cs

end RemoteMounts.Toml
