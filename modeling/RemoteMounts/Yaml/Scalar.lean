import RemoteMounts.Text.Number
import RemoteMounts.Yaml.Cursor

/-!
# Scalars

A scalar is written without quotes, between quotes of either kind, or as a block of lines.  In the
first two, one line end between words stands for a blank and several for one less; a block keeps its
lines or folds them in this way.
-/

namespace RemoteMounts.Yaml

/-! ## Between words -/

/-- What stands between two words of a scalar. -/
structure Gap where
  /-- The blanks before the first line end. -/
  blanks : List Char := []
  /-- The number of line ends. -/
  breaks : Nat := 0
deriving Inhabited

/-- The text for which a gap stands. -/
def Gap.text (g : Gap) : List Char :=
  match g.breaks with
  | 0 => g.blanks
  | 1 => [' ']
  | n + 1 => List.replicate n '\n'

/-! ## Without quotes -/

/-- How many characters of a word without quotes come next.  A colon before a blank ends it, and
within brackets the signs of lists and tables do. -/
def plainLength (inFlow : Bool) : List Char → Nat
  | [] => 0
  | c :: rest =>
    if isGap c || isLineEnd c then 0
    else if c = ':' && (beginsGap rest || inFlow && rest.head?.any isFlowSign) then 0
    else if inFlow && isFlowSign c then 0
    else plainLength inFlow rest + 1

/-- Reads the gap after a word without quotes.  A tab may not indent a line that holds anything. -/
def readPlainGap (indent : Int) : (budget : Nat) → Gap → Cursor → Option (Gap × Cursor)
  | 0, g, c => some (g, c)
  | budget + 1, g, c =>
    match c.left with
    | [] => some (g, c)
    | d :: _ =>
      if isLineEnd d then readPlainGap indent budget ⟨[], g.breaks + 1⟩ c.nextLine
      else if !isGap d then some (g, c)
      else if !c.fresh then
        readPlainGap indent budget { g with blanks := g.blanks ++ [d] } (c.skip 1)
      else if d = '\t' ∧ c.column < indent then
        match c.afterGaps? with
        | some c => if c.atLineEnd then readPlainGap indent budget g c else none
        | none => none
      else readPlainGap indent budget g (c.skip 1)

/-- Reads words without quotes after the text and the gap read so far.  A line that is indented less
ends them, and so do a comment and the marks of documents. -/
def readPlainWords (inFlow : Bool) (indent : Int) :
    (budget : Nat) → (text : List Char) → Gap → Cursor → Option (List Char × Cursor)
  | 0, text, _, c => some (text, c)
  | budget + 1, text, g, c =>
    if c.fresh && c.atDocumentMark || c.left.head? = some '#' then some (text, c)
    else if inFlow && c.left.head? = some '-' && (c.left.drop 1).head?.any isFlowSign then none
    else
      let n := plainLength inFlow c.left
      let text := if n = 0 then text else text ++ g.text ++ c.left.take n
      let c := if n = 0 then c else c.pass n
      if c.left.head?.any fun d => isGap d || isLineEnd d then
        match readPlainGap indent (c.left.length + 1) {} c with
        | none => none
        | some (g, c) =>
          if !inFlow && c.column < indent then some (text, c)
          else readPlainWords inFlow indent budget text g c
      else some (text, c)

/-- Reads a scalar without quotes, of which something must be there. -/
def readPlain? (inFlow : Bool) (indent : Int) (c : Cursor) : Option (List Char × Cursor) :=
  if inFlow && c.column < indent then none
  else
    match readPlainWords inFlow indent (c.left.length + 1) [] {} c with
    | some ([], _) => none
    | read => read

/-! ## Between quotes -/

def shortEscape? (c : Char) : Option Char :=
  match c with
  | '0' => some '\x00'
  | 'a' => some '\x07'
  | 'b' => some '\x08'
  | 't' | '\t' => some '\t'
  | 'n' => some '\n'
  | 'v' => some '\x0b'
  | 'f' => some '\x0c'
  | 'r' => some '\r'
  | 'e' => some '\x1b'
  | ' ' => some ' '
  | '"' => some '"'
  | '/' => some '/'
  | '\\' => some '\\'
  | 'N' => some '\u0085'
  | '_' => some '\u00a0'
  | 'L' => some '\u2028'
  | 'P' => some '\u2029'
  | _ => none

/-- A word between quotes: its text, and how many characters write it. -/
structure QuotedWord where
  text : List Char := []
  length : Nat := 0
  /-- Whether a backslash before a line end closes the word. -/
  escapesLineEnd : Bool := false
deriving Inhabited

/-- Puts a character, written by so many, before the word that is read after it. -/
def QuotedWord.before (c : Option Char) (n : Nat) (word : Option QuotedWord) : Option QuotedWord :=
  match c, word with
  | some c, some word => some { word with text := c :: word.text, length := word.length + n }
  | _, _ => none

/-- Reads a word after a single quote: two quotes stand for one. -/
def readSingleWord : List Char → QuotedWord
  | '\'' :: '\'' :: rest =>
    let word := readSingleWord rest
    { word with text := '\'' :: word.text, length := word.length + 2 }
  | '\'' :: _ => {}
  | c :: rest =>
    if isGap c || isLineEnd c then {}
    else
      let word := readSingleWord rest
      { word with text := c :: word.text, length := word.length + 1 }
  | [] => {}

/-- Reads a word after a double quote, in which a backslash begins an escape. -/
def readDoubleWord : List Char → Option QuotedWord
  | '\\' :: 'x' :: a :: b :: rest =>
    QuotedWord.before (Text.numbered? [a, b]) 4 (readDoubleWord rest)
  | '\\' :: 'u' :: a :: b :: c :: d :: rest =>
    QuotedWord.before (Text.numbered? [a, b, c, d]) 6 (readDoubleWord rest)
  | '\\' :: 'U' :: a :: b :: c :: d :: e :: f :: g :: h :: rest =>
    QuotedWord.before (Text.numbered? [a, b, c, d, e, f, g, h]) 10 (readDoubleWord rest)
  | '\\' :: c :: rest =>
    if isLineEnd c then some { length := 1, escapesLineEnd := true }
    else QuotedWord.before (shortEscape? c) 2 (readDoubleWord rest)
  | '"' :: _ => some {}
  | c :: rest =>
    if isGap c || isLineEnd c then some {} else QuotedWord.before (some c) 1 (readDoubleWord rest)
  | [] => some {}

/-- Reads the gap after a word between quotes; `inFront` says that a line end has been passed. -/
def readQuotedGap (indent : Int) :
    (budget : Nat) → (inFront : Bool) → Gap → Cursor → Option (Gap × Cursor)
  | 0, _, g, c => some (g, c)
  | budget + 1, inFront, g, c =>
    match c.left with
    | [] => some (g, c)
    | d :: _ =>
      if isLineEnd d then readQuotedGap indent budget true ⟨[], g.breaks + 1⟩ c.nextLine
      else if !isGap d then some (g, c)
      else if inFront then
        if d = '\t' ∧ c.column < indent then none
        else readQuotedGap indent budget inFront g (c.skip 1)
      else readQuotedGap indent budget inFront { g with blanks := g.blanks ++ [d] } (c.skip 1)

/-- Reads words between quotes after the text read so far, up to and with the closing quote.  No
line may be indented less, and no mark of documents may stand at its front. -/
def readQuotedWords (isSingle : Bool) (indent : Int) :
    (budget : Nat) → (text : List Char) → Cursor → Option (List Char × Cursor)
  | 0, _, _ => none
  | budget + 1, text, c =>
    if c.left.isEmpty || c.column = 0 && c.atDocumentMark || c.column < indent then none
    else
      match if isSingle then some (readSingleWord c.left) else readDoubleWord c.left with
      | none => none
      | some word =>
        let text := text ++ word.text
        let c := if word.length = 0 then c else c.pass word.length
        if word.escapesLineEnd then
          match readQuotedGap indent c.left.length true {} c.nextLine with
          | some (g, c) =>
            readQuotedWords isSingle indent budget (text ++ List.replicate g.breaks '\n') c
          | none => none
        else if c.left.head? = some (if isSingle then '\'' else '"') then some (text, c.pass 1)
        else
          match readQuotedGap indent c.left.length false {} c with
          | some (g, c) => readQuotedWords isSingle indent budget (text ++ g.text) c
          | none => none

def readQuoted? (isSingle : Bool) (indent : Int) (c : Cursor) : Option (List Char × Cursor) :=
  readQuotedWords isSingle indent (c.left.length + 1) [] (c.pass 1)

/-! ## Blocks -/

/-- What becomes of the line ends at the end of a block. -/
inductive Chomping
  /-- One stays. -/
  | clip
  | strip
  | keep
deriving DecidableEq, Inhabited

def Chomping.ofSign? (c : Char) : Option Chomping :=
  if c = '+' then some .keep else if c = '-' then some .strip else none

/-- Reads the signs after the mark of a block: its chomping, and its indentation if that is given.
-/
def readBlockSigns (cs : List Char) : Option (Chomping × Nat × Nat) :=
  let digit (c : Char) : Option Nat :=
    if c.isDigit ∧ c ≠ '0' then some (c.toNat - 48) else none
  match cs with
  | a :: b :: _ =>
    match Chomping.ofSign? a with
    | some chomping =>
      if b.isDigit then (digit b).map fun n => (chomping, n, 2) else some (chomping, 0, 1)
    | none =>
      if !a.isDigit then some (.clip, 0, 0)
      else
        (digit a).map fun n =>
          match Chomping.ofSign? b with
          | some chomping => (chomping, n, 2)
          | none => (.clip, n, 1)
  | [a] =>
    match Chomping.ofSign? a with
    | some chomping => some (chomping, 0, 1)
    | none => if a.isDigit then (digit a).map fun n => (.clip, n, 1) else some (.clip, 0, 0)
  | [] => some (.clip, 0, 0)

/-- The place after the blanks that indent a line, at most so many, and after lines of which nothing
is left then; with the number of these lines, and the most blanks on one of them. -/
def skipIndent (most : Option Nat) :
    (budget : Nat) → (breaks widest : Nat) → Cursor → Nat × Nat × Cursor
  | 0, breaks, widest, c => (breaks, widest, c)
  | budget + 1, breaks, widest, c =>
    let blanks := (c.left.takeWhile (· = ' ')).length
    let c := c.skip (match most with
      | some n => min blanks (n - c.column)
      | none => blanks)
    let widest := max widest c.column
    if c.left.head?.any isLineEnd then skipIndent most budget (breaks + 1) widest c.nextLine
    else (breaks, widest, c)

/-- The lines of a block that have been read: the text, and the line ends after it. -/
structure BlockLines where
  text : List Char := []
  /-- Whether the last line has ended. -/
  ended : Bool := false
  /-- The number of empty lines after the last one. -/
  breaks : Nat := 0
  /-- Whether the last line began with a blank. -/
  blankFront : Bool := false

/-- Reads the lines of a block that are indented so much.  Folding spares lines that begin with a
blank. -/
def readBlockLines (isLiteral : Bool) (indent : Nat) :
    (budget : Nat) → BlockLines → Cursor → BlockLines × Cursor
  | 0, b, c => (b, c)
  | budget + 1, b, c =>
    if c.column ≠ indent ∨ c.left.isEmpty ∨ (indent = 0 ∧ c.atDocumentMark) then (b, c)
    else
      let blankFront := c.left.head?.any isGap
      let between :=
        if !isLiteral && b.ended && !b.blankFront && !blankFront then
          if b.breaks = 0 then [' '] else List.replicate b.breaks '\n'
        else (if b.ended then ['\n'] else []) ++ List.replicate b.breaks '\n'
      let line := c.left.takeWhile fun d => !isLineEnd d
      let text := b.text ++ between ++ line
      let c := c.pass line.length
      if c.left.isEmpty then (⟨text, false, 0, blankFront⟩, c)
      else
        let (breaks, _, c) := skipIndent (some indent) c.left.length 0 0 c.nextLine
        readBlockLines isLiteral indent budget ⟨text, true, breaks, blankFront⟩ c

/-- The text of a block, of which the lines have been read up to the place. -/
def BlockLines.chomp (b : BlockLines) (chomping : Chomping) (indent : Nat) (c : Cursor) :
    List Char :=
  let last :=
    if chomping = .strip then []
    else
      (if b.ended then ['\n'] else []) ++
        if c.left.isEmpty ∧ max indent 1 ≤ c.column then ['\n'] else []
  b.text ++ last ++ if chomping = .keep then List.replicate b.breaks '\n' else []

/-- The text of a block without lines, before which so many lines are empty. -/
def emptyBlock (chomping : Chomping) (breaks : Nat) (onOneLine : Bool) : List Char :=
  if chomping = .strip ∨ onOneLine then []
  else if chomping = .keep then List.replicate (max breaks 1) '\n'
  else ['\n']

/-- Reads a block of lines, from its mark on, within what is indented so much. -/
def readBlock? (outer : Int) (c : Cursor) : Option (List Char × Cursor) := do
  let isLiteral := c.left.head? = some '|'
  let (chomping, given, signs) ← readBlockSigns (c.left.drop 1)
  let header ← (c.pass (1 + signs)).afterGaps?
  if !header.atLineEnd then none
  else
    let first := if header.left.isEmpty then header else header.nextLine
    if first.left.head? = some '\t' then none
    else
      let least := if given = 0 then none else some (max outer 0 + given).toNat
      let (breaks, widest, start) := skipIndent least (first.left.length + 1) 0 0 first
      let indent := least.getD (max widest (outer + 1).toNat)
      if start.left.isEmpty then return (emptyBlock chomping breaks (start.line = c.line), start)
      else if start.column < indent ∧ outer < start.column then none
      else
        let (b, last) :=
          readBlockLines isLiteral indent start.left.length { breaks } start
        return (b.chomp chomping indent last, last)

end RemoteMounts.Yaml
