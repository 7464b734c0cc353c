import RemoteMounts.Yaml.Scalar

/-!
# Tokens

A YAML text as a series of tokens.  Blocks are told by indentation and have tokens for their
beginning and end that no character writes.  A key need not be marked as such: only the colon after
it tells that it was one, so the tokens before it are put in then.
-/

namespace RemoteMounts.Yaml

inductive Token
  /-- A directive that counts for nothing, of which the one for the version may stand only once. -/
  | directive (isVersion : Bool)
  /-- What a handle stands for in tags. -/
  | tagFront (handle front : String)
  | documentStart
  | documentEnd
  | blockList
  | blockTable
  | blockEnd
  | flowList
  | flowListEnd
  | flowTable
  | flowTableEnd
  | item
  | comma
  | key
  | value
  | anchor (name : String)
  | alias (name : String)
  | tag (handle ending : String)
  | scalar (text : String) (isPlain : Bool)
  | finish
  /-- Nothing can be made of the text from here on. -/
  | fault
deriving DecidableEq, Inhabited, Repr

/-- A token that may turn out to be the beginning of a key. -/
structure KeyFront where
  /-- How many tokens stand before it. -/
  number : Nat
  place : Cursor
  /-- Whether nothing but a key can stand there. -/
  required : Bool

/-- An indentation within which another one lies. -/
structure Margin where
  column : Int
  /-- Whether what lies within is a block, the end of which is a token. -/
  isBlock : Bool

/-- What has been read of a text. -/
structure Scan where
  place : Cursor
  /-- The tokens so far, the last one first. -/
  tokens : List Token := []
  /-- What may be the beginning of a key: within the innermost brackets first, outside of all last.
  -/
  fronts : List (Option KeyFront) := [none]
  /-- Whether a key may begin here. -/
  allowsKey : Bool := true
  /-- The indentation at hand. -/
  margin : Int := -1
  /-- The indentations around it, the innermost first. -/
  margins : List Margin := []
  /-- The brackets that are open, the innermost first: whether they are those of a list. -/
  brackets : List Bool := []
  /-- How many characters stood before the place after the last token that a colon may follow at
  once. -/
  closed : Nat := 0

namespace Scan

/-- Whether no bracket is open. -/
def inBlock (s : Scan) : Bool :=
  s.brackets.isEmpty

def emit (s : Scan) (t : Token) : Scan :=
  { s with tokens := t :: s.tokens }

/-- Puts a token in, before which so many others stand. -/
def insert (s : Scan) (number : Nat) (t : Token) : Scan :=
  let later := s.tokens.length - number
  { s with tokens := s.tokens.take later ++ t :: s.tokens.drop later }

/-- Goes so many characters on. -/
def pass (s : Scan) (n : Nat) : Scan :=
  { s with place := s.place.pass n }

/-- Goes past blanks and a comment. -/
def passGaps? (s : Scan) : Option Scan :=
  s.place.afterGaps?.map fun place => { s with place }

/-! ## Beginnings of keys -/

/-- Keeps in mind that a key may begin here. -/
def markFront (s : Scan) : Scan :=
  if s.allowsKey then
    let required :=
      s.inBlock && s.margin = s.place.column && s.margins.head?.any Margin.isBlock
    { s with fronts := some ⟨s.tokens.length, s.place, required⟩ :: s.fronts.tail }
  else s

/-- Gives up the last beginning of a key, which must not be required. -/
def dropFront? (s : Scan) : Option Scan :=
  if s.fronts.head?.any fun f => f.any KeyFront.required then none
  else some { s with fronts := none :: s.fronts.tail }

/-- Whether a beginning is too far away to be one: on another line, or more than 1024 characters
before. -/
def isStale (s : Scan) (f : KeyFront) : Bool :=
  s.inBlock && (f.place.line < s.place.line || f.place.index + 1024 < s.place.index)

/-- Gives up the beginnings that are too far away. -/
def dropStale? (s : Scan) : Option Scan :=
  if s.fronts.any fun f => f.any fun f => s.isStale f && f.required then none
  else some { s with fronts := s.fronts.map fun f => f.filter fun f => !s.isStale f }

/-! ## Indentation -/

/-- Begins a block at the column, unless one is open there: its token is the next one, or has so
many tokens before it. -/
def openBlock (s : Scan) (column : Nat) (number : Option Nat) (t : Token) : Scan :=
  if !s.inBlock then s
  else
    let s :=
      match s.margins with
      | m :: margins =>
        if s.margin ≤ (column : Int) ∧ m.isBlock = false then
          { s with margin := m.column, margins }
        else s
      | [] => s
    if s.margin < (column : Int) then
      let s := { s with margin := column, margins := ⟨s.margin, true⟩ :: s.margins }
      match number with
      | some n => s.insert n t
      | none => s.emit t
    else s

/-- Ends the blocks that lie to the right of the column. -/
def closeBlocks (s : Scan) (column : Int) : Scan :=
  if s.inBlock then go s.margins s else s
where
  /-- Ends blocks from the innermost margin on. -/
  go : List Margin → Scan → Scan
    | [], s => s
    | m :: margins, s =>
      if column < s.margin then
        let s := { s with margin := m.column, margins }
        go margins (if m.isBlock then s.emit .blockEnd else s)
      else s

/-- Wants what follows to be indented by a column, if it belongs to a block. -/
def indentValue (s : Scan) : Scan :=
  if s.inBlock && s.margins.head?.any Margin.isBlock then
    { s with margin := s.margin + 1, margins := ⟨s.margin, false⟩ :: s.margins }
  else s

/-- Takes back what `indentValue` wants. -/
def unindentValue (s : Scan) : Scan :=
  match s.margins with
  | m :: margins => if m.isBlock then s else { s with margin := m.column, margins }
  | [] => s

/-! ## To the next token -/

/-- The scan at the next token: after blanks, comments and line ends.  A tab may not indent what
lies in a block. -/
def advance? : (budget : Nat) → Scan → Option Scan
  | 0, s => some s
  | budget + 1, s =>
    match s.place.left with
    | [] => some s
    | c :: _ =>
      if c = '\t' ∧ !s.margins.isEmpty ∧ s.place.fresh ∧ s.place.column < s.margin then
        match s.passGaps? with
        | some s => if s.place.atLineEnd then advance? budget s else none
        | none => none
      else if isGap c then advance? budget { s with place := s.place.skip 1 }
      else if isLineEnd c then
        advance? budget
          { s with place := s.place.nextLine, allowsKey := s.allowsKey || s.inBlock }
      else if c = '#' then advance? budget { s with place := s.place.lineEnd }
      else some s

def finish? (s : Scan) : Option Scan :=
  if s.fronts.any fun f => f.any KeyFront.required then none
  else some ((s.closeBlocks (-1)).emit .finish)

/-! ## Documents and directives -/

def documentStart? (s : Scan) : Option Scan := do
  let s ← (s.closeBlocks (-1)).dropFront?
  return { s.pass 3 with allowsKey := false }.emit .documentStart

/-- The mark of a document's end, after which nothing else may stand on the line. -/
def documentEnd? (s : Scan) : Option Scan := do
  let s ← (s.closeBlocks (-1)).dropFront?
  let s ← ({ s.pass 3 with allowsKey := false }.emit .documentEnd).passGaps?
  if s.place.atLineEnd then return s else none

/-- Whether the character belongs to a word of a directive or of a handle. -/
def isWordChar (c : Char) : Bool :=
  c.isAlphanum || c = '-' || c = '_'

/-- Whether the character may stand in a tag. -/
def isTagChar (c : Char) : Bool :=
  isWordChar c || c ∈ "#;/?:@&=+$,_.!~*'()[]%".toList

/-- Whether the words are a version: two numbers with a point between them. -/
def isVersion (word : List Char) : Bool :=
  let isNumber (cs : List Char) : Bool := !cs.isEmpty && cs.length ≤ 9 && cs.all Char.isDigit
  match Text.cut? '.' word with
  | some (major, minor) => isNumber major && isNumber minor
  | none => false

/-- Whether the characters are a handle: two exclamation marks around a word, or a single one. -/
def isHandle (cs : List Char) : Bool :=
  cs = ['!'] ||
    (2 ≤ cs.length && cs.head? = some '!' && cs.getLast? = some '!' &&
      cs.tail.dropLast.all isWordChar)

/-- The words of a line up to a comment. -/
def words (cs : List Char) : List (List Char) :=
  let line := cs.takeWhile fun c => !isLineEnd c
  let pieces := (Text.pieces ' ' (line.map fun c => if c = '\t' then ' ' else c)).filter (· ≠ [])
  pieces.takeWhile fun w => w.head? ≠ some '#'

/-- What the words of a directive say. -/
def directive? : List (List Char) → Option Token
  | [] => none
  | name :: rest =>
    if name.isEmpty || !name.all isWordChar then none
    else
      match String.ofList name, rest with
      | "YAML", [version] => if isVersion version then some (.directive true) else none
      | "YAML", _ => none
      | "TAG", [handle, front] =>
        if isHandle handle && front.all isTagChar then
          some (.tagFront (String.ofList handle) (String.ofList front))
        else none
      | "TAG", _ => none
      | _, _ => some (.directive false)

/-- A directive, which takes a line. -/
def directiveLine? (s : Scan) : Option Scan := do
  let s ← (s.closeBlocks (-1)).dropFront?
  let line := s.place.left.drop 1
  let t ← if beginsGap line then none else directive? (words line)
  let place := s.place.lineEnd
  let place := if place.left.isEmpty then place else place.nextLine
  return { s with place, allowsKey := false }.emit t

/-! ## Lists, tables and their parts -/

def openBracket? (isList : Bool) (s : Scan) : Option Scan := do
  let s := (s.markFront.pass 1).indentValue
  if 255 ≤ s.brackets.length then none
  else
    let s :=
      { s with brackets := isList :: s.brackets, fronts := none :: s.fronts, allowsKey := true }
    return (← s.passGaps?).emit (if isList then .flowList else .flowTable)

def closeBracket? (isList : Bool) (s : Scan) : Option Scan := do
  let s ← s.dropFront?
  let s := if s.inBlock then s else { s with brackets := s.brackets.tail, fronts := s.fronts.tail }
  let s ← ({ s with allowsKey := false }.pass 1).passGaps?
  return { s with closed := if s.inBlock then s.closed else s.place.index }.emit
    (if isList then .flowListEnd else .flowTableEnd)

def comma? (s : Scan) : Option Scan := do
  let s ← s.dropFront?
  return (← ({ s with allowsKey := true }.pass 1).passGaps?).emit .comma

/-- The mark of an item in a block.  Tabs may not stand between two such marks. -/
def item? (s : Scan) : Option Scan := do
  if !s.inBlock || !s.allowsKey then none
  else
    let s := (s.pass 1).openBlock s.place.column none .blockList
    let hasTab := '\t' ∈ s.place.left.takeWhile isGap
    let s ← s.passGaps?
    let isItem := s.place.left.head? = some '-' && beginsGap (s.place.left.drop 1)
    if hasTab && isItem then none
    else
      let wantsIndent := s.place.left.head?.any fun c => isLineEnd c || isFlowSign c
      let s ← (if wantsIndent then s.indentValue else s).dropFront?
      return { s with allowsKey := true }.emit .item

/-- The scan after the blanks, comments and line ends that follow the mark of a key; a blank that is
no tab or a line end must come first. -/
def keyGap? : (budget : Nat) → (found : Bool) → Scan → Option Scan
  | 0, _, s => some s
  | budget + 1, found, s =>
    match s.place.left with
    | [] => if found then some s else none
    | c :: _ =>
      if c = ' ' then keyGap? budget true { s with place := s.place.skip 1 }
      else if isLineEnd c then
        keyGap? budget true
          { s with place := s.place.nextLine, allowsKey := s.allowsKey || s.inBlock }
      else if c = '#' then keyGap? budget found { s with place := s.place.lineEnd }
      else if found ∧ c ≠ '\t' then some s
      else none

def key? (s : Scan) : Option Scan := do
  if s.inBlock && !s.allowsKey then none
  else
    let s ← (s.openBlock s.place.column none .blockTable).dropFront?
    let s := { s with allowsKey := s.inBlock }.pass 1
    return (← keyGap? (s.place.left.length + 1) false s).emit .key

/-- Whether tabs alone stand between the colon before this place and a word. -/
def hasTabbedWord (cs : List Char) : Bool :=
  let gaps := cs.takeWhile isGap
  gaps.head? = some '\t' && !gaps.contains ' ' && (cs.drop gaps.length).head?.any isWordChar

def value? (s : Scan) : Option Scan := do
  let colon := s.place
  let s := s.pass 1
  if hasTabbedWord s.place.left then none
  else
    let s ← if s.place.left.head? = some '\t' then s.passGaps? else some s
    match s.fronts.head?.join with
    | some f =>
      if s.brackets.head? = some true ∧ f.place.line < colon.line then none
      else
        let s := (s.insert f.number .key).openBlock f.place.column (some f.number) .blockTable
        let s := { s.indentValue with fronts := none :: s.fronts.tail, allowsKey := false }
        return s.emit .value
    | none =>
      if s.inBlock && !s.allowsKey then none
      else
        let s := (s.openBlock colon.column none .blockTable).indentValue
        return { s with allowsKey := s.inBlock }.emit .value

/-- The mark of a value at once after what may be a key within brackets. -/
def closeValue? (s : Scan) : Option Scan :=
  let next := (s.place.left.drop 1).head?
  if s.place.index ≠ s.closed ∧ (next = some '[' ∨ next = some '\x7b') then none else s.value?

/-! ## Nodes -/

def anchorName (cs : List Char) : List Char :=
  cs.takeWhile fun c => !beginsGap [c] && !isFlowSign c && '\x20' < c && c ≠ '\ufeff'

/-- An anchor or an alias. -/
def anchor? (isAlias : Bool) (s : Scan) : Option Scan :=
  let s := { s.markFront with allowsKey := false }
  let name := anchorName (s.place.left.drop 1)
  if name.isEmpty then none
  else
    let t := if isAlias then Token.alias (String.ofList name) else .anchor (String.ofList name)
    some ((s.pass (name.length + 1)).emit t)

/-- The handle and the ending of a tag, and how many characters write it. -/
def readTag (cs : List Char) : Option (String × String × Nat) :=
  match cs with
  | '!' :: '<' :: rest =>
    let uri := rest.takeWhile isTagChar
    if (rest.drop uri.length).head? = some '>' then some ("", String.ofList uri, uri.length + 3)
    else none
  | _ =>
    let isEnding (c : Char) : Bool := isTagChar c && !isFlowSign c && c ≠ '!'
    let word := (cs.drop 1).takeWhile isWordChar
    let after := cs.drop (word.length + 1)
    if after.head? = some '!' then
      let ending := (after.drop 1).takeWhile isEnding
      if ending.isEmpty then none
      else
        some ("!" ++ String.ofList word ++ "!", String.ofList ending,
          word.length + ending.length + 2)
    else
      let ending := word ++ after.takeWhile isEnding
      if ending.isEmpty then some ("", "!", 1)
      else some ("!", String.ofList ending, ending.length + 1)

def tag? (s : Scan) : Option Scan := do
  let s := { s.markFront with allowsKey := false }
  let (handle, ending, n) ← readTag s.place.left
  let after := s.place.left.drop n
  if beginsGap after || !s.inBlock && after.head?.any isFlowSign then
    return (s.pass n).emit (.tag handle ending)
  else none

def plain? (s : Scan) : Option Scan := do
  let s := { s.markFront with allowsKey := false }.unindentValue
  let (text, place) ← readPlain? (!s.inBlock) (s.margin + 1) s.place
  return { s with place, allowsKey := place.fresh }.emit (.scalar (String.ofList text) true)

/-- Whether the text may follow a scalar between quotes that began on the line or, if it does not,
on another one. -/
def followsQuoted (inBlock onOneLine : Bool) (cs : List Char) : Bool :=
  match cs with
  | [] => true
  | ':' :: _ => !inBlock || onOneLine
  | c :: _ => isLineEnd c || !inBlock && (c = ',' || c = ']' || c = '\x7d')

def quoted? (isSingle : Bool) (s : Scan) : Option Scan := do
  let start := s.place.line
  let s := { s.markFront with allowsKey := false }
  let (text, place) ← readQuoted? isSingle s.margin s.place
  let place ← place.afterGaps?
  if !followsQuoted s.inBlock (start = place.line) place.left then none
  else
    let s ← advance? (place.left.length + 1) { s with place }
    return { s with closed := s.place.index }.emit (.scalar (String.ofList text) false)

def block? (s : Scan) : Option Scan := do
  let s := { s.markFront with allowsKey := true }.unindentValue
  let (text, place) ← readBlock? s.margin s.place
  return { s with place }.emit (.scalar (String.ofList text) false)

/-! ## The next token -/

/-- The scan after the next token, at which it stands and which is not the end. -/
def token? (s : Scan) : Option Scan :=
  match s.place.left with
  | [] => none
  | c :: rest =>
    let alone := beginsGap rest
    if c = '[' then s.openBracket? true
    else if c = '\x7b' then s.openBracket? false
    else if c = ']' then s.closeBracket? true
    else if c = '\x7d' then s.closeBracket? false
    else if c = ',' then s.comma?
    else if c = '-' ∧ alone then s.item?
    else if c = '?' ∧ alone then s.key?
    else if c = ':' ∧ alone then s.value?
    else if c = ':' ∧ !s.inBlock ∧ (rest.head?.any isFlowSign ∨ s.place.index = s.closed) then
      s.closeValue?
    else if c = '*' then s.anchor? true
    else if c = '&' then s.anchor? false
    else if c = '!' then s.tag?
    else if (c = '|' ∨ c = '>') ∧ s.inBlock then s.block?
    else if c = '\'' then s.quoted? true
    else if c = '"' then s.quoted? false
    else if c = '%' ∨ c = '@' ∨ c = '\x60' then none
    else s.plain?

/-- The scan after the next token. -/
def next? (s : Scan) : Option Scan := do
  let s ← (← advance? (s.place.left.length + 1) s).dropStale?
  let s := s.closeBlocks s.place.column
  if s.place.left.isEmpty then s.finish?
  else if s.place.column = 0 ∧ s.place.left.head? = some '%' then s.directiveLine?
  else if s.place.column = 0 ∧ s.place.atMark "---" then s.documentStart?
  else if s.place.column = 0 ∧ s.place.atMark "..." then s.documentEnd?
  else if s.place.column < s.margin then none
  else s.token?

/-- The tokens that are sure when nothing can be made of the rest: those before the first one that
may still turn out to be the beginning of a key. -/
def sure (s : Scan) : List Token :=
  let fronts := s.fronts.filterMap fun f => f.filter fun f => !s.isStale f
  let most := fronts.foldl (fun n f => min n f.number) s.tokens.length
  (s.tokens.reverse.take most) ++ [.fault]

/-- All tokens, those so far included. -/
def run : (budget : Nat) → Scan → List Token
  | 0, s => s.sure
  | budget + 1, s =>
    match s.next? with
    | none => s.sure
    | some next => if next.tokens.head? = some .finish then next.tokens.reverse else run budget next

end Scan

/-- The tokens of a text, of which the last one is the end or a fault. -/
def Token.ofChars (cs : List Char) : List Token :=
  Scan.run (cs.length + 1) { place := { left := cs } }

end RemoteMounts.Yaml
