import RemoteMounts.Yaml.Token

/-!
# Nodes

A document is a tree of nodes: scalars, lists and tables.  An anchor gives a node a name, by which
it can stand in other places of the document too; within itself it cannot.  Where a node is left
out, an empty scalar takes its place.
-/

namespace RemoteMounts.Yaml

inductive Node
  /-- A scalar, with its tag in full. -/
  | scalar (text : String) (isPlain : Bool) (tag : Option String)
  | list (items : List Node)
  | table (entries : List (Node × Node))
deriving Inhabited

namespace Node

/-- The scalar that takes the place of a node. -/
def empty : Node := .scalar "" true none

/-- What is read from the tokens of a document: the nodes that have names, where nothing is what is
still being read, and the tokens that are left. -/
structure Reader where
  named : List (String × Option Node) := []
  left : List Token

/-- Goes on to the tokens. -/
def Reader.at (r : Reader) (left : List Token) : Reader :=
  { r with left }

/-- Gives the node, if it has a name, its name. -/
def Reader.name (r : Reader) (anchor : Option String) (node : Option Node) : Reader :=
  match anchor with
  | some name => { r with named := (name, node) :: r.named }
  | none => r

/-- What tags begin with, in full, under their handles. -/
abbrev TagFronts : Type :=
  List (String × String)

/-- A tag in full; nothing if its handle stands for nothing. -/
def tag? (fronts : TagFronts) (handle ending : String) : Option String :=
  match fronts.lookup handle with
  | some front => some (front ++ ending)
  | none =>
    if handle = "!!" then some ("tag:yaml.org,2002:" ++ ending)
    else if handle = "" ∨ handle = "!" then some (handle ++ ending)
    else none

/-- What may stand before the content of a node. -/
structure Properties where
  anchor : Option String := none
  tag : Option String := none

/-- Reads the anchor and the tag of a node, in either order; they may both be left out. -/
def readProperties? (fronts : TagFronts) : List Token → Option (Properties × List Token)
  | .anchor name :: .tag handle ending :: rest | .tag handle ending :: .anchor name :: rest =>
    (tag? fronts handle ending).map fun tag => (⟨some name, some tag⟩, rest)
  | .anchor name :: rest => some (⟨some name, none⟩, rest)
  | .tag handle ending :: rest =>
    (tag? fronts handle ending).map fun tag => (⟨none, some tag⟩, rest)
  | tokens => some ({}, tokens)

/-- Whether a node is left out if the token comes where the node is expected. -/
def isAbsentBefore : Option Token → Bool
  | some .item | some .comma | some .key | some .value | some .blockEnd | some .flowListEnd
  | some .flowTableEnd => true
  | _ => false

mutual

/-- Reads a node, within a budget of nested calls.  A list without indentation can be a value in a
block. -/
def read? (fronts : TagFronts) :
    (budget : Nat) → (inBlock withItems : Bool) → Reader → Option (Node × Reader)
  | 0, _, _, _ => none
  | budget + 1, inBlock, withItems, r =>
    match r.left with
    | .alias name :: rest =>
      match r.named.lookup name with
      | some (some node) => some (node, r.at rest)
      | _ => none
    | _ => do
      let (p, left) ← readProperties? fronts r.left
      let isBare := p.anchor.isNone ∧ p.tag.isNone
      let content : Option (Node × Reader) :=
        let r := (r.name p.anchor none).at left
        match left with
        | .scalar text isPlain :: rest => some (.scalar text isPlain p.tag, r.at rest)
        | .flowList :: rest =>
          (readFlowItems? fronts budget true (r.at rest)).map fun (items, r) => (.list items, r)
        | .flowTable :: rest =>
          (readFlowEntries? fronts budget true (r.at rest)).map fun (es, r) => (.table es, r)
        | .item :: _ =>
          if withItems then
            (readItems? fronts budget r).map fun (items, r) => (.list items, r)
          else if isBare then none
          else some (.scalar "" true p.tag, r)
        | .blockList :: rest =>
          if !inBlock then none
          else
            match readItems? fronts budget (r.at rest) with
            | some (items, r) =>
              match r.left with
              | .blockEnd :: rest => some (.list items, r.at rest)
              | _ => none
            | none => none
        | .blockTable :: rest =>
          if !inBlock then none
          else (readEntries? fronts budget (r.at rest)).map fun (es, r) => (.table es, r)
        | _ => if isBare then none else some (.scalar "" true p.tag, r)
      content.map fun (node, r) => (node, r.name p.anchor (some node))

/-- Reads a node that may be left out. -/
def readSlot? (fronts : TagFronts) :
    (budget : Nat) → (inBlock withItems : Bool) → Reader → Option (Node × Reader)
  | 0, _, _, _ => none
  | budget + 1, inBlock, withItems, r =>
    if isAbsentBefore r.left.head? ∧ ¬(withItems ∧ r.left.head? = some .item) then some (empty, r)
    else read? fronts budget inBlock withItems r

def readItems? (fronts : TagFronts) : (budget : Nat) → Reader → Option (List Node × Reader)
  | 0, _ => none
  | budget + 1, r =>
    match r.left with
    | .item :: rest =>
      match readSlot? fronts budget true false (r.at rest) with
      | some (item, r) => (readItems? fronts budget r).map fun (items, r) => (item :: items, r)
      | none => none
    | _ => some ([], r)

/-- Reads the value of an entry, which is left out if there is no mark of it. -/
def readValue? (fronts : TagFronts) : (budget : Nat) → (inBlock : Bool) → Reader →
    Option (Node × Reader)
  | 0, _, _ => none
  | budget + 1, inBlock, r =>
    match r.left with
    | .value :: rest => readSlot? fronts budget inBlock inBlock (r.at rest)
    | _ => some (empty, r)

/-- Reads the key and the value of an entry, the key of which is marked or left out. -/
def readPair? (fronts : TagFronts) : (budget : Nat) → (inBlock : Bool) → Reader →
    Option ((Node × Node) × Reader)
  | 0, _, _ => none
  | budget + 1, inBlock, r =>
    let key : Option (Node × Reader) :=
      match r.left with
      | .key :: rest => readSlot? fronts budget inBlock inBlock (r.at rest)
      | _ => some (empty, r)
    match key with
    | some (key, r) =>
      (readValue? fronts budget inBlock r).map fun (value, r) => ((key, value), r)
    | none => none

/-- Reads the entries of a table in a block, up to and with its end. -/
def readEntries? (fronts : TagFronts) : (budget : Nat) → Reader →
    Option (List (Node × Node) × Reader)
  | 0, _ => none
  | budget + 1, r =>
    match r.left with
    | .blockEnd :: rest => some ([], r.at rest)
    | .key :: _ | .value :: _ =>
      match readPair? fronts budget true r with
      | some (entry, r) =>
        (readEntries? fronts budget r).map fun (entries, r) => (entry :: entries, r)
      | none => none
    | _ => none

/-- Reads the items of a list in brackets, up to and with its end.  An item that is marked as a key
or a value is a table with one entry. -/
def readFlowItems? (fronts : TagFronts) : (budget : Nat) → (isFirst : Bool) → Reader →
    Option (List Node × Reader)
  | 0, _, _ => none
  | budget + 1, isFirst, r =>
    match r.left, isFirst with
    | .flowListEnd :: rest, _ | .comma :: .flowListEnd :: rest, false => some ([], r.at rest)
    | .comma :: rest, false | rest, true =>
      let item : Option (Node × Reader) :=
        match rest with
        | .key :: _ | .value :: _ =>
          (readPair? fronts budget false (r.at rest)).map fun (entry, r) => (.table [entry], r)
        | _ => read? fronts budget false false (r.at rest)
      match item with
      | some (item, r) =>
        (readFlowItems? fronts budget false r).map fun (items, r) => (item :: items, r)
      | none => none
    | _, false => none

/-- Reads the entries of a table in brackets, up to and with its end.  A node that is not marked as
a key is one without a value. -/
def readFlowEntries? (fronts : TagFronts) : (budget : Nat) → (isFirst : Bool) → Reader →
    Option (List (Node × Node) × Reader)
  | 0, _, _ => none
  | budget + 1, isFirst, r =>
    match r.left, isFirst with
    | .flowTableEnd :: rest, _ | .comma :: .flowTableEnd :: rest, false => some ([], r.at rest)
    | .comma :: rest, false | rest, true =>
      let entry : Option ((Node × Node) × Reader) :=
        match rest with
        | .key :: _ | .value :: _ => readPair? fronts budget false (r.at rest)
        | _ => (read? fronts budget false false (r.at rest)).map fun (key, r) => ((key, empty), r)
      match entry with
      | some (entry, r) =>
        (readFlowEntries? fronts budget false r).map fun (entries, r) => (entry :: entries, r)
      | none => none
    | _, false => none

end

/-! ## The document of a text -/

/-- Reads directives up to and with the mark of the document that they are for. -/
def readDirectives? : (isVersioned : Bool) → (fronts : TagFronts) → List Token →
    Option (TagFronts × List Token)
  | isVersioned, fronts, .directive isVersion :: rest =>
    if isVersioned && isVersion then none
    else readDirectives? (isVersioned || isVersion) fronts rest
  | isVersioned, fronts, .tagFront handle front :: rest =>
    if (fronts.lookup handle).isSome then none
    else readDirectives? isVersioned ((handle, front) :: fronts) rest
  | _, fronts, .documentStart :: rest => some (fronts, rest)
  | _, _, _ => none

def isDirective : Token → Bool
  | .directive _ | .tagFront .. => true
  | _ => false

/-- Whether a document that begins with the token holds at least an empty scalar. -/
def holdsNode : Token → Bool
  | .fault | .alias _ | .item | .comma | .key | .value | .blockEnd | .flowListEnd
  | .flowTableEnd => false
  | _ => true

/-- Whether no other document follows the end of one.  What is neither a document nor a directive
may stand there. -/
def isLast (tokens : List Token) : Bool :=
  let another (tokens : List Token) : Bool :=
    match readDirectives? false [] tokens with
    | some (_, t :: _) => holdsNode t
    | _ => false
  match tokens with
  | .documentEnd :: rest =>
    match rest.dropWhile (· = .documentEnd) with
    | t :: rest =>
      t = .finish || (if isDirective t || t = .documentStart then !another (t :: rest)
        else !holdsNode t)
    | [] => true
  | t :: rest => t ≠ .fault && !isDirective t && !another (t :: rest)
  | [] => false

/-- The node of the one document that the tokens make. -/
def ofTokens? (tokens : List Token) : Option Node := do
  let tokens := tokens.dropWhile (· = .documentEnd)
  let starts := tokens.head?.any fun t => isDirective t || t = .documentStart
  if tokens = [.finish] then return empty
  else
    let (fronts, tokens) ← if starts then readDirectives? false [] tokens else some ([], tokens)
    let isEmpty := starts && tokens.head?.any fun t =>
      isDirective t || t = .documentStart || t = .documentEnd || t = .finish
    let (node, r) ←
      if isEmpty then some (empty, { left := tokens })
      else read? fronts (4 * tokens.length + 4) true false { left := tokens }
    if isLast r.left then return node else none

end Node

end RemoteMounts.Yaml
