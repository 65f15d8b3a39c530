import PlanBrowser.Yaml.Token

/-!
# YAML documents as trees

The tokens of a text are put together to a **document**: a tree of scalars, sequences and mappings.  A node
can be given a name, an anchor, and an alias stands for the node of that name.  Anchors are numbered by how
many names are known when they are set, and an alias carries the number.

A text holds one document.  It may be empty.

* `Scalar`, `Node`, `Document` — the trees;
* `Document.ofTokens?` — the document that tokens spell;
* `Document.read?` — **reading a text**.
-/

namespace PlanBrowser.Yaml

/-- A text in a tree, with the tag it is marked with. -/
structure Scalar where
  tag : Option (List Char)
  style : Style
  text : List Char
  deriving DecidableEq, Inhabited

/-- A scalar that is not written. -/
def Scalar.absent : Scalar := ⟨none, .plain, []⟩

/-- A tree. -/
inductive Node where
  | scalar (s : Scalar)
  | sequence (items : List Node)
  | mapping (entries : List (Node × Node))
  /-- The node with the anchor of this number. -/
  | alias (number : Nat)
  deriving Inhabited

/-- What stands at an anchor. -/
inductive Anchored where
  | scalar (s : Scalar)
  | collection
  deriving Inhabited

/-- A tree with its anchors. -/
structure Document where
  /-- The tree, unless the text is empty. -/
  root : Option Node
  /-- What stands at the anchors, the latest first. -/
  anchors : List (Nat × Anchored)

/-- What an alias of a number stands for. -/
def Document.anchored? (d : Document) (number : Nat) : Option Anchored :=
  (d.anchors.find? (·.1 == number)).map (·.2)

/-! ## Tokens on the way to a tree -/

/-- The tokens that are left, and what is known so far. -/
structure Feed where
  tokens : List Token
  /-- What the handles of tags stand for. -/
  handles : List (List Char × List Char)
  /-- The numbers of the names. -/
  names : List (List Char × Nat)
  anchors : List (Nat × Anchored)

/-- A step on the way to a tree. -/
abbrev Build := StateT Feed Option

namespace Build

/-- The next token. -/
def peek : Build (Option Token) :=
  fun f => some (f.tokens.head?, f)

/-- The next token is passed. -/
def drop : Build Unit :=
  fun f => some ((), { f with tokens := f.tokens.tail })

/-- The next token is one of these. -/
def sees (ts : List Token) : Build Bool :=
  return match ← peek with
    | some t => ts.contains t
    | none => false

/-- The next token is passed if it is this one. -/
def accept (t : Token) : Build Bool := do
  if ← sees [t] then
    drop
    return true
  else return false

/-- The next token must be this one. -/
def expect (t : Token) : Build Unit := do
  if !(← accept t) then failure

/-- A name is set to the number of names known, and what stands there is noted. -/
def setAnchor (name : Option (List Char)) (a : Anchored) : Build Unit :=
  fun f => match name with
    | none => some ((), f)
    | some name =>
      let number := f.names.length
      some ((), { f with
        names := (name, number) :: f.names.filter (·.1 != name)
        anchors := (number, a) :: f.anchors })

/-- The number of a name. -/
def numberOf (name : List Char) : Build Nat :=
  fun f => (f.names.find? (·.1 == name)).map fun (_, n) => (n, f)

/-- The text of a tag. -/
def fullTag (handle rest : List Char) : Build (List Char) :=
  fun f =>
    if handle.isEmpty then some (rest, f)
    else (f.handles.find? (·.1 == handle)).map fun (_, start) => (start ++ rest, f)

/-- The name and the tag in front of a node, in either order. -/
def properties : Build (Option (List Char) × Option (List Char)) := do
  let name? : Build (Option (List Char)) := do
    match ← peek with
    | some (.anchor n) =>
      drop
      return some n
    | _ => return none
  let tag? : Build (Option (List Char × List Char)) := do
    match ← peek with
    | some (.tag h r) =>
      drop
      return some (h, r)
    | _ => return none
  let full (tag : Option (List Char × List Char)) : Build (Option (List Char)) :=
    match tag with
    | some (h, r) => return some (← fullTag h r)
    | none => return none
  match ← name? with
  | some n => return (some n, ← full (← tag?))
  | none =>
    match ← tag? with
    | some t =>
      let n ← name?
      return (n, ← full (some t))
    | none => return (none, none)

/-- Where a node stands. -/
inductive Site where
  /-- Between brackets or braces. -/
  | inner
  /-- In an indented list, or alone. -/
  | outer
  /-- In an indented mapping, where a list need not be indented. -/
  | entry
  deriving DecidableEq

/-- A node that may be left out before certain tokens. -/
def orAbsent (stops : List Token) (node : Build Node) : Build Node := do
  if ← sees stops then return .scalar .absent else node

/-- A name or a tag alone stands for a scalar that is not written. -/
def bare (name tag : Option (List Char)) : Build Node := do
  if name.isNone && tag.isNone then failure
  let s : Scalar := ⟨tag, .plain, []⟩
  setAnchor name (.scalar s)
  return .scalar s

mutual

/-- **A node.**  `fuel` bounds the steps here and below. -/
def node : Nat → Site → Build Node
  | 0, _ => failure
  | fuel + 1, site => do
    match ← peek with
    | some (.alias name) =>
      drop
      return .alias (← numberOf name)
    | _ =>
      let (name, tag) ← properties
      match ← peek with
      | some .entry =>
        if site = .entry then
          setAnchor name .collection
          return .sequence (← looseItems fuel)
        else bare name tag
      | some (.scalar style text) =>
        drop
        let s : Scalar := ⟨if tag = some ['!'] then none else tag, style, text⟩
        setAnchor name (.scalar s)
        return .scalar s
      | some .openBracket =>
        drop
        setAnchor name .collection
        return .sequence (← innerItems fuel true)
      | some .openBrace =>
        drop
        setAnchor name .collection
        return .mapping (← innerEntries fuel true)
      | some .listStart =>
        if site = .inner then bare name tag
        else
          drop
          setAnchor name .collection
          return .sequence (← items fuel)
      | some .mapStart =>
        if site = .inner then bare name tag
        else
          drop
          setAnchor name .collection
          return .mapping (← entries fuel)
      | _ => bare name tag

/-- The items of an indented list. -/
def items : Nat → Build (List Node)
  | 0 => failure
  | fuel + 1 => do
    if ← accept .entry then
      let x ← orAbsent [.entry, .blockEnd] (node fuel .outer)
      return x :: (← items fuel)
    else
      expect .blockEnd
      return []

/-- The items of a list that is not indented. -/
def looseItems : Nat → Build (List Node)
  | 0 => failure
  | fuel + 1 => do
    if ← accept .entry then
      let x ← orAbsent [.entry, .key, .value, .blockEnd] (node fuel .outer)
      return x :: (← looseItems fuel)
    else return []

/-- The entries of an indented mapping. -/
def entries : Nat → Build (List (Node × Node))
  | 0 => failure
  | fuel + 1 => do
    if ← accept .key then
      let k ← orAbsent [.key, .value, .blockEnd] (node fuel .entry)
      let v ← if ← accept .value then orAbsent [.key, .value, .blockEnd] (node fuel .entry)
        else pure (.scalar .absent)
      return (k, v) :: (← entries fuel)
    else
      expect .blockEnd
      return []

/-- The items between brackets.  An item may be a single entry of a mapping; where its key is left out, the
token in its place is passed. -/
def innerItems : Nat → Bool → Build (List Node)
  | 0, _ => failure
  | fuel + 1, first => do
    if ← accept .closeBracket then return []
    if !first then expect .comma
    if ← accept .key then
      let k ← if ← sees [.value, .comma, .closeBracket] then do
          drop
          pure (Node.scalar .absent)
        else node fuel .inner
      let v ← if ← accept .value then orAbsent [.comma, .closeBracket] (node fuel .inner)
        else pure (.scalar .absent)
      return .mapping [(k, v)] :: (← innerItems fuel false)
    else if ← accept .closeBracket then return []
    else
      let x ← node fuel .inner
      return x :: (← innerItems fuel false)

/-- The entries between braces. -/
def innerEntries : Nat → Bool → Build (List (Node × Node))
  | 0, _ => failure
  | fuel + 1, first => do
    if ← accept .closeBrace then return []
    if !first then expect .comma
    if ← accept .key then
      let k ← orAbsent [.value, .comma, .closeBrace] (node fuel .inner)
      let v ← if ← accept .value then orAbsent [.comma, .closeBrace] (node fuel .inner)
        else pure (.scalar .absent)
      return (k, v) :: (← innerEntries fuel false)
    else if ← accept .closeBrace then return []
    else
      let k ← node fuel .inner
      return (k, .scalar .absent) :: (← innerEntries fuel false)

end

/-- The directives in front of a document: at most one version, and each handle once.  `fuel` bounds their
number. -/
def directives : Nat → Bool → Build Unit
  | 0, _ => pure ()
  | fuel + 1, versioned => do
    match ← peek with
    | some (.version major minor) =>
      if versioned || major != 1 || !(minor == 1 || minor == 2) then failure
      drop
      directives fuel true
    | some (.shorthand handle start) =>
      let f ← get
      if f.handles.any (·.1 == handle) then failure
      set { f with tokens := f.tokens.tail, handles := f.handles ++ [(handle, start)] }
      directives fuel versioned
    | _ => pure ()

/-- The handles that need not be set. -/
def commonHandles : List (List Char × List Char) :=
  [("!".toList, "!".toList), ("!!".toList, "tag:yaml.org,2002:".toList)]

/-- A token that only a directive or the edge of a document brings. -/
def isEdge : Option Token → Bool
  | some (.version _ _) | some (.shorthand _ _) | some .documentStart | some .documentEnd | none => true
  | _ => false

/-- The only document of a text, and nothing after it. -/
def document (fuel : Nat) : Build (Option Node) := do
  if (← peek).isNone then return none
  let implicit := !isEdge (← peek) || (← peek) = some .documentEnd
  if !implicit then directives fuel false
  modify fun f => { f with handles := f.handles ++ commonHandles }
  let root ← if implicit then node fuel .outer
    else do
      expect .documentStart
      if isEdge (← peek) then pure (.scalar .absent) else node fuel .outer
  modify fun f => { f with tokens := f.tokens.dropWhile (· == .documentEnd) }
  if (← peek).isSome then failure
  return some root

end Build

/-- The document that tokens spell. -/
def Document.ofTokens? (ts : List Token) : Option Document := do
  let (root, f) ← Build.document (4 * ts.length + 4) ⟨ts, [], [], []⟩
  return ⟨root, f.anchors⟩

/-- **Reading a text** as one document. -/
def Document.read? (cs : List Char) : Option Document := do
  ofTokens? (← Token.all? cs)

end PlanBrowser.Yaml
