import PlanBrowser.Files.Task
import PlanBrowser.Text.Utf8

/-!
# Trees of files

A **tree** says what is at each place.  A place is the list of the names that lead to it from the root.  A path
is followed name by name: every place on the way must be a folder, and two dots lead back.  A tree has no links, and
nobody is kept from reading or writing in it.

* `Entry`, `Tree` — a tree;
* `Tree.at?`, `Tree.put` — what is at a place, and the tree with something there;
* `Tree.follow` — the place that a path leads to;
* `Tree.read`, `Tree.holds`, `Tree.makeFolders`, `Tree.write` — the four kinds of work;
* `Task.run` — **a task done on a tree**.
-/

namespace PlanBrowser.Files

/-- What is at a place. -/
inductive Entry where
  | folder
  | file (bytes : List UInt8)
  deriving Repr, DecidableEq, Inhabited

/-- Names from the root. -/
abbrev Place := List String

/-- A tree of files, and the folder that relative paths begin at. -/
structure Tree where
  /-- What is at the places, the latest first. -/
  entries : List (Place × Entry)
  here : Place
  deriving Repr, DecidableEq, Inhabited

namespace Tree

/-- **What is at a place.**  The root is a folder. -/
def at? (t : Tree) (p : Place) : Option Entry :=
  if p = [] then some .folder else (t.entries.find? (·.1 = p)).map (·.2)

/-- The tree with something at a place. -/
def put (t : Tree) (p : Place) (e : Entry) : Tree :=
  { t with entries := (p, e) :: t.entries }

/-- **What is put at a place is there**, and nothing else changes; the root stays a folder. -/
theorem at?_put (t : Tree) (p q : Place) (e : Entry) :
    (t.put p e).at? q = if q = [] then some .folder else if p = q then some e else t.at? q := by
  unfold at? put
  split
  · rfl
  · by_cases h : p = q <;> simp [h]

/-- A name that no file can have. -/
def isLong (name : String) : Bool :=
  255 < (Text.Utf8.bytesOf name).length

/-- A path that can be followed at all. -/
def checkPath (path : String) : Except Fault Unit :=
  if path.isEmpty then .error .missing
  else if path.toList.contains (Char.ofNat 0) then .error .badName
  else if 4096 ≤ (Text.Utf8.bytesOf path).length then .error .tooLong
  else .ok ()

/-- Where a path begins. -/
def base (t : Tree) (path : String) : Place :=
  if Path.isAbsolute path then [] else t.here

/-- The place that names lead to.  The last one need not be there. -/
def walk (t : Tree) : Place → List String → Except Fault Place
  | p, [] => .ok p
  | p, n :: ns =>
    match t.at? p with
    | none => .error .missing
    | some (.file _) => .error .notFolder
    | some .folder =>
      if n = "." then t.walk p ns
      else if n = ".." then t.walk p.dropLast ns
      else if isLong n then .error .tooLong
      else t.walk (p ++ [n]) ns

/-- **The place that a path leads to.** -/
def follow (t : Tree) (path : String) : Except Fault Place := do
  checkPath path
  t.walk (t.base path) (Path.names path)

/-- What a path leads to. -/
def find (t : Tree) (path : String) : Except Fault Entry := do
  match t.at? (← t.follow path) with
  | none => throw .missing
  | some (.file bytes) => if Path.endsInSlash path then throw .notFolder else pure (.file bytes)
  | some .folder => pure .folder

/-- There is something at a path. -/
def holds (t : Tree) (path : String) : Bool :=
  (t.find path).isOk

/-- **The bytes of a file.** -/
def read (t : Tree) (path : String) : Except Fault (List UInt8) := do
  match ← t.find path with
  | .file bytes => pure bytes
  | .folder => throw .isFolder

/-- Folders are made along names, from a place that is one. -/
def growAlong (t : Tree) : Place → List String → Tree × Except Fault Unit
  | _, [] => (t, .ok ())
  | p, n :: ns =>
    if n = "." then t.growAlong p ns
    else if n = ".." then t.growAlong p.dropLast ns
    else
      match t.at? (p ++ [n]) with
      | some .folder => t.growAlong (p ++ [n]) ns
      | some (.file _) => (t, .error (if ns.isEmpty then .taken else .notFolder))
      | none =>
        if isLong n then (t, .error .tooLong) else (t.put (p ++ [n]) .folder).growAlong (p ++ [n]) ns

/-- **A folder with all folders above it**; those that are there stay. -/
def makeFolders (t : Tree) (path : String) : Tree × Except Fault Unit :=
  if path.isEmpty then (t, .ok ())
  else
    match checkPath path with
    | .error f => (t, .error f)
    | .ok () => t.growAlong (t.base path) (Path.names path)

/-- **A file is written**, in place of the one that was there. -/
def write (t : Tree) (path : String) (bytes : List UInt8) : Tree × Except Fault Unit :=
  match t.follow path with
  | .error f => (t, .error f)
  | .ok p =>
    if t.at? p = some .folder || Path.endsInSlash path then (t, .error .isFolder)
    else (t.put p (.file bytes), .ok ())

end Tree

/-- **A task done on a tree**: its result, and the tree afterwards.  A tree has room for every file that can be made, and
all that is put out gets out. -/
def Task.run {α : Type} : Task α → Tree → α × Tree
  | .done a, t => (a, t)
  | .read path next, t => (next (t.read path)).run t
  | .look path next, t => (next (t.holds path)).run t
  | .makeFolders path next, t =>
    let (t, r) := t.makeFolders path
    (next r).run t
  | .write path bytes next, t =>
    let (t, r) := t.write path bytes
    (next (r.mapError .unmade)).run t
  | .print _ next, t => (next (.ok ())).run t

end PlanBrowser.Files
