import AcceleratorTopology.Files.View

/-!
# File trees

A file system given by its directories, files and symbolic links, and the view of it. Links are
followed from the root; a path that leads through more than forty of them leads nowhere.
-/

namespace AcceleratorTopology.Files

/-- What stands at a path. -/
inductive FileNode where
  | directory
  | file (content : List UInt8)
  | link (target : Path)
  deriving DecidableEq, Repr

/-- A file system: what stands at each path, below a root directory that is always there. -/
structure FileTree where
  nodes : List (Path × FileNode) := []
  deriving DecidableEq, Repr

namespace FileTree

/-- How many links a path may lead through. -/
def linkLimit : Nat := 40

/-- What stands at a path, links not followed. -/
def node? (tree : FileTree) (path : Path) : Option FileNode :=
  if path.isEmpty then some .directory else tree.nodes.lookup path

/-- The name of a directory within itself. -/
def here : Name := [0x2E]

/-- The name of a directory's parent within it. -/
def above : Name := [0x2E, 0x2E]

/-- Whether a name stands for the directory that it is looked up in. -/
def isHere (name : Name) : Bool := name.isEmpty || name == here

/-- Where `todo` leads from the directory `start`, up to the first link. There `follow` says where
its target and what is left to do lead. -/
def walkTo (tree : FileTree) (follow : Path → Except FileError Path) (start : Path) :
    (todo : Path) → Except FileError Path
  | [] => .ok start
  | name :: rest =>
    if tree.node? start ≠ some .directory then .error .notADirectory
    else if isHere name then tree.walkTo follow start rest
    else if name = above then tree.walkTo follow start.dropLast rest
    else
      match tree.node? (start ++ [name]) with
      | none => .error .notFound
      | some (.link target) => follow (target ++ rest)
      | some _ => tree.walkTo follow (start ++ [name]) rest

/-- Where `todo` leads from the directory `start`, through at most `links` links. -/
def walk (tree : FileTree) (links : Nat) : (start todo : Path) → Except FileError Path :=
  match links with
  | 0 => tree.walkTo fun _ ↦ .error .tooManyLinks
  | fewer + 1 => tree.walkTo (tree.walk fewer [])

/-- Where a path leads. -/
def resolve (tree : FileTree) (path : Path) : Except FileError Path := tree.walk linkLimit [] path

/-- The names in the directory at a path without links. -/
def children (tree : FileTree) (path : Path) : List Name :=
  tree.nodes.filterMap fun entry ↦
    if entry.1.dropLast = path then entry.1.getLast? else none

/-- The entries of a directory. -/
def list (tree : FileTree) (path : Path) : Except FileError (List (Except FileError Name)) := do
  let real ← tree.resolve path
  match tree.node? real with
  | some .directory => return (tree.children real).map .ok
  | _ => throw .notADirectory

/-- The content of a file. -/
def read (tree : FileTree) (path : Path) : Except FileError (List UInt8) := do
  let real ← tree.resolve path
  match tree.node? real with
  | some (.file content) => return content
  | _ => throw .isADirectory

/-- The view of a tree. -/
def view (tree : FileTree) : View := ⟨tree.list, tree.resolve, tree.read⟩

/-- Puts a node at a path in place of what stood there. -/
def put (tree : FileTree) (path : Path) (node : FileNode) : FileTree :=
  ⟨tree.nodes.filter (·.1 != path) ++ [(path, node)]⟩

/-- One step down to a directory, which is made if nothing stands there; no way on if something
else does. -/
def enter (state : FileTree × Option Path) (name : Name) : FileTree × Option Path :=
  match state with
  | (tree, none) => (tree, none)
  | (tree, some start) =>
    match tree.walk linkLimit start [name] with
    | .ok real => (tree, some real)
    | .error _ =>
      if tree.node? start = some .directory ∧ tree.node? (start ++ [name]) = none then
        (tree.put (start ++ [name]) .directory, some (start ++ [name]))
      else (tree, none)

/-- Makes a directory and the ones on the way to it. -/
def makeDirectory (tree : FileTree) (path : Path) : FileTree × Option Path :=
  path.foldl enter (tree, some [])

/-- Adds a directory, a file or a link, and the directories on the way to it. A file or a link needs
a name of its own. -/
def add (tree : FileTree) (path : Path) (node : FileNode) : FileTree :=
  match node, path.getLast? with
  | .directory, _ => (tree.makeDirectory path).1
  | _, none => tree
  | _, some name =>
    match tree.makeDirectory path.dropLast with
    | (tree, none) => tree
    | (tree, some parent) =>
      if isHere name || name == above then tree else tree.put (parent ++ [name]) node

/-- A file is found by its name, with no slash after it. -/
example :
    let tree := FileTree.add {} (pathOf [0x66]) (.file [])
    tree.resolve (pathOf [0x66]) = .ok [[0x66]] ∧
      tree.resolve (pathOf [0x66, slash]) = .error .notADirectory := ⟨rfl, rfl⟩

end FileTree

end AcceleratorTopology.Files
