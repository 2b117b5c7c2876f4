import MockKeeper.Files.Tree

/-! Changes to a tree of files. A change that cannot be made leaves the tree as it is. -/

namespace MockKeeper

namespace Entry

/-- Changes the entry to which names lead: from what is there, or nothing, to what shall
be there, or nothing. -/
def alter (change : Option Entry → Option Entry) : List Name → Entry → Entry
  | [], entry => (change (some entry)).getD entry
  | name :: rest, .directory entries =>
    let old := entries.lookup name
    let new := if rest.isEmpty then change old else old.map fun entry => alter change rest entry
    match old, new with
    | none, none => .directory entries
    | none, some entry => .directory (entries ++ [(name, entry)])
    | some _, none => .directory (entries.filter fun entry => entry.1 != name)
    | some _, some entry =>
      .directory (entries.map fun (other, old) => (other, if other == name then entry else old))
  | _ :: _, entry => entry

mutual

def places (place : List Name) : Entry → List (List Name)
  | .directory entries => place :: placesIn place entries
  | _ => [place]

def placesIn (place : List Name) : List (Name × Entry) → List (List Name)
  | [] => []
  | (name, entry) :: rest => places (place ++ [name]) entry ++ placesIn place rest

end

end Entry

namespace FileTree

def put (tree : FileTree) (names : List Name) (entry : Entry) : FileTree :=
  { tree with root := tree.root.alter (fun _ => some entry) names }

def erase (tree : FileTree) (names : List Name) : FileTree :=
  { tree with root := tree.root.alter (fun _ => none) names }

def at? (tree : FileTree) (names : List Name) : Option Entry := tree.root.find? names

def isInside (outer names : List Name) : Bool := outer.isPrefixOf names

/-- A change to a tree, with the places it touches: the places where something was made,
changed or taken away. -/
structure Changed where
  tree : FileTree
  touched : List (List Name) := []
  moved : Option (List Name × List Name) := none

/-- Writes a file, or adds to one; a missing file is made. -/
def write (tree : FileTree) (path : Bytes) (content : Bytes) (append : Bool) : Option Changed :=
  match tree.place path true with
  | .ok (names, true) =>
    match tree.at? names with
    | some (.file old) => some {
        tree := tree.put names (.file (if append then old ++ content else content))
        touched := [names] }
    | _ => none
  | .ok (names, false) => some { tree := tree.put names (.file content), touched := [names] }
  | .error _ => none

def make (tree : FileTree) (path : Bytes) (entry : Entry) : Option Changed :=
  match tree.place path false with
  | .ok (names, false) => some { tree := tree.put names entry, touched := [names] }
  | _ => none

/-- Makes a directory and those around it, as far as they are missing. -/
def makeDirectories (tree : FileTree) (path : Bytes) : Option Changed :=
  let start := if Path.isAbsolute path then [Path.slash] else []
  let names := Path.names path
  let heads := (List.range names.length).map fun n =>
    (names.take (n + 1)).foldl Path.join start
  heads.foldl
    (fun changed path => do
      let changed ← changed
      match changed.tree.entry path with
      | .ok (.directory _) => some changed
      | .ok _ => none
      | .error _ =>
        let made ← changed.tree.make path (.directory [])
        some { tree := made.tree, touched := changed.touched ++ made.touched })
    (some { tree })

def remove (tree : FileTree) (path : Bytes) : Option Changed :=
  match tree.locate path false with
  | .ok names =>
    match tree.at? names with
    | some (.directory _) | none => none
    | some _ => some { tree := tree.erase names, touched := [names] }
  | .error _ => none

def removeDirectory (tree : FileTree) (path : Bytes) : Option Changed :=
  match tree.locate path false with
  | .ok names =>
    match tree.at? names with
    | some (.file _) | some (.special _) | none => none
    | some entry => some { tree := tree.erase names, touched := entry.places names }
  | .error _ => none

/-- Moves an entry to another place. A file takes the place of a file or a link, and a
directory that of an empty directory. -/
def rename (tree : FileTree) (path new : Bytes) : Option Changed :=
  match tree.locate path false, tree.place new false with
  | .ok source, .ok (target, occupied) =>
    match tree.at? source with
    | none => none
    | some entry =>
      let fits := match tree.at? target with
        | none => !occupied
        | some (.directory entries) => entry.isDirectory && entries.isEmpty
        | some _ => !entry.isDirectory
      if source == target then some { tree }
      else if !fits || isInside source target then none
      else some {
        tree := (tree.erase source).put target entry
        touched := [source, target], moved := some (source, target) }
  | _, _ => none

def changeMode (tree : FileTree) (path : Bytes) : Option Changed :=
  match tree.locate path true with
  | .ok names => some { tree, touched := [names] }
  | .error _ => none

/-- Lays an entry into a tree, and the directories around it. What cannot be laid is left out. -/
def lay (tree : FileTree) (path : Bytes) (entry : Entry) : FileTree :=
  let laid (tree : FileTree) (changed : Option Changed) : FileTree :=
    (changed.map Changed.tree).getD tree
  match entry with
  | .directory _ => laid tree (tree.makeDirectories path)
  | entry =>
    let above := Path.above path
    let ground := if above.isEmpty then tree else laid tree (tree.makeDirectories above)
    match entry with
    | .file content => laid ground (ground.write path content false)
    | entry => laid ground (ground.make path entry)

inductive Action
  | write (path content : Bytes)
  | append (path content : Bytes)
  | makeDirectory (path : Bytes)
  | remove (path : Bytes)
  | removeDirectory (path : Bytes)
  | rename (path new : Bytes)
  | changeMode (path : Bytes)
  | read (path : Bytes)
  | list (path : Bytes)
deriving DecidableEq, Repr

def perform (tree : FileTree) : Action → Option Changed
  | .write path content => tree.write path content false
  | .append path content => tree.write path content true
  | .makeDirectory path => tree.make path (.directory [])
  | .remove path => tree.remove path
  | .removeDirectory path => tree.removeDirectory path
  | .rename path new => tree.rename path new
  | .changeMode path => tree.changeMode path
  | .read path => match tree.read path with
    | .ok _ => some { tree }
    | .error _ => none
  | .list path => match tree.entry path with
    | .ok (.directory _) => some { tree }
    | _ => none

end FileTree

end MockKeeper
