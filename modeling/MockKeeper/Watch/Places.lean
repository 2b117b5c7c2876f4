import MockKeeper.Files.Change

/-! What a watch sees of a tree of files: everything at or beneath its places. A watch is
set on a file or a directory, and with a directory on those that links in it lead to. -/

namespace MockKeeper

namespace FileTree

def linkedDirectory? (tree : FileTree) (place : List Name) : Option (List Name) :=
  match tree.at? place with
  | some (.link _) =>
    match walk tree.root true linkLimit [] place with
    | .ok (target, true) => if (tree.at? target).any Entry.isDirectory then some target else none
    | _ => none
  | _ => none

def placesUnder (tree : FileTree) (place : List Name) : List (List Name) :=
  ((tree.at? place).map (Entry.places place)).getD []

/-- Adds the directories that links lead to, and those that links in them lead to. -/
def followLinks (tree : FileTree) : Nat → List (List Name) → List (List Name)
  | 0, places => places
  | fuel + 1, places =>
    let linked := (places.flatMap tree.placesUnder).filterMap tree.linkedDirectory?
    let new := (linked.filter fun place => !places.contains place).eraseDups
    if new.isEmpty then places else tree.followLinks fuel (places ++ new)

def watchedPlaces (tree : FileTree) (path : Bytes) : Except FileError (List (List Name)) :=
  match tree.locate (if path.isEmpty then Path.self else path) true with
  | .ok place => .ok (tree.followLinks (tree.placesUnder []).length [place])
  | .error error => .error error

end FileTree

def watchFailure (path : Bytes) (error : FileError) : String :=
  s!"failed to watch {Utf8.lossy path}: {error.message}"

namespace FileTree.Changed

def seenBy (changed : Changed) (places : List (List Name)) : Nat :=
  changed.touched.countP fun touched => places.any fun place => isInside place touched

/-- The places of a watch after a change: a place that was moved is watched where it is
now, and one that was taken away is not watched any more. -/
def carry (changed : Changed) (places : List (List Name)) : List (List Name) :=
  let moved := places.map fun place =>
    match changed.moved with
    | some (source, target) =>
      if isInside source place then target ++ place.drop source.length else place
    | none => place
  moved.filter fun place => (changed.tree.at? place).isSome

end FileTree.Changed

end MockKeeper
