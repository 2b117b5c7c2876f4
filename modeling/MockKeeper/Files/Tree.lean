import MockKeeper.Files.Path
import MockKeeper.Os.Error

/-! A tree of files, and how a path leads to one of its entries. Links are followed on
the way, but not without end. -/

namespace MockKeeper

inductive Entry
  | file (content : Bytes)
  | directory (entries : List (Name × Entry))
  | link (target : Bytes)
  /-- A pipe, a socket or a device, and what to read it to its end gives. -/
  | special (content : Except OsError Bytes)
deriving Inhabited

namespace Entry

def isFile : Entry → Bool
  | .file _ => true
  | _ => false

def isDirectory : Entry → Bool
  | .directory _ => true
  | _ => false

def entries : Entry → List (Name × Entry)
  | .directory entries => entries
  | _ => []

/-- The entry to which names lead, without following links. -/
def find? : Entry → List Name → Option Entry
  | entry, [] => some entry
  | .directory entries, name :: rest =>
    match entries.lookup name with
    | some entry => entry.find? rest
    | none => none
  | _, _ :: _ => none

end Entry

structure FileTree where
  root : Entry := .directory []
  /-- The names that lead to the working directory. -/
  here : List Name := []

inductive FileError
  | system (error : OsError)
  | zeroByte
deriving DecidableEq, Repr

namespace FileError

def message : FileError → String
  | .system error => error.message
  | .zeroByte => "file name contained an unexpected NUL byte"

end FileError

namespace FileTree

/-- How many links are followed on the way along one path. -/
def linkLimit : Nat := 40

/-- The longest name an entry may have, and the length no path may reach. -/
def nameLimit : Nat := 255

def pathLimit : Nat := 4096

/-- Walks along names from a directory. The answer is the place reached, as names from
the root, and whether there is an entry; only the last name may be missing. -/
def walk (root : Entry) (followLast : Bool) :
    (links : Nat) → (place todo : List Name) → Except OsError (List Name × Bool)
  | _, place, [] => .ok (place, true)
  | links, place, name :: rest =>
    match root.find? place with
    | some (.directory entries) =>
      if name = Path.self then walk root followLast links place rest
      else if name = Path.parent then walk root followLast links place.dropLast rest
      else if nameLimit < name.length then .error .nameTooLong
      else
        match entries.lookup name with
        | none => if rest.isEmpty then .ok (place ++ [name], false) else .error .notFound
        | some (.link target) =>
          if rest.isEmpty && !followLast then .ok (place ++ [name], true)
          else
            match links with
            | 0 => .error .tooManyLinks
            | links + 1 =>
              walk root followLast links (if Path.isAbsolute target then [] else place)
                (Path.names target ++ rest)
        | some _ => walk root followLast links (place ++ [name]) rest
    | some _ => .error .notADirectory
    | none => .error .notFound
  termination_by links _ todo => (links, todo.length)

def place (tree : FileTree) (path : Bytes) (followLast : Bool) : Except FileError (List Name × Bool) :=
  if path.contains 0 then .error .zeroByte
  else if path.isEmpty then .error (.system .notFound)
  else if pathLimit ≤ path.length then .error (.system .nameTooLong)
  else
    match walk tree.root followLast linkLimit (if Path.isAbsolute path then [] else tree.here)
      (Path.names path) with
    | .ok found => .ok found
    | .error error => .error (.system error)

def locate (tree : FileTree) (path : Bytes) (followLast : Bool) : Except FileError (List Name) :=
  match tree.place path followLast with
  | .ok (names, true) => .ok names
  | .ok (_, false) => .error (.system .notFound)
  | .error error => .error error

/-- The entry to which a path leads, which is no link. -/
def entry (tree : FileTree) (path : Bytes) : Except FileError Entry :=
  match tree.locate path true with
  | .ok names =>
    match tree.root.find? names with
    | some entry => .ok entry
    | none => .error (.system .notFound)
  | .error error => .error error

def isFile (tree : FileTree) (path : Bytes) : Bool :=
  match tree.entry path with
  | .ok entry => entry.isFile
  | .error _ => false

def read (tree : FileTree) (path : Bytes) : Except FileError Bytes :=
  match tree.entry path with
  | .ok (.file content) => .ok content
  | .ok (.special (.ok content)) => .ok content
  | .ok (.special (.error error)) => .error (.system error)
  | .ok _ => .error (.system .isADirectory)
  | .error error => .error error

def canonical (tree : FileTree) (path : Bytes) : Except FileError Bytes :=
  match tree.locate path true with
  | .ok names => .ok (Path.absolute names)
  | .error error => .error error

end FileTree

end MockKeeper
