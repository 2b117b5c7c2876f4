import MockKeeper.Config.Error
import MockKeeper.Files.Tree

/-! The check of a config directory: it has to hold a configuration file directly. -/

namespace MockKeeper

def configFileEndings : List String := ["-config.yaml", "-config.yml", "-config.json"]

def isConfigFileName (name : String) : Bool :=
  let small := name.toList.map Char.toLower
  configFileEndings.any fun ending => ending.toList.isSuffixOf small

/-- Whether an entry is a configuration file. A link to one is not. -/
def isConfigFile (name : Name) (entry : Entry) : Bool :=
  entry.isFile && isConfigFileName (Utf8.lossy name)

/-- How a directory is read: its entries in some order and without those that cannot be read,
or why it cannot be read at all. -/
abbrev Listing := List (Name × Entry) → Except OsError (List (Name × Entry))

namespace FileTree

/-- Checks that a path leads to a directory that directly holds a configuration file, as far as
the directory can be read. -/
def checkListed (listing : Listing) (tree : FileTree) (path : Bytes) : Except ConfigError Unit :=
  let shown := Utf8.lossy path
  match tree.entry path with
  | .error _ => .error (.notFound shown)
  | .ok (.directory entries) =>
    match listing entries with
    | .error error => .error (.unreadable shown error.message)
    | .ok seen =>
      if seen.any fun (name, entry) => isConfigFile name entry then .ok ()
      else .error (.noConfigFiles shown)
  | .ok _ => .error (.notADirectory shown)

def checkConfigDirectory (tree : FileTree) (path : Bytes) : Except ConfigError Unit :=
  tree.checkListed .ok path

end FileTree

end MockKeeper
