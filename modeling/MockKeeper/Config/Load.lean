import MockKeeper.Config.Settings
import MockKeeper.Files.Tree

/-! Where the settings file is looked for. -/

namespace MockKeeper.Settings

/-- The home directory: what the environment says, or else what the account says. -/
def home (said : Option Bytes) (account : Bytes) : Bytes :=
  match said with
  | some path => if path.isEmpty then account else path
  | none => account

def defaultPath (home : Bytes) : Bytes :=
  Path.join (Path.join home (Utf8.encode ".mocksync")) (Utf8.encode "config.yaml")

def fromFile (tree : FileTree) (path : Bytes) : Except ConfigError Settings :=
  let shown := Utf8.lossy path
  match tree.read path with
  | .ok content => ofFile shown content
  | .error error => .error (.unreadable shown error.message)

/-- The settings in a named file, or else in the user's file if there is one. -/
def load (tree : FileTree) (home : Bytes) (named : Option Bytes) : Except ConfigError Settings :=
  match named with
  | some path => fromFile tree path
  | none => if tree.isFile (defaultPath home) then fromFile tree (defaultPath home) else .ok {}

end MockKeeper.Settings
