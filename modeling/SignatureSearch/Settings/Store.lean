/-
  SignatureSearch.Settings.Store — where settings are kept.

  The settings at a path that leads nowhere are the defaults, and loading them makes the file.
-/

import SignatureSearch.FileSystem
import SignatureSearch.Settings.Basic
import SignatureSearch.Text.Utf8

namespace SignatureSearch.Settings

def directory (path : String) : String := (Path.parent? path).getD "."

def save (fs : FileSystem) (path : String) (s : Settings) : Option FileSystem := do
  let fs ← match Path.parent? path with
    | some parent => (fs.makeDirectories parent).toOption
    | none => some fs
  (fs.write path (Bytes.ofArray s.render.toUTF8.data)).toOption

def load (fs : FileSystem) (path : String) : Option (Settings × FileSystem) :=
  if fs.has path then do
    let contents ← (fs.read path).toOption
    let s ← Text.decode? contents.toList >>= ofToml?
    return (s, fs)
  else do
    let s : Settings := {}
    return (s, ← s.save fs path)

/-! ## The places of a user -/

/-- `get_config_dir`: the directory for the settings of one user, below the one named for all settings, if that
is an absolute path, else below the home. -/
def userDirectory (home : String) (named : Option String) : String :=
  let all := match named with
    | some dir => if Path.isAbsolute dir then dir else Path.join home ".config"
    | none => Path.join home ".config"
  Path.join all "sigscan"

def userPath (home : String) (named : Option String) : String :=
  Path.join (userDirectory home named) "sigscan.toml"

end SignatureSearch.Settings
