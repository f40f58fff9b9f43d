/-
  SignatureSearch.Log.Setup — what is logged where.

  A filter from the environment wins over one from the command line, and that over the one in the
  settings. A filter that cannot be read is found out before a file that cannot be named.
-/

import SignatureSearch.Log.Event
import SignatureSearch.Settings.Store

namespace SignatureSearch.Log

inductive SetupError where
  | badFilter
  | noDirectory
  | noFileName
  deriving DecidableEq, Repr

def SetupError.message : SetupError → String
  | .badFilter => "invalid filter directive"
  | .noDirectory => "log file has no parent directory"
  | .noFileName => "log file has no file name"

structure Setup where
  filter : Filter
  targets : Bool
  file : Option String
  deriving DecidableEq, Repr

namespace Setup

def filterText (s : Settings) (chosen environment : Option String) : String :=
  match environment.filter (!·.isEmpty) with
  | some text => text
  | none => chosen.getD s.log.level

/-- `split`, which refuses a path in `directory` that has no parent or no file name. -/
def filePath (directory file : String) : Except SetupError String :=
  let path := Path.join directory file
  if (Path.parent? path).isNone then .error .noDirectory
  else if (Path.fileName? path).isNone then .error .noFileName
  else .ok path

def ofSettings (s : Settings) (directory : String) (chosen environment : Option String) :
    Except SetupError Setup := do
  match Filter.parse? (filterText s chosen environment) with
  | none => throw .badFilter
  | some filter =>
    let file ← s.log.file.mapM (filePath directory)
    return { filter, targets := s.log.targets, file }

def lines (s : Setup) (events : List Event) : List String :=
  (events.filter fun e => s.filter.enables e.level e.target e.fields).map (Event.line s.targets)

end Setup

end SignatureSearch.Log
