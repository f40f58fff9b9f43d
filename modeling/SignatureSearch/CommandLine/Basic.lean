/-
  SignatureSearch.CommandLine.Basic — what can be asked for, and why arguments are rejected.
-/

import SignatureSearch.Scan.Options

namespace SignatureSearch

/-- How a scan is asked for; what is left out is in the settings. -/
structure ScanRequest where
  alignment : Option Alignment := none
  hint : Option Hint := none
  mode : Option Mode := none
  /-- Every match instead of the first. -/
  all : Bool := false
  deriving DecidableEq, Repr

inductive Command where
  /-- Shows how a signature is understood. -/
  | explain (signature : String)
  /-- Looks for a signature in a file, or in one section of an executable file. -/
  | scanFile (file signature : String) (inSection : Option String) (request : ScanRequest)
  | listSections (file : String)
  /-- Looks for a signature in a module of the running process, its main program if no other. -/
  | scanModule (signature : String) (name : Option String) (inSection : String)
      (request : ScanRequest)
  deriving DecidableEq, Repr

structure Invocation where
  settingsPath : Option String
  logFilter : Option String
  command : Command
  deriving DecidableEq, Repr

inductive Rejection where
  | helpAsked
  | versionAsked
  | nothingGiven
  | noCommand
  | unknownCommand
  | unknownArgument
  | missingArgument
  /-- An option without a value, or a path that is empty. -/
  | missingValue
  | badValue
  | repeated
  /-- A value for an option that takes none. -/
  | unwantedValue
  deriving DecidableEq, Repr

def Rejection.isInformation : Rejection → Bool
  | .helpAsked | .versionAsked => true
  | _ => false

end SignatureSearch
