/-
  SignatureSearch.Program.Session — a whole run of the program.

  Arguments come first, then the settings, then the log, and only then the command. A log file is
  made when the first line is written to it.
-/

import SignatureSearch.CommandLine.Reader
import SignatureSearch.Log.Setup
import SignatureSearch.Program.Report
import SignatureSearch.Text.Terminal

namespace SignatureSearch.Program

/-- Where a run takes place. -/
structure Surroundings where
  fs : FileSystem
  host : Host := {}
  home : String := ""
  /-- The directory named for the settings of all programs. -/
  settingsHome : Option String := none
  /-- A log filter that wins over all others. -/
  logFilter : Option String := none

inductive Ending where
  | rejected (reason : Rejection)
  | noSettings
  | noLog (cause : Log.SetupError)
  | failed (cause : Failure)
  | done (report : Report)

namespace Ending

def exitCode : Ending → Nat
  | .rejected reason => if reason.isInformation then 0 else 2
  | .noSettings | .noLog _ => 1
  | .failed cause => if cause.isFault then 101 else 1
  | .done report => if report.found then 0 else 1

def output : Ending → String
  | .done report => report.text
  | _ => ""

end Ending

structure Outcome where
  ending : Ending
  log : List String := []
  fs : FileSystem

/-- The settings a run goes by: those at the path it names, or else at the user's own. -/
def settingsPath (s : Surroundings) (i : Invocation) : String :=
  i.settingsPath.getD (Settings.userPath s.home s.settingsHome)

/-- Adds lines to a file, without what steers a terminal. The file is made if it is missing, as
are the directories above it. -/
def addLines (fs : FileSystem) (path : String) (lines : List String) : Option FileSystem := do
  let fs ← match Path.parent? path with
    | some parent => (fs.makeDirectories parent).toOption
    | none => some fs
  let before := ((fs.read path).toOption.map Bytes.toList).getD []
  let added := String.join (lines.map fun line => Text.plain (line ++ "\n"))
  (fs.write path (Bytes.ofList (before ++ added.toUTF8.toList))).toOption

/-- The lines of a log file start with a time, for which a stamp stands. -/
def stamped (stamp line : String) : String := stamp ++ " " ++ line

def logged (fs : FileSystem) (setup : Log.Setup) (stamp : String) (lines : List String) :
    FileSystem :=
  match setup.file, lines with
  | some path, _ :: _ => (addLines fs path (lines.map (stamped stamp))).getD fs
  | _, _ => fs

/-- Carries out what was asked for, with settings and log in place. -/
def carryOut (s : Surroundings) (settings : Settings) (setup : Log.Setup) (path stamp : String)
    (command : Command) : Outcome :=
  let start : List Log.Event := [.settingsLoaded path settings]
  let (result, events) := (perform s.host s.fs settings command).run start
  let lines := setup.lines events
  let ending := match result with
    | .ok report => Ending.done report
    | .error cause => .failed cause
  { ending, log := lines, fs := logged s.fs setup stamp lines }

def run (s : Surroundings) (stamp : String) (arguments : List String) : Outcome :=
  match CommandLine.read arguments with
  | .error reason => { ending := .rejected reason, fs := s.fs }
  | .ok invocation =>
    let path := settingsPath s invocation
    match Settings.load s.fs path with
    | none => { ending := .noSettings, fs := s.fs }
    | some (settings, fs) =>
      match Log.Setup.ofSettings settings (Settings.directory path) invocation.logFilter
          s.logFilter with
      | .error cause => { ending := .noLog cause, fs }
      | .ok setup => carryOut { s with fs } settings setup path stamp invocation.command

end SignatureSearch.Program
