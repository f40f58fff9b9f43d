/-
  SignatureSearch.Main — the command line.

  Reads the files that a run can look at, lets `Program.run` do its work on them, and writes back
  what it changed. Of its own modules a run is told nothing.
-/

import SignatureSearch.Program.Session

namespace SignatureSearch.Main

def pathsOf (s : Program.Surroundings) (i : Invocation) : List String :=
  Program.settingsPath s i :: match i.command with
    | .scanFile path .. | .listSections path => [path]
    | .explain _ | .scanModule .. => []

/-- Adds what is at a path; whatever is there and cannot be read counts as a directory. -/
def addPath (fs : FileSystem) (path : String) : IO FileSystem := do
  let above := ((Path.parent? path).bind fun p => (fs.makeDirectories p).toOption).getD fs
  try
    let contents ← IO.FS.readBinFile path
    return (above.write path (Bytes.ofArray contents.data)).toOption.getD fs
  catch
    | .noFileOrDirectory .. => return fs
    | _ => return (fs.makeDirectories path).toOption.getD fs

def addLogFile (fs : FileSystem) (settingsPath : String) : IO FileSystem := do
  match Settings.load fs settingsPath with
  | some (settings, _) =>
    match settings.log.file.map (Log.Setup.filePath (Settings.directory settingsPath)) with
    | some (.ok path) => addPath fs path
    | _ => return fs
  | none => return fs

def writeChanges (before after : FileSystem) : IO Unit := do
  for (location, contents) in after.files do
    if (before.files.lookup location).map Bytes.toList != some contents.toList then
      let path := fun (l : Location) => "/" ++ "/".intercalate l
      IO.FS.createDirAll (path location.dropLast)
      IO.FS.writeBinFile (path location) ⟨contents.toArray⟩

def usage : String :=
  let scanning := " [--section NAME] [--align A] [--hint H] [--mode M] [--all]"
  "\n".intercalate [
    "Usage: sigscan [--config PATH] [--log FILTER] COMMAND",
    "  parse SIGNATURE",
    "  scan FILE SIGNATURE" ++ scanning,
    "  sections FILE",
    "  self SIGNATURE [--module NAME]" ++ scanning]

def printEnding (ending : Program.Ending) : IO Unit := do
  match ending with
  | .rejected reason => if reason.isInformation then IO.println usage else IO.eprintln usage
  | .noSettings => IO.eprintln "Error: the settings cannot be loaded"
  | .noLog cause => IO.eprintln ("Error: " ++ cause.message)
  | .failed cause => for message in cause.messages do IO.eprintln ("Error: " ++ message)
  | .done report => IO.print report.text

end SignatureSearch.Main

open SignatureSearch in
def main (arguments : List String) : IO UInt32 := do
  let working := (← IO.currentDir).toString.splitOn "/"
  let start : FileSystem := .ofFiles (working.filter (!·.isEmpty)) []
  let surroundings : Program.Surroundings :=
    { fs := start
      home := (← IO.getEnv "HOME").getD "/"
      settingsHome := ← IO.getEnv "XDG_CONFIG_HOME"
      logFilter := ← IO.getEnv "SIGSCAN_LOG" }
  let fs ← match CommandLine.read arguments with
    | .ok i => do
      let fs ← (Main.pathsOf surroundings i).foldlM Main.addPath start
      Main.addLogFile fs (Program.settingsPath surroundings i)
    | .error _ => pure start
  let outcome := Program.run { surroundings with fs } (Text.decimal (← IO.monoMsNow)) arguments
  Main.writeChanges fs outcome.fs
  for line in outcome.log do IO.eprintln line
  Main.printEnding outcome.ending
  return UInt32.ofNat outcome.ending.exitCode
