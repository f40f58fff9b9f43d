/-
  SignatureSearch.Program.Search — the searches that a command line can ask for.

  Each reads a file system or a process, tells the log what it does and ends with what it found or
  with a failure.
-/

import SignatureSearch.CommandLine.Basic
import SignatureSearch.Log.Event
import SignatureSearch.Module.Sections
import SignatureSearch.Program.Failure
import SignatureSearch.Signature.Parser

namespace SignatureSearch.Program

/-- A computation that leaves events and may fail. -/
abbrev Logged := ExceptT Failure (StateM (List Log.Event))

def tell (e : Log.Event) : Logged Unit := modify (· ++ [e])

/-- `merge`: how a scan is run once the settings have filled in what was left out. -/
def scanOptions (settings : Settings) (r : ScanRequest) : ScanOptions where
  alignment := r.alignment.getD settings.scan.alignment
  hint := r.hint.getD settings.scan.hint
  mode := r.mode.getD settings.scan.mode

/-- A match that is reported. -/
structure Hit where
  /-- From the start of what was scanned. -/
  offset : Nat
  address : UInt64
  fileOffset : Option UInt64
  deriving DecidableEq, Repr

def signature (text : String) : Logged Signature :=
  match Signature.parse text with
  | .ok s => return s
  | .error cause => throw (.signature text cause)

/-- `scan_region`: the matches in a region, or the first one. The region starts at `fileStart` in its file. -/
def hitsIn (scanner : Scanner) (all : Bool) (r : Region) (fileStart : Option UInt64) : List Hit :=
  let offsets := if all then (scanner.findAll r).toList else (scanner.findFirst r).toList
  offsets.map fun i => ⟨i, r.addressOf i, fileStart.map (· + UInt64.ofNat i)⟩

def hits (scanner : Scanner) (all : Bool) (r : Region) (fileStart : Option UInt64) :
    Logged (List Hit) := do
  tell (.anchorSelected scanner.plan)
  tell (.backendResolved scanner.options.mode scanner.backend)
  return hitsIn scanner all r fileStart

def contents (fs : FileSystem) (path : String) : Logged Bytes :=
  match fs.view path with
  | .ok bytes => return bytes
  | .error .noContents => throw (.unread .noContents)
  | .error cause => throw (.unopened path cause)

def image (bytes : Bytes) : Logged Image :=
  match Image.parse bytes with
  | .ok i => return i
  | .error cause => throw (.image cause)

/-- The contents of a section of an executable file, and where they start in the file. -/
def sectionContents (path : String) (bytes : Bytes) (name : String) :
    Logged (Region × Option UInt64) := do
  let i ← image bytes
  match i.section? name with
  | none => throw (.noSection path name)
  | some s =>
    match i.region? bytes name with
    | none => throw .noContents
    | some r =>
      let start := s.fileRange.map (·.start)
      tell (.sectionOpened name s.address s.size start)
      return (r, start)

/-- `scan_file`: scans a file, whose addresses then start at zero, or one of its sections. An empty file has no
matches, whatever section is asked for. -/
def scanFile (fs : FileSystem) (path : String) (scanner : Scanner) (all : Bool)
    (inSection : Option String) : Logged (List Hit) := do
  let bytes ← contents fs path
  if bytes.isEmpty then return []
  match inSection with
  | none => hits scanner all ⟨bytes, 0⟩ (some 0)
  | some name => do
    let (r, start) ← sectionContents path bytes name
    hits scanner all r start

def imageOf (fs : FileSystem) (path : String) : Logged Image := do
  image (← contents fs path)

def checked {α : Type} (found : Except ModuleError α) : Logged α :=
  match found with
  | .ok a => return a
  | .error (.image cause) => throw (.image cause)
  | .error cause => throw (.module cause)

/-- `scan_module`: scans a section of a module in memory, if the module is loaded. -/
def scanModule (host : Host) (fs : FileSystem) (name : Option String) (scanner : Scanner)
    (all : Bool) (inSection : String) : Logged (Option (Module × List Hit)) := do
  match ← checked (host.module? name) with
  | none => return none
  | some m =>
    match ← checked (m.section? fs host.memory inSection) with
    | none => throw (.noSection m.name inSection)
    | some r =>
      tell (.sectionFound m.name inSection r.base r.size)
      return some (m, ← hits scanner all r none)

end SignatureSearch.Program
