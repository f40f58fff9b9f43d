/-
  SignatureSearch.Program.Report — what a command prints.
-/

import SignatureSearch.Program.Search
import SignatureSearch.Text.Terminal

namespace SignatureSearch.Program

/-- What a command printed, and whether it found what it was to find. -/
structure Report where
  lines : List String
  found : Bool
  deriving DecidableEq, Repr

namespace Report

def text (r : Report) : String := String.join (r.lines.map (· ++ "\n"))

def noMatch : String := Text.red "no match"

/-- A line for each match, or one that says that there is none. -/
def ofLines (lines : List String) : Report :=
  if lines.isEmpty then ⟨[noMatch], false⟩ else ⟨lines, true⟩

/-- `parse_signature`: a signature and how many elements of it are known, unknown and partly known. -/
def ofSignature (s : Signature) : Report :=
  let known := s.elements.countP Element.isByte
  let wildcards := s.elements.countP Element.isWildcard
  let partly := s.length - known - wildcards
  let counts := Text.decimal s.length ++ " elements: " ++ Text.decimal known ++ " known, " ++
    Text.decimal wildcards ++ " wildcard, " ++ Text.decimal partly ++ " partial"
  ⟨[Text.green s.render, counts], true⟩

def hexWord (w : UInt64) : String := Text.hex w.toNat

def hitLine (h : Hit) : String :=
  let inFile := h.fileOffset.elim "" fun offset => "file " ++ hexWord offset
  Text.green (hexWord h.address) ++ " " ++ Text.dimmed ("+" ++ Text.hex h.offset) ++ " " ++
    Text.dimmed inFile

def ofHits (hits : List Hit) : Report := ofLines (hits.map hitLine)

/-- The first line names the module, and each match is counted from its base. -/
def ofModuleHits (m : Module) (hits : List Hit) : Report :=
  let line := fun (h : Hit) =>
    Text.green (hexWord h.address) ++ " " ++
      Text.dimmed (m.name ++ "+" ++ hexWord (h.address - m.base))
  let report := ofLines (hits.map line)
  { report with lines := Text.cyan m.describe :: report.lines }

def notLoaded : Report := ⟨[Text.red "module is not loaded"], false⟩

def sectionLine (s : Section) : String :=
  let offset := fun (w : UInt64) => Text.hexWide 10 w.toNat
  let range := s.fileRange.elim "-" fun r => offset r.start ++ ".." ++ offset r.stop
  "  " ++ Text.bold (Text.padRight ' ' 24 s.name) ++ " " ++ Text.hexWide 18 s.address.toNat ++
    " " ++ Text.padLeft ' ' 10 (Text.decimal s.size.toNat) ++ " " ++ Text.dimmed range

def ofImage (path : String) (i : Image) : Report :=
  ⟨(path ++ " (" ++ Text.cyan i.format.name ++ ")") :: i.sections.map sectionLine, true⟩

end Report

/-- Carries a command out. -/
def perform (host : Host) (fs : FileSystem) (settings : Settings) : Command → Logged Report
  | .explain text => return .ofSignature (← signature text)
  | .scanFile path text inSection request => do
    let s ← signature text
    return .ofHits (← scanFile fs path ⟨s, scanOptions settings request, host.hasAvx2⟩ request.all inSection)
  | .listSections path => return .ofImage path (← imageOf fs path)
  | .scanModule text name inSection request => do
    let s ← signature text
    let scanner : Scanner := ⟨s, scanOptions settings request, host.hasAvx2⟩
    let found ← scanModule host fs name scanner request.all inSection
    return found.elim .notLoaded fun (m, hits) => .ofModuleHits m hits

end SignatureSearch.Program
