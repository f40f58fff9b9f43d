/-
  SignatureSearch.Module.Sections — the sections of a module in memory.

  The section table is read from the module's file, as it is now; the contents are those in
  memory. Sections that are not loaded have address zero in the table and are left out, so none of
  them is ever looked for in memory.
-/

import SignatureSearch.Image.Detect
import SignatureSearch.Module.Basic
import SignatureSearch.Scan.Scanner

namespace SignatureSearch

structure ModuleSection where
  name : String
  address : UInt64
  size : UInt64
  deriving DecidableEq, Repr

/-- `from_raw`: the memory from `address` on, `size` bytes long. -/
def Region.ofMemory (memory : UInt64 → UInt8) (address size : UInt64) : Region :=
  if size = 0 ∨ address = 0 then ⟨.empty, address⟩
  else ⟨Bytes.ofArray (Array.ofFn fun i : Fin size.toNat => memory (address + UInt64.ofNat i)),
    address⟩

namespace Module

/-- The loaded sections of an image, moved to where the module lies. -/
def sectionsOf (bias : UInt64) (i : Image) : List ModuleSection :=
  (i.sections.filter fun s => s.address != 0 && s.size != 0).map fun s =>
    ⟨s.name, bias + s.address, s.size⟩

def sections (m : Module) (fs : FileSystem) : Except ModuleError (List ModuleSection) :=
  match fs.viewAt m.path with
  | .error cause => .error (.file cause)
  | .ok contents =>
    match Image.parse contents with
    | .error cause => .error (.image cause)
    | .ok image => .ok (sectionsOf m.bias image)

def section? (m : Module) (fs : FileSystem) (memory : UInt64 → UInt8) (name : String) :
    Except ModuleError (Option Region) := do
  let found := (← m.sections fs).find? (·.name == name)
  return found.map fun s => Region.ofMemory memory s.address s.size

/-- `find_in_section`: the lowest address in a section at which the signature matches. -/
def findInSection (m : Module) (fs : FileSystem) (memory : UInt64 → UInt8) (hasAvx2 : Bool)
    (s : Signature) (name : String) (alignment : Alignment) :
    Except ModuleError (Option UInt64) := do
  match ← m.section? fs memory name with
  | none => return none
  | some r => return (Scanner.findFirst ⟨s, { alignment }, hasAvx2⟩ r).map r.addressOf

end Module

end SignatureSearch
