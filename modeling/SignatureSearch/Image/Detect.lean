/-
  SignatureSearch.Image.Detect — telling the format of an executable file by its first bytes.
-/

import SignatureSearch.Image.Archive
import SignatureSearch.Image.Elf
import SignatureSearch.Image.MachO
import SignatureSearch.Image.Pe

namespace SignatureSearch

/-- What a file is, by its first bytes. -/
inductive Container where
  | elf
  | archive
  | pe
  /-- An object file that is no part of an archive. -/
  | object
  | machO (kind : MachO.Kind)
  | fatMachO
  | unknown
  deriving DecidableEq, Repr

namespace Container

def leastSize : Nat := 16

def detect? (bytes : Bytes) : Option Container := do
  let _ ← bytes.slice? 0 leastSize
  let start := bytes.take 8
  if start.take 4 = [0x7F, 0x45, 0x4C, 0x46] then return .elf
  if start = Archive.magic then return .archive
  match ← bytes.u16? .little 0 with
  | 0x5A4D => return .pe
  | 0x014C | 0x8664 | 0xAA64 => return .object
  | _ =>
    let magic ← bytes.u32? .big 0
    match MachO.Kind.ofMagic? magic with
    | some kind => return .machO kind
    | none => return if magic == 0xCAFEBABE then .fatMachO else .unknown

end Container

namespace Image

/-- The image of a file that could be read. -/
def ofRead {α : Type} (image : α → Guarded Image) : Option α → Except ImageError Image
  | some file => (image file).mapError .fault
  | none => .error .malformed

def parse (bytes : Bytes) : Except ImageError Image :=
  match Container.detect? bytes with
  | none => .error .tooShort
  | some .elf => ofRead (fun file => .ok (ofElf file)) (Elf.File.read? bytes)
  | some .pe => ofRead (ofPe · bytes.size) (Pe.File.read? bytes)
  | some (.machO kind) => ofRead (fun file => .ok (ofMachO file)) (MachO.File.read? kind bytes)
  | some .object =>
    if Pe.objectReads bytes then .error (.unsupported .unknown) else .error .malformed
  | some .archive =>
    if Archive.isSound bytes then .error (.unsupported .archive) else .error .malformed
  | some .fatMachO => .error (.unsupported .fatMachO)
  | some .unknown => .error (.unsupported .unknown)

end Image

end SignatureSearch
