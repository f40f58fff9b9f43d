/-
  SignatureSearch.Image.MachO — executables of macOS.

  The header is followed by load commands, and a command for a segment by the segment's sections.
  `File.read?` takes the sections as they are stored; `Image.ofMachO` makes the section table, in
  which a section to be filled with zeros has no place in the file.
-/

import SignatureSearch.Image.Basic
import SignatureSearch.Image.Tables
import SignatureSearch.Text.Utf8

namespace SignatureSearch

namespace MachO

/-- What the first four bytes tell. -/
structure Kind where
  wide : Bool
  order : ByteOrder
  deriving DecidableEq, Repr

def Kind.ofMagic? (magic : UInt32) : Option Kind :=
  match magic with
  | 0xFEEDFACE => some ⟨false, .big⟩
  | 0xCEFAEDFE => some ⟨false, .little⟩
  | 0xFEEDFACF => some ⟨true, .big⟩
  | 0xCFFAEDFE => some ⟨true, .little⟩
  | _ => none

namespace Kind

def headerSize (k : Kind) : Nat := if k.wide then 32 else 28

def segmentSize (k : Kind) : Nat := if k.wide then 72 else 56

end Kind

structure SectionHeader where
  name : String
  address : UInt64
  size : UInt64
  offset : UInt32
  flags : UInt32
  deriving DecidableEq

namespace SectionHeader

def kind (h : SectionHeader) : UInt32 := h.flags &&& 0xFF

/-- `S_ZEROFILL`: filled with zeros when loaded. -/
def kindZerofill : UInt32 := 1

def isZerofill (h : SectionHeader) : Bool := h.kind == kindZerofill

def read? (k : Kind) (bytes : Bytes) (pos : Nat) : Option (SectionHeader × Nat) := do
  let name ← Text.decodeUntilNul? (← bytes.slice? pos (pos + 16)).toList
  let word (at_ : Nat) : Option UInt32 := bytes.u32? k.order (pos + at_)
  if k.wide then
    let _ ← word 76
    let long (at_ : Nat) : Option UInt64 := bytes.u64? k.order (pos + at_)
    return (⟨name, ← long 32, ← long 40, ← word 48, ← word 64⟩, pos + 80)
  else
    let _ ← word 64
    return (⟨name, (← word 32).toUInt64, (← word 36).toUInt64, ← word 40, ← word 56⟩, pos + 68)

end SectionHeader

structure Segment where
  fileOffset : UInt64
  fileSize : UInt64
  sectionCount : Nat

namespace Segment

def readNarrow? (order : ByteOrder) (bytes : Bytes) (pos : Nat) : Option Segment := do
  let word (at_ : Nat) : Option UInt32 := bytes.u32? order (pos + at_)
  let _ ← word 52
  return ⟨(← word 32).toUInt64, (← word 36).toUInt64, (← word 48).toNat⟩

def readWide? (order : ByteOrder) (bytes : Bytes) (pos : Nat) : Option Segment := do
  let word (at_ : Nat) : Option UInt32 := bytes.u32? order (pos + at_)
  let long (at_ : Nat) : Option UInt64 := bytes.u64? order (pos + at_)
  let _ ← word 68
  return ⟨← long 40, ← long 48, (← word 64).toNat⟩

/-- A segment that holds anything holds a part of the file. -/
def fits (s : Segment) (fileSize : Nat) : Bool :=
  s.fileSize == 0 || decide (s.fileOffset.toNat + s.fileSize.toNat ≤ fileSize)

end Segment

/-- The sections behind the load command at `pos`, and where the next command stands. -/
def readCommand? (k : Kind) (bytes : Bytes) (pos : Nat) :
    Option (List SectionHeader × Nat) := do
  let command ← bytes.u32? k.order pos
  let size := (← bytes.u32? k.order (pos + 4)).toNat
  if pos + size > bytes.size then none
  let segment? ← match command with
    | 0x1 => some <$> Segment.readNarrow? k.order bytes pos
    | 0x19 => some <$> Segment.readWide? k.order bytes pos
    | _ => some none
  match segment? with
  | none => return ([], pos + size)
  | some segment =>
    if segment.fits bytes.size then
      let (sections, _) ← Image.readEach (SectionHeader.read? k bytes) segment.sectionCount
        (pos + k.segmentSize)
      return (sections, pos + size)
    else none

structure File where
  sections : List SectionHeader

namespace File

def leastSize : Nat := 32

def read? (k : Kind) (bytes : Bytes) : Option File := do
  let _ ← bytes.slice? 0 leastSize
  let count := (← bytes.u32? k.order 16).toNat
  let size := (← bytes.u32? k.order 20).toNat
  if count > size / 8 ∨ size > bytes.size then none
  let (sections, _) ← Image.readEach (readCommand? k bytes) count k.headerSize
  return ⟨sections.flatten⟩

end File

def toSection (h : SectionHeader) : Section where
  name := h.name
  address := h.address
  size := h.size
  fileRange := if h.isZerofill then none else FileRange.ofSize? h.offset.toUInt64 h.size

end MachO

/-- `from_macho`. -/
def Image.ofMachO (f : MachO.File) : Image where
  format := .machO
  sections := f.sections.map MachO.toSection

end SignatureSearch
