/-
  SignatureSearch.Image.Elf — ELF files of both widths and byte orders.

  `File.read?` takes the headers as they are stored, and refuses a file whose headers, or tables
  that the headers name, do not lie inside it. `Image.ofElf` makes the section table: a section
  without a name is left out, and one that is not loaded, or is only a template for the storage of
  threads, has address zero.
-/

import SignatureSearch.Image.Basic
import SignatureSearch.Image.Tables

namespace SignatureSearch

namespace Elf

inductive Width where
  | w32
  | w64
  deriving DecidableEq, Repr

structure Layout where
  headerSize : Nat
  /-- Positions in the file header. -/
  programOffset : Nat
  sectionOffset : Nat
  programCount : Nat
  sectionCount : Nat
  namesIndex : Nat
  programSize : Nat
  sectionSize : Nat

def Width.layout : Width → Layout
  | .w32 => ⟨52, 28, 32, 44, 48, 50, 32, 40⟩
  | .w64 => ⟨64, 32, 40, 56, 60, 62, 56, 64⟩

structure View where
  bytes : Bytes
  width : Width
  order : ByteOrder

namespace View

def half? (v : View) (pos : Nat) : Option Nat := (v.bytes.u16? v.order pos).map (·.toNat)

def word? (v : View) (pos : Nat) : Option UInt32 := v.bytes.u32? v.order pos

/-- An address, offset or size. -/
def extent? (v : View) (pos : Nat) : Option UInt64 :=
  match v.width with
  | .w32 => (v.bytes.u32? v.order pos).map (·.toUInt64)
  | .w64 => v.bytes.u64? v.order pos

end View

structure SectionHeader where
  /-- Where the name starts in the table of names. -/
  name : UInt32
  type : UInt32
  flags : UInt64
  address : UInt64
  offset : UInt64
  size : UInt64
  link : UInt32
  deriving DecidableEq, Repr

structure ProgramHeader where
  type : UInt32
  offset : UInt64
  address : UInt64
  fileSize : UInt64
  memorySize : UInt64
  deriving DecidableEq, Repr

namespace SectionHeader

/-- `SHT_NOBITS`: no contents in the file. -/
def typeNobits : UInt32 := 8

def typeRela : UInt32 := 4

def typeRel : UInt32 := 9

/-- `SHF_ALLOC`: occupies memory when the program runs. -/
def flagAlloc : UInt64 := 0x2

/-- `SHF_TLS`: a template for the storage of threads. -/
def flagTls : UInt64 := 0x400

def isNobits (h : SectionHeader) : Bool := h.type == typeNobits

def isAlloc (h : SectionHeader) : Bool := h.flags &&& flagAlloc != 0

def isTls (h : SectionHeader) : Bool := h.flags &&& flagTls != 0

def isRelocations (h : SectionHeader) : Bool := h.type == typeRela || h.type == typeRel

/-- Whether the contents lie inside a file of this size and the addresses inside the address
space. -/
def fits (h : SectionHeader) (fileSize : Nat) : Bool :=
  h.isNobits || h.size == 0 ||
    (decide (h.offset.toNat + h.size.toNat ≤ fileSize) &&
      decide (h.address.toNat + h.size.toNat < UInt64.size))

def read? (v : View) (pos : Nat) : Option SectionHeader := do
  let name ← v.word? pos
  let type ← v.word? (pos + 4)
  match v.width with
  | .w32 =>
    let _ ← v.word? (pos + 36)
    return ⟨name, type, ← v.extent? (pos + 8), ← v.extent? (pos + 12), ← v.extent? (pos + 16),
      ← v.extent? (pos + 20), ← v.word? (pos + 24)⟩
  | .w64 =>
    let _ ← v.extent? (pos + 56)
    return ⟨name, type, ← v.extent? (pos + 8), ← v.extent? (pos + 16), ← v.extent? (pos + 24),
      ← v.extent? (pos + 32), ← v.word? (pos + 40)⟩

end SectionHeader

namespace ProgramHeader

/-- `PT_LOAD`: mapped into memory. -/
def typeLoad : UInt32 := 1

def isLoad (h : ProgramHeader) : Bool := h.type == typeLoad

def read? (v : View) (pos : Nat) : Option ProgramHeader := do
  let type ← v.word? pos
  match v.width with
  | .w32 =>
    let _ ← v.word? (pos + 28)
    return ⟨type, ← v.extent? (pos + 4), ← v.extent? (pos + 8), ← v.extent? (pos + 16),
      ← v.extent? (pos + 20)⟩
  | .w64 =>
    let _ ← v.extent? (pos + 48)
    return ⟨type, ← v.extent? (pos + 8), ← v.extent? (pos + 16), ← v.extent? (pos + 32),
      ← v.extent? (pos + 40)⟩

end ProgramHeader

structure File where
  programs : List ProgramHeader
  sections : List SectionHeader
  names : StringTable

namespace File

/-- The byte order and width that the first bytes tell. -/
def view? (bytes : Bytes) : Option View := do
  let width ← match ← bytes.get? 4 with
    | 1 => some Width.w32
    | 2 => some Width.w64
    | _ => none
  let order ← match ← bytes.get? 5 with
    | 1 => some ByteOrder.little
    | 2 => some ByteOrder.big
    | _ => none
  return ⟨bytes, width, order⟩

def programs? (v : View) : Option (List ProgramHeader) := do
  let l := v.width.layout
  let count ← v.half? l.programCount
  let offset ← v.extent? l.programOffset
  if count > v.bytes.size / l.programSize then none
  else Image.readRow (ProgramHeader.read? v) l.programSize count offset.toNat

/-- The section headers. The first one is there even where none is counted, and holds the count
when that does not fit its field. -/
def sections? (v : View) : Option (List SectionHeader) := do
  let l := v.width.layout
  let offset ← v.extent? l.sectionOffset
  if offset == 0 then return []
  let head ← SectionHeader.read? v offset.toNat
  let stored ← v.half? l.sectionCount
  let count := if stored = 0 then head.size.toNat else stored
  if count > v.bytes.size / l.sectionSize then none
  else
    let later ← Image.readRow (SectionHeader.read? v) l.sectionSize (count - 1)
      (offset.toNat + l.sectionSize)
    return head :: later

/-- The names of the sections. The index of their table, too, may stand in the first header. -/
def names? (v : View) (sections : List SectionHeader) : Option StringTable := do
  let stored ← v.half? v.width.layout.namesIndex
  let index := if stored = 0xFFFF then (sections.head?.map (·.link.toNat)).getD 0 else stored
  match sections[index]? with
  | none => return .empty
  | some h =>
    if h.fits v.bytes.size then
      let contents ← v.bytes.slice? h.offset.toNat (h.offset.toNat + h.size.toNat)
      StringTable.ofBytes? 0 contents.toList
    else none

def read? (bytes : Bytes) : Option File := do
  let v ← view? bytes
  let _ ← bytes.slice? 0 v.width.layout.headerSize
  let programs ← programs? v
  let sections ← sections? v
  let names ← names? v sections
  if (sections.filter (·.isRelocations)).all (·.fits bytes.size) then
    return ⟨programs, sections, names⟩
  else none

end File

/-- The section that a header stands for, if it has a name. -/
def section? (names : StringTable) (h : SectionHeader) : Option Section := do
  let name ← names.get? h.name.toNat
  if name.isEmpty then none
  else
    return {
      name
      address := if h.isAlloc && !h.isTls then h.address else 0
      size := h.size
      fileRange := if h.isNobits then none else FileRange.ofSize? h.offset h.size }

end Elf

/-- `from_elf`. -/
def Image.ofElf (f : Elf.File) : Image where
  format := .elf
  sections := f.sections.filterMap (Elf.section? f.names)

end SignatureSearch
