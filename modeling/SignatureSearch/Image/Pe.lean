/-
  SignatureSearch.Image.Pe — Windows executables, and the object files they are linked from.

  `File.read?` takes the image base and the section table as they are stored. `Image.ofPe` makes
  the sections: one holds as much of the file as is both stored and mapped, and none at all where
  that is empty or leaves the file.
-/

import SignatureSearch.Image.Basic
import SignatureSearch.Image.Tables
import SignatureSearch.Text.Number
import SignatureSearch.Text.Utf8

namespace SignatureSearch

namespace Pe

structure SectionHeader where
  /-- The name, if it is UTF-8. -/
  name : Option String
  virtualSize : UInt32
  virtualAddress : UInt32
  rawSize : UInt32
  rawOffset : UInt32
  deriving DecidableEq

structure File where
  imageBase : UInt64
  sections : List SectionHeader

def digit64? (b : UInt8) : Option Nat :=
  let n := b.toNat
  if 65 ≤ n ∧ n ≤ 90 then some (n - 65)
  else if 97 ≤ n ∧ n ≤ 122 then some (n - 71)
  else if 48 ≤ n ∧ n ≤ 57 then some (n + 4)
  else if n = 43 then some 62
  else if n = 47 then some 63
  else none

def value64? (digits : List UInt8) : Option Nat :=
  digits.foldlM (fun n b => (digit64? b).map (n * 64 + ·)) 0

/-- The offset into the table of long names that a stored name stands for, if it is one; the
outer answer is missing when it is a bad one. -/
def longNameOffset? (stored : List UInt8) : Option (Option Nat) :=
  match stored with
  | 47 :: 47 :: digits => (value64? (digits.takeWhile (· != 0))).map some
  | 47 :: digits => do
    let text ← Text.decodeUntilNul? digits
    (Text.word? text.toList).map some
  | _ => some none

/-- The name stored in a header, through the table of long names at `longNames`. -/
def readName? (bytes : Bytes) (longNames : Nat) (stored : List UInt8) :
    Option (Option String) := do
  match ← longNameOffset? stored with
  | none => return Text.decodeUntilNul? stored
  | some offset =>
    let pos := longNames + offset
    if pos ≤ bytes.size then some <$> Text.decodeUntilNul? (bytes.drop pos).toList else none

namespace SectionHeader

def size : Nat := 40

def read? (bytes : Bytes) (longNames pos : Nat) : Option SectionHeader := do
  let stored ← bytes.slice? pos (pos + 8)
  let word (k : Nat) : Option UInt32 := bytes.u32? .little (pos + k)
  let _ ← word 36
  return {
    name := ← readName? bytes longNames stored.toList
    virtualSize := ← word 8
    virtualAddress := ← word 12
    rawSize := ← word 16
    rawOffset := ← word 20 }

end SectionHeader

/-- The header that object files and executables share. -/
structure ObjectHeader where
  sectionCount : Nat
  /-- Where the symbol table stands, and behind it the long names. -/
  symbolOffset : Nat
  symbolCount : Nat
  optionalSize : Nat

namespace ObjectHeader

def size : Nat := 20

def read? (bytes : Bytes) (pos : Nat) : Option ObjectHeader := do
  let half (k : Nat) : Option Nat := (bytes.u16? .little (pos + k)).map (·.toNat)
  let word (k : Nat) : Option Nat := (bytes.u32? .little (pos + k)).map (·.toNat)
  let _ ← half 18
  return ⟨← half 2, ← word 8, ← word 12, ← half 16⟩

def longNames (h : ObjectHeader) : Nat := h.symbolOffset + 18 * h.symbolCount

def sections? (h : ObjectHeader) (bytes : Bytes) (pos : Nat) : Option (List SectionHeader) :=
  if h.sectionCount > bytes.size / SectionHeader.size then none
  else
    Image.readRow (SectionHeader.read? bytes h.longNames) SectionHeader.size h.sectionCount pos

end ObjectHeader

/-- The image base in the optional header at `pos`, which must lie inside the file with all its
directories. -/
def imageBase? (bytes : Bytes) (pos : Nat) : Option UInt64 := do
  let magic ← bytes.u16? .little pos
  let (base, countAt) ← match magic with
    | 0x10B => some ((← bytes.u32? .little (pos + 28)).toUInt64, pos + 92)
    | 0x20B => some (← bytes.u64? .little (pos + 24), pos + 108)
    | _ => none
  let count := (← bytes.u32? .little countAt).toNat
  if count > 16 then none
  else
    let _ ← bytes.slice? (countAt + 4) (countAt + 4 + 8 * count)
    return base

namespace File

def stubEnd : Nat := 0x80

def read? (bytes : Bytes) : Option File := do
  let _ ← bytes.slice? 0 stubEnd
  let start := (← bytes.u32? .little 0x3C).toNat
  if (← bytes.u32? .little start) != 0x4550 then none
  let header ← ObjectHeader.read? bytes (start + 4)
  let optionalAt := start + 4 + ObjectHeader.size
  let imageBase ← if header.optionalSize = 0 then some 0 else imageBase? bytes optionalAt
  return ⟨imageBase, ← header.sections? bytes (optionalAt + header.optionalSize)⟩

end File

namespace ObjectHeader

/-- The symbols and the table of strings behind them, if there are any. The table starts with its
size, which counts itself. -/
def strings? (h : ObjectHeader) (bytes : Bytes) : Option (Option StringTable) :=
  if h.symbolOffset = 0 then some none
  else do
    let _ ← bytes.slice? h.symbolOffset h.longNames
    let size := (← bytes.u32? .little h.longNames).toNat
    if size < 4 then none
    else
      let contents ← bytes.slice? (h.longNames + 4) (h.longNames + size)
      some <$> StringTable.ofBytes? 0 contents.toList

end ObjectHeader

/-- Whether a file that is nothing but an object file can be read. -/
def objectReads (bytes : Bytes) : Bool :=
  (do
    let header ← ObjectHeader.read? bytes 0
    let _ ← header.sections? bytes (ObjectHeader.size + header.optionalSize)
    header.strings? bytes).isSome

/-- How many bytes of the file belong to a section. -/
def SectionHeader.storedSize (h : SectionHeader) : UInt32 :=
  if h.virtualSize == 0 then h.rawSize else min h.rawSize h.virtualSize

/-- The section that a header stands for, if its name is text. The sum for its address is not
checked. -/
def section? (imageBase : UInt64) (fileSize : Nat) (h : SectionHeader) :
    Option (Guarded Section) := do
  let name ← h.name
  let range := FileRange.ofSize? h.rawOffset.toUInt64 h.storedSize.toUInt64
  return (Guarded.addWord imageBase h.virtualAddress.toUInt64).map fun address => {
    name
    address
    size := h.virtualSize.toUInt64
    fileRange := range.filter fun r => !r.isEmpty && decide (r.stop.toNat ≤ fileSize) }

end Pe

/-- `from_pe`. A header whose section has no address is a fault, unless its name is no text. -/
def Image.ofPe (f : Pe.File) (fileSize : Nat) : Guarded Image := do
  let sections ← Guarded.all (f.sections.filterMap (Pe.section? f.imageBase fileSize))
  return { format := .pe, sections }

end SignatureSearch
