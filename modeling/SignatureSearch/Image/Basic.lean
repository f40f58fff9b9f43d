/-
  SignatureSearch.Image.Basic — the section table of an executable file.

  Whatever the format, a section has a name, an address, a size, and the range of the file that
  holds its contents, if any does. `region?` is the contents of the first section of a name,
  based at the section's address.
-/

import SignatureSearch.Region

namespace SignatureSearch

structure FileRange where
  start : UInt64
  stop : UInt64
  deriving DecidableEq, Repr

namespace FileRange

/-- `size` bytes from `offset` on, unless the end is no 64-bit number. -/
def ofSize? (offset size : UInt64) : Option FileRange :=
  (Word.addExact offset size).map fun stop => ⟨offset, stop⟩

def isEmpty (r : FileRange) : Bool := r.stop ≤ r.start

theorem ofSize?_isSome_iff {offset size : UInt64} :
    (ofSize? offset size).isSome ↔ offset.toNat + size.toNat < UInt64.size := by
  unfold ofSize? Word.addExact
  split <;> simp_all

end FileRange

structure Section where
  name : String
  address : UInt64
  size : UInt64
  fileRange : Option FileRange
  deriving DecidableEq

inductive ImageFormat where
  | elf
  | pe
  | machO
  deriving DecidableEq, Repr

def ImageFormat.name : ImageFormat → String
  | .elf => "elf"
  | .pe => "pe"
  | .machO => "mach-o"

/-- A file of these kinds is known for what it is, but has no one section table. -/
inductive UnsupportedImage where
  | fatMachO
  | archive
  | unknown
  deriving DecidableEq, Repr

inductive ImageError where
  /-- Too short to tell a format. -/
  | tooShort
  | malformed
  | unsupported (kind : UnsupportedImage)
  /-- No error that is reported: a step that is not checked, where it goes wrong. -/
  | fault (cause : Fault)
  deriving DecidableEq, Repr

def ImageError.message : ImageError → String
  | .tooShort => "Malformed entity: Object is too small."
  | .malformed => "malformed image"
  | .unsupported .fatMachO => "unsupported image format: fat mach-o"
  | .unsupported .archive => "unsupported image format: archive"
  | .unsupported .unknown => "unsupported image format: unknown"
  | .fault .outOfBounds => "index out of bounds"
  | .fault .overflow => "attempt to add with overflow"

structure Image where
  format : ImageFormat
  sections : List Section
  deriving DecidableEq

namespace Image

def section? (i : Image) (name : String) : Option Section := i.sections.find? (·.name == name)

/-- `region`: the contents of a section in `bytes`, at the section's address. -/
def region? (i : Image) (bytes : Bytes) (name : String) : Option Region := do
  let s ← i.section? name
  let range ← s.fileRange
  let contents ← bytes.slice? range.start.toNat range.stop.toNat
  return ⟨contents, s.address⟩

theorem region?_eq_some_iff {i : Image} {bytes : Bytes} {name : String} {r : Region} :
    i.region? bytes name = some r ↔
      ∃ s range, i.section? name = some s ∧ s.fileRange = some range ∧
        bytes.slice? range.start.toNat range.stop.toNat = some r.bytes ∧ r.base = s.address := by
  unfold region?
  simp only [Option.bind_eq_bind, Option.bind_eq_some_iff, Option.pure_def, Option.some.injEq]
  constructor
  · intro h
    obtain ⟨s, named, range, stored, contents, cut, rfl⟩ := h
    exact ⟨s, range, named, stored, cut, rfl⟩
  · intro h
    obtain ⟨s, range, named, stored, cut, base⟩ := h
    exact ⟨s, named, range, stored, r.bytes, cut, by rw [← base]⟩

end Image

end SignatureSearch
