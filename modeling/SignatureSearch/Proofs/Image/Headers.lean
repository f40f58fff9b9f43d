/-
  SignatureSearch.Proofs.Image.Headers — an image and the headers that its file stores.

  Each of the three formats stores section headers of its own and has a rule of its own from a header to
  a section (`from_elf`, `from_pe`, `from_macho`). A `StoredHeader` is a header of any of them, with
  what else of the file the rule looks at; an `Executable` is what the bytes of an image are read as.

  Proved:
  (1) A file range ends at the exact sum of its start and its size, and there is none where that is
      no 64-bit number (`FileRange.ofSize?_eq_some_iff`, `ofSize?_eq_none_iff`).
  (2) The section of a header has a file range just where the format grants it contents and they end
      at a 64-bit number, and the range is then where they are stored (`fileRange_eq_some_iff`,
      `fileRange_eq_none_iff`). Its address is the header's (`address_toNat`).
  (3) The images are those of the executables that can be read without a fault
      (`Image.parse_eq_ok_iff`, `Image.parse_eq_fault_iff`), and the sections of an image are what the
      stored headers stand for, in order (`sections_image`).
-/

import SignatureSearch.Image.Detect

namespace SignatureSearch

/-! ## (1) File ranges -/

namespace FileRange

variable {offset size : UInt64} {range : FileRange}

theorem ofSize?_eq_some_iff :
    ofSize? offset size = some range ↔ range.start = offset ∧ range.stop.toNat = offset.toNat + size.toNat := by
  unfold ofSize?
  rw [Option.map_eq_some_iff]
  constructor
  · intro h
    obtain ⟨stop, hstop, rfl⟩ := h
    exact ⟨rfl, Word.addExact_eq_some_iff.mp hstop⟩
  · intro h
    obtain ⟨rfl, hstop⟩ := h
    exact ⟨range.stop, Word.addExact_eq_some_iff.mpr hstop, rfl⟩

theorem unless_ofSize?_eq_some_iff {absent : Bool} :
    (if absent then none else ofSize? offset size) = some range ↔
      absent = false ∧ range.start = offset ∧ range.stop.toNat = offset.toNat + size.toNat := by
  cases absent
  · rw [if_neg Bool.false_ne_true, ofSize?_eq_some_iff, eq_self_iff_true, true_and]
  · simp

theorem filter_ofSize?_eq_some_iff {fileSize : Nat} :
    (ofSize? offset size).filter (fun r => !r.isEmpty && decide (r.stop.toNat ≤ fileSize)) = some range ↔
      (0 < size.toNat ∧ offset.toNat + size.toNat ≤ fileSize) ∧
        range.start = offset ∧ range.stop.toNat = offset.toNat + size.toNat := by
  rw [Option.filter_eq_some_iff, ofSize?_eq_some_iff]
  have hkept : ∀ r : FileRange, r.start = offset → r.stop.toNat = offset.toNat + size.toNat →
      ((!r.isEmpty && decide (r.stop.toNat ≤ fileSize)) = true ↔
        0 < size.toNat ∧ offset.toNat + size.toNat ≤ fileSize) := by
    intro r hstart hstop
    simp only [isEmpty, Bool.and_eq_true, Bool.not_eq_true', decide_eq_false_iff_not, decide_eq_true_eq,
      UInt64.le_iff_toNat_le, hstart, hstop]
    omega
  constructor
  · intro hr
    exact ⟨(hkept range hr.1.1 hr.1.2).mp hr.2, hr.1⟩
  · intro hr
    exact ⟨hr.2, (hkept range hr.2.1 hr.2.2).mpr hr.1⟩

theorem ofSize?_eq_none_iff : ofSize? offset size = none ↔ UInt64.size ≤ offset.toNat + size.toNat := by
  rw [← Option.not_isSome_iff_eq_none, ofSize?_isSome_iff, Nat.not_lt]

end FileRange

/-! ## (2) From a header to a section -/

/-- A section header as it is stored. -/
inductive StoredHeader where
  /-- The names of the sections stand in a table of their own. -/
  | elf (names : StringTable) (header : Elf.SectionHeader)
  | pe (imageBase : UInt64) (fileSize : Nat) (header : Pe.SectionHeader)
  | machO (header : MachO.SectionHeader)

namespace StoredHeader

/-- The section that a header stands for, by the rule of its format. -/
def section? : StoredHeader → Option Section
  | .elf names h => Elf.section? names h
  | .pe imageBase fileSize h => (Pe.section? imageBase fileSize h).bind Except.toOption
  | .machO h => some (MachO.toSection h)

/-- Where the contents are stored, if there are any. -/
def offset : StoredHeader → UInt64
  | .elf _ h => h.offset
  | .pe _ _ h => h.rawOffset.toUInt64
  | .machO h => h.offset.toUInt64

/-- How many bytes of the file are contents, if there are any. -/
def size : StoredHeader → UInt64
  | .elf _ h => h.size
  | .pe _ _ h => h.storedSize.toUInt64
  | .machO h => h.size

/-- The position behind the contents, which may be no 64-bit number. -/
def stop (h : StoredHeader) : Nat := h.offset.toNat + h.size.toNat

/-- The address that the header tells, which may be no 64-bit number. -/
def address : StoredHeader → Nat
  | .elf _ h => if h.isAlloc && !h.isTls then h.address.toNat else 0
  | .pe imageBase _ h => imageBase.toNat + h.virtualAddress.toNat
  | .machO h => h.address.toNat

/-- The format's rule grants the section contents. -/
def HasContents : StoredHeader → Prop
  | .elf _ h => h.isNobits = false
  | .pe _ fileSize h => 0 < h.storedSize.toNat ∧ h.rawOffset.toNat + h.storedSize.toNat ≤ fileSize
  | .machO h => h.isZerofill = false

variable {h : StoredHeader} {s : Section} {range : FileRange}

theorem elf_section?_eq_some {names : StringTable} {h : Elf.SectionHeader} (made : Elf.section? names h = some s) :
    s.name ≠ "" ∧ s.fileRange = (if h.isNobits then none else FileRange.ofSize? h.offset h.size) ∧
      s.address = if h.isAlloc && !h.isTls then h.address else 0 := by
  simp only [Elf.section?, Option.bind_eq_bind, Option.bind_eq_some_iff, Option.pure_def] at made
  obtain ⟨name, -, made⟩ := made
  by_cases e : name.isEmpty = true
  · rw [if_pos e] at made
    cases made
  · rw [if_neg e, Option.some.injEq] at made
    obtain rfl := made
    exact ⟨fun hempty => e (String.isEmpty_iff.mpr hempty), rfl, rfl⟩

theorem pe_section?_eq {imageBase : UInt64} {fileSize : Nat} {h : Pe.SectionHeader} {name : String}
    (named : h.name = some name) : Pe.section? imageBase fileSize h =
      some ((Guarded.addWord imageBase h.virtualAddress.toUInt64).map fun address =>
        ⟨name, address, h.virtualSize.toUInt64,
          (FileRange.ofSize? h.rawOffset.toUInt64 h.storedSize.toUInt64).filter
            fun r => !r.isEmpty && decide (r.stop.toNat ≤ fileSize)⟩) := by
  rw [Pe.section?, named]
  rfl

theorem pe_section?_eq_some {imageBase : UInt64} {fileSize : Nat} {h : Pe.SectionHeader}
    (made : Pe.section? imageBase fileSize h = some (.ok s)) :
    s.fileRange = (FileRange.ofSize? h.rawOffset.toUInt64 h.storedSize.toUInt64).filter
        (fun r => !r.isEmpty && decide (r.stop.toNat ≤ fileSize)) ∧
      s.address.toNat = imageBase.toNat + h.virtualAddress.toNat := by
  cases named : h.name with
  | none =>
    rw [Pe.section?, named] at made
    cases made
  | some name =>
    rw [pe_section?_eq named, Option.some.injEq] at made
    cases sum : Guarded.addWord imageBase h.virtualAddress.toUInt64 with
    | error cause =>
      rw [sum] at made
      cases made
    | ok address =>
      rw [sum] at made
      cases made
      exact ⟨rfl, UInt32.toNat_toUInt64 _ ▸ Guarded.addWord_eq_ok_iff.mp sum⟩

theorem pe_section?_eq_fault_iff {imageBase : UInt64} {fileSize : Nat} {h : Pe.SectionHeader} {cause : Fault} :
    Pe.section? imageBase fileSize h = some (.error cause) ↔
      cause = .overflow ∧ h.name.isSome ∧ UInt64.size ≤ imageBase.toNat + h.virtualAddress.toNat := by
  cases named : h.name with
  | none =>
    rw [Pe.section?, named]
    exact ⟨nofun, nofun⟩
  | some name =>
    have sum : Guarded.addWord imageBase h.virtualAddress.toUInt64 = .error cause ↔ _ := Guarded.addWord_eq_error_iff
    rw [UInt32.toNat_toUInt64] at sum
    rw [pe_section?_eq named, Option.some.injEq, Option.isSome_some, eq_self_iff_true, true_and, ← sum]
    cases Guarded.addWord imageBase h.virtualAddress.toUInt64 with
    | error cause' => exact ⟨fun fault => by cases fault; rfl, fun fault => by cases fault; rfl⟩
    | ok address => exact ⟨nofun, nofun⟩

theorem section?_pe_eq_some_iff {imageBase : UInt64} {fileSize : Nat} {h : Pe.SectionHeader} :
    (StoredHeader.pe imageBase fileSize h).section? = some s ↔ Pe.section? imageBase fileSize h = some (.ok s) := by
  show (Pe.section? imageBase fileSize h).bind Except.toOption = some s ↔ _
  cases Pe.section? imageBase fileSize h with
  | none => exact ⟨nofun, nofun⟩
  | some made => cases made <;> simp [Except.toOption]

theorem fileRange_eq_some_iff (made : h.section? = some s) :
    s.fileRange = some range ↔ h.HasContents ∧ range.start = h.offset ∧ range.stop.toNat = h.stop := by
  cases h with
  | elf names h =>
    obtain ⟨-, hrange, -⟩ := elf_section?_eq_some made
    rw [hrange, FileRange.unless_ofSize?_eq_some_iff]
    rfl
  | pe imageBase fileSize h =>
    rw [(pe_section?_eq_some (section?_pe_eq_some_iff.mp made)).1, FileRange.filter_ofSize?_eq_some_iff,
      UInt32.toNat_toUInt64, UInt32.toNat_toUInt64]
    rfl
  | machO h =>
    obtain rfl := Option.some.inj made
    exact FileRange.unless_ofSize?_eq_some_iff

theorem fileRange_eq_none_iff (made : h.section? = some s) :
    s.fileRange = none ↔ ¬(h.HasContents ∧ h.stop < UInt64.size) := by
  rw [Option.eq_none_iff_forall_not_mem]
  constructor
  · intro hnone hheld
    have hstop : (UInt64.ofNat h.stop).toNat = h.stop := UInt64.toNat_ofNat_of_lt' hheld.2
    exact hnone ⟨h.offset, UInt64.ofNat h.stop⟩ ((fileRange_eq_some_iff made).mpr ⟨hheld.1, rfl, hstop⟩)
  · intro hnone range hrange
    obtain ⟨hcontents, -, hstop⟩ := (fileRange_eq_some_iff made).mp hrange
    exact hnone ⟨hcontents, hstop ▸ range.stop.toNat_lt⟩

theorem address_toNat (made : h.section? = some s) : s.address.toNat = h.address := by
  cases h with
  | elf names h =>
    obtain ⟨-, -, haddress⟩ := elf_section?_eq_some made
    rw [haddress]
    show _ = if _ then _ else _
    cases h.isAlloc && !h.isTls <;> rfl
  | pe imageBase fileSize h => exact (pe_section?_eq_some (section?_pe_eq_some_iff.mp made)).2
  | machO h =>
    obtain rfl := Option.some.inj made
    rfl

end StoredHeader

/-! ## (3) From the bytes to the headers -/

theorem Image.ofPe_eq_ok_iff {file : Pe.File} {fileSize : Nat} {i : Image} : ofPe file fileSize = .ok i ↔
    i.format = .pe ∧ file.sections.filterMap (Pe.section? file.imageBase fileSize) = i.sections.map .ok := by
  rw [ofPe, ← Guarded.all_eq_ok_iff]
  cases Guarded.all (file.sections.filterMap (Pe.section? file.imageBase fileSize)) with
  | error cause => exact ⟨nofun, nofun⟩
  | ok sections =>
    constructor
    · intro made
      cases made
      exact ⟨rfl, rfl⟩
    · intro made
      obtain ⟨format, listed⟩ := made
      cases i
      cases format
      cases listed
      rfl

theorem Image.ofPe_eq_error_iff {file : Pe.File} {fileSize : Nat} {cause : Fault} :
    ofPe file fileSize = .error cause ↔ cause = .overflow ∧
      ∃ h ∈ file.sections, h.name.isSome ∧ UInt64.size ≤ file.imageBase.toNat + h.virtualAddress.toNat := by
  rw [ofPe]
  cases steps : Guarded.all (file.sections.filterMap (Pe.section? file.imageBase fileSize)) with
  | error cause' =>
    obtain ⟨h, hh, fault⟩ := List.mem_filterMap.mp (Guarded.mem_of_all_eq_error steps)
    obtain ⟨rfl, high⟩ := StoredHeader.pe_section?_eq_fault_iff.mp fault
    constructor
    · intro fault
      cases fault
      exact ⟨rfl, h, hh, high⟩
    · intro fault
      rw [fault.1]
      rfl
  | ok sections =>
    refine ⟨nofun, fun fault => ?_⟩
    obtain ⟨rfl, h, hh, high⟩ := fault
    have fault : Pe.section? file.imageBase fileSize h = some (.error .overflow) :=
      StoredHeader.pe_section?_eq_fault_iff.mpr ⟨rfl, high⟩
    have hmem := List.mem_filterMap.mpr ⟨h, hh, fault⟩
    rw [Guarded.all_eq_ok_iff.mp steps] at hmem
    obtain ⟨_, -, hok⟩ := List.mem_map.mp hmem
    cases hok

inductive Executable where
  | elf (file : Elf.File)
  | pe (file : Pe.File) (fileSize : Nat)
  | machO (file : MachO.File)

namespace Executable

def read? (bytes : Bytes) : Option Executable :=
  match Container.detect? bytes with
  | some .elf => (Elf.File.read? bytes).map .elf
  | some .pe => (Pe.File.read? bytes).map (.pe · bytes.size)
  | some (.machO kind) => (MachO.File.read? kind bytes).map .machO
  | _ => none

def image : Executable → Guarded Image
  | .elf file => .ok (.ofElf file)
  | .pe file fileSize => Image.ofPe file fileSize
  | .machO file => .ok (.ofMachO file)

def headers : Executable → List StoredHeader
  | .elf file => file.sections.map (.elf file.names)
  | .pe file fileSize => file.sections.map (.pe file.imageBase fileSize)
  | .machO file => file.sections.map .machO

variable {bytes : Bytes}

theorem read?_pe {file : Pe.File} (detected : Container.detect? bytes = some .pe)
    (hfile : Pe.File.read? bytes = some file) : read? bytes = some (.pe file bytes.size) := by
  simp [read?, detected, hfile]

theorem read?_machO {kind : MachO.Kind} {file : MachO.File} (detected : Container.detect? bytes = some (.machO kind))
    (hfile : MachO.File.read? kind bytes = some file) : read? bytes = some (.machO file) := by
  simp [read?, detected, hfile]

theorem elf_of_read? {file : Elf.File} (h : read? bytes = some (.elf file)) : Elf.File.read? bytes = some file := by
  unfold read? at h
  split at h
  · obtain ⟨file', hfile, made⟩ := Option.map_eq_some_iff.mp h
    cases made
    exact hfile
  · simp at h
  · simp at h
  · cases h

theorem pe_of_read? {file : Pe.File} {fileSize : Nat} (h : read? bytes = some (.pe file fileSize)) :
    Pe.File.read? bytes = some file ∧ bytes.size = fileSize := by
  unfold read? at h
  split at h
  · simp at h
  · obtain ⟨file', hfile, made⟩ := Option.map_eq_some_iff.mp h
    cases made
    exact ⟨hfile, rfl⟩
  · simp at h
  · cases h

theorem sections_image {x : Executable} {i : Image} (made : x.image = .ok i) :
    i.sections = x.headers.filterMap StoredHeader.section? := by
  cases x with
  | elf file =>
    cases made
    show file.sections.filterMap _ = _
    rw [headers, List.filterMap_map]
    rfl
  | pe file fileSize =>
    have listed := (Image.ofPe_eq_ok_iff.mp made).2
    have hsections := congrArg (List.filterMap Except.toOption) listed
    rw [List.filterMap_filterMap, List.filterMap_map] at hsections
    rw [headers, List.filterMap_map]
    exact (hsections.trans List.filterMap_some).symm
  | machO file =>
    cases made
    show file.sections.map _ = _
    rw [headers, List.filterMap_map, ← List.filterMap_eq_map]
    rfl

theorem exists_elf_of_format {x : Executable} {i : Image} (made : x.image = .ok i) (format : i.format = .elf) :
    ∃ file, x = .elf file := by
  cases x with
  | elf file => exact ⟨file, rfl⟩
  | pe file fileSize =>
    rw [(Image.ofPe_eq_ok_iff.mp made).1] at format
    cases format
  | machO file =>
    cases made
    cases format

end Executable

namespace Image

theorem mapError_fault_inj {a b : Guarded Image} :
    a.mapError ImageError.fault = b.mapError ImageError.fault ↔ a = b := by
  refine ⟨fun h => ?_, fun h => congrArg _ h⟩
  cases a with
  | ok i =>
    cases b with
    | ok j => exact congrArg Except.ok (Except.ok.inj h)
    | error cause => cases h
  | error cause =>
    cases b with
    | ok j => cases h
    | error cause' => exact congrArg Except.error (ImageError.fault.inj (Except.error.inj h))

variable {bytes : Bytes} (answer : Guarded Image)

/-- An error that is reported is no answer of an executable. -/
theorem refused_iff {e : ImageError} (reported : ∀ cause, e ≠ .fault cause) :
    .error e = answer.mapError .fault ↔ ∃ x : Executable, none = some x ∧ x.image = answer := by
  refine ⟨fun h => ?_, nofun⟩
  cases answer with
  | ok i => cases h
  | error cause => exact absurd (Except.error.inj h) (reported cause)

theorem ofRead_eq_iff {α : Type} (make : α → Executable) {file : Option α} :
    ofRead (fun a => (make a).image) file = answer.mapError .fault ↔
      ∃ x, file.map make = some x ∧ x.image = answer := by
  cases file with
  | none => exact refused_iff answer (e := .malformed) nofun
  | some a =>
    rw [Option.map_some, ofRead, mapError_fault_inj]
    simp only [Option.some.injEq, exists_eq_left']

/-- A file is read as an executable, and the answer is what that one makes; or it is not, and an error is reported. -/
theorem parse_eq_iff : parse bytes = answer.mapError .fault ↔ ∃ x, Executable.read? bytes = some x ∧ x.image = answer := by
  unfold parse Executable.read?
  cases Container.detect? bytes with
  | none => exact refused_iff answer nofun
  | some container =>
    cases container with
    | elf => exact ofRead_eq_iff answer .elf
    | pe => exact ofRead_eq_iff answer (.pe · bytes.size)
    | machO kind => exact ofRead_eq_iff answer .machO
    | object => cases Pe.objectReads bytes <;> exact refused_iff answer nofun
    | archive => cases Archive.isSound bytes <;> exact refused_iff answer nofun
    | fatMachO => exact refused_iff answer nofun
    | unknown => exact refused_iff answer nofun

theorem parse_eq_ok_iff {image : Image} :
    parse bytes = .ok image ↔ ∃ x, Executable.read? bytes = some x ∧ x.image = .ok image :=
  parse_eq_iff (.ok image)

theorem parse_eq_fault_iff {cause : Fault} :
    parse bytes = .error (.fault cause) ↔ ∃ x, Executable.read? bytes = some x ∧ x.image = .error cause :=
  parse_eq_iff (.error cause)

end Image

end SignatureSearch
