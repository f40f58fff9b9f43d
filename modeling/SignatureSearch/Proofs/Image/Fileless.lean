/-
  SignatureSearch.Proofs.Image.Fileless — sections of which the file holds nothing.

  Each format has its own mark for a section without contents: in ELF it is a type, for Windows a stored
  size of zero, and in Mach-O one of three kinds of sections that are filled with zeros when loaded. The
  offset such a header stores means nothing, and often it points at the headers. The rule for Mach-O
  (`from_macho`) looks for one of the three kinds only.

  Proved:
  (1) A marked section is granted contents just when it is of one of the two other kinds
      (`StoredHeader.IsFileless.hasContents_iff`).
  (2) A section without a file range yields nothing under its name: no region, and no scan that ends
      with matches (`Image.region?_of_fileRange`, `Program.result_scanFile_of_region?`).
  (3) In every image that is accepted, a marked section yields nothing, unless it is of one of the two
      other kinds and its size can be added to its offset (`Image.fileless_yields_nothing`). If it is,
      the bytes at its offset are taken for it, be they the headers
      (`a_large_zerofill_section_reads_the_headers`).
-/

import SignatureSearch.Proofs.Image.Headers
import SignatureSearch.Proofs.Program.FileScan

namespace SignatureSearch

/-! ## (1) Marks -/

namespace MachO.SectionHeader

/-- Filled with zeros, and may be large. -/
def kindLargeZerofill : UInt32 := 0xC

/-- Storage of threads that is filled with zeros. -/
def kindThreadZerofill : UInt32 := 0x12

end MachO.SectionHeader

namespace StoredHeader

open MachO.SectionHeader (kindZerofill kindLargeZerofill kindThreadZerofill)

/-- By its format the section has nothing in the file. -/
def IsFileless : StoredHeader → Prop
  | .elf _ h => h.type = Elf.SectionHeader.typeNobits
  | .pe _ _ h => h.rawSize = 0
  | .machO h => h.kind = kindZerofill ∨ h.kind = kindLargeZerofill ∨ h.kind = kindThreadZerofill

/-- Of a kind that is filled with zeros, and not of the one that is looked for. -/
def IsOverlooked : StoredHeader → Prop
  | .elf _ _ => False
  | .pe _ _ _ => False
  | .machO h => h.kind = kindLargeZerofill ∨ h.kind = kindThreadZerofill

instance : DecidablePred IsFileless
  | .elf _ h => inferInstanceAs (Decidable (h.type = Elf.SectionHeader.typeNobits))
  | .pe _ _ h => inferInstanceAs (Decidable (h.rawSize = 0))
  | .machO h => inferInstanceAs (Decidable
      (h.kind = kindZerofill ∨ h.kind = kindLargeZerofill ∨ h.kind = kindThreadZerofill))

instance : DecidablePred IsOverlooked
  | .elf _ _ => .isFalse not_false
  | .pe _ _ _ => .isFalse not_false
  | .machO h => inferInstanceAs (Decidable (h.kind = kindLargeZerofill ∨ h.kind = kindThreadZerofill))

theorem storedSize_of_rawSize {h : Pe.SectionHeader} (hraw : h.rawSize = 0) : h.storedSize = 0 := by
  unfold Pe.SectionHeader.storedSize
  rw [hraw]
  by_cases e : (h.virtualSize == 0) = true
  · rw [if_pos e]
  · rw [if_neg e]
    exact if_pos (UInt32.le_iff_toNat_le.mpr (Nat.zero_le _))

theorem IsFileless.hasContents_iff {h : StoredHeader} (marked : h.IsFileless) : h.HasContents ↔ h.IsOverlooked := by
  cases h with
  | elf names h =>
    have htype : h.type = Elf.SectionHeader.typeNobits := marked
    simp [HasContents, IsOverlooked, Elf.SectionHeader.isNobits, htype]
  | pe imageBase fileSize h =>
    have hsize : h.storedSize = 0 := storedSize_of_rawSize marked
    simp [HasContents, IsOverlooked, hsize]
  | machO h =>
    have hzerofill : h.isZerofill = false ↔ h.kind ≠ kindZerofill := beq_eq_false_iff_ne
    show h.isZerofill = false ↔ h.kind = kindLargeZerofill ∨ h.kind = kindThreadZerofill
    rw [hzerofill]
    rcases marked with hkind | hkind | hkind <;> rw [hkind] <;> decide

end StoredHeader

/-! ## (2) Sections without a file range -/

theorem Image.region?_of_fileRange {i : Image} {name : String} {s : Section} (named : i.section? name = some s)
    (unplaced : s.fileRange = none) (contents : Bytes) : i.region? contents name = none := by
  unfold region?
  rw [named]
  simp [unplaced]

theorem Program.result_scanFile_of_region? {fs : FileSystem} {path name : String} {bytes : Bytes} {i : Image}
    {s : Section} (viewed : fs.view path = .ok bytes) (parsed : Image.parse bytes = .ok i)
    (named : i.section? name = some s) (regionless : i.region? bytes name = none) (scanner : Scanner) (all : Bool)
    (before : List Log.Event) :
    (scanFile fs path scanner all (some name)).result before = .error .noContents := by
  unfold scanFile contents sectionContents Program.image
  simp only [viewed, pure_bind, Image.filled_of_parse parsed, Bool.false_eq_true, if_false, parsed, named, regionless]
  rfl

/-- The section has no place in the file. Under its name there is no region in any bytes, and every scan
of a file with these bytes fails. -/
structure YieldsNothing (bytes : Bytes) (i : Image) (s : Section) : Prop where
  unplaced : s.fileRange = none
  regionless : ∀ name, i.section? name = some s → ∀ contents, i.region? contents name = none
  unscanned : ∀ name, i.section? name = some s → ∀ (fs : FileSystem) (path : String), fs.view path = .ok bytes →
    ∀ (scanner : Scanner) (all : Bool) (before : List Log.Event),
      (Program.scanFile fs path scanner all (some name)).result before = .error .noContents

theorem yieldsNothing_iff {bytes : Bytes} {i : Image} {s : Section} (parsed : Image.parse bytes = .ok i) :
    YieldsNothing bytes i s ↔ s.fileRange = none := by
  constructor
  · intro h
    exact h.unplaced
  · intro unplaced
    refine ⟨unplaced, fun name named => Image.region?_of_fileRange named unplaced, ?_⟩
    intro name named fs path viewed
    exact Program.result_scanFile_of_region? viewed parsed named (Image.region?_of_fileRange named unplaced bytes)

/-! ## (3) Marked sections of an image -/

/-- Every section of an image is that of a stored header, and if the header marks it as having nothing in
the file then it yields nothing, but for sections of the overlooked kinds whose end is a 64-bit number. -/
theorem Image.fileless_yields_nothing {bytes : Bytes} {i : Image} (accepted : Image.parse bytes = .ok i) :
    ∃ x, Executable.read? bytes = some x ∧ i.sections = x.headers.filterMap StoredHeader.section? ∧
      ∀ h ∈ x.headers, h.IsFileless → ∀ s, h.section? = some s →
        (YieldsNothing bytes i s ↔ ¬(h.IsOverlooked ∧ h.stop < UInt64.size)) := by
  obtain ⟨x, hread, made⟩ := Image.parse_eq_ok_iff.mp accepted
  refine ⟨x, hread, Executable.sections_image made, ?_⟩
  intro h _ marked s made
  rw [yieldsNothing_iff accepted, StoredHeader.fileRange_eq_none_iff made, marked.hasContents_iff]

/-- An executable with one section of a kind. Its eight bytes are to be loaded at address 16, and its offset
is that of the load command. -/
def imageOfKind (kind : UInt8) : Bytes := .ofList <|
  [0xCF, 0xFA, 0xED, 0xFE, 7, 0, 0, 1] ++ Program.field 3 ++ Program.field 2 ++ Program.field 1 ++ Program.field 152 ++
  List.replicate 8 0 ++
  Program.field 0x19 ++ Program.field 152 ++ [0x5F, 0x5F, 0x44] ++ List.replicate 17 0 ++ Program.field 1 ++
  [0, 0x10] ++ List.replicate 22 0 ++ Program.field 7 ++ Program.field 5 ++ Program.field 1 ++ Program.field 0 ++
  [0x5F, 0x5F, 0x73] ++ List.replicate 13 0 ++ [0x5F, 0x5F, 0x44] ++ List.replicate 13 0 ++ Program.field 16 ++
  Program.field 0 ++ Program.field 8 ++ Program.field 0 ++ Program.field 32 ++ List.replicate 12 0 ++
  Program.field kind ++ List.replicate 12 0

def headerOfKind (kind : UInt8) : MachO.SectionHeader := ⟨"__s", 16, 8, 32, kind.toUInt32⟩

theorem detect?_imageOfKind {kind : UInt8} (h : kind = 1 ∨ kind = 0xC) :
    Container.detect? (imageOfKind kind) = some (.machO ⟨true, .little⟩) := by
  rcases h with rfl | rfl <;> decide +kernel

theorem sections_imageOfKind {kind : UInt8} (h : kind = 1 ∨ kind = 0xC) :
    (MachO.File.read? ⟨true, .little⟩ (imageOfKind kind)).map (·.sections) = some [headerOfKind kind] := by
  rcases h with rfl | rfl <;> decide +kernel

theorem read?_imageOfKind {kind : UInt8} (h : kind = 1 ∨ kind = 0xC) :
    Executable.read? (imageOfKind kind) = some (.machO ⟨[headerOfKind kind]⟩) := by
  obtain ⟨file, hfile, hsections⟩ := Option.map_eq_some_iff.mp (sections_imageOfKind h)
  rw [Executable.read?_machO (detect?_imageOfKind h) hfile, ← hsections]

theorem parse_imageOfKind {kind : UInt8} (h : kind = 1 ∨ kind = 0xC) :
    Image.parse (imageOfKind kind) = .ok (.ofMachO ⟨[headerOfKind kind]⟩) :=
  Image.parse_eq_ok_iff.mpr ⟨_, read?_imageOfKind h, rfl⟩

/-- A byte that stands at the offset of the section. -/
def sizeByte : Scanner := { signature := ⟨[.byte 0x98], nofun⟩ }

/-- The kind that is looked for. -/
theorem a_zerofill_section_yields_nothing :
    Image.parse (imageOfKind 1) = .ok (.ofMachO ⟨[headerOfKind 1]⟩) ∧
    (Image.ofMachO ⟨[headerOfKind 1]⟩).sections = [⟨"__s", 16, 8, none⟩] ∧
    YieldsNothing (imageOfKind 1) (.ofMachO ⟨[headerOfKind 1]⟩) ⟨"__s", 16, 8, none⟩ ∧
    (Program.scanFile { files := [(["f"], imageOfKind 1)] } "f" sizeByte true (some "__s")).result [] =
      .error .noContents := by
  have accepted := parse_imageOfKind (.inl rfl : (1 : UInt8) = 1 ∨ _)
  obtain ⟨x, hread, -, hall⟩ := Image.fileless_yields_nothing accepted
  obtain rfl := Option.some.inj ((read?_imageOfKind (.inl rfl)).symm.trans hread)
  have hnothing := (hall (.machO (headerOfKind 1)) (List.mem_singleton_self _) (by decide) ⟨"__s", 16, 8, none⟩ rfl).mpr
    (by decide)
  exact ⟨accepted, rfl, hnothing, hnothing.unscanned "__s" rfl _ "f" (Program.view_of_single _) _ _ _⟩

/-- Another kind: the first eight bytes of the load command are taken for the section, and a scan of it reports
a match in them. -/
theorem a_large_zerofill_section_reads_the_headers :
    Image.parse (imageOfKind 0xC) = .ok (.ofMachO ⟨[headerOfKind 0xC]⟩) ∧
    Executable.read? (imageOfKind 0xC) = some (.machO ⟨[headerOfKind 0xC]⟩) ∧
    StoredHeader.IsFileless (.machO (headerOfKind 0xC)) ∧
    StoredHeader.section? (.machO (headerOfKind 0xC)) = some ⟨"__s", 16, 8, some ⟨32, 40⟩⟩ ∧
    ((Image.ofMachO ⟨[headerOfKind 0xC]⟩).region? (imageOfKind 0xC) "__s").map (fun r => (r.bytes.toList, r.base)) =
      some ([0x19, 0, 0, 0, 0x98, 0, 0, 0], 16) ∧
    (Program.scanFile { files := [(["f"], imageOfKind 0xC)] } "f" sizeByte true (some "__s")).result [] =
      .ok [⟨4, 20, some 36⟩] := by
  have accepted := parse_imageOfKind (.inr rfl : (0xC : UInt8) = 1 ∨ _)
  have hregion : ((Image.ofMachO ⟨[headerOfKind 0xC]⟩).region? (imageOfKind 0xC) "__s").map
      (fun r => (r.bytes.toList, r.base)) = some ([0x19, 0, 0, 0, 0x98, 0, 0, 0], 16) := by decide +kernel
  have opens : Program.SectionOpens { files := [(["f"], imageOfKind 0xC)] } "f" (imageOfKind 0xC) "__s"
      ⟨"__s", 16, 8, some ⟨32, 40⟩⟩ ⟨32, 40⟩ := by
    refine ⟨Program.view_of_single _, ⟨_, accepted, rfl, ?_⟩, rfl⟩
    rw [← Option.isSome_map, hregion]
    rfl
  obtain ⟨contents, cut, hscan⟩ := opens.result_scanFile sizeByte true []
  have hwhole : Program.hitsIn sizeByte true ⟨imageOfKind 0xC, 0⟩ (some 0) = [⟨20, 20, some 20⟩, ⟨36, 36, some 36⟩] := by
    decide +kernel
  rw [Program.hitsIn_cut rfl _ cut, hwhole] at hscan
  exact ⟨accepted, read?_imageOfKind (.inr rfl), by decide, rfl, hregion, hscan⟩

end SignatureSearch
