/-
  SignatureSearch.Proofs.Image.Exact — the sums in a section table.

  Two things are added up for a section table: the end of a section's contents, in `file_range`, and for
  Windows the address of a section, which counts from the image base, in `from_pe`. The fields come from the
  file and may be as large as they can be. The first sum is checked: where it is no 64-bit number there is no
  file range. The second is not, and there it is a fault.

  In every image that is accepted, a section's file range ends at the exact sum, there is none where that is
  no 64-bit number, and its address is the one that the header tells. The reading of a file faults just if it
  is a Windows executable with a named section whose address is no 64-bit number
  (`Image.sums_are_exact_or_fault`), as one behind the last address is (`a_high_image_base_is_a_fault`).
-/

import SignatureSearch.Proofs.Image.Headers

namespace SignatureSearch

/-- The end of a range is checked. Every section of an image is that of a stored header: the range, where
there is one, ends where the header says, and the address is the one that the header tells. Where an address
would be no 64-bit number there is no image but a fault, and there is no other fault. -/
theorem Image.sums_are_exact_or_fault (bytes : Bytes) :
    (∀ offset size, FileRange.ofSize? offset size = none ↔ UInt64.size ≤ offset.toNat + size.toNat) ∧
    (∀ i, Image.parse bytes = .ok i →
      ∃ x, Executable.read? bytes = some x ∧ i.sections = x.headers.filterMap StoredHeader.section? ∧
        ∀ h ∈ x.headers, ∀ s, h.section? = some s →
          (∀ range, s.fileRange = some range → range.start = h.offset ∧ range.stop.toNat = h.stop) ∧
          (UInt64.size ≤ h.stop → s.fileRange = none) ∧ s.address.toNat = h.address) ∧
    ∀ cause, Image.parse bytes = .error (.fault cause) ↔ cause = .overflow ∧
      ∃ file, Executable.read? bytes = some (.pe file bytes.size) ∧
        ∃ h ∈ file.sections, h.name.isSome ∧ UInt64.size ≤ file.imageBase.toNat + h.virtualAddress.toNat := by
  refine ⟨fun offset size => FileRange.ofSize?_eq_none_iff, fun i accepted => ?_, fun cause => ?_⟩
  · obtain ⟨x, hread, made⟩ := Image.parse_eq_ok_iff.mp accepted
    refine ⟨x, hread, Executable.sections_image made, fun h _ s made => ?_⟩
    refine ⟨fun range hrange => ((StoredHeader.fileRange_eq_some_iff made).mp hrange).2, fun hstop => ?_,
      StoredHeader.address_toNat made⟩
    exact (StoredHeader.fileRange_eq_none_iff made).mpr fun hheld => Nat.not_lt.mpr hstop hheld.2
  · rw [Image.parse_eq_fault_iff]
    constructor
    · intro fault
      obtain ⟨x, hread, hfault⟩ := fault
      cases x with
      | elf file => cases hfault
      | machO file => cases hfault
      | pe file fileSize =>
        obtain ⟨-, rfl⟩ := Executable.pe_of_read? hread
        obtain ⟨hcause, high⟩ := Image.ofPe_eq_error_iff.mp hfault
        exact ⟨hcause, file, hread, high⟩
    · intro fault
      obtain ⟨hcause, file, hread, high⟩ := fault
      exact ⟨_, hread, Image.ofPe_eq_error_iff.mpr ⟨hcause, high⟩⟩

/-- The bytes of a word, the lowest one first. -/
def wordBytes (w : UInt32) : List UInt8 := [w.toUInt8, (w >>> 8).toUInt8, (w >>> 16).toUInt8, (w >>> 24).toUInt8]

/-- An executable whose image base is the last multiple of 64 KiB. Its one section has no contents and is to be loaded
at this distance from the base. -/
def highImage (distance : UInt32) : Bytes := .ofList <|
  [0x4D, 0x5A] ++ List.replicate 58 0 ++ [0x80] ++ List.replicate 67 0 ++
  [0x50, 0x45, 0, 0, 0x64, 0x86, 1, 0] ++ List.replicate 12 0 ++ [0x70, 0, 0x22, 0] ++
  [0x0B, 2, 14] ++ List.replicate 21 0 ++
  [0xFFFF0000, 0xFFFFFFFF, 0x1000, 0x200, 6, 0, 6, 0, 0x11000, 0x200, 0, 3].flatMap wordBytes ++ List.replicate 40 0 ++
  [0x2E, 0x74, 0x65, 0x78, 0x74, 0, 0, 0] ++ [16, distance, 0, 0, 0, 0, 0, 0x60000020].flatMap wordBytes

def highFile (distance : UInt32) : Pe.File := ⟨0xFFFFFFFFFFFF0000, [⟨some ".text", 16, distance, 0, 0⟩]⟩

def highHeader (distance : UInt32) : StoredHeader := .pe 0xFFFFFFFFFFFF0000 304 ⟨some ".text", 16, distance, 0, 0⟩

theorem detect?_highImage {distance : UInt32} (h : distance = 0xF000 ∨ distance = 0x10000) :
    Container.detect? (highImage distance) = some .pe := by
  rcases h with rfl | rfl <;> decide +kernel

theorem fields_highImage {distance : UInt32} (h : distance = 0xF000 ∨ distance = 0x10000) :
    (Pe.File.read? (highImage distance)).map (fun file => (file.imageBase, file.sections)) =
      some ((highFile distance).imageBase, (highFile distance).sections) := by
  rcases h with rfl | rfl <;> decide +kernel

theorem read?_highImage {distance : UInt32} (h : distance = 0xF000 ∨ distance = 0x10000) :
    Executable.read? (highImage distance) = some (.pe (highFile distance) 304) := by
  obtain ⟨file, hread, hfields⟩ := Option.map_eq_some_iff.mp (fields_highImage h)
  have hfile : file = highFile distance := by
    obtain ⟨hbase, hsections⟩ := Prod.mk.inj hfields
    cases file
    exact congr (congrArg Pe.File.mk hbase) hsections
  have hsize : (highImage distance).size = 304 := by
    rcases h with rfl | rfl <;> decide +kernel
  rw [Executable.read?_pe (detect?_highImage h) hread, hfile, hsize]

/-- In the last page below 2⁶⁴ the address is exact. -/
theorem the_last_page_has_its_address :
    Image.parse (highImage 0xF000) = .ok ⟨.pe, [⟨".text", 0xFFFFFFFFFFFFF000, 16, none⟩]⟩ ∧
    (highHeader 0xF000).section? = some ⟨".text", 0xFFFFFFFFFFFFF000, 16, none⟩ ∧
    (0xFFFFFFFFFFFFF000 : UInt64).toNat = (highHeader 0xF000).address := by
  have hread := read?_highImage (.inl rfl : (0xF000 : UInt32) = 0xF000 ∨ _)
  have accepted : Image.parse (highImage 0xF000) = .ok ⟨.pe, [⟨".text", 0xFFFFFFFFFFFFF000, 16, none⟩]⟩ :=
    Image.parse_eq_ok_iff.mpr ⟨_, hread, rfl⟩
  obtain ⟨-, exact, -⟩ := Image.sums_are_exact_or_fault (highImage 0xF000)
  obtain ⟨x, hread', -, hall⟩ := exact _ accepted
  obtain rfl := Option.some.inj (hread.symm.trans hread')
  obtain ⟨-, -, haddress⟩ := hall (highHeader 0xF000) (List.mem_singleton_self _)
    ⟨".text", 0xFFFFFFFFFFFFF000, 16, none⟩ rfl
  exact ⟨accepted, rfl, haddress⟩

/-- The next page has no address. The reading of the file faults, and without the fault the section would be said
to begin at zero, which stands for one that is not loaded. -/
theorem a_high_image_base_is_a_fault :
    Executable.read? (highImage 0x10000) = some (.pe (highFile 0x10000) 304) ∧
    (highFile 0x10000).sections.map (fun h => (highFile 0x10000).imageBase.toNat + h.virtualAddress.toNat) =
      [UInt64.size] ∧
    Image.parse (highImage 0x10000) = .error (.fault .overflow) ∧
    (highFile 0x10000).sections.map (fun h => (highFile 0x10000).imageBase + h.virtualAddress.toUInt64) = [0] :=
  ⟨read?_highImage (.inr rfl), rfl, Image.parse_eq_fault_iff.mpr ⟨_, read?_highImage (.inr rfl), rfl⟩, rfl⟩

end SignatureSearch
