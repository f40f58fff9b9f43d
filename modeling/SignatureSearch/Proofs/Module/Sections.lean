/-
  SignatureSearch.Proofs.Module.Sections — the sections of a module, and what is found in their memory.

  The headers are read from a file (`sections`), and the contents from memory, where the module lies
  some way from the addresses in the file. A header may stand for nothing in memory, or for a template
  that is copied for each thread. That is told by address zero in the image's table, and what is at zero
  there is left out before the addresses are moved. Memory is a function from addresses to bytes. What
  must not happen is that a section is looked for where it is not, which would be a read of memory that
  is not mapped.

  Proved:
  (1) A module of an ELF file has the sections of the loaded headers (`Module.sectionsOf_ofElf`), and a header
      stands for a section where it is moved to (`Elf.inMemory?_eq_some_iff`).
  (2) The region of a section that is mapped holds its memory (`ModuleSection.IsMapped.isHeldBy`), the hits in
      the region are the matches in memory (`ModuleSection.IsHeldBy.isHit_iff`), and the scan finds the first of
      these (`ModuleSection.IsHeldBy.findFirst_some`, `findFirst_none`).
  (3) A look-up by name leads to the first section that has it (`Module.finds`), and reads nothing but its
      memory (`Module.section?_congr`).
  (4) All of this for every ELF file and every place of the module (`Module.sections_in_memory`).
-/

import SignatureSearch.Module.Sections
import SignatureSearch.Proofs.Image.NamedRegion
import SignatureSearch.Proofs.Scan.Matches

namespace SignatureSearch

/-! ## (1) The sections in memory -/

/-- The section's contents are in memory, and not only as a template for the storage of threads. -/
structure Elf.SectionHeader.IsLoaded (h : SectionHeader) : Prop where
  alloc : h.flags &&& flagAlloc ≠ 0
  own : h.flags &&& flagTls = 0
  address : h.address ≠ 0
  size : h.size ≠ 0

open Elf.SectionHeader (flagAlloc flagTls) in
instance (h : Elf.SectionHeader) : Decidable h.IsLoaded :=
  decidable_of_iff (h.flags &&& flagAlloc ≠ 0 ∧ h.flags &&& flagTls = 0 ∧ h.address ≠ 0 ∧ h.size ≠ 0)
    ⟨fun ⟨a, o, d, s⟩ => ⟨a, o, d, s⟩, fun ⟨a, o, d, s⟩ => ⟨a, o, d, s⟩⟩

/-- The section in memory that a header stands for, if it has a name and is loaded. -/
def Elf.inMemory? (names : StringTable) (bias : UInt64) (h : SectionHeader) : Option ModuleSection := do
  let name ← names.get? h.name.toNat
  if h.IsLoaded ∧ name ≠ "" then some ⟨name, bias + h.address, h.size⟩ else none

variable {names : StringTable} {bias : UInt64} {h : Elf.SectionHeader} {s : ModuleSection}

theorem Elf.inMemory?_eq_some_iff : inMemory? names bias h = some s ↔
    h.IsLoaded ∧ names.get? h.name.toNat = some s.name ∧ s.name ≠ "" ∧
      s.address.toNat = (bias.toNat + h.address.toNat) % 2 ^ 64 ∧ s.size = h.size := by
  rw [inMemory?, ← UInt64.toNat_add, UInt64.toNat_inj]
  simp only [Option.bind_eq_bind, Option.bind_eq_some_iff]
  constructor
  · intro made
    obtain ⟨name, hname, made⟩ := made
    by_cases hkept : h.IsLoaded ∧ name ≠ ""
    · rw [if_pos hkept, Option.some.injEq] at made
      obtain rfl := made
      exact ⟨hkept.1, hname, hkept.2, rfl, rfl⟩
    · rw [if_neg hkept] at made
      cases made
  · intro told
    obtain ⟨hloaded, hname, hne, haddress, hsize⟩ := told
    refine ⟨s.name, hname, ?_⟩
    rw [if_pos ⟨hloaded, hne⟩, ← haddress, ← hsize]

theorem Elf.SectionHeader.alloc_and_own_iff {h : SectionHeader} :
    (h.isAlloc && !h.isTls) = true ↔ h.flags &&& flagAlloc ≠ 0 ∧ h.flags &&& flagTls = 0 := by
  rw [Bool.and_eq_true, isAlloc, isTls, bne_iff_ne, Bool.not_eq_true', bne_eq_false_iff_eq]

/-- What is at address zero in the table is left out with what is empty, and these are the sections that are not
    loaded. -/
theorem Elf.SectionHeader.kept_iff {h : SectionHeader} :
    ((if h.isAlloc && !h.isTls then h.address else 0) != 0 && h.size != 0) = true ↔ h.IsLoaded := by
  rw [Bool.and_eq_true, bne_iff_ne, bne_iff_ne]
  by_cases hown : (h.isAlloc && !h.isTls) = true
  · obtain ⟨alloc, own⟩ := alloc_and_own_iff.mp hown
    rw [if_pos hown]
    exact ⟨fun kept => ⟨alloc, own, kept.1, kept.2⟩, fun loaded => ⟨loaded.address, loaded.size⟩⟩
  · rw [if_neg hown]
    exact ⟨fun kept => absurd rfl kept.1, fun loaded => absurd (alloc_and_own_iff.mpr ⟨loaded.alloc, loaded.own⟩) hown⟩

theorem Module.sectionsOf_ofElf (bias : UInt64) (file : Elf.File) :
    sectionsOf bias (.ofElf file) = file.sections.filterMap (Elf.inMemory? file.names bias) := by
  rw [sectionsOf, Image.ofElf, List.filter_filterMap, List.map_filterMap]
  congr 1
  funext h
  rw [Elf.section?, Elf.inMemory?]
  cases file.names.get? h.name.toNat with
  | none => rfl
  | some name =>
    have hempty : name.isEmpty = true ↔ name = "" := String.isEmpty_iff
    simp only [Option.bind_eq_bind, Option.bind_some, Option.pure_def, hempty]
    by_cases hname : name = ""
    · rw [if_pos hname, if_neg (fun kept => kept.2 hname)]
      rfl
    · rw [if_neg hname, Option.filter_some]
      dsimp only
      by_cases loaded : h.IsLoaded
      · have made : h.IsLoaded ∧ name ≠ "" := ⟨loaded, hname⟩
        have own := Elf.SectionHeader.alloc_and_own_iff.mpr ⟨loaded.alloc, loaded.own⟩
        rw [if_pos (Elf.SectionHeader.kept_iff.mpr loaded), if_pos own, if_pos made]
        rfl
      · rw [if_neg (fun kept => loaded (Elf.SectionHeader.kept_iff.mp kept)), if_neg (fun kept => loaded kept.1)]
        rfl

theorem Module.sections_eq {m : Module} {fs : FileSystem} {contents : Bytes} {image : Image}
    (view : fs.viewAt m.path = .ok contents) (accepted : Image.parse contents = .ok image) :
    m.sections fs = .ok (sectionsOf m.bias image) := by
  simp only [sections, view, accepted]

/-! ## (2) The memory of a section -/

theorem Region.ofMemory_congr {memory memory' : UInt64 → UInt8} {address size : UInt64}
    (agree : ∀ i < size.toNat, memory (address + UInt64.ofNat i) = memory' (address + UInt64.ofNat i)) :
    ofMemory memory address size = ofMemory memory' address size := by
  have hbytes : (fun i : Fin size.toNat => memory (address + UInt64.ofNat i)) =
      fun i : Fin size.toNat => memory' (address + UInt64.ofNat i) := funext fun i => agree i i.isLt
  rw [ofMemory, ofMemory, hbytes]

namespace ModuleSection

/-- Taken for granted of a section's memory: it is mapped, so it does not begin at address zero, ends where the
    addresses do, and has fewer than 2⁶³ bytes, which is more than a process can have mapped. -/
structure IsMapped (s : ModuleSection) : Prop where
  address : s.address ≠ 0
  inside : s.address.toNat + s.size.toNat ≤ 2 ^ 64
  size : s.size.toNat < 2 ^ 63

/-- The signature matches what is in memory from `x` on, inside the section and at an address that the alignment
    allows. -/
structure MatchedAt (s : ModuleSection) (memory : UInt64 → UInt8) (sig : Signature) (a : Alignment) (x : UInt64) :
    Prop where
  start : s.address.toNat ≤ x.toNat
  stop : x.toNat + sig.length ≤ s.address.toNat + s.size.toNat
  aligned : x.toNat % a.stride = 0
  fits : ∀ (j : Nat) (e : Element), sig.elements[j]? = some e → e.matchesByte (memory (x + UInt64.ofNat j)) = true

structure IsHeldBy (s : ModuleSection) (memory : UInt64 → UInt8) (r : Region) : Prop where
  base : r.base = s.address
  size : r.size = s.size.toNat
  bytes : ∀ i < s.size.toNat, r.bytes.get? i = some (memory (s.address + UInt64.ofNat i))

variable {memory : UInt64 → UInt8} {r : Region} {sig : Signature} {a : Alignment} {hasAvx2 : Bool} {x : UInt64}

theorem IsMapped.isHeldBy (mapped : s.IsMapped) (memory : UInt64 → UInt8) :
    s.IsHeldBy memory (.ofMemory memory s.address s.size) := by
  rw [Region.ofMemory]
  by_cases hempty : s.size = 0
  · rw [if_pos (.inl hempty)]
    refine ⟨rfl, ?_, ?_⟩
    · rw [hempty]
      rfl
    · intro i hi
      rw [hempty] at hi
      exact absurd hi (Nat.not_lt_zero i)
  · rw [if_neg (not_or.mpr ⟨hempty, mapped.address⟩)]
    have hsize := mapped.size
    have hheld : (Bytes.ofArray (Array.ofFn fun i : Fin s.size.toNat => memory (s.address + UInt64.ofNat i))).toArray =
        Array.ofFn fun i : Fin s.size.toNat => memory (s.address + UInt64.ofNat i) := by
      rw [Bytes.ofArray, dif_pos (by rwa [Array.size_ofFn])]
    refine ⟨rfl, ?_, ?_⟩
    · rw [Region.size, Bytes.size, hheld, Array.size_ofFn]
    · intro i hi
      rw [Bytes.get?, hheld, Array.getElem?_ofFn, dif_pos hi]

theorem IsMapped.toNat_add (mapped : s.IsMapped) {i : Nat} (hi : i < s.size.toNat) :
    (s.address + UInt64.ofNat i).toNat = s.address.toNat + i := by
  have hinside := mapped.inside
  rw [wrapped_toNat]
  omega

theorem IsHeldBy.isHit_iff (held : s.IsHeldBy memory r) (mapped : s.IsMapped) {i : Nat} (hi : i < s.size.toNat) :
    IsHit sig a r.bytes r.base i ↔ s.MatchedAt memory sig a (r.addressOf i) := by
  have hsize : r.bytes.size = s.size.toNat := held.size
  have haddress : (r.addressOf i).toNat = s.address.toNat + i := by
    rw [Region.addressOf, held.base, mapped.toNat_add hi]
  have hallowed : (r.addressOf i).toNat % a.stride = 0 ↔ a.Allows r.base i := by
    rw [Region.addressOf, wrapped_toNat]
    rfl
  have hbyte : ∀ j, i + j < s.size.toNat → r.bytes.get? (i + j) = some (memory (r.addressOf i + UInt64.ofNat j)) := by
    intro j hj
    rw [held.bytes _ hj, Region.addressOf, held.base, UInt64.ofNat_add, UInt64.add_assoc]
  constructor
  · intro hit
    have hinside := hit.inside
    constructor
    case start => omega
    case stop => omega
    case aligned => exact hallowed.mpr hit.allowed
    case fits =>
      intro j e he
      have hj : j < sig.length := (List.getElem?_eq_some_iff.mp he).1
      obtain ⟨b, hb, hmatch⟩ := hit.fits j e he
      obtain rfl := Option.some.inj ((hbyte j (by omega)).symm.trans hb)
      exact Element.matchesByte_iff.mpr hmatch
  · intro matched
    have hstop := matched.stop
    refine ⟨by omega, hallowed.mp matched.aligned, ?_⟩
    intro j e he
    have hj : j < sig.length := (List.getElem?_eq_some_iff.mp he).1
    exact ⟨_, hbyte j (by omega), Element.matchesByte_iff.mp (matched.fits j e he)⟩

theorem IsHeldBy.exists_addressOf (held : s.IsHeldBy memory r) (mapped : s.IsMapped)
    (matched : s.MatchedAt memory sig a x) : ∃ i < s.size.toNat, r.addressOf i = x ∧ x.toNat = s.address.toNat + i := by
  have hpos := sig.length_pos
  have hstart := matched.start
  have hstop := matched.stop
  have hi : x.toNat - s.address.toNat < s.size.toNat := by omega
  have hx : x.toNat = s.address.toNat + (x.toNat - s.address.toNat) := by omega
  refine ⟨x.toNat - s.address.toNat, hi, ?_, hx⟩
  rw [← UInt64.toNat_inj, Region.addressOf, held.base, mapped.toNat_add hi]
  exact hx.symm

structure IsFirstMatch (s : ModuleSection) (memory : UInt64 → UInt8) (sig : Signature) (a : Alignment) (x : UInt64) :
    Prop where
  matched : s.MatchedAt memory sig a x
  least : ∀ y, s.MatchedAt memory sig a y → x ≤ y

theorem IsHeldBy.findFirst_none (held : s.IsHeldBy memory r) (mapped : s.IsMapped)
    (none : Scanner.findFirst ⟨sig, { alignment := a }, hasAvx2⟩ r = none) : ¬s.MatchedAt memory sig a x := by
  intro matched
  obtain ⟨i, hi, rfl, -⟩ := held.exists_addressOf mapped matched
  have hleast := Scanner.findFirst_least ⟨sig, { alignment := a }, hasAvx2⟩ r
  rw [none] at hleast
  exact hleast i (Nat.zero_le i) ((held.isHit_iff mapped hi).mpr matched)

theorem IsHeldBy.findFirst_some (held : s.IsHeldBy memory r) (mapped : s.IsMapped) {i : Nat}
    (found : Scanner.findFirst ⟨sig, { alignment := a }, hasAvx2⟩ r = some i) :
    s.IsFirstMatch memory sig a (r.addressOf i) := by
  have hleast := Scanner.findFirst_least ⟨sig, { alignment := a }, hasAvx2⟩ r
  rw [found] at hleast
  obtain ⟨-, hit, hbefore⟩ := hleast
  have hi : i < s.size.toNat := held.size ▸ hit.lt_size
  refine ⟨(held.isHit_iff mapped hi).mp hit, ?_⟩
  intro y matched
  obtain ⟨k, hk, rfl, hy⟩ := held.exists_addressOf mapped matched
  have hle : i ≤ k := Nat.le_of_not_lt fun hlt => hbefore k (Nat.zero_le k) hlt ((held.isHit_iff mapped hk).mpr matched)
  rw [UInt64.le_iff_toNat_le, hy, Region.addressOf, held.base, mapped.toNat_add hi]
  omega

end ModuleSection

/-! ## (3) Look-ups by name -/

/-- The first of the sections that has this name. -/
def ModuleSection.IsFirst (s : ModuleSection) (listed : List ModuleSection) (name : String) : Prop :=
  ∃ before after, listed = before ++ s :: after ∧ s.name = name ∧ ∀ t ∈ before, t.name ≠ name

namespace Module

variable {m : Module} {fs : FileSystem} {listed : List ModuleSection} {memory memory' : UInt64 → UInt8} {name : String}

theorem section?_eq (sections : m.sections fs = .ok listed) :
    m.section? fs memory name =
      .ok ((listed.find? (·.name == name)).map fun s => Region.ofMemory memory s.address s.size) := by
  rw [section?, sections]
  rfl

theorem findInSection_eq {found : Option Region} (region : m.section? fs memory name = .ok found)
    (hasAvx2 : Bool) (sig : Signature) (a : Alignment) : m.findInSection fs memory hasAvx2 sig name a =
      .ok (found.bind fun r => (Scanner.findFirst ⟨sig, { alignment := a }, hasAvx2⟩ r).map r.addressOf) := by
  rw [findInSection, region]
  cases found <;> rfl

/-- What a look-up of a name gives when it leads to the section `s`. -/
structure Finds (m : Module) (fs : FileSystem) (memory : UInt64 → UInt8) (name : String) (s : ModuleSection) :
    Prop where
  region : ∃ r, m.section? fs memory name = .ok (some r) ∧ s.IsHeldBy memory r
  found : ∀ hasAvx2 sig a x, m.findInSection fs memory hasAvx2 sig name a = .ok (some x) ↔ s.IsFirstMatch memory sig a x
  missing : ∀ hasAvx2 sig a, m.findInSection fs memory hasAvx2 sig name a = .ok none ↔ ∀ x, ¬s.MatchedAt memory sig a x

theorem finds (sections : m.sections fs = .ok listed) (first : s.IsFirst listed name) (mapped : s.IsMapped)
    (memory : UInt64 → UInt8) : m.Finds fs memory name s := by
  have region : m.section? fs memory name = .ok (some (.ofMemory memory s.address s.size)) := by
    rw [section?_eq sections, find?_name_eq_some_iff.mpr first]
    rfl
  have held := mapped.isHeldBy memory
  refine ⟨⟨_, region, held⟩, ?_, ?_⟩
  · intro hasAvx2 sig a x
    rw [findInSection_eq region, Except.ok.injEq, Option.bind_some]
    cases found : Scanner.findFirst ⟨sig, { alignment := a }, hasAvx2⟩ (.ofMemory memory s.address s.size) with
    | none => exact ⟨nofun, fun first => absurd first.matched (held.findFirst_none mapped found)⟩
    | some i =>
      have first := held.findFirst_some mapped found
      rw [Option.map_some, Option.some.injEq]
      constructor
      · rintro rfl
        exact first
      · intro first'
        exact UInt64.le_antisymm (first.least x first'.matched) (first'.least _ first.matched)
  · intro hasAvx2 sig a
    rw [findInSection_eq region, Except.ok.injEq, Option.bind_some]
    cases found : Scanner.findFirst ⟨sig, { alignment := a }, hasAvx2⟩ (.ofMemory memory s.address s.size) with
    | none => exact ⟨fun _ x => held.findFirst_none mapped found, fun _ => rfl⟩
    | some i => exact ⟨nofun, fun none => absurd (held.findFirst_some mapped found).matched (none _)⟩

theorem section?_of_unlisted (sections : m.sections fs = .ok listed) (unlisted : ∀ s ∈ listed, s.name ≠ name)
    (memory : UInt64 → UInt8) : m.section? fs memory name = .ok none := by
  have hnone : listed.find? (·.name == name) = none := by
    rw [List.find?_eq_none]
    intro s hs named
    exact unlisted s hs (beq_iff_eq.mp named)
  rw [section?_eq sections, hnone]
  rfl

theorem section?_congr (sections : m.sections fs = .ok listed)
    (agree : ∀ s : ModuleSection, s.IsFirst listed name → ∀ i < s.size.toNat,
      memory (s.address + UInt64.ofNat i) = memory' (s.address + UInt64.ofNat i)) :
    m.section? fs memory name = m.section? fs memory' name := by
  rw [section?_eq sections, section?_eq sections]
  cases first : listed.find? (·.name == name) with
  | none => rfl
  | some s => rw [Option.map_some, Option.map_some, Region.ofMemory_congr (agree s (find?_name_eq_some_iff.mp first))]

/-! ## (4) Sections of a module in memory -/

/-- Whatever ELF file lies behind a module, and wherever the module lies: its sections are those of the loaded
    headers that have a name, in the order of the headers, each at the sum of the bias and the header's address,
    modulo 2⁶⁴. A name stands for the memory of the first of them that has it, whatever other headers have it. A
    signature is found there just when it matches at an address that the alignment allows, and then at the lowest.
    A name that none of them has stands for nothing. And no memory is read but that of the section that the name
    stands for, so what is at other addresses is of no account. -/
theorem sections_in_memory {contents : Bytes} {image : Image} (view : fs.viewAt m.path = .ok contents)
    (accepted : Image.parse contents = .ok image) (kind : image.format = .elf) :
    ∃ file listed, Elf.File.read? contents = some file ∧ m.sections fs = .ok listed ∧
      (listed = file.sections.filterMap (Elf.inMemory? file.names m.bias) ∧
        ∀ h s, Elf.inMemory? file.names m.bias h = some s ↔
          h.IsLoaded ∧ file.names.get? h.name.toNat = some s.name ∧ s.name ≠ "" ∧
            s.address.toNat = (m.bias.toNat + h.address.toNat) % 2 ^ 64 ∧ s.size = h.size) ∧
      (∀ memory name (s : ModuleSection), s.IsFirst listed name → s.IsMapped → m.Finds fs memory name s) ∧
      (∀ memory name, (∀ s ∈ listed, s.name ≠ name) → m.section? fs memory name = .ok none ∧
        ∀ hasAvx2 sig a, m.findInSection fs memory hasAvx2 sig name a = .ok none) ∧
      ∀ memory memory' name, (∀ s : ModuleSection, s.IsFirst listed name → ∀ i < s.size.toNat,
          memory (s.address + UInt64.ofNat i) = memory' (s.address + UInt64.ofNat i)) →
        m.section? fs memory name = m.section? fs memory' name ∧
        ∀ hasAvx2 sig a,
          m.findInSection fs memory hasAvx2 sig name a = m.findInSection fs memory' hasAvx2 sig name a := by
  obtain ⟨x, hread, made⟩ := Image.parse_eq_ok_iff.mp accepted
  obtain ⟨file, rfl⟩ := Executable.exists_elf_of_format made kind
  cases made
  have sections : m.sections fs = .ok (sectionsOf m.bias (.ofElf file)) := sections_eq view accepted
  rw [sectionsOf_ofElf] at sections
  refine ⟨file, _, Executable.elf_of_read? hread, sections, ⟨rfl, fun h s => Elf.inMemory?_eq_some_iff⟩, ?_, ?_, ?_⟩
  · intro memory name s first mapped
    exact finds sections first mapped memory
  · intro memory name unlisted
    have none := section?_of_unlisted sections unlisted memory
    exact ⟨none, fun hasAvx2 sig a => findInSection_eq none hasAvx2 sig a⟩
  · intro memory memory' name agree
    have same := section?_congr sections agree
    refine ⟨same, fun hasAvx2 sig a => ?_⟩
    rw [findInSection, findInSection, same]

/-- An ELF file with three sections `d`: one that is not in memory, a template for the storage of threads, and one
    of 32 bytes at address 0x4F. -/
def shadowedName : Bytes := .ofList <|
  [0x7F, 0x45, 0x4C, 0x46, 1, 1] ++ List.replicate 26 0 ++ Program.field 52 ++ List.replicate 12 0 ++ [5, 0, 4, 0] ++
  List.replicate 40 0 ++
  [1, 1, 0, 0x30, 0, 4, 0, 0, 0, 0].flatMap Program.field ++
  [1, 1].flatMap Program.field ++ [2, 4, 0, 0] ++ [0x40, 0, 4, 0, 0, 0, 0].flatMap Program.field ++
  [1, 8, 2, 0x4F, 0, 0x20, 0, 0, 0, 0].flatMap Program.field ++
  [3, 3, 0, 0, 252, 5, 0, 0, 0, 0].flatMap Program.field ++
  [0, 0x64, 0, 0x73, 0]

def shadowedNameImage : Image where
  format := .elf
  sections :=
    [⟨"d", 0, 4, some ⟨0, 4⟩⟩, ⟨"d", 0, 4, some ⟨0, 4⟩⟩, ⟨"d", 0x4F, 0x20, none⟩, ⟨"s", 0, 5, some ⟨252, 257⟩⟩]

theorem parse_shadowedName : Image.parse shadowedName = .ok shadowedNameImage :=
  Image.parse_eq_ok_of_toOption (by decide +kernel)

def shadowedDisk : FileSystem := { files := [(["f"], shadowedName)] }

def wrappedModule : Module := { bias := 0xFFFFFFFFFFFFFFC0, base := 0xFFFFFFFFFFFFFFC0, path := .ofText "f", object := "f" }

/-- The third `d` is found, at address 15. In memory that holds the same byte everywhere, the first match at a
    multiple of sixteen is at the next address. -/
theorem a_shadowed_name_is_found_in_memory :
    shadowedDisk.viewAt wrappedModule.path = .ok shadowedName ∧ Image.parse shadowedName = .ok shadowedNameImage ∧
    shadowedNameImage.format = .elf ∧ wrappedModule.sections shadowedDisk = .ok [⟨"d", 0xF, 0x20⟩] ∧
    wrappedModule.findInSection shadowedDisk (fun _ => 0xE8) true ⟨[.byte 0xE8], nofun⟩ "d" .x16 = .ok (some 0x10) := by
  have view : shadowedDisk.viewAt wrappedModule.path = .ok shadowedName :=
    (FileSystem.viewAt_ofText shadowedDisk "f").trans (Program.view_of_single shadowedName)
  have sections : wrappedModule.sections shadowedDisk = .ok [⟨"d", 0xF, 0x20⟩] := sections_eq view parse_shadowedName
  refine ⟨view, parse_shadowedName, rfl, sections, ?_⟩
  obtain ⟨file, listed, -, listing, -, lookup, -⟩ := sections_in_memory view parse_shadowedName rfl
  obtain rfl := Except.ok.inj (listing.symm.trans sections)
  have first : ModuleSection.IsFirst ⟨"d", 0xF, 0x20⟩ [⟨"d", 0xF, 0x20⟩] "d" := ⟨[], [], rfl, rfl, nofun⟩
  have mapped : ModuleSection.IsMapped ⟨"d", 0xF, 0x20⟩ := ⟨by decide, by decide, by decide⟩
  refine ((lookup (fun _ => 0xE8) "d" _ first mapped).found _ _ _ _).mpr ⟨?_, ?_⟩
  · refine ⟨by decide, by decide, by decide, ?_⟩
    intro j e he
    obtain rfl := List.mem_singleton.mp (List.mem_of_getElem? he)
    rfl
  · intro y matched
    have hstart : 15 ≤ y.toNat := matched.start
    have haligned : y.toNat % 16 = 0 := matched.aligned
    rw [UInt64.le_iff_toNat_le]
    show 16 ≤ y.toNat
    omega

end Module

end SignatureSearch
