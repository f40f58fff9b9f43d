/-
  SignatureSearch.Proofs.Program.FileScan — the scan of a file and the scan of one of its sections agree.

  A match (`scan_file`) is reported in three coordinates: where it lies in what was scanned, at which
  address, and where in the file. For a whole file all three are the same number. For a section the
  first counts from the section's start, the second on from the section's address modulo 2⁶⁴, and the
  third is still the place in the file.

  Proved:
  (1) A part of a file is a part of a region, wherever the file is taken to begin in memory
      (`Region.isPart_of_cut`), and where every address counts the hits do not depend on that
      (`Scanner.hits_rebase`). So the hits in the part are those in the file that lie inside it
      (`Scanner.hits_cut`).
  (2) What a computation ends with goes through its steps (`Logged.result_bind_map`), so a scan
      for one match ends with the first of all (`result_scanFile_first`). The scan of a file that
      is there ends with the matches in it (`result_scanFile_whole`), and the scan of a section
      that opens with the matches in a part of the file (`SectionOpens.result_scanFile`).
  (3) The scan of a section reports the matches of the scan of the file that lie inside the
      section, in the same order and in the section's coordinates (`scanFile_agrees`).
-/

import SignatureSearch.Program.Search
import SignatureSearch.Proofs.Scan.Subregion

namespace SignatureSearch

/-! ## (1) A part of a file -/

theorem Region.isPart_of_cut {bytes contents : Bytes} {start : UInt64} {stop : Nat} (address : UInt64)
    (cut : bytes.slice? start.toNat stop = some contents) :
    Region.IsPart ⟨bytes, address - start⟩ start.toNat (stop - start.toNat) ⟨contents, address⟩ := by
  have hbase : Region.addressOf ⟨bytes, address - start⟩ start.toNat = address := by
    rw [addressOf, UInt64.ofNat_toNat, UInt64.sub_add_cancel]
  have hpart := isPart_of_slice? (r := ⟨bytes, address - start⟩) cut
  rwa [hbase] at hpart

namespace Scanner

variable {s : Scanner} {bytes contents : Bytes}

theorem hits_rebase (every : s.options.alignment = .x1) (base base' : UInt64) :
    s.hits ⟨bytes, base⟩ = s.hits ⟨bytes, base'⟩ := by
  have allowed : ∀ base i, s.options.alignment.Allows base i := by
    intro base i
    rw [every]
    exact Alignment.x1_allows
  unfold hits passing
  refine List.filter_congr fun i _ => decide_eq_decide.mpr ⟨fun hit => ?_, fun hit => ?_⟩
  · exact ⟨hit.inside, allowed base' i, hit.fits⟩
  · exact ⟨hit.inside, allowed base i, hit.fits⟩

theorem hits_cut (every : s.options.alignment = .x1) {start : UInt64} {stop : Nat} (address : UInt64)
    (cut : bytes.slice? start.toNat stop = some contents) :
    s.hits ⟨contents, address⟩ =
      ((s.hits ⟨bytes, 0⟩).filter fun i =>
        start.toNat ≤ i ∧ i + s.signature.length ≤ stop).map (· - start.toNat) := by
  have hle : start.toNat ≤ stop := (Bytes.slice?_isSome_iff.mp (by rw [cut]; rfl)).1
  rw [hits_part s (Region.isPart_of_cut address cut), hits_rebase every _ 0, Nat.add_sub_cancel' hle]

end Scanner

/-! ## (2) What a scan ends with -/

theorem Bytes.slice?_of_isEmpty {b : Bytes} (h : b.isEmpty = true) {start stop : Nat} (hstop : 0 < stop) :
    b.slice? start stop = none := by
  have hsize : b.size = 0 := beq_iff_eq.mp h
  rw [← Option.not_isSome_iff_eq_none, slice?_isSome_iff]
  omega

theorem Image.parse_of_isEmpty {b : Bytes} (h : b.isEmpty = true) : parse b = .error .tooShort := by
  have hshort : Container.detect? b = none := by
    unfold Container.detect?
    rw [Bytes.slice?_of_isEmpty h (by decide)]
    rfl
  unfold parse
  rw [hshort]

theorem Image.filled_of_parse {b : Bytes} {i : Image} (parsed : parse b = .ok i) : b.isEmpty = false := by
  by_contra e
  rw [parse_of_isEmpty (Bool.not_eq_false _ ▸ e)] at parsed
  cases parsed

/-- A closed image is compared as an `Option`, where equality can be decided. -/
theorem Image.parse_eq_ok_of_toOption {b : Bytes} {i : Image} (h : (parse b).toOption = some i) : parse b = .ok i := by
  cases e : parse b with
  | error cause =>
    rw [e] at h
    cases h
  | ok image =>
    rw [e] at h
    exact congrArg Except.ok (Option.some.inj h)

theorem Image.region?_eq_some {i : Image} {bytes : Bytes} {name : String} {s : Section} {range : FileRange}
    {r : Region} (named : i.section? name = some s) (stored : s.fileRange = some range)
    (h : i.region? bytes name = some r) :
    bytes.slice? range.start.toNat range.stop.toNat = some r.bytes ∧ r.base = s.address := by
  obtain ⟨s', range', named', stored', cut, base⟩ := region?_eq_some_iff.mp h
  obtain rfl : s = s' := Option.some.inj (named.symm.trans named')
  obtain rfl : range = range' := Option.some.inj (stored.symm.trans stored')
  exact ⟨cut, base⟩

namespace Program

/-- What a computation ends with when these events came before it. -/
def Logged.result {α : Type} (x : Logged α) (before : List Log.Event) : Except Failure α := (x.run.run before).1

namespace Logged

variable {α β : Type}

theorem result_bind (x : Logged α) (f : α → Logged β) (before : List Log.Event) :
    (x >>= f).result before = (x.result before).bind fun a => (f a).result (x.run.run before).2 := by
  show (ExceptT.bindCont f (x.run.run before).1 (x.run.run before).2).1 = _
  unfold result
  cases (x.run.run before).1 <;> rfl

theorem result_bind_map (x : Logged α) {f g : α → Logged β} {φ : β → β}
    (h : ∀ a events, (g a).result events = ((f a).result events).map φ) (before : List Log.Event) :
    (x >>= g).result before = ((x >>= f).result before).map φ := by
  rw [result_bind, result_bind]
  cases x.result before with
  | error cause => rfl
  | ok a => exact h a _

end Logged

variable {scanner : Scanner} {fs : FileSystem} {path name : String} {bytes : Bytes}

theorem result_hits (all : Bool) (r : Region) (fileStart : Option UInt64) (before : List Log.Event) :
    (hits scanner all r fileStart).result before = .ok (hitsIn scanner all r fileStart) := rfl

/-- The match at `i` in a region as it is reported. -/
def hitAt (r : Region) (fileStart : Option UInt64) (i : Nat) : Hit where
  offset := i
  address := r.addressOf i
  fileOffset := fileStart.map (· + UInt64.ofNat i)

theorem hitsIn_all (r : Region) (fileStart : Option UInt64) :
    hitsIn scanner true r fileStart = (scanner.hits r).map (hitAt r fileStart) := by
  unfold hitsIn
  rw [if_pos rfl, Scanner.findAll_toList]
  rfl

theorem hitsIn_first (r : Region) (fileStart : Option UInt64) :
    hitsIn scanner false r fileStart = (hitsIn scanner true r fileStart).head?.toList := by
  rw [hitsIn_all]
  unfold hitsIn
  rw [if_neg Bool.false_ne_true, Scanner.findFirst_eq]
  cases scanner.hits r <;> rfl

theorem result_scanFile_first (fs : FileSystem) (path : String) (scanner : Scanner) (inSection : Option String)
    (before : List Log.Event) :
    (scanFile fs path scanner false inSection).result before =
      ((scanFile fs path scanner true inSection).result before).map (·.head?.toList) := by
  have first : ∀ (r : Region) (fileStart : Option UInt64) (events : List Log.Event),
      (hits scanner false r fileStart).result events =
        ((hits scanner true r fileStart).result events).map (·.head?.toList) := by
    intro r fileStart events
    rw [result_hits, result_hits, hitsIn_first]
    rfl
  unfold scanFile
  refine Logged.result_bind_map _ (fun bytes events => ?_) before
  by_cases e : bytes.isEmpty = true
  · rw [if_pos e, if_pos e]
    rfl
  · rw [if_neg e, if_neg e]
    cases inSection with
    | none => exact first _ _ events
    | some name =>
      refine Logged.result_bind_map _ (fun opened events => ?_) events
      obtain ⟨r, fileStart⟩ := opened
      exact first r fileStart events

theorem result_scanFile_whole (viewed : fs.view path = .ok bytes) (filled : bytes.isEmpty = false)
    (scanner : Scanner) (all : Bool) (before : List Log.Event) :
    (scanFile fs path scanner all none).result before = .ok (hitsIn scanner all ⟨bytes, 0⟩ (some 0)) := by
  unfold scanFile contents
  simp only [viewed, pure_bind, filled, Bool.false_eq_true, if_false, result_hits]

/-- The file at `path` holds `bytes`, which are an image that has the section `s` of this name, and
    the contents of the section are the bytes of `range`. -/
structure SectionOpens (fs : FileSystem) (path : String) (bytes : Bytes) (name : String) (s : Section)
    (range : FileRange) : Prop where
  viewed : fs.view path = .ok bytes
  opens : ∃ image, Image.parse bytes = .ok image ∧ image.section? name = some s ∧ (image.region? bytes name).isSome
  stored : s.fileRange = some range

namespace SectionOpens

variable {s : Section} {range : FileRange}

theorem filled (h : SectionOpens fs path bytes name s range) : bytes.isEmpty = false := by
  obtain ⟨image, parsed, -, -⟩ := h.opens
  exact Image.filled_of_parse parsed

/-- The scan of the section ends with the matches in a region that starts at the section's address
    and has the bytes of its range. -/
theorem result_scanFile (h : SectionOpens fs path bytes name s range) (scanner : Scanner) (all : Bool)
    (before : List Log.Event) :
    ∃ contents, bytes.slice? range.start.toNat range.stop.toNat = some contents ∧
      (scanFile fs path scanner all (some name)).result before =
        .ok (hitsIn scanner all ⟨contents, s.address⟩ (some range.start)) := by
  obtain ⟨image, parsed, named, held⟩ := h.opens
  obtain ⟨r, hr⟩ := Option.isSome_iff_exists.mp held
  obtain ⟨hcontents, hbase⟩ := Image.region?_eq_some named h.stored hr
  refine ⟨r.bytes, hcontents, ?_⟩
  rw [← hbase]
  unfold scanFile contents sectionContents Program.image
  simp only [h.viewed, pure_bind, h.filled, Bool.false_eq_true, if_false, parsed, named, hr, h.stored]
  rfl

end SectionOpens

/-! ## (3) Matches -/

/-- A match in a file as a match in the section `s` that starts at `start` in the file. -/
def Hit.inSection (s : Section) (start : Nat) (h : Hit) : Hit where
  offset := h.offset - start
  address := s.address + UInt64.ofNat (h.offset - start)
  fileOffset := some (UInt64.ofNat h.offset)

theorem inSection_hitAt {contents : Bytes} {start : UInt64} {s : Section} {i : Nat} (hi : start.toNat ≤ i) :
    (hitAt ⟨bytes, 0⟩ (some 0) i).inSection s start.toNat =
      hitAt ⟨contents, s.address⟩ (some start) (i - start.toNat) := by
  have hplace : start + UInt64.ofNat (i - start.toNat) = UInt64.ofNat i := by
    rw [← UInt64.toNat_inj, wrapped_toNat, Nat.add_sub_cancel' hi, UInt64.toNat_ofNat']
  simp only [hitAt, Hit.inSection, Region.addressOf, Option.map_some, hplace]

/-- The matches in a section are those in the file that lie inside it, in the section's coordinates. -/
theorem hitsIn_cut (every : scanner.options.alignment = .x1) {contents : Bytes} {range : FileRange} (s : Section)
    (cut : bytes.slice? range.start.toNat range.stop.toNat = some contents) :
    hitsIn scanner true ⟨contents, s.address⟩ (some range.start) =
      ((hitsIn scanner true ⟨bytes, 0⟩ (some 0)).filter fun h => range.start.toNat ≤ h.offset ∧
        h.offset + scanner.signature.length ≤ range.stop.toNat).map (·.inSection s range.start.toNat) := by
  rw [hitsIn_all, hitsIn_all, Scanner.hits_cut every s.address cut, List.filter_map, List.map_map, List.map_map]
  refine List.map_congr_left fun i hi => ?_
  have hinside := of_decide_eq_true (List.mem_filter.mp hi).2
  exact (inSection_hitAt hinside.1).symm

theorem fits_of_mem_hitsIn {contents : Bytes} {range : FileRange} {address : UInt64} {h : Hit}
    (cut : bytes.slice? range.start.toNat range.stop.toNat = some contents)
    (mem : h ∈ hitsIn scanner true ⟨contents, address⟩ (some range.start)) :
    ∃ o, h.fileOffset = some o ∧ o.toNat = range.start.toNat + h.offset ∧
      scanner.signature.FitsAt bytes o.toNat := by
  rw [hitsIn_all] at mem
  obtain ⟨i, hi, rfl⟩ := List.mem_map.mp mem
  obtain ⟨hit, hend⟩ := (Region.isPart_of_cut address cut).isHit_iff.mp ((scanner.mem_hits _).mp hi)
  have hlt : range.start.toNat + i < bytes.size := hit.lt_size
  have hplace : (range.start + UInt64.ofNat i).toNat = range.start.toNat + i := by
    have hsize := bytes.size_lt_two_pow
    rw [wrapped_toNat]
    exact Nat.mod_eq_of_lt (by omega)
  refine ⟨range.start + UInt64.ofNat i, rfl, hplace, ?_⟩
  rw [hplace]
  exact hit.fits

/-- The scan of a section at every address reports the matches of the scan of the file that lie
    inside the section, in the same order and in the section's coordinates, and at each place in the
    file that it names the signature fits. Whatever is scanned and however, a scan for one match
    reports the first of all, or none if there is none. -/
theorem scanFile_agrees (fs : FileSystem) (path : String) (scanner : Scanner) (before : List Log.Event) :
    (∀ (bytes : Bytes) (name : String) (s : Section) (range : FileRange),
      SectionOpens fs path bytes name s range → scanner.options.alignment = .x1 →
      ∃ whole part,
        (scanFile fs path scanner true none).result before = .ok whole ∧
        (scanFile fs path scanner true (some name)).result before = .ok part ∧
        part = (whole.filter fun h => range.start.toNat ≤ h.offset ∧
          h.offset + scanner.signature.length ≤ range.stop.toNat).map (·.inSection s range.start.toNat) ∧
        ∀ h ∈ part, ∃ o, h.fileOffset = some o ∧ o.toNat = range.start.toNat + h.offset ∧
          scanner.signature.FitsAt bytes o.toNat) ∧
    ∀ inSection, (scanFile fs path scanner false inSection).result before =
      ((scanFile fs path scanner true inSection).result before).map (·.head?.toList) := by
  refine ⟨fun bytes name s range opens every => ?_, fun inSection => ?_⟩
  · obtain ⟨contents, cut, hpart⟩ := opens.result_scanFile scanner true before
    have hwhole := result_scanFile_whole opens.viewed opens.filled scanner true before
    exact ⟨_, _, hwhole, hpart, hitsIn_cut every s cut, fun h mem => fits_of_mem_hitsIn cut mem⟩
  · exact result_scanFile_first fs path scanner inSection before

def field (n : UInt8) : List UInt8 := [n, 0, 0, 0]

/-- An executable with the section `t`: of its last eight bytes those from 185 up to 191, which are to be loaded at
    the last two addresses and the first four. -/
def smallImage : Bytes := .ofList <|
  [0xCF, 0xFA, 0xED, 0xFE] ++ List.replicate 12 0 ++ field 1 ++ field 152 ++ List.replicate 8 0 ++
  field 0x19 ++ field 152 ++ List.replicate 40 0 ++ field 192 ++ List.replicate 12 0 ++ field 1 ++ field 0 ++
  [0x74] ++ List.replicate 31 0 ++ 0xFE :: List.replicate 7 0xFF ++ field 6 ++ field 0 ++ field 185 ++
  List.replicate 28 0 ++ [0xCC, 0xCC, 0xCC, 0xCC, 0x90, 0xCC, 0xCC, 0xCC]

def smallSection : Section := ⟨"t", 0xFFFFFFFFFFFFFFFE, 6, some ⟨185, 191⟩⟩

def smallDisk : FileSystem := { files := [(["f"], smallImage)] }

/-- A disk with one file of this name. -/
theorem view_of_single (bytes : Bytes) : FileSystem.view { files := [(["f"], bytes)] } "f" = .ok bytes := by
  have hchecked : FileSystem.checked "f" = .ok "f" := by
    unfold FileSystem.checked
    rw [String.contains_char_eq]
    rfl
  unfold FileSystem.view FileSystem.find FileSystem.locate
  rw [hchecked]
  rfl

theorem smallDisk_view : smallDisk.view "f" = .ok smallImage := view_of_single smallImage

theorem smallSection_opens : SectionOpens smallDisk "f" smallImage "t" smallSection ⟨185, 191⟩ := by
  refine ⟨smallDisk_view, ⟨⟨.machO, [smallSection]⟩, ?_, rfl, by decide +kernel⟩, rfl⟩
  exact Image.parse_eq_ok_of_toOption (by decide +kernel)

def pairAnywhere : Scanner := { signature := Scanner.alignedPair.signature }

/-- Of five matches in the file three lie in the section, on both sides of address zero. The first begins before the
    section and the last ends behind it. -/
theorem scanFile_agrees_across_zero :
    SectionOpens smallDisk "f" smallImage "t" smallSection ⟨185, 191⟩ ∧ pairAnywhere.options.alignment = .x1 ∧
    (∃ whole, (scanFile smallDisk "f" pairAnywhere true none).result [] = .ok whole ∧
      whole.map (·.offset) = [184, 185, 186, 189, 190]) ∧
    (scanFile smallDisk "f" pairAnywhere true (some "t")).result [] = .ok
      [⟨0, 0xFFFFFFFFFFFFFFFE, some 185⟩, ⟨1, 0xFFFFFFFFFFFFFFFF, some 186⟩, ⟨4, 2, some 189⟩] ∧
    (scanFile smallDisk "f" pairAnywhere false (some "t")).result [] = .ok [⟨0, 0xFFFFFFFFFFFFFFFE, some 185⟩] := by
  obtain ⟨sections, first⟩ := scanFile_agrees smallDisk "f" pairAnywhere []
  obtain ⟨whole, part, hwhole, hpart, hagree, -⟩ := sections _ _ _ _ smallSection_opens rfl
  have hhits : whole = [184, 185, 186, 189, 190].map (hitAt ⟨smallImage, 0⟩ (some 0)) := by
    have hfile := result_scanFile_whole smallDisk_view smallSection_opens.filled pairAnywhere true []
    rw [hwhole, hitsIn_all] at hfile
    have hoffsets : pairAnywhere.hits ⟨smallImage, 0⟩ = [184, 185, 186, 189, 190] := by decide +kernel
    rw [Except.ok.inj hfile, hoffsets]
  have hsection :
      part = [⟨0, 0xFFFFFFFFFFFFFFFE, some 185⟩, ⟨1, 0xFFFFFFFFFFFFFFFF, some 186⟩, ⟨4, 2, some 189⟩] := by
    rw [hagree, hhits]
    decide
  rw [hsection] at hpart
  refine ⟨smallSection_opens, rfl, ⟨whole, hwhole, by rw [hhits]; rfl⟩, hpart, ?_⟩
  rw [first, hpart]
  rfl

end Program

end SignatureSearch
