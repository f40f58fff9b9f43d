/-
  SignatureSearch.Proofs.Scan.Excerpt — a signature taken from the data is found where it was taken from.

  An excerpt of a region is a run of its bytes, and a mask tells which of their bits count. Another
  place of the region agrees with the excerpt when it has the same bytes as far as they count
  (`Bytes.AgreesUnder`).

  Proved:
  (1) The signature of an excerpt and a mask fits just where the bytes agree with the excerpt under
      the mask (`Signature.fitsAt_excerpt_iff`), so it fits where the excerpt stands.
  (2) A scan reports every hit, so its first match is none behind any hit (`Scanner.findFirst_le`).
  (3) Whatever is cut from a region, and however it is masked and scanned for, the signature can be
      made, the scan reports the place of the cut, and it reports no place that does not agree with
      it (`Scanner.excerpt_finds_origin`). An excerpt without a mask counts in full.
-/

import SignatureSearch.Proofs.Scan.Matches
import SignatureSearch.Proofs.Signature.Subsumption

namespace SignatureSearch

/-! ## (1) The signature of an excerpt -/

theorem xor_and_eq_zero_iff {a b m : UInt8} : (a ^^^ b) &&& m = 0 ↔ a &&& m = b &&& m := by
  have hsplit : (a ^^^ b) &&& m = (a &&& m) ^^^ (b &&& m) := by
    apply UInt8.toNat_inj.mp
    simp only [UInt8.toNat_and, UInt8.toNat_xor, Nat.and_xor_distrib_right]
  rw [hsplit, UInt8.xor_eq_zero_iff]

/-- From `i` and from `k` on, the bytes differ in no bit that the mask has. -/
def Bytes.AgreesUnder (bytes : Bytes) (mask : List UInt8) (i k : Nat) : Prop :=
  ∀ j m, mask[j]? = some m →
    ∃ a b, bytes.get? (i + j) = some a ∧ bytes.get? (k + j) = some b ∧ (a ^^^ b) &&& m = 0

theorem Bytes.agreesUnder_self {bytes : Bytes} {mask : List UInt8} {k : Nat} (inside : k + mask.length ≤ bytes.size) :
    bytes.AgreesUnder mask k k := by
  intro j m hm
  have hj : j < mask.length := (List.getElem?_eq_some_iff.mp hm).1
  obtain ⟨b, hb⟩ := exists_get? (show k + j < bytes.size by omega)
  exact ⟨b, b, hb, hb, by rw [UInt8.xor_self, UInt8.zero_and]⟩

namespace Signature

variable {s : Signature} {bytes piece : Bytes} {mask : List UInt8} {i k : Nat}

theorem fitsAt_excerpt_iff (cut : bytes.slice? k (k + mask.length) = some piece)
    (made : s.elements = List.zipWith Element.masked piece.toList mask) :
    s.FitsAt bytes i ↔ bytes.AgreesUnder mask i k := by
  have hpiece : ∀ j, j < mask.length → ∃ d, piece.toList[j]? = some d ∧ bytes.get? (k + j) = some d := by
    intro j hj
    have hsize := Bytes.size_of_slice? cut
    obtain ⟨d, hd⟩ := Bytes.exists_get? (show j < piece.size by omega)
    refine ⟨d, by rwa [Bytes.getElem?_toList], ?_⟩
    rw [← Bytes.get?_of_slice? cut j (by omega), hd]
  have helement : ∀ (j : Nat) (d m : UInt8), piece.toList[j]? = some d → mask[j]? = some m →
      s.elements[j]? = some (Element.masked d m) := by
    intro j d m hd hm
    rw [made, List.getElem?_zipWith_eq_some]
    exact ⟨d, m, hd, hm, rfl⟩
  constructor
  · intro hfits j m hm
    obtain ⟨d, hd, hbyte⟩ := hpiece j (List.getElem?_eq_some_iff.mp hm).1
    obtain ⟨b, hb, hmatch⟩ := hfits j _ (helement j d m hd hm)
    exact ⟨b, d, hb, hbyte, xor_and_eq_zero_iff.mpr hmatch⟩
  · intro hagrees j e he
    rw [made, List.getElem?_zipWith_eq_some] at he
    obtain ⟨d, m, hd, hm, rfl⟩ := he
    obtain ⟨a, b, ha, hb, hdiffer⟩ := hagrees j m hm
    obtain ⟨d', hd', hbyte⟩ := hpiece j (List.getElem?_eq_some_iff.mp hm).1
    obtain rfl : d = d' := Option.some.inj (hd.symm.trans hd')
    obtain rfl : b = d := Option.some.inj (hb.symm.trans hbyte)
    exact ⟨a, ha, xor_and_eq_zero_iff.mp hdiffer⟩

theorem exists_ofBytesAndMask {data : List UInt8} (hlength : data.length = mask.length) (hbit : ∃ m ∈ mask, m ≠ 0) :
    ∃ s, ofBytesAndMask data mask = .ok s := by
  obtain ⟨m, hm, hne⟩ := hbit
  have hpos : 0 < mask.length := List.length_pos_of_mem hm
  have hdata : data ≠ [] := List.length_pos_iff.mp (by omega)
  have hmask : mask.all (· == 0) ≠ true := by
    intro hall
    exact hne (beq_iff_eq.mp (List.all_eq_true.mp hall m hm))
  have hpairs : List.zipWith Element.masked data mask ≠ [] := by
    apply List.length_pos_iff.mp
    rw [List.length_zipWith]
    omega
  refine ⟨⟨_, hpairs⟩, ?_⟩
  unfold ofBytesAndMask ofNonempty
  rw [if_neg (not_not_intro hlength), if_neg hdata, if_neg hmask, dif_neg hpairs]

theorem exists_ofBytes {data : List UInt8} (hdata : data ≠ []) : ∃ s, ofBytes data = .ok s := by
  have hbytes : data.map Element.byte ≠ [] := by simpa using hdata
  exact ⟨⟨_, hbytes⟩, dif_neg hbytes⟩

theorem map_byte_eq (data : List UInt8) :
    data.map Element.byte = List.zipWith Element.masked data (List.replicate data.length 0xFF) := by
  induction data with
  | nil => rfl
  | cons d rest ih =>
    rw [List.map_cons, ih, List.length_cons, List.replicate_succ, List.zipWith_cons_cons]
    rfl

end Signature

/-! ## (2) The first match -/

namespace Scanner

variable {s : Scanner} {r : Region} {k : Nat}

theorem findFirst_le (hit : k ∈ s.hits r) : ∃ i ∈ s.hits r, s.findFirst r = some i ∧ i ≤ k := by
  have hascending : (s.hits r).Pairwise (· < ·) := passing_ascending
  rw [findFirst_eq]
  cases hhits : s.hits r with
  | nil =>
    rw [hhits] at hit
    cases hit
  | cons i later =>
    rw [hhits] at hit hascending
    refine ⟨i, List.mem_cons_self .., rfl, ?_⟩
    rcases List.mem_cons.mp hit with rfl | hlater
    · exact Nat.le_refl _
    · exact Nat.le_of_lt ((List.pairwise_cons.mp hascending).1 k hlater)

/-! ## (3) Finding the origin -/

/-- The scan reports `k`, its first match is `k` or before, and wherever it reports a match the bytes
    agree under the mask with those from `k` on. -/
structure Recovers (s : Scanner) (r : Region) (mask : List UInt8) (k : Nat) : Prop where
  reported : k ∈ (s.findAll r).toList
  first : ∃ i ∈ (s.findAll r).toList, s.findFirst r = some i ∧ i ≤ k
  agrees : ∀ i ∈ (s.findAll r).toList, r.bytes.AgreesUnder mask i k

theorem recovers_of_excerpt {piece : Bytes} {mask : List UInt8}
    (cut : r.bytes.slice? k (k + mask.length) = some piece)
    (made : s.signature.elements = List.zipWith Element.masked piece.toList mask)
    (allowed : s.options.alignment.Allows r.base k) : s.Recovers r mask k := by
  have hinside : k + mask.length ≤ r.bytes.size := (Bytes.slice?_isSome_iff.mp (by rw [cut]; rfl)).2
  have hfits : s.signature.FitsAt r.bytes k :=
    (Signature.fitsAt_excerpt_iff cut made).mpr (Bytes.agreesUnder_self hinside)
  have hhit : k ∈ s.hits r := (s.mem_hits r).mpr ⟨hfits.inside, allowed, hfits⟩
  refine ⟨?_, ?_, ?_⟩
  · rwa [findAll_toList]
  · rw [findAll_toList]
    exact findFirst_le hhit
  · intro i hi
    rw [findAll_toList, mem_hits] at hi
    exact (Signature.fitsAt_excerpt_iff cut made).mp hi.fits

/-- Cut at an allowed address, any bytes of a region and any mask of their number that has some bit
    make a signature, and the scan for it finds the place of the cut, whatever else is asked of it;
    so do the bytes alone, under a mask of all bits. -/
theorem excerpt_finds_origin (r : Region) (options : ScanOptions) (hasAvx2 : Bool) {k n : Nat} (filled : 1 ≤ n)
    (inside : k + n ≤ r.size) (allowed : options.alignment.Allows r.base k) :
    ∃ piece, r.bytes.slice? k (k + n) = some piece ∧
      (∀ mask : List UInt8, mask.length = n → (∃ m ∈ mask, m ≠ 0) →
        ∃ s, Signature.ofBytesAndMask piece.toList mask = .ok s ∧ Recovers ⟨s, options, hasAvx2⟩ r mask k) ∧
      ∃ s, Signature.ofBytes piece.toList = .ok s ∧
        Recovers ⟨s, options, hasAvx2⟩ r (List.replicate n 0xFF) k := by
  have hcut : (r.bytes.slice? k (k + n)).isSome := Bytes.slice?_isSome_iff.mpr ⟨Nat.le_add_right .., inside⟩
  obtain ⟨piece, cut⟩ := Option.isSome_iff_exists.mp hcut
  have hlength : piece.toList.length = n := by
    have hsize := Bytes.size_of_slice? cut
    rw [Nat.add_sub_cancel_left] at hsize
    exact hsize
  refine ⟨piece, cut, fun mask hmask hbit => ?_, ?_⟩
  · obtain ⟨s, hs⟩ := Signature.exists_ofBytesAndMask (hlength.trans hmask.symm) hbit
    rw [← hmask] at cut
    exact ⟨s, hs, recovers_of_excerpt cut (Signature.elements_of_ofBytesAndMask hs) allowed⟩
  · have hne : piece.toList ≠ [] := List.length_pos_iff.mp (by omega)
    obtain ⟨s, hs⟩ := Signature.exists_ofBytes hne
    have made := Signature.elements_of_ofNonempty hs
    rw [Signature.map_byte_eq, hlength] at made
    refine ⟨s, hs, recovers_of_excerpt ?_ made allowed⟩
    rwa [List.length_replicate]

def threePlaces : Region where
  bytes := .ofList ([0xCC, 0xCC, 0xCC, 0x41, 0x99, 0x25] ++ List.replicate 13 0xCC ++ [0x48, 0x8B, 0x05] ++
    List.replicate 13 0xCC ++ [0x58, 0x8B, 0x05])
  base := 0xFFFFFFFFFFFFFFFD

/-- Under a mask with no full byte, the bytes at address 16 are found there, behind those at address 0,
    which agree with them. -/
theorem excerpt_finds_origin_second :
    1 ≤ 3 ∧ 19 + 3 ≤ threePlaces.size ∧ Alignment.x16.Allows threePlaces.base 19 ∧
    ∃ s, Signature.ofBytesAndMask [0x48, 0x8B, 0x05] [0xF0, 0x00, 0x0F] = .ok s ∧
      Recovers ⟨s, { alignment := .x16 }, true⟩ threePlaces [0xF0, 0x00, 0x0F] 19 ∧
      (findAll ⟨s, { alignment := .x16 }, true⟩ threePlaces).toList = [3, 19] := by
  have inside : 19 + 3 ≤ threePlaces.size := by decide
  have allowed : Alignment.x16.Allows threePlaces.base 19 := by decide
  obtain ⟨piece, cut, masked, -⟩ :=
    excerpt_finds_origin threePlaces { alignment := .x16 } true (show 1 ≤ 3 by decide) inside allowed
  have hpiece : piece.toList = [0x48, 0x8B, 0x05] := Option.some.inj (congrArg (Option.map Bytes.toList) cut.symm)
  obtain ⟨s, hs, found⟩ := masked [0xF0, 0x00, 0x0F] rfl ⟨0xF0, by decide, by decide⟩
  rw [hpiece] at hs
  refine ⟨by decide, inside, allowed, s, hs, found, ?_⟩
  obtain rfl : _ = s := Except.ok.inj hs
  rw [findAll_toList]
  decide

end Scanner

end SignatureSearch
