/-
  SignatureSearch.Proofs.Scan.Subregion — scanning a part of a region finds what the whole scan finds there.

  A part of a region (`subregion`) has the bytes from its start on and begins at the address of the first of
  them, modulo 2⁶⁴ (`Region.IsPart`).

  Proved:
  (1) What the cut of a region gives is such a part (`Region.isPart_of_subregion?`), and its bytes
      keep their addresses (`Region.IsPart.addressOf_eq`).
  (2) A signature hits the part where it hits the whole and ends inside the part
      (`Region.IsPart.isHit_iff`).
  (3) So the matches in the part are those in the whole that lie inside it, counted from the part's
      start, each at the same address (`Scanner.findAll_subregion`).
-/

import Mathlib.Data.List.Sort
import SignatureSearch.Proofs.Scan.Matches

namespace SignatureSearch

/-! ## (1) Parts of a region -/

namespace Region

/-- `part` is the `length` bytes of the region from `start` on, at their own addresses. -/
structure IsPart (r : Region) (start length : Nat) (part : Region) : Prop where
  inside : start + length ≤ r.size
  size_eq : part.size = length
  get?_eq : ∀ i < length, part.bytes.get? i = r.bytes.get? (start + i)
  base_eq : part.base = r.addressOf start

variable {r part : Region}

theorem isPart_of_slice? {start stop : Nat} {bytes : Bytes} (h : r.bytes.slice? start stop = some bytes) :
    r.IsPart start (stop - start) ⟨bytes, r.addressOf start⟩ := by
  have hsome : (r.bytes.slice? start stop).isSome := by rw [h]; rfl
  have hin := Bytes.slice?_isSome_iff.mp hsome
  refine ⟨?_, Bytes.size_of_slice? h, Bytes.get?_of_slice? h, rfl⟩
  rw [Nat.add_sub_cancel' hin.1]
  exact hin.2

theorem isPart_of_subregion? {offset length : UInt64} (h : r.subregion? offset length = some part) :
    r.IsPart offset.toNat length.toNat part := by
  unfold subregion? at h
  simp only [Option.bind_eq_bind, Option.pure_def, Option.bind_eq_some_iff, Option.some.injEq] at h
  obtain ⟨stop, hstop, bytes, hbytes, rfl⟩ := h
  have hpart := isPart_of_slice? hbytes
  rwa [Word.addExact_eq_some_iff.mp hstop, Nat.add_sub_cancel_left] at hpart

namespace IsPart

variable {start length : Nat}

theorem addressOf_eq (h : r.IsPart start length part) (i : Nat) : part.addressOf i = r.addressOf (start + i) := by
  rw [← UInt64.toNat_inj]
  simp only [addressOf, h.base_eq, wrapped_toNat]
  rw [Nat.mod_add_mod, Nat.add_assoc]

/-! ## (2) Hits -/

theorem allows_iff (h : r.IsPart start length part) {a : Alignment} {i : Nat} :
    a.Allows part.base i ↔ a.Allows r.base (start + i) := by
  unfold Alignment.Allows
  rw [h.base_eq, addressOf, wrapped_toNat, Nat.mod_add_mod, Nat.add_assoc]

theorem fitsAt_iff (h : r.IsPart start length part) {s : Signature} {i : Nat} (hi : i + s.length ≤ length) :
    s.FitsAt part.bytes i ↔ s.FitsAt r.bytes (start + i) := by
  refine forall_congr' fun j => forall_congr' fun e => forall_congr' fun he => ?_
  have hj : j < s.length := (List.getElem?_eq_some_iff.mp he).1
  rw [h.get?_eq (i + j) (by omega), Nat.add_assoc]

theorem isHit_iff (h : r.IsPart start length part) {s : Signature} {a : Alignment} {i : Nat} :
    IsHit s a part.bytes part.base i ↔ IsHit s a r.bytes r.base (start + i) ∧ i + s.length ≤ length := by
  have hsize : part.bytes.size = length := h.size_eq
  have hin : start + length ≤ r.bytes.size := h.inside
  constructor
  · intro hit
    have hi : i + s.length ≤ length := hsize ▸ hit.inside
    exact ⟨⟨by omega, h.allows_iff.mp hit.allowed, (h.fitsAt_iff hi).mp hit.fits⟩, hi⟩
  · rintro ⟨hit, hi⟩
    exact ⟨by omega, h.allows_iff.mpr hit.allowed, (h.fitsAt_iff hi).mpr hit.fits⟩

end IsPart

end Region

/-! ## (3) Matches -/

namespace Scanner

variable {r part : Region}

theorem hits_part (s : Scanner) {start length : Nat} (h : r.IsPart start length part) :
    s.hits part =
      ((s.hits r).filter fun i => start ≤ i ∧ i + s.signature.length ≤ start + length).map (· - start) := by
  have ascending : ∀ r, (s.hits r).Pairwise (· < ·) := fun r => passing_ascending
  refine (ascending part).eq_of_mem_iff ?_ fun i => ?_
  · rw [List.pairwise_map]
    refine ((ascending r).filter _).imp_of_mem fun hi hj hlt => ?_
    simp only [List.mem_filter, decide_eq_true_eq] at hi hj
    omega
  · simp only [List.mem_map, List.mem_filter, mem_hits, decide_eq_true_eq, h.isHit_iff]
    constructor
    · rintro ⟨hit, hi⟩
      exact ⟨start + i, ⟨hit, by omega, by omega⟩, by omega⟩
    · rintro ⟨k, ⟨hit, hk, hend⟩, rfl⟩
      rw [Nat.add_sub_cancel' hk]
      exact ⟨hit, by omega⟩

/-- The matches in a part of a region are the matches in the whole that begin and end inside it,
    in the same order and counted from the part's start, and each has the same address in both. -/
theorem findAll_subregion (s : Scanner) {offset length : UInt64} (h : r.subregion? offset length = some part) :
    (s.findAll part).toList =
        ((s.findAll r).toList.filter fun i =>
          offset.toNat ≤ i ∧ i + s.signature.length ≤ offset.toNat + length.toNat).map (· - offset.toNat) ∧
      ∀ i ∈ (s.findAll r).toList, offset.toNat ≤ i → part.addressOf (i - offset.toNat) = r.addressOf i := by
  have hpart := Region.isPart_of_subregion? h
  rw [findAll_toList, findAll_toList]
  refine ⟨s.hits_part hpart, fun i _ hi => ?_⟩
  rw [hpart.addressOf_eq, Nat.add_sub_cancel' hi]

/-- Forty equal bytes, the fourth of which lies at address zero. -/
def acrossZero : Region := ⟨.ofList (List.replicate 40 0xCC), 0xFFFFFFFFFFFFFFFD⟩

def alignedPair : Scanner where
  signature := ⟨[.byte 0xCC, .byte 0xCC], nofun⟩
  options := { alignment := .x16, hint := .x86_64 }

/-- Of three matches, at addresses 0, 16 and 32, the part of 33 bytes from the third on has two: the
    last one ends behind it. -/
theorem findAll_subregion_across_zero : ∃ part, acrossZero.subregion? 2 33 = some part ∧
    (alignedPair.findAll acrossZero).toList = [3, 19, 35] ∧ (alignedPair.findAll part).toList = [1, 17] ∧
    part.addressOf 1 = 0 ∧ part.addressOf 17 = 16 := by
  obtain ⟨part, hpart⟩ : ∃ part, acrossZero.subregion? 2 33 = some part := ⟨_, rfl⟩
  have hwhole : (alignedPair.findAll acrossZero).toList = [3, 19, 35] := by
    rw [findAll_toList]
    decide
  obtain ⟨hmatches, haddress⟩ := findAll_subregion alignedPair hpart
  rw [hwhole] at hmatches haddress
  exact ⟨part, hpart, hwhole, hmatches, haddress 3 (by decide) (by decide), haddress 19 (by decide) (by decide)⟩

end Scanner

end SignatureSearch
