/-
  SignatureSearch.Proofs.Scan.FirstMatch — what a caller may read at the first match of a scan.

  A signature names code by what surrounds the bytes of interest: the caller scans for it (`find_match`)
  and then reads (`read_i32`), at a fixed distance from the match, what the signature leaves open. That
  this never leaves the region rests on the length of the signature alone.

  Proved:
  (1) Where a signature fits, four known elements in a row hold the number of their values
      (`Signature.FitsAt.holdsAt`).
  (2) A hit can be relied on for everything that the signature says of the bytes behind it
      (`IsHit.readable`), and the first match of a scan is the hit at the first offset that the scan
      finds (`Scanner.findMatch_readable`).
-/

import SignatureSearch.Proofs.Match.Displacement
import SignatureSearch.Proofs.Scan.Matches

namespace SignatureSearch

/-! ## (1) Known elements -/

theorem Signature.FitsAt.holdsAt {s : Signature} {bytes : Bytes} {i j : Nat} {v₀ v₁ v₂ v₃ : UInt8}
    (h : s.FitsAt bytes i) (h₀ : s.KnownAt j v₀) (h₁ : s.KnownAt (j + 1) v₁) (h₂ : s.KnownAt (j + 2) v₂)
    (h₃ : s.KnownAt (j + 3) v₃) :
    bytes.HoldsAt (i + j) (Int.bmod (littleValue v₀ v₁ v₂ v₃) (2 ^ 32)) :=
  ⟨v₀, v₁, v₂, v₃, h.get?_of_knownAt h₀, h.get?_of_knownAt h₁, h.get?_of_knownAt h₂, h.get?_of_knownAt h₃, rfl⟩

/-! ## (2) The first match -/

/-- What a caller may rely on at a match of a signature. -/
structure Match.Readable (m : Match) (s : Signature) (a : Alignment) : Prop where
  inside : m.offset ≤ m.region.size
  size_bytes : m.bytes.size = m.region.size - m.offset
  get?_bytes : ∀ i, m.bytes.get? i = m.region.bytes.get? (m.offset + i)
  enough : s.length ≤ m.bytes.size
  fits : ∀ j e, s.elements[j]? = some e → ∃ b, m.bytes.get? j = some b ∧ e.matchesByte b = true
  reads : ∀ at_ : UInt64, at_.toNat + 4 ≤ s.length → ∃ d, m.displacement? at_ = some d
  /-- Where the signature knows all its bytes, it is what they say. -/
  known : ∀ (at_ : UInt64) (v₀ v₁ v₂ v₃ : UInt8), s.KnownAt at_.toNat v₀ → s.KnownAt (at_.toNat + 1) v₁ →
    s.KnownAt (at_.toNat + 2) v₂ → s.KnownAt (at_.toNat + 3) v₃ →
    m.displacement? at_ = some (Int.bmod (littleValue v₀ v₁ v₂ v₃) (2 ^ 32))
  address : m.address.toNat = (m.region.base.toNat + m.offset) % UInt64.size
  aligned : m.address.toNat % a.stride = 0

theorem IsHit.readable {s : Signature} {a : Alignment} {r : Region} {i : Nat} (hit : IsHit s a r.bytes r.base i) :
    Match.Readable ⟨r, i⟩ s a := by
  have hinside : i + s.length ≤ r.size := hit.inside
  have hlt : r.size < 0x8000000000000000 := r.bytes.size_lt
  have hplace : i < UInt64.size := by
    unfold UInt64.size
    omega
  have hread : ∀ at_ d, Match.displacement? ⟨r, i⟩ at_ = some d ↔ r.bytes.HoldsAt (i + at_.toNat) d :=
    fun at_ d => Match.displacement?_eq_some_iff hplace
  have haddress : (Match.mk r i).address.toNat = (r.base.toNat + i) % UInt64.size := wrapped_toNat r.base i
  refine ⟨?_, Bytes.size_drop, Bytes.get?_drop, ?_, ?_, ?_, ?_, haddress, ?_⟩
  · show i ≤ r.size
    omega
  · have hsize : (r.bytes.drop i).size = r.size - i := Bytes.size_drop
    show s.length ≤ (r.bytes.drop i).size
    omega
  · intro j e he
    obtain ⟨b, hb, hm⟩ := hit.fits j e he
    exact ⟨b, (Bytes.get?_drop j).trans hb, Element.matchesByte_iff.mpr hm⟩
  · intro at_ hat
    simp only [hread]
    exact Bytes.exists_holdsAt_iff.mpr (show i + at_.toNat + 4 ≤ r.size by omega)
  · intro at_ v₀ v₁ v₂ v₃ h₀ h₁ h₂ h₃
    exact (hread at_ _).mpr (hit.fits.holdsAt h₀ h₁ h₂ h₃)
  · rw [haddress]
    exact hit.allowed

namespace Scanner

variable (s : Scanner) (r : Region)

theorem findMatch_eq_some_iff {m : Match} : s.findMatch r = some m ↔ m.region = r ∧ s.findFirst r = some m.offset := by
  unfold findMatch
  rw [Option.map_eq_some_iff]
  constructor
  · intro h
    obtain ⟨i, hi, rfl⟩ := h
    exact ⟨rfl, hi⟩
  · intro h
    obtain ⟨rfl, hi⟩ := h
    exact ⟨m.offset, hi, rfl⟩

/-- There is a first match just when an offset is found, and it is the match at this offset. The signature is
there, all of it lies in the region, and whatever lies between the match and the signature's end can be read. -/
theorem findMatch_readable :
    ((s.findMatch r).isSome ↔ (s.findFirst r).isSome) ∧
    (∀ m, s.findMatch r = some m ↔ m.region = r ∧ s.findFirst r = some m.offset) ∧
    ∀ m, s.findMatch r = some m → m.Readable s.signature s.options.alignment := by
  refine ⟨?_, fun m => s.findMatch_eq_some_iff r, fun m found => ?_⟩
  · unfold findMatch
    rw [Option.isSome_map]
  · obtain ⟨rfl, hfirst⟩ := (s.findMatch_eq_some_iff r).mp found
    rw [findFirst_eq] at hfirst
    exact ((s.mem_hits m.region).mp (List.mem_of_head? hfirst)).readable

def callBack : Scanner where
  signature := ⟨[0xE8, 0xFB, 0xFF, 0xFF, 0xFF].map Element.byte ++ [.wildcard], nofun⟩
  options := { alignment := .x16, hint := .x86_64 }

def twoCalls : Region where
  bytes := .ofList [0xE8, 0xFB, 0xFF, 0xFF, 0xFF, 0x90, 0x00, 0x00, 0xE8, 0xFB, 0xFF, 0xFF, 0xFF, 0x90]
  base := 0xFFFFFFFFFFFFFFF8

/-- The second one is found, and how far it calls is known from the signature. -/
theorem findMatch_readable_at_address_zero :
    ∃ m, callBack.findMatch twoCalls = some m ∧ m.offset = 8 ∧ m.address.toNat = 0 ∧ m.displacement? 1 = some (-5) := by
  obtain ⟨-, hmatch, hreadable⟩ := findMatch_readable callBack twoCalls
  have hfirst : callBack.findFirst twoCalls = some 8 := by
    rw [findFirst_eq]
    decide +kernel
  have found := (hmatch ⟨twoCalls, 8⟩).mpr ⟨rfl, hfirst⟩
  have readable := hreadable _ found
  have hdistance := readable.known 1 0xFB 0xFF 0xFF 0xFF ⟨_, rfl, rfl, rfl⟩ ⟨_, rfl, rfl, rfl⟩ ⟨_, rfl, rfl, rfl⟩
    ⟨_, rfl, rfl, rfl⟩
  refine ⟨_, found, rfl, ?_, ?_⟩
  · rw [readable.address]
    rfl
  · rw [hdistance]
    decide

end Scanner

end SignatureSearch
