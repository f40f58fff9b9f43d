/-
  SignatureSearch.Proofs.Match.Displacement — what a displacement behind a match says, and where it leads.

  A displacement is four bytes, the lowest one first, that hold a signed number (`read_i32`). It is
  counted from the end of its instruction (`rel`), so the sum of up to five numbers decides where it
  leads: each of them may be as large as 64 bits allow, and the last one may be negative.

  Proved:
  (1) Four bytes are read as their number to base 256 (`Bytes.u32?_little`), and its two's complement
      value lies on either side of zero (`Match.signed32_eq_bmod`).
  (2) A displacement is read just where four bytes are left in the region, and it is the signed number
      that they hold (`Match.displacement?_eq_some_iff`, `Bytes.exists_holdsAt_iff`).
  (3) It leads to the exact sum, just if this and the end of the instruction are 64-bit numbers
      (`Match.target?_eq_some_iff`).
  (4) All together for any match in any region, with this consequence: where the bytes hold the
      distance from the end of the instruction to an address, they lead there, unless that end is no
      64-bit number (`Match.displacement_leads_to`). If it is none they lead nowhere, not even back to
      the instruction itself (`Match.a_jump_at_the_last_address_leads_nowhere`).
-/

import Mathlib.Algebra.Group.Nat.Defs
import SignatureSearch.Match

namespace SignatureSearch

/-! ## (1) Four bytes as a number -/

/-- The number whose digits to base 256 these are, the lowest one first. -/
def littleValue (b₀ b₁ b₂ b₃ : UInt8) : Nat := b₀.toNat + b₁.toNat * 2 ^ 8 + b₂.toNat * 2 ^ 16 + b₃.toNat * 2 ^ 24

theorem littleValue_lt (b₀ b₁ b₂ b₃ : UInt8) : littleValue b₀ b₁ b₂ b₃ < UInt32.size := by
  have h₀ := b₀.toNat_lt
  have h₁ := b₁.toNat_lt
  have h₂ := b₂.toNat_lt
  have h₃ := b₃.toNat_lt
  unfold littleValue UInt32.size
  omega

theorem Word.exists_toNat {n : Nat} (h : n < UInt64.size) : ∃ w : UInt64, w.toNat = n :=
  ⟨UInt64.ofNat n, UInt64.toNat_ofNat_of_lt' h⟩

namespace Bytes

variable {b : Bytes} {pos : Nat}

theorem u32?_isSome_iff {order : ByteOrder} : (b.u32? order pos).isSome ↔ pos + 4 ≤ b.size := by
  unfold u32? number?
  rw [Option.isSome_map, Option.isSome_map, slice?_isSome_iff]
  omega

theorem u32?_little {b₀ b₁ b₂ b₃ : UInt8} (h₀ : b.get? pos = some b₀) (h₁ : b.get? (pos + 1) = some b₁)
    (h₂ : b.get? (pos + 2) = some b₂) (h₃ : b.get? (pos + 3) = some b₃) :
    b.u32? .little pos = some (UInt32.ofNat (littleValue b₀ b₁ b₂ b₃)) := by
  have hlast := lt_size_of_get? h₃
  have hcut : (b.slice? pos (pos + 4)).isSome := slice?_isSome_iff.mpr ⟨by omega, by omega⟩
  obtain ⟨field, hfield⟩ := Option.isSome_iff_exists.mp hcut
  have hbytes : field.toList = [b₀, b₁, b₂, b₃] := by
    apply List.ext_getElem?
    intro i
    rw [getElem?_toList]
    by_cases hi : i < 4
    · rw [get?_of_slice? hfield i (by omega)]
      rcases (by omega : i = 0 ∨ i = 1 ∨ i = 2 ∨ i = 3) with rfl | rfl | rfl | rfl
      · exact h₀
      · exact h₁
      · exact h₂
      · exact h₃
    · have hsize := size_of_slice? hfield
      rw [← getElem?_toList, List.getElem?_eq_none (by rw [length_toList]; omega),
        List.getElem?_eq_none (by show 4 ≤ i; omega)]
  have hvalue : ByteOrder.little.value [b₀, b₁, b₂, b₃] = littleValue b₀ b₁ b₂ b₃ := by
    show ((((0 * 256 + b₃.toNat) * 256 + b₂.toNat) * 256 + b₁.toNat) * 256 + b₀.toNat) = _
    unfold littleValue
    omega
  unfold u32? number?
  rw [hfield, Option.map_some, Option.map_some, hbytes, hvalue]

/-- From `pos` on the bytes hold the signed number `d`, in two's complement and the lowest byte first. -/
def HoldsAt (b : Bytes) (pos : Nat) (d : Int) : Prop :=
  ∃ b₀ b₁ b₂ b₃, b.get? pos = some b₀ ∧ b.get? (pos + 1) = some b₁ ∧ b.get? (pos + 2) = some b₂ ∧
    b.get? (pos + 3) = some b₃ ∧ d = Int.bmod (littleValue b₀ b₁ b₂ b₃) (2 ^ 32)

theorem HoldsAt.inside {d : Int} (h : b.HoldsAt pos d) : pos + 4 ≤ b.size := by
  obtain ⟨b₀, b₁, b₂, b₃, -, -, -, h₃, -⟩ := h
  have hlast := lt_size_of_get? h₃
  omega

theorem exists_holdsAt_iff : (∃ d, b.HoldsAt pos d) ↔ pos + 4 ≤ b.size := by
  constructor
  · intro h
    obtain ⟨d, h⟩ := h
    exact h.inside
  · intro h
    obtain ⟨b₀, h₀⟩ := exists_get? (show pos < b.size by omega)
    obtain ⟨b₁, h₁⟩ := exists_get? (show pos + 1 < b.size by omega)
    obtain ⟨b₂, h₂⟩ := exists_get? (show pos + 2 < b.size by omega)
    obtain ⟨b₃, h₃⟩ := exists_get? (show pos + 3 < b.size by omega)
    exact ⟨_, b₀, b₁, b₂, b₃, h₀, h₁, h₂, h₃, rfl⟩

end Bytes

/-! ## (2) Reading a displacement -/

namespace Match

variable {m : Match} {at_ remaining : UInt64} {d : Int}

theorem signed32_eq_bmod (n : UInt32) : signed32 n = Int.bmod n.toNat (2 ^ 32) := by
  have hn := n.toNat_lt
  unfold signed32 UInt32.size
  rw [Int.bmod_def]
  split <;> split <;> omega

theorem u32?_eq_some_iff {b : Bytes} {pos : Nat} :
    (b.u32? .little pos).map signed32 = some d ↔ b.HoldsAt pos d := by
  constructor
  · intro h
    have hinside : pos + 4 ≤ b.size := by
      rw [← Bytes.u32?_isSome_iff, ← Option.isSome_map, h]
      rfl
    obtain ⟨e, b₀, b₁, b₂, b₃, h₀, h₁, h₂, h₃, he⟩ := Bytes.exists_holdsAt_iff.mpr hinside
    rw [Bytes.u32?_little h₀ h₁ h₂ h₃] at h
    refine ⟨b₀, b₁, b₂, b₃, h₀, h₁, h₂, h₃, ?_⟩
    rw [← Option.some.inj h, signed32_eq_bmod, UInt32.toNat_ofNat_of_lt' (littleValue_lt ..)]
  · intro h
    obtain ⟨b₀, b₁, b₂, b₃, h₀, h₁, h₂, h₃, hd⟩ := h
    rw [Bytes.u32?_little h₀ h₁ h₂ h₃, Option.map_some, signed32_eq_bmod,
      UInt32.toNat_ofNat_of_lt' (littleValue_lt ..), hd]

theorem displacement?_eq_some_iff (place : m.offset < UInt64.size) :
    m.displacement? at_ = some d ↔ m.region.bytes.HoldsAt (m.offset + at_.toNat) d := by
  have hoffset : (UInt64.ofNat m.offset).toNat = m.offset := UInt64.toNat_ofNat_of_lt' place
  rw [← u32?_eq_some_iff]
  unfold displacement?
  simp only [Option.bind_eq_bind, Option.bind_eq_some_iff, Option.pure_def, Option.map_eq_some_iff, Option.some.injEq]
  constructor
  · intro h
    obtain ⟨start, hstart, -, -, n, hn, hd⟩ := h
    rw [Word.addExact_eq_some_iff, hoffset] at hstart
    rw [hstart] at hn
    exact ⟨n, hn, hd⟩
  · intro h
    obtain ⟨n, hn, hd⟩ := h
    have hinside : m.offset + at_.toNat + 4 ≤ m.region.bytes.size := by
      rw [← Bytes.u32?_isSome_iff, hn]
      rfl
    have hsize := m.region.bytes.size_lt_two_pow
    obtain ⟨start, hstart⟩ := Word.exists_toNat (show m.offset + at_.toNat < UInt64.size by unfold UInt64.size; omega)
    obtain ⟨stop, hstop⟩ := Word.exists_toNat (show start.toNat + 4 < UInt64.size by unfold UInt64.size; omega)
    refine ⟨start, ?_, stop, Word.addExact_eq_some_iff.mpr hstop, n, by rwa [hstart], hd⟩
    rw [Word.addExact_eq_some_iff, hoffset]
    exact hstart

/-! ## (3) Following it -/

/-- The address behind the instruction, which may be no 64-bit number. -/
def behind (m : Match) (at_ remaining : UInt64) : Nat := m.address.toNat + at_.toNat + 4 + remaining.toNat

theorem target?_eq_some_iff {t : UInt64} :
    m.target? at_ remaining = some t ↔
      ∃ d, m.displacement? at_ = some d ∧ m.behind at_ remaining < UInt64.size ∧
        (t.toNat : Int) = m.behind at_ remaining + d := by
  unfold target? behind
  simp only [Option.bind_eq_bind, Option.bind_eq_some_iff, Word.addExact_eq_some_iff, Word.addSigned_eq_some_iff]
  constructor
  · intro h
    obtain ⟨d, hd, x, hx, y, hy, z, hz, ht⟩ := h
    have hfour : (4 : UInt64).toNat = 4 := rfl
    have hlt := z.toNat_lt
    have hbehind : z.toNat = m.address.toNat + at_.toNat + 4 + remaining.toNat := by omega
    exact ⟨d, hd, hbehind ▸ hlt, hbehind ▸ ht⟩
  · intro h
    obtain ⟨d, hd, hlt, ht⟩ := h
    obtain ⟨x, hx⟩ := Word.exists_toNat (show m.address.toNat + at_.toNat < UInt64.size by omega)
    obtain ⟨y, hy⟩ := Word.exists_toNat (show x.toNat + 4 < UInt64.size by omega)
    obtain ⟨z, hz⟩ := Word.exists_toNat (show y.toNat + remaining.toNat < UInt64.size by omega)
    refine ⟨d, hd, x, hx, y, hy, z, hz, ?_⟩
    rw [ht, hz, hy, hx]

end Match

/-! ## (4) Matches in a region -/

/-- The match at an offset of 64 bits. -/
def Region.matchAt (r : Region) (offset : UInt64) : Match := ⟨r, offset.toNat⟩

namespace Match

/-- A displacement is read just where it lies in the region, whatever the offsets are, and it leads to the exact
sum just where this and the address behind the instruction are 64-bit numbers. So bytes that hold the distance
from there to an address lead to this address, as long as there is an address behind the instruction. -/
theorem displacement_leads_to (r : Region) (offset at_ remaining : UInt64) :
    (r.matchAt offset).address.toNat = (r.base.toNat + offset.toNat) % UInt64.size ∧
    ((∃ d, (r.matchAt offset).displacement? at_ = some d) ↔ offset.toNat + at_.toNat + 4 ≤ r.size) ∧
    (∀ d, (r.matchAt offset).displacement? at_ = some d ↔ r.bytes.HoldsAt (offset.toNat + at_.toNat) d) ∧
    (∀ t, (r.matchAt offset).target? at_ remaining = some t ↔
      ∃ d, (r.matchAt offset).displacement? at_ = some d ∧
        (r.matchAt offset).behind at_ remaining < UInt64.size ∧
        0 ≤ (r.matchAt offset).behind at_ remaining + d ∧ (r.matchAt offset).behind at_ remaining + d < UInt64.size ∧
        (t.toNat : Int) = (r.matchAt offset).behind at_ remaining + d) ∧
    ∀ t : UInt64, r.bytes.HoldsAt (offset.toNat + at_.toNat) (t.toNat - (r.matchAt offset).behind at_ remaining) →
      ((r.matchAt offset).target? at_ remaining = some t ↔ (r.matchAt offset).behind at_ remaining < UInt64.size) := by
  have hread : ∀ d, (r.matchAt offset).displacement? at_ = some d ↔ r.bytes.HoldsAt (offset.toNat + at_.toNat) d :=
    fun d => displacement?_eq_some_iff offset.toNat_lt
  refine ⟨?_, ?_, hread, fun t => ?_, fun t holds => ?_⟩
  · show (r.base + UInt64.ofNat offset.toNat).toNat = _
    rw [UInt64.ofNat_toNat, UInt64.toNat_add]
  · simp only [hread]
    exact Bytes.exists_holdsAt_iff
  · rw [target?_eq_some_iff]
    have ht := t.toNat_lt
    constructor
    · intro h
      obtain ⟨d, hd, hbehind, hsum⟩ := h
      exact ⟨d, hd, hbehind, by omega, by unfold UInt64.size; omega, hsum⟩
    · intro h
      obtain ⟨d, hd, hbehind, -, -, hsum⟩ := h
      exact ⟨d, hd, hbehind, hsum⟩
  · rw [target?_eq_some_iff]
    constructor
    · intro h
      obtain ⟨-, -, hbehind, -⟩ := h
      exact hbehind
    · intro hbehind
      exact ⟨_, (hread _).mpr holds, hbehind, by omega⟩

def loadAddress : Region := ⟨.ofList [0x48, 0x8D, 0x05, 0x10, 0, 0, 0], 0x1000⟩

theorem displacement_leads_to_data :
    (loadAddress.matchAt 0).displacement? 3 = some 0x10 ∧ (loadAddress.matchAt 0).target? 3 0 = some 0x1017 := by
  obtain ⟨-, -, hread, -, hleads⟩ := displacement_leads_to loadAddress 0 3 0
  have holds : loadAddress.bytes.HoldsAt 3 0x10 :=
    ⟨0x10, 0, 0, 0, by decide +kernel, by decide +kernel, by decide +kernel, by decide +kernel, by decide⟩
  have hbehind : (loadAddress.matchAt 0).behind 3 0 = 0x1007 := by decide +kernel
  refine ⟨(hread 0x10).mpr holds, (hleads 0x1017 ?_).mpr ?_⟩
  · rw [hbehind]
    exact holds
  · rw [hbehind]
    decide

/-- A jump to itself in the last five bytes of the address space. -/
def lastJump : Region := ⟨.ofList [0xE9, 0xFB, 0xFF, 0xFF, 0xFF], 0xFFFFFFFFFFFFFFFB⟩

/-- Its bytes hold the distance from the address behind it, which would be 2⁶⁴, to its own. -/
theorem a_jump_at_the_last_address_leads_nowhere :
    (lastJump.matchAt 0).address = 0xFFFFFFFFFFFFFFFB ∧
    lastJump.bytes.HoldsAt 1 ((0xFFFFFFFFFFFFFFFB : UInt64).toNat - (lastJump.matchAt 0).behind 1 0) ∧
    (lastJump.matchAt 0).target? 1 0 = none := by
  refine ⟨by decide +kernel, ⟨0xFB, 0xFF, 0xFF, 0xFF, by decide +kernel, by decide +kernel, by decide +kernel,
    by decide +kernel, by decide +kernel⟩, by decide +kernel⟩

end Match

end SignatureSearch
