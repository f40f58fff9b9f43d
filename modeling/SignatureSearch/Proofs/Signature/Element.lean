/-
  SignatureSearch.Proofs.Signature.Element — elements bit by bit.

  Proved: a byte satisfies an element when its bits are those of the value wherever the mask is set
  (`matchesByte_iff_bits`), so elements that the same bytes satisfy are equal (`ext_of_matches`);
  and splitting a comparison under a mask into a high and a low part (`and_split`).
-/

import Mathlib.Algebra.Group.Nat.Defs
import SignatureSearch.Signature.Element

namespace SignatureSearch

theorem eq_of_testBit {a b : UInt8} (h : ∀ i, a.toNat.testBit i = b.toNat.testBit i) : a = b :=
  UInt8.toNat_inj.mp (Nat.eq_of_testBit_eq h)

theorem lt_eight_of_testBit {v : UInt8} {i : Nat} (h : v.toNat.testBit i = true) : i < 8 :=
  (Nat.pow_lt_pow_iff_right (by decide : 1 < 2)).mp (Nat.lt_of_le_of_lt (Nat.ge_two_pow_of_testBit h) v.toNat_lt)

theorem and_split {w a b : Nat} (A B : Nat) (ha : a < 2 ^ w) (hb : b < 2 ^ w) :
    (2 ^ w * A + a) &&& (2 ^ w * B + b) = 2 ^ w * (A &&& B) + (a &&& b) := by
  have hab : a &&& b < 2 ^ w := Nat.lt_of_le_of_lt Nat.and_le_left ha
  apply Nat.eq_of_testBit_eq
  intro i
  rw [Nat.testBit_and, Nat.testBit_two_pow_mul_add _ ha, Nat.testBit_two_pow_mul_add _ hb,
    Nat.testBit_two_pow_mul_add _ hab]
  split <;> rw [Nat.testBit_and]

namespace Element

/-- Where the mask is clear, so is the value. -/
theorem mask_of_value {e : Element} {i : Nat} (h : e.value.toNat.testBit i = true) : e.mask.toNat.testBit i = true := by
  have hv := congrArg (fun v : UInt8 => v.toNat.testBit i) e.value_masked
  simp only [UInt8.toNat_and, Nat.testBit_and, h, Bool.true_and] at hv
  exact hv

theorem matchesByte_iff_bits {e : Element} {b : UInt8} :
    e.matchesByte b = true ↔ ∀ i, e.mask.toNat.testBit i = true → b.toNat.testBit i = e.value.toNat.testBit i := by
  rw [matchesByte, beq_iff_eq]
  constructor
  · intro h i hm
    rw [← h, UInt8.toNat_and, Nat.testBit_and, hm, Bool.and_true]
  · intro h
    apply eq_of_testBit
    intro i
    rw [UInt8.toNat_and, Nat.testBit_and]
    cases hm : e.mask.toNat.testBit i with
    | true => rw [Bool.and_true, h i hm]
    | false =>
      rw [Bool.and_false]
      cases hv : e.value.toNat.testBit i with
      | false => rfl
      | true => rw [mask_of_value hv] at hm; cases hm

theorem matchesByte_value (e : Element) : e.matchesByte e.value = true :=
  matchesByte_iff_bits.mpr fun _ _ => rfl

/-- The byte of the element's value whose free bits are set. -/
def filled (e : Element) : UInt8 := e.value ||| ~~~e.mask

theorem testBit_filled (e : Element) (i : Nat) :
    e.filled.toNat.testBit i = (e.value.toNat.testBit i || decide (i < 8) && !e.mask.toNat.testBit i) := by
  have hlt : e.mask.toNat < 2 ^ 8 := e.mask.toNat_lt
  rw [filled, UInt8.toNat_or, Nat.testBit_or, UInt8.toNat_not,
    show UInt8.size - 1 - e.mask.toNat = 2 ^ 8 - (e.mask.toNat + 1) by rw [UInt8.size]; omega,
    Nat.testBit_two_pow_sub_succ hlt]

theorem matchesByte_filled (e : Element) : e.matchesByte e.filled = true := by
  rw [matchesByte_iff_bits]
  intro i hm
  rw [testBit_filled, hm, Bool.not_true, Bool.and_false, Bool.or_false]

/-- An element that is satisfied by whatever satisfies `a` compares no bit that `a` leaves free,
    and has the value of `a` in those it compares. -/
theorem bits_of_imp {a c : Element} (h : ∀ b, a.matchesByte b = true → c.matchesByte b = true) {i : Nat}
    (hc : c.mask.toNat.testBit i = true) :
    a.mask.toNat.testBit i = true ∧ a.value.toNat.testBit i = c.value.toNat.testBit i := by
  have hvalue := matchesByte_iff_bits.mp (h _ a.matchesByte_value) i hc
  have hfilled := matchesByte_iff_bits.mp (h _ a.matchesByte_filled) i hc
  refine ⟨?_, hvalue⟩
  cases ha : a.mask.toNat.testBit i with
  | true => rfl
  | false =>
    have hi := lt_eight_of_testBit hc
    rw [testBit_filled, ha, ← hvalue] at hfilled
    cases hv : a.value.toNat.testBit i with
    | true => rw [mask_of_value hv] at ha; cases ha
    | false => simp [hv, hi] at hfilled

theorem ext_of_matches {a c : Element} (h : ∀ b, a.matchesByte b = true ↔ c.matchesByte b = true) : a = c := by
  have hac := @bits_of_imp a c fun b => (h b).mp
  have hca := @bits_of_imp c a fun b => (h b).mpr
  apply ext
  · apply eq_of_testBit
    intro i
    rw [Bool.eq_iff_iff]
    constructor
    · intro hv; rw [(hca (mask_of_value hv)).2, hv]
    · intro hv; rw [(hac (mask_of_value hv)).2, hv]
  · apply eq_of_testBit
    intro i
    rw [Bool.eq_iff_iff]
    exact ⟨fun hm => (hca hm).1, fun hm => (hac hm).1⟩

end Element

end SignatureSearch
