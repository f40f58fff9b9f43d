/-
  SignatureSearch.Proofs.Scan.Block — the search by blocks answers as the byte by byte search does.

  The bits of a lane word are its lanes (`HasLane`). Setting, comparing, counting and clearing
  lanes is stated in terms of them, so that nothing below speaks of bits.

  Proved:
  (1) `lowestLane` is the lowest lane of a word that has one (`lowestLane_isLowest`), and
      `clearLowest` takes away just that lane (`hasLane_clearLowest`).
  (2) The lanes of a block are the places before the end at which the anchor stands
      (`anchorLanes_eq`); verifying them answers the least hit among them (`verifyLanes_answers`).
  (3) A block holds the least hit or none (`block_answers`), and a walk over the blocks ends at the
      least hit or behind places that hold none (`blocks_answers`), so the search ends without a
      fault with the least hit (`find_answers`), which is what the byte by byte search ends with
      (`find_agrees_with_single`).
-/

import SignatureSearch.Proofs.Scan.Single
import SignatureSearch.Scan.Block

namespace SignatureSearch.Block

/-! ## (1) Lanes -/

def HasLane (word : UInt32) (k : Nat) : Prop := word.toNat.testBit k = true

theorem HasLane.lt_lanes {word : UInt32} {k : Nat} (h : HasLane word k) : k < lanes := by
  have hle : 2 ^ k ≤ word.toNat := Nat.ge_two_pow_of_testBit h
  exact (Nat.pow_lt_pow_iff_right (by decide : 1 < 2)).mp (Nat.lt_of_le_of_lt hle word.toNat_lt)

theorem exists_hasLane {word : UInt32} (h : word ≠ 0) : ∃ k, HasLane word k :=
  Nat.exists_testBit_of_ne_zero fun e => h (UInt32.toNat_inj.mp e)

theorem not_hasLane_zero (k : Nat) : ¬HasLane 0 k := by
  simp [HasLane]

theorem hasLane_and {a b : UInt32} {k : Nat} : HasLane (a &&& b) k ↔ HasLane a k ∧ HasLane b k := by
  simp only [HasLane, UInt32.toNat_and, Nat.testBit_and, Bool.and_eq_true]

theorem bit_toNat {k : Nat} (h : k < lanes) : ((1 : UInt32) <<< UInt32.ofNat k).toNat = 2 ^ k := by
  unfold lanes at h
  have hlt : 2 ^ k < 2 ^ 32 := Nat.pow_lt_pow_right (by decide) h
  rw [UInt32.toNat_shiftLeft, UInt32.toNat_ofNat', UInt32.toNat_one, Nat.shiftLeft_eq, Nat.one_mul]
  rw [Nat.mod_eq_of_lt (a := k) (by omega), Nat.mod_eq_of_lt h, Nat.mod_eq_of_lt hlt]

theorem hasLane_or_bit {word : UInt32} {n k : Nat} (h : n < lanes) :
    HasLane (word ||| 1 <<< UInt32.ofNat n) k ↔ HasLane word k ∨ k = n := by
  simp only [HasLane, UInt32.toNat_or, Nat.testBit_or, bit_toNat h, Nat.testBit_two_pow, Bool.or_eq_true,
    decide_eq_true_eq]
  exact or_congr Iff.rfl eq_comm

theorem and_bit_ne_zero {word : UInt32} {n : Nat} (h : n < lanes) :
    word &&& 1 <<< UInt32.ofNat n ≠ 0 ↔ HasLane word n := by
  constructor
  · intro hne
    obtain ⟨k, hk⟩ := exists_hasLane hne
    rw [hasLane_and] at hk
    obtain rfl : n = k := by simpa only [HasLane, bit_toNat h, Nat.testBit_two_pow, decide_eq_true_eq] using hk.2
    exact hk.1
  · intro hw e
    refine not_hasLane_zero n (e ▸ hasLane_and.mpr ⟨hw, ?_⟩)
    rw [HasLane, bit_toNat h, Nat.testBit_two_pow_self]

theorem hasLane_laneWord {passes : Nat → Bool} {k : Nat} :
    HasLane (laneWord passes) k ↔ k < lanes ∧ passes k = true := by
  suffices ∀ n, n ≤ lanes → (HasLane ((List.range n).foldl
      (fun word k => if passes k then word ||| 1 <<< UInt32.ofNat k else word) 0) k ↔ k < n ∧ passes k = true) from
    this lanes (Nat.le_refl _)
  intro n
  induction n with
  | zero => intro _; simp [not_hasLane_zero]
  | succ n ih =>
    intro hn
    rw [List.range_succ, List.foldl_append, List.foldl_cons, List.foldl_nil]
    have ih := ih (by omega)
    by_cases hp : passes n = true
    · rw [if_pos hp, hasLane_or_bit (by omega), ih]
      constructor
      · rintro (⟨h1, h2⟩ | rfl)
        · exact ⟨by omega, h2⟩
        · exact ⟨by omega, hp⟩
      · rintro ⟨h1, h2⟩
        by_cases e : k = n
        · exact .inr e
        · exact .inl ⟨by omega, h2⟩
    · rw [if_neg hp, ih]
      constructor
      · exact fun ⟨h1, h2⟩ => ⟨by omega, h2⟩
      · rintro ⟨h1, h2⟩
        have : k ≠ n := fun e => hp (e ▸ h2)
        exact ⟨by omega, h2⟩

theorem hasLane_below {count k : Nat} (h : count < lanes) :
    HasLane ((1 : UInt32) <<< UInt32.ofNat count - 1) k ↔ k < count := by
  have hle : (1 : UInt32) ≤ 1 <<< UInt32.ofNat count := by
    rw [UInt32.le_iff_toNat_le, bit_toNat h, UInt32.toNat_one]
    exact Nat.one_le_two_pow
  rw [HasLane, UInt32.toNat_sub_of_le _ _ hle, bit_toNat h, UInt32.toNat_one, Nat.testBit_two_pow_sub_one,
    decide_eq_true_iff]

/-- The lane is one of the word's, and none below it is. -/
structure IsLowest (word : UInt32) (l : Nat) : Prop where
  hasLane : HasLane word l
  none_below : ∀ k, k < l → ¬HasLane word k

theorem lowestLane_isLowest {word : UInt32} (h : word ≠ 0) : IsLowest word (lowestLane word) := by
  obtain ⟨k, hk⟩ := exists_hasLane h
  unfold lowestLane
  cases hf : (List.range lanes).find? fun k => word &&& 1 <<< UInt32.ofNat k != 0 with
  | none =>
    have := List.find?_eq_none.mp hf k (List.mem_range.mpr hk.lt_lanes)
    exact absurd (bne_iff_ne.mpr ((and_bit_ne_zero hk.lt_lanes).mpr hk)) this
  | some l =>
    obtain ⟨hl, hmem, hlow⟩ := List.find?_range_eq_some.mp hf
    refine ⟨(and_bit_ne_zero (List.mem_range.mp hmem)).mp (bne_iff_ne.mp hl), fun j hj hw => ?_⟩
    have := hlow j hj
    rw [bne_iff_ne.mpr ((and_bit_ne_zero hw.lt_lanes).mpr hw)] at this
    cases this

theorem IsLowest.toNat_eq {word : UInt32} {l : Nat} (h : IsLowest word l) :
    ∃ q, word.toNat = 2 ^ l * (2 * q + 1) := by
  have hodd : word.toNat / 2 ^ l % 2 = 1 := by
    simpa only [HasLane, Nat.testBit_eq_decide_div_mod_eq, decide_eq_true_eq] using h.hasLane
  have hlow : word.toNat % 2 ^ l = 0 := by
    apply Nat.eq_of_testBit_eq
    intro k
    rw [Nat.testBit_mod_two_pow, Nat.zero_testBit]
    by_cases hk : k < l
    · simp [Bool.eq_false_iff.mpr (h.none_below k hk)]
    · simp [hk]
  refine ⟨word.toNat / 2 ^ l / 2, ?_⟩
  rw [show 2 * (word.toNat / 2 ^ l / 2) + 1 = word.toNat / 2 ^ l by omega]
  exact (Nat.mul_div_cancel' (Nat.dvd_of_mod_eq_zero hlow)).symm

theorem IsLowest.testBit_pred {word : UInt32} {l k : Nat} (h : IsLowest word l) (hk : l ≤ k) :
    (word.toNat - 1).testBit k = (decide (k ≠ l) && word.toNat.testBit k) := by
  obtain ⟨q, hq⟩ := h.toNat_eq
  have hpos : 0 < 2 ^ l := Nat.two_pow_pos l
  have hpred : word.toNat - 1 = 2 ^ l * (2 * q) + (2 ^ l - 1) := by
    rw [hq, Nat.mul_add, Nat.mul_one]
    omega
  rw [hpred, Nat.testBit_two_pow_mul_add _ (by omega), if_neg (by omega), hq, Nat.testBit_two_pow_mul]
  simp only [ge_iff_le, hk, decide_true, Bool.true_and]
  rcases Nat.eq_or_lt_of_le hk with rfl | hlt
  · simp
  · obtain ⟨m, hm⟩ : ∃ m, k - l = m + 1 := ⟨k - l - 1, by omega⟩
    rw [hm, Nat.testBit_add_one, Nat.testBit_add_one, show (2 * q + 1) / 2 = 2 * q / 2 by omega]
    simp [show k ≠ l by omega]

theorem hasLane_clearLowest {word : UInt32} {l k : Nat} (h : IsLowest word l) :
    HasLane (clearLowest word) k ↔ HasLane word k ∧ k ≠ l := by
  have hle : (1 : UInt32) ≤ word := by
    have := Nat.ge_two_pow_of_testBit h.hasLane
    rw [UInt32.le_iff_toNat_le, UInt32.toNat_one]
    exact Nat.le_trans Nat.one_le_two_pow this
  unfold clearLowest
  rw [hasLane_and]
  refine and_congr_right fun hw => ?_
  have hk : l ≤ k := Nat.le_of_not_lt fun hlt => h.none_below k hlt hw
  rw [HasLane, UInt32.toNat_sub_of_le _ _ hle, UInt32.toNat_one, h.testBit_pred hk, show word.toNat.testBit k = true from hw,
    Bool.and_true, decide_eq_true_iff]

/-! ## (2) The lanes of a block -/

variable {p : ScanPlan} {anchor : Anchor} {bytes : Bytes} {last : Nat}

theorem compareBlock_eq {pos : Nat} (byte : UInt8) (h : pos + lanes ≤ bytes.size) :
    compareBlock bytes pos byte = .ok (laneWord fun k => bytes.get? (pos + k) == some byte) := by
  unfold compareBlock
  rw [Guarded.within_eq (Nat.le_add_right ..) h, Guarded.ok_bind, Guarded.pure_eq]

/-- How many bytes from a position on a block reads. -/
def width (anchor : Anchor) : Nat := if anchor.next.isSome then lanes + 1 else lanes

theorem lanes_le_width (anchor : Anchor) : lanes ≤ width anchor := by
  unfold width
  split <;> omega

theorem width_of_next {v : UInt8} (h : anchor.next = some v) : width anchor = lanes + 1 := by
  simp [width, h]

/-- Before the end, a lane stands for a place that holds the anchor's bytes. -/
def Stands (anchor : Anchor) (bytes : Bytes) (stop i : Nat) : Prop :=
  i < stop ∧ bytes.get? i = some anchor.byte ∧ ∀ v, anchor.next = some v → bytes.get? (i + 1) = some v

theorem standingLanes_eq {pos : Nat} (hw : pos + width anchor ≤ bytes.size) :
    ∃ word, standingLanes anchor bytes pos = .ok word ∧ ∀ k, HasLane word k ↔ k < lanes ∧
      bytes.get? (pos + k) = some anchor.byte ∧ ∀ v, anchor.next = some v → bytes.get? (pos + k + 1) = some v := by
  have hle := lanes_le_width anchor
  have hsize := bytes.size_lt_two_pow
  unfold standingLanes
  rw [compareBlock_eq _ (by omega), Guarded.ok_bind]
  cases hn : anchor.next with
  | some v =>
    rw [width_of_next hn] at hw
    simp only [Guarded.add_eq (show pos + 1 < 2 ^ 64 by omega), Guarded.ok_bind,
      compareBlock_eq v (show pos + 1 + lanes ≤ bytes.size by omega)]
    refine ⟨_, rfl, fun k => ?_⟩
    rw [hasLane_and, hasLane_laneWord, hasLane_laneWord, beq_iff_eq, beq_iff_eq, Nat.add_right_comm]
    simp only [Option.some.injEq, forall_eq']
    exact ⟨fun h => ⟨h.1.1, h.1.2, h.2.2⟩, fun h => ⟨⟨h.1, h.2.1⟩, h.1, h.2.2⟩⟩
  | none =>
    refine ⟨_, rfl, fun k => ?_⟩
    rw [hasLane_laneWord, beq_iff_eq]
    exact ⟨fun h => ⟨h.1, h.2, nofun⟩, fun h => ⟨h.1, h.2.1⟩⟩

theorem anchorLanes_eq {stop pos : Nat} (hw : pos + width anchor ≤ bytes.size) (hlt : pos < stop) :
    ∃ word, anchorLanes anchor bytes stop pos = .ok word ∧
      ∀ k, HasLane word k ↔ k < lanes ∧ Stands anchor bytes stop (pos + k) := by
  obtain ⟨word, hword, hlane⟩ := standingLanes_eq hw
  unfold anchorLanes
  rw [hword, Guarded.ok_bind, Guarded.sub_eq (Nat.le_of_lt hlt), Guarded.ok_bind]
  unfold Stands
  by_cases hr : stop - pos < lanes
  · rw [if_pos hr]
    simp only [lanesBelow, if_pos hr, Guarded.pure_eq, Guarded.ok_bind]
    refine ⟨_, rfl, fun k => ?_⟩
    rw [hasLane_and, hasLane_below hr, hlane]
    exact ⟨fun h => ⟨h.1.1, by omega, h.1.2⟩, fun h => ⟨⟨h.1, h.2.2⟩, by omega⟩⟩
  · rw [if_neg hr]
    refine ⟨_, rfl, fun k => ?_⟩
    rw [hlane]
    exact ⟨fun h => ⟨h.1, by omega, h.2⟩, fun h => ⟨h.1, h.2.2⟩⟩

theorem verifyLanes_answers {index : Nat} (hi : index < p.signature.length) (start : Nat) (word : UInt32)
    (hin : ∀ k, HasLane word k → start + k + p.signature.length ≤ bytes.size) :
    Answers (fun i => HasLane word (i - start) ∧ p.signature.FitsAt bytes i) start
      (verifyLanes p index bytes (start + index) word) := by
  have hsize := bytes.size_lt_two_pow
  rw [verifyLanes]
  split
  · rename_i h0
    subst h0
    exact .nothing fun j _ h => not_hasLane_zero _ h.1
  · rename_i hne
    have hlow := lowestLane_isLowest hne
    have hb := hin _ hlow.hasLane
    rw [Guarded.add_eq (by omega), Guarded.ok_bind, Guarded.sub_eq (by omega), Guarded.ok_bind,
      show start + index + lowestLane word - index = start + lowestLane word by omega, p.verify_eq (by omega),
      Guarded.ok_bind]
    by_cases hf : p.signature.FitsAt bytes (start + lowestLane word)
    · rw [decide_eq_true hf, if_pos rfl]
      refine ⟨_, rfl, by omega, ⟨?_, hf⟩, fun j _ hj h => hlow.none_below _ (by omega) h.1⟩
      rw [Nat.add_sub_cancel_left]
      exact hlow.hasLane
    · rw [decide_eq_false hf, if_neg Bool.false_ne_true]
      refine (verifyLanes_answers hi start (clearLowest word)
        fun k hk => hin k ((hasLane_clearLowest hlow).mp hk).1).congr fun j hj => ?_
      rw [hasLane_clearLowest hlow]
      refine ⟨fun h => ⟨h.1.1, h.2⟩, fun h => ⟨⟨h.1, fun e => hf ?_⟩, h.2⟩⟩
      obtain rfl : j = start + lowestLane word := by omega
      exact h.2
termination_by word.toNat
decreasing_by exact clearLowest_lt (by assumption)

/-! ## (3) The walk over the blocks -/

/-- What the walk may end with: the least position that passes, or a place before which none does. -/
def Outcome.Fulfils (P : Nat → Prop) (index start : Nat) : Outcome → Prop
  | .found i => LeastFrom P start (some i)
  | .reached pos => ∃ next, pos = next + index ∧ start ≤ next ∧ ∀ j, start ≤ j → j < next → ¬P j

theorem Outcome.Fulfils.skip {P : Nat → Prop} {index start next : Nat} {o : Outcome} (hle : start ≤ next)
    (hno : ∀ j, start ≤ j → j < next → ¬P j) (h : o.Fulfils P index next) : o.Fulfils P index start := by
  cases o with
  | found i => exact LeastFrom.skip (a := some i) hle hno h
  | reached pos =>
    obtain ⟨later, hpos, hlater, hnone⟩ := h
    refine ⟨later, hpos, by omega, fun j h1 h2 => ?_⟩
    by_cases e : j < next
    · exact hno j h1 e
    · exact hnone j (by omega) h2

/-- What the lanes of one block decide: the least fit, or that none starts in the block. -/
theorem block_answers (hm : anchor.Marks p.signature) (hlast : last + p.signature.length = bytes.size) {start : Nat}
    (hlt : start ≤ last) (hw : start + anchor.index + width anchor ≤ bytes.size) :
    ∃ word found, anchorLanes anchor bytes (last + anchor.index + 1) (start + anchor.index) = .ok word ∧
      verifyLanes p anchor.index bytes (start + anchor.index) word = .ok found ∧
      match found with
      | some i => LeastFrom (p.signature.FitsBy bytes last) start (some i)
      | none => ∀ j, start ≤ j → j < start + lanes → ¬p.signature.FitsBy bytes last j := by
  obtain ⟨word, hword, hlane⟩ := anchorLanes_eq hw (show start + anchor.index < last + anchor.index + 1 by omega)
  have hin : ∀ k, HasLane word k → start + k + p.signature.length ≤ bytes.size := fun k hk => by
    have := ((hlane k).mp hk).2.1
    omega
  -- a fit within the block is one of its lanes
  have hfit : ∀ j, start ≤ j → j < start + lanes → p.signature.FitsBy bytes last j →
      HasLane word (j - start) ∧ p.signature.FitsAt bytes j := by
    intro j h1 h2 h
    have hle := h.1
    refine ⟨(hlane _).mpr ⟨by omega, ?_⟩, h.2⟩
    rw [show start + anchor.index + (j - start) = j + anchor.index by omega]
    exact ⟨by omega, hm.get?_byte h.2, fun v hv => hm.get?_next h.2 hv⟩
  obtain ⟨found, hfound, hleast⟩ := verifyLanes_answers hm.index_lt start word hin
  refine ⟨word, found, hword, hfound, ?_⟩
  cases found with
  | some i =>
    obtain ⟨h1, ⟨h2, h3⟩, h4⟩ := hleast
    have hk := h2.lt_lanes
    have hb := hin _ h2
    exact ⟨h1, ⟨by omega, h3⟩, fun j hj hji h => h4 j hj hji (hfit j hj (by omega) h)⟩
  | none => exact fun j h1 h2 h => hleast j h1 (hfit j h1 h2 h)

theorem blocks_answers (hm : anchor.Marks p.signature) (hlast : last + p.signature.length = bytes.size) (start : Nat) :
    ∃ o, blocks p anchor bytes (width anchor) (last + anchor.index + 1) (start + anchor.index) = .ok o ∧
      o.Fulfils (p.signature.FitsBy bytes last) anchor.index start := by
  have hi := hm.index_lt
  have hsize := bytes.size_lt_two_pow
  have hwle : width anchor ≤ 33 := by unfold width lanes; split <;> omega
  have hstay : ∃ o, (Except.ok (Outcome.reached (start + anchor.index)) : Guarded Outcome) = .ok o ∧
      o.Fulfils (p.signature.FitsBy bytes last) anchor.index start :=
    ⟨_, rfl, start, rfl, Nat.le_refl _, fun j h1 h2 => by omega⟩
  rw [blocks]
  split
  · rename_i hlt
    rw [Guarded.add_eq (by omega), Guarded.ok_bind]
    split
    · rename_i hw
      obtain ⟨word, found, hword, hfound, hblock⟩ := block_answers hm hlast (by omega) hw
      rw [hword, Guarded.ok_bind, hfound, Guarded.ok_bind]
      cases found with
      | some i => exact ⟨_, rfl, hblock⟩
      | none =>
        have hlanes : lanes = 32 := rfl
        simp only [Guarded.add_eq (show start + anchor.index + lanes < 2 ^ 64 by omega), Guarded.ok_bind]
        rw [Nat.add_right_comm start]
        obtain ⟨o, ho, hful⟩ := blocks_answers hm hlast (start + lanes)
        exact ⟨o, ho, hful.skip (Nat.le_add_right ..) hblock⟩
    · exact hstay
  · exact hstay
termination_by last + anchor.index + 1 - (start + anchor.index)
decreasing_by
  unfold lanes
  omega

theorem find_answers {base : UInt64} (hx : p.alignment = .x1) (hm : anchor.Marks p.signature)
    (hp : ∀ a, p.anchor = some a → a.Marks p.signature) (start : Nat) :
    Answers (p.IsHit bytes base) start (find p anchor bytes base start) := by
  have hi := hm.index_lt
  have hsize := bytes.size_lt_two_pow
  unfold find ScanPlan.lastStart?
  by_cases hlen : p.signature.length ≤ bytes.size
  · rw [if_pos hlen]
    have hlast : bytes.size - p.signature.length + p.signature.length = bytes.size := Nat.sub_add_cancel hlen
    simp only
    split
    · exact .nothing fun j hj h => absurd h.inside (by omega)
    · have hhit : ∀ j, p.signature.FitsBy bytes (bytes.size - p.signature.length) j ↔ p.IsHit bytes base j :=
        fun j => Signature.fitsBy_iff_isHit hx hlast
      obtain ⟨o, ho, hful⟩ := blocks_answers hm hlast start
      simp only [Guarded.add_eq (show bytes.size - p.signature.length + anchor.index < 2 ^ 64 by omega),
        Guarded.add_eq (show bytes.size - p.signature.length + anchor.index + 1 < 2 ^ 64 by omega),
        Guarded.add_eq (show start + anchor.index < 2 ^ 64 by omega), Guarded.ok_bind]
      rw [← width, ho, Guarded.ok_bind]
      cases o with
      | found i => exact ⟨_, rfl, LeastFrom.congr (fun j _ => hhit j) hful⟩
      | reached pos =>
        obtain ⟨next, rfl, hle, hno⟩ := hful
        refine .skip hle (fun j h1 h2 h => hno j h1 h2 ((hhit j).mpr h)) ?_
        simp only
        split
        · exact .nothing fun j hj h => absurd h.inside (by omega)
        · rw [Guarded.sub_eq (by omega), Guarded.ok_bind, Nat.add_sub_cancel]
          exact Single.find_answers hp fun h => by rw [hx] at h; cases h
  · rw [if_neg hlen]
    exact .nothing fun j hj h => absurd h.inside (by omega)

/-- Whatever anchor marks the signature, on every address the search by blocks ends with just what
    the byte by byte search ends with, and neither faults. -/
theorem find_agrees_with_single {s : Signature} {anchor : Anchor} (h : anchor.Marks s) (bytes : Bytes)
    (base : UInt64) (start : Nat) :
    ∃ found, find ⟨s, .x1, some anchor⟩ anchor bytes base start = .ok found ∧
      Single.find ⟨s, .x1, some anchor⟩ bytes base start = .ok found := by
  have hp : ∀ a, some anchor = some a → a.Marks s := fun a ha => Option.some.inj ha ▸ h
  have hb : Answers (ScanPlan.IsHit ⟨s, .x1, some anchor⟩ bytes base) start
      (find ⟨s, .x1, some anchor⟩ anchor bytes base start) := find_answers rfl h hp start
  exact hb.agree (Single.find_answers hp fun e => by cases e)

/-- So with the second pair of a signature, which no scan without a hint would select. -/
theorem find_agrees_at_second_pair :
    Anchor.Marks ⟨2, 0x8B, some 0x05⟩ ⟨[.byte 0xCC, .byte 0x48, .byte 0x8B, .byte 0x05], by decide⟩ ∧
      ∃ found,
        find ⟨⟨[.byte 0xCC, .byte 0x48, .byte 0x8B, .byte 0x05], by decide⟩, .x1, some ⟨2, 0x8B, some 0x05⟩⟩
          ⟨2, 0x8B, some 0x05⟩ (.ofList (List.replicate 40 0x90 ++ [0xCC, 0x48, 0x8B, 0x05])) 0x1000 3 = .ok found ∧
        Single.find ⟨⟨[.byte 0xCC, .byte 0x48, .byte 0x8B, .byte 0x05], by decide⟩, .x1, some ⟨2, 0x8B, some 0x05⟩⟩
          (.ofList (List.replicate 40 0x90 ++ [0xCC, 0x48, 0x8B, 0x05])) 0x1000 3 = .ok found := by
  have h : Anchor.Marks ⟨2, 0x8B, some 0x05⟩ ⟨[.byte 0xCC, .byte 0x48, .byte 0x8B, .byte 0x05], by decide⟩ :=
    ⟨rfl, fun v hv => by cases hv; rfl⟩
  exact ⟨h, find_agrees_with_single h _ _ _⟩

end SignatureSearch.Block
