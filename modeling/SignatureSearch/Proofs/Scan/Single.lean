/-
  SignatureSearch.Proofs.Scan.Single — the byte by byte search answers the least hit.

  Proved, for any signature, bytes and base, and for any anchor that points at a known byte of the
  signature or none: the jumps from one occurrence of the anchor's byte to the next pass over no
  place where the signature fits (`jump_answers`), the walk in steps of a stride passes over no
  allowed address (`walk_answers`), and so the search ends without a fault, with the least hit from
  its start on (`find_answers_of_points`, and `find_answers` for an anchor that a scan selects). At
  an alignment of sixteen the start has to leave room for the way to the next allowed address. The
  anchor thus decides nothing but the way (`find_by_any_anchor`).
-/

import SignatureSearch.Proofs.Scan.Hits
import SignatureSearch.Scan.Single

namespace SignatureSearch

/-! ## Where a search starts -/

theorem wrapped_toNat (base : UInt64) (i : Nat) :
    (base + UInt64.ofNat i).toNat = (base.toNat + i) % 2 ^ 64 := by
  rw [UInt64.toNat_add, UInt64.toNat_ofNat', Nat.add_mod_mod]

theorem ScanPlan.firstCandidate_eq (p : ScanPlan) (base : UInt64) {start : Nat}
    (hroom : p.alignment = .x16 → start + 15 < 2 ^ 64) :
    ∃ c, p.firstCandidate base start = .ok c ∧ start ≤ c ∧ p.alignment.Allows base c ∧
      ∀ j, start ≤ j → j < c → ¬p.alignment.Allows base j := by
  have hpos := p.alignment.stride_pos
  unfold firstCandidate
  rw [wrapped_toNat]
  by_cases h : p.alignment.Allows base start
  · exact ⟨start, if_pos h, Nat.le_refl _, h, fun j h1 h2 => by omega⟩
  · simp only [show ¬_ = 0 from h, if_false]
    cases ha : p.alignment with
    | x1 => exact absurd (ha ▸ Alignment.x1_allows) h
    | x16 =>
      simp only [Alignment.allows_iff, ha, Alignment.stride] at h ⊢
      have := hroom ha
      rw [Guarded.add_eq (by omega)]
      exact ⟨_, rfl, by omega, by omega, fun j h1 h2 => by omega⟩

namespace Single

variable {p : ScanPlan} {bytes : Bytes} {last : Nat}

/-! ## Jumping from anchor to anchor -/

theorem positionOf_least (bytes : Bytes) (byte : UInt8) (pos stop : Nat) :
    LeastFrom (fun k => k < stop ∧ bytes.get? k = some byte) pos (positionOf bytes byte pos stop) := by
  rw [positionOf]
  split
  · rename_i hlt
    split
    · rename_i hb
      exact .here ⟨hlt, beq_iff_eq.mp hb⟩
    · rename_i hb
      refine (positionOf_least bytes byte (pos + 1) stop).skip (by omega) fun j h1 h2 hj => hb ?_
      obtain rfl : j = pos := by omega
      exact beq_iff_eq.mpr hj.2
  · exact fun j hj h => absurd h.1 (by omega)
termination_by stop - pos

theorem jump_answers {anchor : Anchor} (hm : anchor.Points p.signature)
    (hlast : last + p.signature.length = bytes.size) (start : Nat) :
    Answers (p.signature.FitsBy bytes last) start (jump p anchor bytes last start) := by
  have hi := hm.index_lt
  have hsize := bytes.size_lt_two_pow
  rw [jump]
  split
  · rename_i hle
    rw [Guarded.add_eq (by omega), Guarded.add_eq (by omega)]
    simp only [Guarded.ok_bind]
    rw [Guarded.within_eq (by omega) (by omega), Guarded.ok_bind]
    have hpos := positionOf_least bytes anchor.byte (start + anchor.index) (last + anchor.index + 1)
    split
    · -- no occurrence is left, and each place where the signature fits would have one
      rename_i hnone
      rw [hnone] at hpos
      refine .nothing fun j hj h => ?_
      have hle := h.1
      exact hpos (j + anchor.index) (by omega) ⟨by omega, hm.get?_byte h.2⟩
    · rename_i found hfound
      rw [hfound] at hpos
      obtain ⟨h1, ⟨h2, -⟩, h3⟩ := hpos
      refine .skip (n := start + (found - (start + anchor.index))) (by omega) (fun j hj hjc h => ?_) ?_
      · have hle := h.1
        exact h3 (j + anchor.index) (by omega) (by omega) ⟨by omega, hm.get?_byte h.2⟩
      · rw [p.verify_eq (by omega), Guarded.ok_bind]
        by_cases hf : p.signature.FitsAt bytes (start + (found - (start + anchor.index)))
        · rw [decide_eq_true hf, if_pos rfl]
          exact .here ⟨by omega, hf⟩
        · rw [decide_eq_false hf, if_neg Bool.false_ne_true]
          refine (jump_answers hm hlast _).skip (by omega) fun j hj hjn h => hf ?_
          obtain rfl : j = start + (found - (start + anchor.index)) := by omega
          exact h.2
  · exact .nothing fun j hj h => absurd h.1 (by omega)
termination_by last + 1 - start

/-! ## Walking in strides -/

theorem walk_answers {test : Nat → Guarded Bool} {P : Nat → Prop} {alignment : Alignment} {base : UInt64}
    (htest : ∀ i, i ≤ last → ∃ b, test i = .ok b ∧ (b = true ↔ P i)) (start : Nat)
    (hstart : alignment.Allows base start) :
    Answers (fun i => i ≤ last ∧ alignment.Allows base i ∧ P i) start (walk test alignment last start) := by
  have hpos := alignment.stride_pos
  rw [walk]
  split
  · rename_i hle
    obtain ⟨b, hb, hP⟩ := htest start hle
    rw [hb, Guarded.ok_bind]
    by_cases h : b = true
    · rw [if_pos h]
      exact .here ⟨hle, hstart, hP.mp h⟩
    · rw [if_neg h]
      refine (walk_answers htest _ hstart.add_stride).skip (by omega) fun j hj hjn hall => ?_
      rcases Nat.eq_or_lt_of_le hj with rfl | hlt
      · exact h (hP.mpr hall.2.2)
      · exact hstart.not_between hlt hjn hall.2.1
  · exact .nothing fun j hj h => absurd h.1 (by omega)
termination_by last + 1 - start

theorem anchoredMatch_eq {anchor : Anchor} (hm : anchor.Points p.signature)
    (hlast : last + p.signature.length = bytes.size) {i : Nat} (hi : i ≤ last) :
    ∃ b, anchoredMatch p anchor bytes i = .ok b ∧ (b = true ↔ p.signature.FitsAt bytes i) := by
  have hidx := hm.index_lt
  have hsize := bytes.size_lt_two_pow
  unfold anchoredMatch
  rw [Guarded.add_eq (by omega), Guarded.ok_bind]
  obtain ⟨c, hc⟩ := Bytes.exists_get? (show i + anchor.index < bytes.size by omega)
  rw [Guarded.byteAt_eq hc, Guarded.ok_bind]
  by_cases h : c = anchor.byte
  · rw [if_pos (beq_iff_eq.mpr h), p.verify_eq (by omega)]
    exact ⟨_, rfl, decide_eq_true_iff⟩
  · rw [if_neg (fun e => h (beq_iff_eq.mp e))]
    refine ⟨false, rfl, ⟨nofun, fun hf => absurd ?_ h⟩⟩
    exact Option.some.inj (hc.symm.trans (hm.get?_byte hf))

/-! ## The whole search -/

theorem find_answers_of_points {base : UInt64} {start : Nat}
    (hm : ∀ a, p.anchor = some a → a.Points p.signature) (hroom : p.alignment = .x16 → start + 15 < 2 ^ 64) :
    Answers (p.IsHit bytes base) start (find p bytes base start) := by
  unfold find ScanPlan.lastStart?
  by_cases hlen : p.signature.length ≤ bytes.size
  · rw [if_pos hlen]
    have hlast : bytes.size - p.signature.length + p.signature.length = bytes.size := Nat.sub_add_cancel hlen
    obtain ⟨c, hc, hle, hallow, hno⟩ := p.firstCandidate_eq base hroom
    simp only [hc, Guarded.ok_bind]
    refine .skip hle (fun j h1 h2 h => hno j h1 h2 h.allowed) ?_
    split
    · exact .nothing fun j hj h => absurd h.inside (by omega)
    · have hhit : ∀ j, j ≤ bytes.size - p.signature.length ∧ p.alignment.Allows base j ∧ p.signature.FitsAt bytes j ↔
          p.IsHit bytes base j :=
        fun j => ⟨fun h => ⟨by omega, h.2.1, h.2.2⟩, fun h => ⟨by have := h.inside; omega, h.allowed, h.fits⟩⟩
      split
      · rename_i anchor ha hx
        exact (jump_answers (hm anchor ha) hlast c).congr fun j _ => Signature.fitsBy_iff_isHit hx hlast
      · rename_i anchor ha hx
        rw [hx] at hallow hhit
        exact (walk_answers (fun i hi => anchoredMatch_eq (hm anchor ha) hlast hi) c hallow).congr fun j _ => hhit j
      · exact (walk_answers (fun i hi => ⟨_, p.verify_eq (by omega), decide_eq_true_iff⟩) c hallow).congr
          fun j _ => hhit j
  · rw [if_neg hlen]
    exact .nothing fun j hj h => absurd h.inside (by omega)

theorem find_answers {base : UInt64} {start : Nat} (hm : ∀ a, p.anchor = some a → a.Marks p.signature)
    (hroom : p.alignment = .x16 → start + 15 < 2 ^ 64) :
    Answers (p.IsHit bytes base) start (find p bytes base start) :=
  find_answers_of_points (fun a ha => (hm a ha).points) hroom

/-- The anchor is only a shortcut. Whatever known byte of the signature it points at, the search ends
    without a fault and as it ends without an anchor: with the least offset from `start` on at which
    the whole signature fits at an allowed address, or with nothing when there is none. -/
theorem find_by_any_anchor (s : Signature) (a : Alignment) (anchor : Option Anchor)
    (pointing : ∀ b, anchor = some b → b.Points s) (bytes : Bytes) (base : UInt64) {start : Nat}
    (room : start + 15 < 2 ^ 64) :
    ∃ found, find ⟨s, a, anchor⟩ bytes base start = .ok found ∧ find ⟨s, a, none⟩ bytes base start = .ok found ∧
      LeastFrom (SignatureSearch.IsHit s a bytes base) start found := by
  have hwith : Answers (ScanPlan.IsHit ⟨s, a, anchor⟩ bytes base) start (find ⟨s, a, anchor⟩ bytes base start) :=
    find_answers_of_points pointing fun _ => room
  have hwithout : Answers (ScanPlan.IsHit ⟨s, a, none⟩ bytes base) start (find ⟨s, a, none⟩ bytes base start) :=
    find_answers_of_points (fun b hb => by cases hb) fun _ => room
  obtain ⟨found, hfound, hleast⟩ := hwith
  obtain ⟨found', hfound', hleast'⟩ := hwithout
  obtain rfl : found = found' := hleast.unique hleast'
  exact ⟨found, hfound, hfound', hleast⟩

def parted : Signature := ⟨[.byte 0xCC, .wildcard, .byte 0xCC], nofun⟩

def gapped : Bytes := .ofList [0xCC, 0x00, 0x90, 0xCC, 0x90, 0xCC]

/-- So with an anchor on the last element, which no scan selects, and which names a second byte that
    is nowhere: the only match stands at the last offset. -/
theorem find_by_last_byte :
    (∀ b, some (⟨2, 0xCC, some 0x11⟩ : Anchor) = some b → b.Points parted) ∧ 1 + 15 < 2 ^ 64 ∧
      find ⟨parted, .x1, some ⟨2, 0xCC, some 0x11⟩⟩ gapped 0xFFFFFFFFFFFFFFFE 1 = .ok (some 3) ∧
      find ⟨parted, .x1, none⟩ gapped 0xFFFFFFFFFFFFFFFE 1 = .ok (some 3) := by
  have pointing : ∀ b, some (⟨2, 0xCC, some 0x11⟩ : Anchor) = some b → b.Points parted := by
    intro b hb
    cases hb
    rfl
  have room : 1 + 15 < 2 ^ 64 := by decide
  obtain ⟨found, hwith, hwithout, hleast⟩ :=
    find_by_any_anchor parted .x1 _ pointing gapped 0xFFFFFFFFFFFFFFFE room
  have hthree : LeastFrom (SignatureSearch.IsHit parted .x1 gapped 0xFFFFFFFFFFFFFFFE) 1 (some 3) := by
    have hno : ∀ j < 3, 1 ≤ j → ¬SignatureSearch.IsHit parted .x1 gapped 0xFFFFFFFFFFFFFFFE j := by decide
    exact ⟨by decide, by decide, fun j h1 h2 => hno j h2 h1⟩
  obtain rfl : found = some 3 := hleast.unique hthree
  exact ⟨pointing, room, hwith, hwithout⟩

end Single

end SignatureSearch
