/-
  SignatureSearch.Proofs.Scan.Checked — no scan leaves its bytes or the range of its numbers.

  The searches (`find`) guard each read and most sums (`Guarded`), and count without bounds where the
  condition of a loop keeps its numbers small. Here they are written once more with a guard on every
  sum, difference and shift: positions are 64-bit numbers, lane words 32-bit ones. The place from
  which an iterator goes on is guarded too. That the loops end is part of their definitions, each of
  which names what a round makes smaller.

  Proved, for any signature, region and options:
  (1) The guards that are added pass: on words always, and on places when the anchor marks the
      signature and the bytes leave room for a stride behind them (`Single.checkedJump_eq`,
      `Single.checkedWalk_eq`, `Block.checkedLanesBelow_eq`, `Block.checkedVerifyLanes_eq`).
  (2) So a checked search is the search, and passes (`Backend.checkedSearch_eq`,
      `Backend.checkedSearch_passes`).
  (3) The checked step of a sound iterator is its step (`Matches.Sound.checkedNext_eq`). All that the
      iterators of a scanner come to is sound, so no scan faults (`Scanner.scans_pass_every_check`).
-/

import SignatureSearch.Proofs.Scan.Iterators

namespace SignatureSearch

/-! ## The searches with every step guarded -/

namespace Guarded

/-- The difference of two 32-bit words, unless it is below zero. -/
def subWord (a b : UInt32) : Guarded UInt32 := if b ≤ a then .ok (a - b) else .error .overflow

/-- The 32-bit word with just bit `k` set, if there is that bit. -/
def bit (k : Nat) : Guarded UInt32 := if k < 32 then .ok (1 <<< UInt32.ofNat k) else .error .overflow

theorem subWord_eq {a b : UInt32} (h : b ≤ a) : subWord a b = .ok (a - b) := if_pos h

theorem bit_eq {k : Nat} (h : k < 32) : bit k = .ok (1 <<< UInt32.ofNat k) := if_pos h

end Guarded

/-- As `firstCandidate`, and so with the others below. The address itself wraps. -/
def ScanPlan.checkedFirstCandidate (p : ScanPlan) (base : UInt64) (start : Nat) : Guarded Nat := do
  let misalign := (base + UInt64.ofNat start).toNat % p.alignment.stride
  if misalign = 0 then return start
  else Guarded.add start (← Guarded.sub p.alignment.stride misalign)

namespace Single

def checkedJump (p : ScanPlan) (anchor : Anchor) (bytes : Bytes) (last start : Nat) : Guarded (Option Nat) :=
  if start ≤ last then do
    let first ← Guarded.add start anchor.index
    let final ← Guarded.add last anchor.index
    let stop ← Guarded.add final 1
    Guarded.within bytes first stop
    match positionOf bytes anchor.byte first stop with
    | none => return none
    | some found => do
      let candidate := start + (found - first)
      let _ ← Guarded.add start (found - first)
      if ← p.verify bytes candidate then return some candidate
      else do
        let _ ← Guarded.add candidate 1
        checkedJump p anchor bytes last (candidate + 1)
  else return none
termination_by last + 1 - start

def checkedWalk (test : Nat → Guarded Bool) (alignment : Alignment) (last start : Nat) :
    Guarded (Option Nat) :=
  if start ≤ last then do
    if ← test start then return some start
    else do
      let _ ← Guarded.add start alignment.stride
      checkedWalk test alignment last (start + alignment.stride)
  else return none
termination_by last + 1 - start
decreasing_by
  have := alignment.stride_pos
  omega

def checkedFind (p : ScanPlan) (bytes : Bytes) (base : UInt64) (start : Nat) : Guarded (Option Nat) :=
  match p.lastStart? bytes with
  | none => return none
  | some last => do
    let start ← p.checkedFirstCandidate base start
    if last < start then return none
    else
      match p.anchor, p.alignment with
      | some anchor, .x1 => checkedJump p anchor bytes last start
      | some anchor, .x16 => checkedWalk (anchoredMatch p anchor bytes) .x16 last start
      | none, alignment => checkedWalk (p.verify bytes) alignment last start

end Single

namespace Block

def checkedLanesBelow (count : Nat) : Guarded UInt32 := do
  Guarded.subWord (← Guarded.bit count) 1

def checkedVerifyLanes (p : ScanPlan) (index : Nat) (bytes : Bytes) (pos : Nat) (word : UInt32) :
    Guarded (Option Nat) :=
  if word = 0 then return none
  else do
    let place ← Guarded.add pos (lowestLane word)
    let candidate ← Guarded.sub place index
    if ← p.verify bytes candidate then return some candidate
    else do
      let _ ← Guarded.subWord word 1
      checkedVerifyLanes p index bytes pos (clearLowest word)
termination_by word.toNat
decreasing_by exact clearLowest_lt (by assumption)

def checkedAnchorLanes (anchor : Anchor) (bytes : Bytes) (stop pos : Nat) : Guarded UInt32 := do
  let word ← standingLanes anchor bytes pos
  let remaining ← Guarded.sub stop pos
  if remaining < lanes then return word &&& (← checkedLanesBelow remaining) else return word

def checkedBlocks (p : ScanPlan) (anchor : Anchor) (bytes : Bytes) (width stop pos : Nat) : Guarded Outcome :=
  if pos < stop then do
    if (← Guarded.add pos width) ≤ bytes.size then
      let word ← checkedAnchorLanes anchor bytes stop pos
      match ← checkedVerifyLanes p anchor.index bytes pos word with
      | some start => return .found start
      | none => do
        let _ ← Guarded.add pos lanes
        checkedBlocks p anchor bytes width stop (pos + lanes)
    else return .reached pos
  else return .reached pos
termination_by stop - pos
decreasing_by
  unfold lanes
  omega

def checkedFind (p : ScanPlan) (anchor : Anchor) (bytes : Bytes) (base : UInt64) (start : Nat) :
    Guarded (Option Nat) :=
  match p.lastStart? bytes with
  | none => return none
  | some last =>
    if last < start then return none
    else do
      let stop ← Guarded.add (← Guarded.add last anchor.index) 1
      let width := if anchor.next.isSome then lanes + 1 else lanes
      let pos ← Guarded.add start anchor.index
      match ← checkedBlocks p anchor bytes width stop pos with
      | .found start => return some start
      | .reached pos =>
        if stop ≤ pos then return none
        else Single.checkedFind p bytes base (← Guarded.sub pos anchor.index)

end Block

def Backend.checkedSearch (b : Backend) (p : ScanPlan) (r : Region) (start : Nat) : Guarded (Option Nat) :=
  match b with
  | .single => Single.checkedFind p r.bytes r.base start
  | .avx2 anchor => Block.checkedFind p anchor r.bytes r.base start

/-- What a step yields, and the iterator after it, with every step of its search guarded and the
    place from which to go on. -/
def Matches.checkedNext (m : Matches) : Guarded (Option Nat × Matches) :=
  match m.resume with
  | none => return (none, m)
  | some start => do
    match ← m.backend.checkedSearch m.plan m.region start with
    | none => return (none, { m with resume := none })
    | some offset => do
      let later ← Guarded.add offset m.plan.alignment.stride
      return (some offset, { m with resume := some later })

def Scanner.checkedFindFirst (s : Scanner) (r : Region) : Guarded (Option Nat) :=
  s.backend.checkedSearch s.plan r 0

/-! ## (1) Guards that pass -/

theorem ScanPlan.checkedFirstCandidate_eq (p : ScanPlan) (base : UInt64) (start : Nat) :
    p.checkedFirstCandidate base start = p.firstCandidate base start := by
  have hlt := Nat.mod_lt (base + UInt64.ofNat start).toNat p.alignment.stride_pos
  unfold checkedFirstCandidate firstCandidate
  simp only [Guarded.sub_eq (Nat.le_of_lt hlt), Guarded.ok_bind, Guarded.pure_eq]

namespace Single

variable {p : ScanPlan} {bytes : Bytes} {last : Nat}

theorem checkedJump_eq {anchor : Anchor} (hm : anchor.Marks p.signature)
    (hlast : last + p.signature.length = bytes.size) (start : Nat) :
    checkedJump p anchor bytes last start = jump p anchor bytes last start := by
  have hi := hm.index_lt
  have hsize := bytes.size_lt_two_pow
  rw [checkedJump, jump]
  by_cases hle : start ≤ last
  · rw [if_pos hle, if_pos hle, Guarded.add_eq (by omega), Guarded.add_eq (a := last) (by omega)]
    simp only [Guarded.ok_bind]
    rw [Guarded.add_eq (by omega), Guarded.ok_bind, Guarded.within_eq (by omega) (by omega)]
    simp only [Guarded.ok_bind]
    have hpos := positionOf_least bytes anchor.byte (start + anchor.index) (last + anchor.index + 1)
    cases hfound : positionOf bytes anchor.byte (start + anchor.index) (last + anchor.index + 1) with
    | none => rfl
    | some found =>
      rw [hfound] at hpos
      obtain ⟨hge, ⟨hlt, -⟩, -⟩ := hpos
      simp only
      rw [Guarded.add_eq (by omega), Guarded.ok_bind, Guarded.add_eq (by omega)]
      apply bind_congr
      intro fits
      simp only [Guarded.ok_bind]
      rw [checkedJump_eq hm hlast]
  · rw [if_neg hle, if_neg hle]
termination_by last + 1 - start

theorem checkedWalk_eq (test : Nat → Guarded Bool) (alignment : Alignment) (hroom : last + 16 < 2 ^ 64)
    (start : Nat) : checkedWalk test alignment last start = walk test alignment last start := by
  have hpos := alignment.stride_pos
  have hstride : alignment.stride ≤ 16 := by cases alignment <;> decide
  rw [checkedWalk, walk]
  by_cases hle : start ≤ last
  · rw [if_pos hle, if_pos hle]
    apply bind_congr
    intro passes
    rw [Guarded.add_eq (by omega), Guarded.ok_bind, checkedWalk_eq test alignment hroom]
  · rw [if_neg hle, if_neg hle]
termination_by last + 1 - start

theorem checkedFind_eq (hp : p.IsAnchored) (base : UInt64) (start : Nat) :
    checkedFind p bytes base start = find p bytes base start := by
  have hsize := bytes.size_lt_two_pow
  unfold checkedFind find ScanPlan.lastStart?
  by_cases hlen : p.signature.length ≤ bytes.size
  · rw [if_pos hlen, ScanPlan.checkedFirstCandidate_eq]
    have hlast : bytes.size - p.signature.length + p.signature.length = bytes.size := Nat.sub_add_cancel hlen
    have hroom : bytes.size - p.signature.length + 16 < 2 ^ 64 := by omega
    apply bind_congr
    intro first
    by_cases hlt : bytes.size - p.signature.length < first
    · rw [if_pos hlt, if_pos hlt]
    · rw [if_neg hlt, if_neg hlt]
      cases ha : p.anchor with
      | none => exact checkedWalk_eq _ _ hroom first
      | some anchor =>
        cases p.alignment with
        | x1 => exact checkedJump_eq (hp anchor ha) hlast first
        | x16 => exact checkedWalk_eq _ _ hroom first
  · rw [if_neg hlen]

end Single

namespace Block

variable {p : ScanPlan} {anchor : Anchor} {bytes : Bytes}

theorem checkedLanesBelow_eq (count : Nat) : checkedLanesBelow count = lanesBelow count := by
  unfold checkedLanesBelow lanesBelow
  by_cases h : count < lanes
  · have hone : (1 : UInt32) ≤ 1 <<< UInt32.ofNat count := by
      rw [UInt32.le_iff_toNat_le, bit_toNat h, UInt32.toNat_one]
      exact Nat.one_le_two_pow
    rw [if_pos h, Guarded.bit_eq h, Guarded.ok_bind, Guarded.subWord_eq hone]
    rfl
  · have hbit : Guarded.bit count = .error .overflow := if_neg h
    rw [if_neg h, hbit]
    rfl

theorem checkedVerifyLanes_eq (index pos : Nat) (word : UInt32) :
    checkedVerifyLanes p index bytes pos word = verifyLanes p index bytes pos word := by
  rw [checkedVerifyLanes, verifyLanes]
  by_cases h0 : word = 0
  · rw [if_pos h0, if_pos h0]
  · have hone : (1 : UInt32) ≤ word := by
      have hne : word.toNat ≠ 0 := fun e => h0 (UInt32.toNat_inj.mp e)
      rw [UInt32.le_iff_toNat_le, UInt32.toNat_one]
      omega
    rw [if_neg h0, if_neg h0, Guarded.subWord_eq hone]
    simp only [Guarded.ok_bind]
    rw [checkedVerifyLanes_eq index pos (clearLowest word)]
termination_by word.toNat
decreasing_by exact clearLowest_lt h0

theorem checkedAnchorLanes_eq (stop pos : Nat) :
    checkedAnchorLanes anchor bytes stop pos = anchorLanes anchor bytes stop pos := by
  unfold checkedAnchorLanes anchorLanes
  simp only [checkedLanesBelow_eq]

theorem checkedBlocks_eq (width stop pos : Nat) :
    checkedBlocks p anchor bytes width stop pos = blocks p anchor bytes width stop pos := by
  rw [checkedBlocks, blocks]
  by_cases hlt : pos < stop
  · rw [if_pos hlt, if_pos hlt, checkedAnchorLanes_eq]
    apply bind_congr
    intro room
    by_cases hroom : room ≤ bytes.size
    · rw [if_pos hroom, if_pos hroom]
      apply bind_congr
      intro word
      rw [checkedVerifyLanes_eq]
      apply bind_congr
      intro found
      cases found with
      | some start => rfl
      | none =>
        apply bind_congr
        intro _
        exact checkedBlocks_eq width stop (pos + lanes)
    · rw [if_neg hroom, if_neg hroom]
  · rw [if_neg hlt, if_neg hlt]
termination_by stop - pos
decreasing_by
  unfold lanes
  omega

theorem checkedFind_eq (hp : p.IsAnchored) (base : UInt64) (start : Nat) :
    checkedFind p anchor bytes base start = find p anchor bytes base start := by
  unfold checkedFind find
  cases p.lastStart? bytes with
  | none => rfl
  | some last =>
    show (if last < start then _ else _) = if last < start then _ else _
    by_cases hlt : last < start
    · rw [if_pos hlt, if_pos hlt]
    · rw [if_neg hlt, if_neg hlt]
      simp only [checkedBlocks_eq]
      apply bind_congr
      intro final
      apply bind_congr
      intro stop
      apply bind_congr
      intro pos
      apply bind_congr
      intro outcome
      cases outcome with
      | found start => rfl
      | reached pos =>
        show (if stop ≤ pos then _ else _) = if stop ≤ pos then _ else _
        simp only [Single.checkedFind_eq hp]

end Block

/-! ## (2) Searches -/

namespace Backend

variable {b : Backend} {p : ScanPlan}

theorem checkedSearch_eq (hp : p.IsAnchored) (r : Region) (start : Nat) :
    b.checkedSearch p r start = b.search p r.bytes r.base start := by
  cases b with
  | single => exact Single.checkedFind_eq hp r.base start
  | avx2 anchor => exact Block.checkedFind_eq hp r.base start

theorem checkedSearch_passes (hb : b.Suits p) (hp : p.IsAnchored) (r : Region) {start : Nat}
    (hroom : start + 15 < 2 ^ 64) : b.checkedSearch p r start = .ok (b.find p r start) := by
  obtain ⟨found, hfound, -⟩ := search_answers hb hp r.bytes r.base hroom
  rw [checkedSearch_eq hp, find, hfound]

end Backend

/-! ## (3) Iterators -/

theorem Matches.Sound.checkedNext_eq {m : Matches} (h : m.Sound) : m.checkedNext = .ok m.next := by
  have hlater := h.next.1.room
  unfold checkedNext Matches.next at *
  cases hr : m.resume with
  | none => rfl
  | some start =>
    have hsize : m.region.size < 0x8000000000000000 := m.region.bytes.size_lt
    have hstart := h.room start hr
    simp only [Backend.checkedSearch_passes h.suits h.anchored m.region (show start + 15 < 2 ^ 64 by omega),
      Guarded.ok_bind]
    cases hfound : m.backend.find m.plan m.region start with
    | none => rfl
    | some offset =>
      simp only [hr, hfound, Option.map_some] at hlater
      have hroom := hlater _ rfl
      have hadd : Guarded.add offset m.plan.alignment.stride = .ok (offset + m.plan.alignment.stride) :=
        Guarded.add_eq (by omega)
      simp only [hadd, Guarded.ok_bind]
      rfl

namespace Scanner

variable (s : Scanner) (r : Region)

/-- Every check passes in the search for the first match, and in the next step of every iterator
    that any moves lead to, and no check changes what is found. The iterators go on with the search
    that was resolved for the scanner; the one by blocks has the processor for it, allows every address and
    has an anchor. -/
theorem scans_pass_every_check :
    (∀ anchor, s.backend = .avx2 anchor →
      s.hasAvx2 = true ∧ s.options.alignment = .x1 ∧ s.plan.anchor = some anchor) ∧
    s.checkedFindFirst r = .ok (s.findFirst r) ∧
    ∀ (history : List Iterators.Move), ∀ m ∈ s.iterators r history,
      (m.plan = s.plan ∧ m.backend = s.backend ∧ m.region = r) ∧ m.checkedNext = .ok m.next := by
  have hsound := s.findAll_sound r
  refine ⟨fun anchor hb => ?_, ?_, fun history m hm => ?_⟩
  · obtain ⟨hcpu, ha, hx⟩ := Backend.avx2_of_resolve hb
    exact ⟨hcpu, hx, ha⟩
  · exact Backend.checkedSearch_passes hsound.suits hsound.anchored r (by decide)
  · exact ⟨iterators_same hm, (iterators_sound hm).checkedNext_eq⟩

def pairInCode : Scanner where
  signature := ⟨[.byte 0x48, .byte 0x8B], nofun⟩
  options := { hint := .x86_64 }

/-- So with a search by blocks, and with an iterator that has been copied after its first step. -/
theorem pairInCode_passes_every_check : ∃ anchor, pairInCode.backend = .avx2 anchor ∧
    pairInCode.options.alignment = .x1 ∧ pairInCode.plan.anchor = some anchor ∧
    ∀ r : Region, ∃ m ∈ pairInCode.iterators r [.next 0, .clone 0, .next 1], m.checkedNext = .ok m.next := by
  obtain ⟨anchor, hanchor⟩ : ∃ anchor, pairInCode.backend = .avx2 anchor := ⟨_, rfl⟩
  obtain ⟨-, hx, ha⟩ := (scans_pass_every_check pairInCode .empty).1 anchor hanchor
  refine ⟨anchor, hanchor, hx, ha, fun r => ?_⟩
  have hmem : Matches.rest^[2] (pairInCode.findAll r) ∈ pairInCode.iterators r [.next 0, .clone 0, .next 1] := by
    rw [iterators_eq]
    exact List.mem_map_of_mem (by decide)
  exact ⟨_, hmem, ((scans_pass_every_check pairInCode r).2.2 _ _ hmem).2⟩

end Scanner

end SignatureSearch
