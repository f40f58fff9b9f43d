/-
  SignatureSearch.Proofs.Scan.Matches — a scan yields every hit, in ascending order, and nothing else.

  An iterator is sound when its search fits its plan and there is room behind the place where it
  goes on (`Matches.Sound`). What it is still to yield are the hits from there on (`upcoming`).

  Proved:
  (1) The positions that pass, in order (`passing`): a search for the least one finds the head of
      the list, and goes on with the tail.
  (2) Either search, as it is resolved for a plan, finds the least hit (`Backend.find_least`).
  (3) A step of a sound iterator yields the head of what is upcoming and leaves a sound iterator
      with the tail (`Matches.Sound.next`), so `take n` yields the first `n` (`Matches.Sound.take`).
      No search that it goes on with faults (`Matches.Sound.search_ok`).
  (4) A new iterator yields exactly the hits of the region, each once, in ascending order, and the
      first match is the head of that list (`Scanner.findAll_yields_hits`).
-/

import SignatureSearch.Proofs.Scan.Block
import SignatureSearch.Scan.Scanner

namespace SignatureSearch

/-! ## (1) The positions that pass -/

section Passing

variable (P : Nat → Prop) [DecidablePred P] (bound : Nat)

/-- The positions from `start` up to `bound` that pass. -/
def passing (start : Nat) : List Nat := (List.range' start (bound - start)).filter P

variable {P bound} {start n i : Nat}

theorem mem_passing : i ∈ passing P bound start ↔ start ≤ i ∧ i < bound ∧ P i := by
  simp only [passing, List.mem_filter, List.mem_range'_1, decide_eq_true_eq]
  exact ⟨fun h => ⟨by omega, by omega, h.2⟩, fun h => ⟨by omega, h.2.2⟩⟩

theorem passing_ascending : (passing P bound start).Pairwise (· < ·) :=
  List.Pairwise.filter _ (List.pairwise_lt_range' ..)

theorem length_passing_le : (passing P bound start).length ≤ bound - start := by
  have := List.length_filter_le (fun i => decide (P i)) (List.range' start (bound - start))
  rwa [List.length_range'] at this

theorem passing_of_pass (h : P start) (hlt : start < bound) :
    passing P bound start = start :: passing P bound (start + 1) := by
  unfold passing
  rw [show bound - start = bound - (start + 1) + 1 by omega, List.range'_succ,
    List.filter_cons_of_pos (by simpa using h)]

theorem passing_of_fail (h : ¬P start) : passing P bound start = passing P bound (start + 1) := by
  unfold passing
  by_cases hlt : start < bound
  · rw [show bound - start = bound - (start + 1) + 1 by omega, List.range'_succ,
      List.filter_cons_of_neg (by simpa using h)]
  · rw [show bound - start = 0 by omega, show bound - (start + 1) = 0 by omega]; rfl

theorem passing_skip (hle : start ≤ n) (hno : ∀ j, start ≤ j → j < n → ¬P j) :
    passing P bound start = passing P bound n := by
  induction hle with
  | refl => rfl
  | step hle ih => rw [ih fun j h1 h2 => hno j h1 (by omega), passing_of_fail (hno _ hle (by omega))]

theorem passing_of_none (h : LeastFrom P start none) : passing P bound start = [] :=
  List.eq_nil_iff_forall_not_mem.mpr fun _ hi => h _ (mem_passing.mp hi).1 (mem_passing.mp hi).2.2

theorem passing_of_some (h : LeastFrom P start (some i)) (hlt : i < bound) :
    passing P bound start = i :: passing P bound (i + 1) := by
  rw [passing_skip h.1 h.2.2, passing_of_pass h.2.1 hlt]

end Passing

/-! ## (2) The search of a plan -/

theorem IsHit.lt_size {s : Signature} {a : Alignment} {bytes : Bytes} {base : UInt64} {i : Nat}
    (h : IsHit s a bytes base i) : i < bytes.size := by
  have hpos := s.length_pos
  have hinside := h.inside
  omega

def ScanPlan.IsAnchored (p : ScanPlan) : Prop := ∀ a, p.anchor = some a → a.Marks p.signature

/-- A search by blocks goes by the plan's anchor and on every address. -/
def Backend.Suits (b : Backend) (p : ScanPlan) : Prop := ∀ a, b = .avx2 a → p.anchor = some a ∧ p.alignment = .x1

theorem Backend.avx2_of_resolve {hasAvx2 : Bool} {mode : Mode} {p : ScanPlan} {a : Anchor}
    (h : resolve hasAvx2 mode p = .avx2 a) : hasAvx2 = true ∧ p.anchor = some a ∧ p.alignment = .x1 := by
  unfold resolve at h
  split at h
  · cases h
  · rename_i ha hx
    cases hasAvx2 with
    | false => cases h
    | true =>
      cases h
      exact ⟨rfl, ha, hx⟩
  · cases h

theorem Backend.resolve_suits (hasAvx2 : Bool) (mode : Mode) (p : ScanPlan) : (resolve hasAvx2 mode p).Suits p :=
  fun _ h => (avx2_of_resolve h).2

theorem Backend.search_answers {b : Backend} {p : ScanPlan} (hb : b.Suits p) (hp : p.IsAnchored) (bytes : Bytes)
    (base : UInt64) {start : Nat} (hroom : start + 15 < 2 ^ 64) :
    Answers (p.IsHit bytes base) start (b.search p bytes base start) := by
  cases b with
  | single => exact Single.find_answers hp fun _ => hroom
  | avx2 a =>
    obtain ⟨ha, hx⟩ := hb a rfl
    exact Block.find_answers hx (hp a ha) hp start

theorem Backend.find_least {b : Backend} {p : ScanPlan} (hb : b.Suits p) (hp : p.IsAnchored) (r : Region)
    {start : Nat} (hroom : start + 15 < 2 ^ 64) :
    LeastFrom (p.IsHit r.bytes r.base) start (b.find p r start) := by
  obtain ⟨found, hf, hleast⟩ := search_answers hb hp r.bytes r.base hroom
  simpa only [find, hf] using hleast

/-! ## (3) Steps of an iterator -/

namespace Matches

/-- The hits that an iterator is still to yield. -/
def upcoming (m : Matches) : List Nat :=
  match m.resume with
  | some start => passing (m.plan.IsHit m.region.bytes m.region.base) m.region.size start
  | none => []

def search (m : Matches) : Guarded (Option Nat) :=
  match m.resume with
  | some start => m.backend.search m.plan m.region.bytes m.region.base start
  | none => .ok none

structure Sound (m : Matches) : Prop where
  anchored : m.plan.IsAnchored
  suits : m.backend.Suits m.plan
  room : ∀ start, m.resume = some start → start ≤ m.region.size + 16

theorem Sound.next {m : Matches} (h : m.Sound) :
    m.next.2.Sound ∧ m.next.1 = m.upcoming.head? ∧ m.next.2.upcoming = m.upcoming.tail := by
  cases hr : m.resume with
  | none =>
    have hn : m.next = (none, m) := by simp only [Matches.next, hr]
    have hu : m.upcoming = [] := by simp only [upcoming, hr]
    rw [hn, hu]
    exact ⟨h, rfl, rfl⟩
  | some start =>
    have hsize : m.region.size < 0x8000000000000000 := m.region.bytes.size_lt
    have hstart := h.room start hr
    have hleast := m.backend.find_least h.suits h.anchored m.region (show start + 15 < 2 ^ 64 by omega)
    have hu : m.upcoming = passing (m.plan.IsHit m.region.bytes m.region.base) m.region.size start := by
      simp only [upcoming, hr]
    simp only [Matches.next, hr]
    cases hf : m.backend.find m.plan m.region start with
    | none =>
      rw [hf] at hleast
      rw [hu, passing_of_none hleast]
      exact ⟨⟨h.anchored, h.suits, nofun⟩, rfl, rfl⟩
    | some i =>
      rw [hf] at hleast
      have hhit := hleast.2.1
      have hlt : i < m.region.size := hhit.lt_size
      have hstride : m.plan.alignment.stride ≤ 16 := by cases m.plan.alignment <;> decide
      rw [hu, passing_of_some hleast hlt]
      refine ⟨⟨h.anchored, h.suits, fun start' e => ?_⟩, rfl, ?_⟩
      · cases e
        show i + m.plan.alignment.stride ≤ m.region.size + 16
        omega
      · have hpos := m.plan.alignment.stride_pos
        exact (passing_skip (by omega) fun j h1 h2 hj => hhit.allowed.not_between (by omega) h2 hj.allowed).symm

theorem Sound.take {m : Matches} (h : m.Sound) (n : Nat) :
    (m.take n).2.Sound ∧ (m.take n).1 = m.upcoming.take n ∧ (m.take n).2.upcoming = m.upcoming.drop n := by
  induction n generalizing m with
  | zero => exact ⟨h, rfl, rfl⟩
  | succ n ih =>
    obtain ⟨hs, hhead, htail⟩ := h.next
    unfold Matches.take
    split
    · rename_i m' e
      rw [e] at hs hhead htail
      have hu : m.upcoming = [] := List.head?_eq_none_iff.mp hhead.symm
      rw [hu] at htail ⊢
      exact ⟨hs, rfl, htail⟩
    · rename_i i m' e
      rw [e] at hs hhead htail
      obtain ⟨rest, hu⟩ := List.head?_eq_some_iff.mp hhead.symm
      rw [hu] at htail ⊢
      obtain ⟨h1, h2, h3⟩ := ih hs
      simp only [h2, h3, htail, List.tail_cons, List.take_succ_cons, List.drop_succ_cons]
      exact ⟨h1, trivial, trivial⟩

theorem Sound.search_ok {m : Matches} (h : m.Sound) : ∃ found, m.search = .ok found := by
  unfold search
  split
  · rename_i start hr
    have hsize : m.region.size < 0x8000000000000000 := m.region.bytes.size_lt
    have hstart := h.room start hr
    obtain ⟨found, hf, -⟩ := Backend.search_answers h.suits h.anchored m.region.bytes m.region.base
      (show start + 15 < 2 ^ 64 by omega)
    exact ⟨found, hf⟩
  · exact ⟨none, rfl⟩

theorem length_upcoming_le (m : Matches) : m.upcoming.length ≤ m.region.size := by
  unfold upcoming
  split
  · exact Nat.le_trans length_passing_le (Nat.sub_le ..)
  · exact Nat.zero_le _

theorem Sound.toList {m : Matches} (h : m.Sound) : m.toList = m.upcoming := by
  unfold Matches.toList
  rw [(h.take _).2.1, List.take_of_length_le (Nat.le_succ_of_le m.length_upcoming_le)]

end Matches

/-! ## (4) The hits of a region -/

namespace Scanner

variable (s : Scanner) (r : Region)

/-- The hits of a scanner in a region, in ascending order. -/
def hits : List Nat := passing (IsHit s.signature s.options.alignment r.bytes r.base) r.size 0

theorem findAll_sound : (s.findAll r).Sound :=
  ⟨fun _ ha => Anchor.select_marks ha, Backend.resolve_suits _ _ _, fun start h => by cases h; omega⟩

theorem findAll_toList : (s.findAll r).toList = s.hits r := (s.findAll_sound r).toList

theorem findFirst_eq : s.findFirst r = (s.hits r).head? := (s.findAll_sound r).next.2.1

theorem findFirst_least : LeastFrom (IsHit s.signature s.options.alignment r.bytes r.base) 0 (s.findFirst r) :=
  Backend.find_least (s.findAll_sound r).suits (s.findAll_sound r).anchored r (by decide)

theorem mem_hits {i : Nat} : i ∈ s.hits r ↔ IsHit s.signature s.options.alignment r.bytes r.base i :=
  mem_passing.trans ⟨fun h => h.2.2, fun h => ⟨Nat.zero_le _, h.lt_size, h⟩⟩

/-- Collecting the matches yields exactly the offsets at which the whole signature fits at an
    allowed address, each once and in ascending order, however many are asked for at a time, and
    no search on the way faults. The first match is the first of them. -/
theorem findAll_yields_hits :
    (s.findAll r).toList.Pairwise (· < ·) ∧
    (∀ i, i ∈ (s.findAll r).toList ↔ IsHit s.signature s.options.alignment r.bytes r.base i) ∧
    (∀ n, ((s.findAll r).take n).1 = (s.findAll r).toList.take n) ∧
    (∀ n, ∃ found, ((s.findAll r).take n).2.search = .ok found) ∧
    s.findFirst r = (s.findAll r).toList.head? := by
  rw [findAll_toList]
  refine ⟨passing_ascending, fun i => s.mem_hits r, fun n => ?_, fun n => ?_, s.findFirst_eq r⟩
  · exact ((s.findAll_sound r).take n).2.1
  · exact ((s.findAll_sound r).take n).1.search_ok

end Scanner

end SignatureSearch
