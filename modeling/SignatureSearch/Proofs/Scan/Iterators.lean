/-
  SignatureSearch.Proofs.Scan.Iterators — any number of iterators over the matches in one region.

  A scanner hands out iterators over a region (`find_all`), and iterators are copied. They are numbered
  in the order in which they come up, the first one being there from the start. A move is a step of one
  of them, a copy of one, or a new one (`Move`); `run` makes moves on whatever stands for the iterators,
  so with the number of steps that each has made, its position, in its place (`positions`).

  Proved, after any moves, for any scanner and region:
  (1) An iterator that has made `n` steps yields what stands at position `n` of what was upcoming
      (`Matches.Sound.next_iterate`).
  (2) A run goes alike on whatever stands for the iterators (`run_map`), and moves an iterator on by
      its own steps alone (`run_append`).
  (3) So each iterator yields the match at its position, or none behind the last one, and keeps to
      its position whatever is done with the others (`Scanner.iterators_keep_positions`).
-/

import Mathlib.Logic.Function.Iterate
import SignatureSearch.Proofs.Scan.Matches

namespace SignatureSearch

/-! ## (1) Steps -/

namespace Matches

def rest (m : Matches) : Matches := m.next.2

variable {m : Matches}

theorem iterate_same (n : Nat) :
    (rest^[n] m).plan = m.plan ∧ (rest^[n] m).backend = m.backend ∧ (rest^[n] m).region = m.region := by
  induction n with
  | zero => exact ⟨rfl, rfl, rfl⟩
  | succ n ih =>
    rw [Function.iterate_succ_apply', rest, Matches.next]
    split
    · exact ih
    · exact ih

theorem Sound.iterate (h : m.Sound) (n : Nat) :
    (rest^[n] m).Sound ∧ (rest^[n] m).upcoming = m.upcoming.drop n := by
  induction n with
  | zero => exact ⟨h, rfl⟩
  | succ n ih =>
    obtain ⟨hs, -, htail⟩ := ih.1.next
    rw [Function.iterate_succ_apply']
    refine ⟨hs, ?_⟩
    show (rest^[n] m).next.2.upcoming = m.upcoming.drop (n + 1)
    rw [htail, ih.2, List.tail_drop]

theorem Sound.next_iterate (h : m.Sound) (n : Nat) : (rest^[n] m).next.1 = m.upcoming[n]? := by
  obtain ⟨hs, hu⟩ := h.iterate n
  rw [hs.next.2.1, hu, List.head?_drop]

end Matches

/-! ## (2) Runs -/

namespace Iterators

/-- What is done with the iterators. A number that no iterator has does nothing. -/
inductive Move where
  | next (i : Nat)
  /-- A copy of iterator `i`, which comes up as the last one. -/
  | clone (i : Nat)
  /-- A new iterator of the scanner, which comes up as the last one. -/
  | again
  deriving DecidableEq

section Run

variable {σ τ : Type} (step : σ → σ) (fresh : σ)

def Move.act (all : List σ) : Move → List σ
  | next i => all.modify i step
  | clone i => all ++ all[i]?.toList
  | again => all ++ [fresh]

/-- What all the iterators have come to. -/
def run (history : List Move) : List σ := history.foldl (Move.act step fresh) [fresh]

theorem run_map {step' : τ → τ} {f : σ → τ} (hf : ∀ x, f (step x) = step' (f x)) (history : List Move) :
    run step' (f fresh) history = (run step fresh history).map f := by
  unfold run
  rw [show [f fresh] = [fresh].map f from rfl]
  apply List.foldl_hom (List.map f)
  intro all u
  cases u with
  | next i =>
    apply List.ext_getElem?
    intro j
    simp only [Move.act, List.getElem?_modify, List.getElem?_map]
    cases all[j]? with
    | none => rfl
    | some x => by_cases e : i = j <;> simp [e, hf]
  | clone i => simp [Move.act, List.getElem?_map, Option.toList_map]
  | again => simp [Move.act]

variable {step fresh}

theorem Move.length_le_act (all : List σ) (u : Move) : all.length ≤ (u.act step fresh all).length := by
  cases u <;> simp [act]

theorem Move.getElem?_act {all : List σ} {i : Nat} (hi : i < all.length) (u : Move) :
    (u.act step fresh all)[i]? = all[i]?.map step^[if u = .next i then 1 else 0] := by
  cases u with
  | next j =>
    simp only [act, List.getElem?_modify, List.getElem?_eq_getElem hi]
    by_cases e : j = i <;> simp [e]
  | clone j => simp [act, List.getElem?_append_left hi]
  | again => simp [act, List.getElem?_append_left hi]

theorem getElem?_foldl_act (later : List Move) : ∀ {all : List σ} {i : Nat}, i < all.length →
    (later.foldl (Move.act step fresh) all)[i]? = all[i]?.map step^[later.count (.next i)] := by
  induction later with
  | nil => intro all i _; simp
  | cons u later ih =>
    intro all i hi
    rw [List.foldl_cons, ih (Nat.lt_of_lt_of_le hi (u.length_le_act all)), u.getElem?_act hi, Option.map_map,
      ← Function.iterate_add, List.count_cons]
    simp only [beq_iff_eq]

theorem run_append (history later : List Move) :
    (run step fresh (history ++ later)).take (run step fresh history).length =
      (run step fresh history).mapIdx fun i x => step^[later.count (.next i)] x := by
  apply List.ext_getElem?
  intro i
  rw [List.getElem?_mapIdx]
  by_cases hi : i < (run step fresh history).length
  · rw [List.getElem?_take_of_lt hi, run, List.foldl_append]
    exact getElem?_foldl_act later hi
  · have hle := Nat.le_of_not_lt hi
    rw [List.getElem?_eq_none hle, Option.map_none, List.getElem?_eq_none]
    rw [List.length_take]
    omega

end Run

/-- How many steps each iterator has made, or its original before it was copied. -/
def positions (history : List Move) : List Nat := run (· + 1) 0 history

theorem iterate_succ (n p : Nat) : (· + 1)^[n] p = p + n := by
  induction n with
  | zero => rfl
  | succ n ih => rw [Function.iterate_succ_apply', ih]; rfl

end Iterators

/-! ## (3) Iterators of a scanner -/

namespace Scanner

open Iterators

variable (s : Scanner) (r : Region)

def iterators (history : List Move) : List Matches := run Matches.rest (s.findAll r) history

theorem iterators_eq (history : List Move) :
    s.iterators r history = (positions history).map fun p => Matches.rest^[p] (s.findAll r) := by
  have hstep : ∀ p, Matches.rest^[p + 1] (s.findAll r) = Matches.rest (Matches.rest^[p] (s.findAll r)) :=
    fun p => Function.iterate_succ_apply' _ p _
  exact run_map (· + 1) 0 (f := fun p => Matches.rest^[p] (s.findAll r)) hstep history

variable {s r} {history : List Move} {m : Matches}

theorem iterators_sound (h : m ∈ s.iterators r history) : m.Sound := by
  rw [iterators_eq] at h
  obtain ⟨p, -, rfl⟩ := List.mem_map.mp h
  exact ((s.findAll_sound r).iterate p).1

theorem iterators_same (h : m ∈ s.iterators r history) :
    m.plan = s.plan ∧ m.backend = s.backend ∧ m.region = r := by
  rw [iterators_eq] at h
  obtain ⟨p, -, rfl⟩ := List.mem_map.mp h
  exact Matches.iterate_same p

variable (s r)

/-- After any moves, every iterator yields the match at its position in the list of all matches, or
    none when there is none. Later moves leave its position but for as many places as it makes
    steps, a copy starts at the position of its original, and a new iterator at the first match. -/
theorem iterators_keep_positions (history later : List Move) :
    (s.findAll r).toList = s.hits r ∧
    (s.iterators r history).map (·.next.1) = (positions history).map ((s.hits r)[·]?) ∧
    (positions (history ++ later)).take (positions history).length =
      (positions history).mapIdx (fun i p => p + later.count (.next i)) ∧
    (∀ i, positions (history ++ [.clone i]) = positions history ++ (positions history)[i]?.toList) ∧
    positions (history ++ [.again]) = positions history ++ [0] := by
  refine ⟨s.findAll_toList r, ?_, ?_, fun i => ?_, ?_⟩
  · rw [iterators_eq, List.map_map]
    apply List.map_congr_left
    intro p _
    exact (s.findAll_sound r).next_iterate p
  · unfold positions
    rw [run_append]
    simp only [iterate_succ]
  · unfold positions run
    rw [List.foldl_append]
    rfl
  · unfold positions run
    rw [List.foldl_append]
    rfl

example : positions [.next 0, .clone 0, .next 1, .again, .next 1] = [1, 3, 0] := by decide

end Scanner

end SignatureSearch
