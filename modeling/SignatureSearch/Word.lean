/-
  SignatureSearch.Word — 64-bit arithmetic that notices when it leaves its range.

  Addresses and amounts are 64-bit words. An operation here answers only when the exact integer
  result fits a word; `UInt64` itself wraps and is used where wrapping is the rule. Where the
  program neither checks a step nor lets it wrap, a step out of range is a fault: it ends the
  program, and no function on the way answers.
-/

namespace SignatureSearch

inductive Fault where
  /-- A read outside the bytes. -/
  | outOfBounds
  /-- A number beyond its width, or below zero. -/
  | overflow
  deriving DecidableEq, Repr

abbrev Guarded (α : Type) := Except Fault α

namespace Word

/-- `checked_add`: the exact sum, if it fits. -/
def addExact (a b : UInt64) : Option UInt64 :=
  if a.toNat + b.toNat < UInt64.size then some (a + b) else none

/-- `checked_add_signed`: the exact sum of a word and a signed displacement, if it is neither negative nor too large. -/
def addSigned (a : UInt64) (d : Int) : Option UInt64 :=
  let sum := (a.toNat : Int) + d
  if 0 ≤ sum ∧ sum < UInt64.size then some (UInt64.ofNat sum.toNat) else none

theorem addExact_eq_some_iff {a b c : UInt64} :
    addExact a b = some c ↔ c.toNat = a.toNat + b.toNat := by
  unfold addExact UInt64.size
  have hc := c.toNat_lt
  split
  · rename_i h
    rw [Option.some.injEq, ← UInt64.toNat_inj, UInt64.toNat_add, Nat.mod_eq_of_lt h]
    exact eq_comm
  · simp only [reduceCtorEq, false_iff]
    omega

theorem addSigned_eq_some_iff {a : UInt64} {d : Int} {c : UInt64} :
    addSigned a d = some c ↔ (c.toNat : Int) = a.toNat + d := by
  unfold addSigned UInt64.size
  have hc := c.toNat_lt
  simp only
  split
  · rename_i h
    rw [Option.some.injEq, ← UInt64.toNat_inj, UInt64.toNat_ofNat']
    omega
  · simp only [reduceCtorEq, false_iff]
    omega

end Word

namespace Guarded

def add (a b : Nat) : Guarded Nat :=
  if a + b < UInt64.size then .ok (a + b) else .error .overflow

def sub (a b : Nat) : Guarded Nat :=
  if b ≤ a then .ok (a - b) else .error .overflow

def addWord (a b : UInt64) : Guarded UInt64 :=
  match Word.addExact a b with
  | some sum => .ok sum
  | none => .error .overflow

theorem addWord_eq_ok_iff {a b c : UInt64} : addWord a b = .ok c ↔ c.toNat = a.toNat + b.toNat := by
  rw [← Word.addExact_eq_some_iff, addWord]
  cases Word.addExact a b <;> simp

theorem addWord_eq_error_iff {a b : UInt64} {cause : Fault} :
    addWord a b = .error cause ↔ cause = .overflow ∧ UInt64.size ≤ a.toNat + b.toNat := by
  rw [addWord, Word.addExact]
  by_cases h : a.toNat + b.toNat < UInt64.size
  · rw [if_pos h]
    exact ⟨nofun, fun fault => absurd h (Nat.not_lt.mpr fault.2)⟩
  · rw [if_neg h, Except.error.injEq, eq_comm]
    exact ⟨fun cause => ⟨cause, Nat.not_lt.mp h⟩, And.left⟩

/-- The results of all steps, or the first fault. -/
def all {α : Type} : List (Guarded α) → Guarded (List α)
  | [] => .ok []
  | step :: later => do
    let a ← step
    let rest ← all later
    return a :: rest

theorem all_eq_ok_iff {α : Type} {steps : List (Guarded α)} {results : List α} :
    all steps = .ok results ↔ steps = results.map .ok := by
  constructor
  · intro passed
    induction steps generalizing results with
    | nil =>
      cases passed
      rfl
    | cons step later ih =>
      cases step with
      | error cause => cases passed
      | ok a =>
        rw [all] at passed
        cases found : all later with
        | error cause =>
          rw [found] at passed
          cases passed
        | ok rest =>
          rw [found] at passed
          cases passed
          rw [List.map_cons, ← ih found]
  · rintro rfl
    induction results with
    | nil => rfl
    | cons a rest ih =>
      rw [List.map_cons, all, ih]
      rfl

theorem mem_of_all_eq_error {α : Type} {steps : List (Guarded α)} {cause : Fault}
    (fault : all steps = .error cause) : .error cause ∈ steps := by
  induction steps with
  | nil => cases fault
  | cons step later ih =>
    cases step with
    | error cause' =>
      cases fault
      exact List.mem_cons_self ..
    | ok a =>
      rw [all] at fault
      cases found : all later with
      | ok rest =>
        rw [found] at fault
        cases fault
      | error cause' =>
        rw [found] at fault
        cases fault
        exact List.mem_cons_of_mem _ (ih found)

end Guarded

end SignatureSearch
