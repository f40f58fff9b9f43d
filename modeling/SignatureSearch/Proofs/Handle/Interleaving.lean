/-
  SignatureSearch.Proofs.Handle.Interleaving — any number of threads on one table of handles.

  The table is shared. A registration (`register`) is two atomic steps of its thread, taking a number
  and filling the entry, and the steps of other threads may come between them; a look-up or a release,
  under any handle, issued or guessed, is one step. A run is a sequence of such steps from the empty
  table, and its trace says which thread did what, and what each step gave back (`Run`).

  Proved, over every run that takes fewer than 2⁶⁴ numbers:
  (1) What is found under a handle follows from the trace alone (`Run.lookup_eq`): the signature its
      entry was last filled with, unless a release came since. A step concerns one handle
      (`Event.effect_of_ne`).
  (2) Numbers are handed out once, and an entry is filled once, with the signature of the
      registration that took its number (`Inv`, `Step.inv`, `Run.inv`).
  (3) No more releases of a handle succeed than its entry was filled (`Run.successes_le`).
  (4) So handles are kept apart for good (`Run.handles_kept_apart`).
-/

import Mathlib.Data.List.Nodup
import Mathlib.Logic.Function.Basic
import SignatureSearch.Proofs.Handle.Table

namespace SignatureSearch.Interleaving

/-- What a thread did in one step, with what the step gave back. -/
inductive Event where
  /-- A registration of `s` took the number of `h`. -/
  | took (h : Handle) (s : Signature)
  | filled (h : Handle) (s : Signature)
  | lookedUp (h : Handle) (found : Option Signature)
  | released (h : Handle) (was : Bool)

namespace Event

def handle : Event → Handle
  | took h _ | filled h _ | lookedUp h _ | released h _ => h

def taken? : Event → Option Handle
  | took h _ => some h
  | _ => none

def filled? : Event → Option Handle
  | filled h _ => some h
  | _ => none

def releases (h : Handle) : Event → Bool
  | released k _ => k = h
  | _ => false

def succeeds (h : Handle) : Event → Bool
  | released k was => k = h && was
  | _ => false

/-- What is found under `h` after the event, if `found` was before it. -/
def effect (h : Handle) (found : Option Signature) : Event → Option Signature
  | filled k s => if k = h then some s else found
  | released k _ => if k = h then none else found
  | _ => found

end Event

structure State (Thread : Type) where
  table : HandleTable
  /-- The number that each thread has taken and not filled the entry of, and the signature that it
  is to be filled with. -/
  pending : Thread → Option (Handle × Signature)

abbrev Trace (Thread : Type) := List (Thread × Event)

variable {Thread : Type}

/-- The handles whose numbers were taken, in order. -/
def taken (trace : Trace Thread) : List Handle := trace.filterMap (·.2.taken?)

/-- The handles that registrations returned, in order. -/
def filled (trace : Trace Thread) : List Handle := trace.filterMap (·.2.filled?)

/-- What is found under `h` after the trace, if `found` was before it. -/
def standing (h : Handle) (found : Option Signature) (trace : Trace Thread) : Option Signature :=
  trace.foldl (fun found e => e.2.effect h found) found

/-- One step of one thread. A thread that has taken a number goes on by filling the entry. -/
inductive Step [DecidableEq Thread] : State Thread → Thread → Event → State Thread → Prop
  | take (st : State Thread) (t : Thread) (s : Signature) : st.pending t = none →
      Step st t (.took st.table.allocate.1 s)
        ⟨st.table.allocate.2, Function.update st.pending t (some (st.table.allocate.1, s))⟩
  | fill (st : State Thread) (t : Thread) (h : Handle) (s : Signature) : st.pending t = some (h, s) →
      Step st t (.filled h s) ⟨st.table.insert h s, Function.update st.pending t none⟩
  | lookup (st : State Thread) (t : Thread) (h : Handle) : st.pending t = none →
      Step st t (.lookedUp h (st.table.lookup h)) st
  | release (st : State Thread) (t : Thread) (h : Handle) : st.pending t = none →
      Step st t (.released h (st.table.release h).1) ⟨(st.table.release h).2, st.pending⟩

inductive Run [DecidableEq Thread] : Trace Thread → State Thread → Prop
  | start : Run [] ⟨.empty, fun _ => none⟩
  | step {trace : Trace Thread} {st st' : State Thread} {t : Thread} {e : Event} :
      Run trace st → Step st t e st' → Run (trace ++ [(t, e)]) st'

variable {trace : Trace Thread} {st st' : State Thread} {t u : Thread} {e : Event} {h k : Handle} {s r : Signature}

/-- What one more event adds to a list that is read off the trace, such as `taken` and `filled`. -/
theorem filterMap_append_event (f : Event → Option Handle) :
    (trace ++ [(t, e)]).filterMap (f ·.2) = trace.filterMap (f ·.2) ++ (f e).toList := by
  rw [List.filterMap_append]
  cases hf : f e <;> simp [hf]

theorem mem_taken_of_took (hmem : (t, .took h s) ∈ trace) : h ∈ taken trace :=
  List.mem_filterMap.mpr ⟨_, hmem, rfl⟩

/-! ## (1) What is found under a handle -/

theorem Event.effect_of_ne (hne : h ≠ e.handle) (found : Option Signature) : e.effect h found = found := by
  cases e with
  | filled k s => exact if_neg (Ne.symm hne)
  | released k was => exact if_neg (Ne.symm hne)
  | _ => rfl

/-- As long as the entry is not filled, nothing is found if nothing was, and else what was found,
    until the first release. -/
theorem standing_of_not_filled (hno : h ∉ filled trace) (found : Option Signature) :
    standing h found trace = if trace.any (·.2.releases h) then none else found := by
  induction trace generalizing found with
  | nil => rfl
  | cons x trace ih =>
    obtain ⟨t, e⟩ := x
    have hrest : h ∉ filled trace := by
      intro hmem
      refine hno ?_
      rw [filled, List.filterMap_cons]
      split
      · exact hmem
      · exact List.mem_cons_of_mem _ hmem
    have hstep : standing h found ((t, e) :: trace) = standing h (e.effect h found) trace := rfl
    rw [hstep, ih hrest, List.any_cons]
    cases e with
    | filled k s =>
      have hne : k ≠ h := by
        rintro rfl
        exact hno (List.mem_cons_self ..)
      rw [Event.effect, if_neg hne]
      rfl
    | released k was =>
      by_cases hk : k = h
      · simp only [Event.effect, Event.releases, hk, if_true, decide_true, Bool.true_or, ite_self]
      · simp only [Event.effect, Event.releases, hk, if_false, decide_false, Bool.false_or]
    | _ => rfl

section Steps

variable [DecidableEq Thread]

theorem Step.lookup_eq (step : Step st t e st') (h : Handle) :
    st'.table.lookup h = e.effect h (st.table.lookup h) := by
  cases step with
  | fill k s _ => exact HandleTable.lookup_insert
  | release k _ => exact HandleTable.lookup_release
  | _ => rfl

theorem Run.lookup_eq (run : Run trace st) (h : Handle) : st.table.lookup h = standing h none trace := by
  induction run with
  | start => exact HandleTable.lookup_empty
  | step _ step ih => rw [step.lookup_eq, ih, standing, standing, List.foldl_append]; rfl

end Steps

/-! ## (2) Numbers and entries -/

/-- Of a state that the trace leads to. -/
structure Inv (trace : Trace Thread) (st : State Thread) : Prop where
  handedOut : st.table.HandedOut (taken trace).length
  taken_le : ∀ h ∈ taken trace, h.raw.toNat ≤ (taken trace).length
  taken_nodup : (taken trace).Nodup
  filled_taken : ∀ h ∈ filled trace, h ∈ taken trace
  filled_nodup : (filled trace).Nodup
  pending_took : ∀ t h s, st.pending t = some (h, s) → (t, .took h s) ∈ trace
  pending_unfilled : ∀ t h s, st.pending t = some (h, s) → h ∉ filled trace
  /-- No two threads have taken the same number. -/
  pending_alone : ∀ t u h s r, st.pending t = some (h, s) → st.pending u = some (h, r) → t = u

theorem Inv.start : Inv [] (⟨.empty, fun _ => none⟩ : State Thread) where
  handedOut := .empty
  taken_le _ hmem := nomatch hmem
  taken_nodup := List.nodup_nil
  filled_taken _ hmem := nomatch hmem
  filled_nodup := List.nodup_nil
  pending_took _ _ _ hp := nomatch hp
  pending_unfilled _ _ _ hp := nomatch hp
  pending_alone _ _ _ _ _ hp := nomatch hp

/-- A step that takes no number and fills no entry, and leaves the registrations under way. -/
theorem Inv.quiet (inv : Inv trace st) (ht : e.taken? = none) (hf : e.filled? = none)
    (hpending : st'.pending = st.pending) (htable : st'.table.HandedOut (taken trace).length) :
    Inv (trace ++ [(t, e)]) st' := by
  have htaken : taken (trace ++ [(t, e)]) = taken trace := by
    rw [taken, filterMap_append_event Event.taken?, ht]
    exact List.append_nil _
  have hfilled : filled (trace ++ [(t, e)]) = filled trace := by
    rw [filled, filterMap_append_event Event.filled?, hf]
    exact List.append_nil _
  constructor
  case handedOut => rw [htaken]; exact htable
  case taken_le => rw [htaken]; exact inv.taken_le
  case taken_nodup => rw [htaken]; exact inv.taken_nodup
  case filled_taken => rw [htaken, hfilled]; exact inv.filled_taken
  case filled_nodup => rw [hfilled]; exact inv.filled_nodup
  case pending_took =>
    rw [hpending]
    exact fun u h s hp => List.mem_append_left _ (inv.pending_took u h s hp)
  case pending_unfilled => rw [hpending, hfilled]; exact inv.pending_unfilled
  case pending_alone => rw [hpending]; exact inv.pending_alone

section Pending

variable [DecidableEq Thread] {pending : Thread → Option (Handle × Signature)}

theorem pending_of_take (hu : Function.update pending t (some (k, s)) u = some (h, r)) :
    (u = t ∧ h = k ∧ r = s) ∨ pending u = some (h, r) := by
  by_cases e : u = t
  · rw [e, Function.update_self, Option.some_inj, Prod.mk.injEq] at hu
    exact .inl ⟨e, hu.1.symm, hu.2.symm⟩
  · rw [Function.update_of_ne e] at hu
    exact .inr hu

theorem pending_of_fill (hu : Function.update pending t none u = some (h, r)) : u ≠ t ∧ pending u = some (h, r) := by
  by_cases e : u = t
  · rw [e, Function.update_self] at hu
    cases hu
  · rw [Function.update_of_ne e] at hu
    exact ⟨e, hu⟩

end Pending

theorem Inv.take [DecidableEq Thread] (inv : Inv trace st) (hfew : (taken trace).length + 1 < 2 ^ 64) (t : Thread)
    (s : Signature) : Inv (trace ++ [(t, .took st.table.allocate.1 s)])
      ⟨st.table.allocate.2, Function.update st.pending t (some (st.table.allocate.1, s))⟩ := by
  have hraw := inv.handedOut.allocate_raw hfew
  have hfresh : st.table.allocate.1 ∉ taken trace := by
    intro hmem
    have := inv.taken_le _ hmem
    omega
  have hold : ∀ {u r}, st.pending u ≠ some (st.table.allocate.1, r) := by
    intro u r hp
    exact hfresh (mem_taken_of_took (inv.pending_took u _ r hp))
  have htaken : taken (trace ++ [(t, .took st.table.allocate.1 s)]) = taken trace ++ [st.table.allocate.1] :=
    filterMap_append_event Event.taken?
  have hfilled : filled (trace ++ [(t, .took st.table.allocate.1 s)]) = filled trace :=
    (filterMap_append_event Event.filled?).trans (List.append_nil _)
  constructor
  case handedOut => rw [htaken, List.length_append]; exact inv.handedOut.allocate
  case taken_le =>
    rw [htaken, List.length_append]
    intro h hmem
    rcases List.mem_append.mp hmem with hmem | hmem
    · exact Nat.le_succ_of_le (inv.taken_le h hmem)
    · rw [List.mem_singleton.mp hmem, hraw]
      exact Nat.le_refl _
  case taken_nodup =>
    rw [htaken]
    exact List.nodup_append'.mpr ⟨inv.taken_nodup, List.nodup_singleton _, List.disjoint_singleton.mpr hfresh⟩
  case filled_taken =>
    rw [htaken, hfilled]
    exact fun h hmem => List.mem_append_left _ (inv.filled_taken h hmem)
  case filled_nodup => rw [hfilled]; exact inv.filled_nodup
  case pending_took =>
    intro u h r hu
    rcases pending_of_take hu with ⟨rfl, rfl, rfl⟩ | hu
    · exact List.mem_append_right _ (List.mem_singleton_self _)
    · exact List.mem_append_left _ (inv.pending_took u h r hu)
  case pending_unfilled =>
    intro u h r hu
    rw [hfilled]
    rcases pending_of_take hu with ⟨rfl, rfl, rfl⟩ | hu
    · exact fun hmem => hfresh (inv.filled_taken _ hmem)
    · exact inv.pending_unfilled u h r hu
  case pending_alone =>
    intro u v h r q hu hv
    rcases pending_of_take hu with ⟨eu, hk, -⟩ | hu <;> rcases pending_of_take hv with ⟨ev, hk', -⟩ | hv
    · rw [eu, ev]
    · exact absurd (hk ▸ hv) hold
    · exact absurd (hk' ▸ hu) hold
    · exact inv.pending_alone u v h r q hu hv

theorem Inv.fill [DecidableEq Thread] (inv : Inv trace st) (hp : st.pending t = some (h, s)) :
    Inv (trace ++ [(t, .filled h s)]) ⟨st.table.insert h s, Function.update st.pending t none⟩ := by
  have hmem : h ∈ taken trace := mem_taken_of_took (inv.pending_took t h s hp)
  have htaken : taken (trace ++ [(t, .filled h s)]) = taken trace :=
    (filterMap_append_event Event.taken?).trans (List.append_nil _)
  have hfilled : filled (trace ++ [(t, .filled h s)]) = filled trace ++ [h] := filterMap_append_event Event.filled?
  constructor
  case handedOut => rw [htaken]; exact inv.handedOut.insert (inv.taken_le h hmem)
  case taken_le => rw [htaken]; exact inv.taken_le
  case taken_nodup => rw [htaken]; exact inv.taken_nodup
  case filled_taken =>
    rw [htaken, hfilled]
    intro k hk
    rcases List.mem_append.mp hk with hk | hk
    · exact inv.filled_taken k hk
    · rw [List.mem_singleton.mp hk]
      exact hmem
  case filled_nodup =>
    rw [hfilled]
    exact List.nodup_append'.mpr
      ⟨inv.filled_nodup, List.nodup_singleton _, List.disjoint_singleton.mpr (inv.pending_unfilled t h s hp)⟩
  case pending_took =>
    intro u k r hu
    exact List.mem_append_left _ (inv.pending_took u k r (pending_of_fill hu).2)
  case pending_unfilled =>
    intro u k r hu hk
    obtain ⟨hne, hu⟩ := pending_of_fill hu
    rw [hfilled] at hk
    rcases List.mem_append.mp hk with hk | hk
    · exact inv.pending_unfilled u k r hu hk
    · rw [List.mem_singleton.mp hk] at hu
      exact hne (inv.pending_alone u t h r s hu hp)
  case pending_alone =>
    intro u v k r q hu hv
    exact inv.pending_alone u v k r q (pending_of_fill hu).2 (pending_of_fill hv).2

section Runs

variable [DecidableEq Thread]

theorem Step.inv (step : Step st t e st') (inv : Inv trace st) (hfew : (taken (trace ++ [(t, e)])).length < 2 ^ 64) :
    Inv (trace ++ [(t, e)]) st' := by
  cases step with
  | take s _ =>
    rw [taken, filterMap_append_event Event.taken?, ← taken, List.length_append] at hfew
    exact inv.take hfew t s
  | fill h s hp => exact inv.fill hp
  | lookup h _ => exact inv.quiet rfl rfl rfl inv.handedOut
  | release h _ => exact inv.quiet rfl rfl rfl inv.handedOut.release

theorem Run.inv (run : Run trace st) (hfew : (taken trace).length < 2 ^ 64) : Inv trace st := by
  induction run with
  | start => exact .start
  | step _ step ih =>
    refine step.inv (ih ?_) hfew
    rw [taken, filterMap_append_event Event.taken?, ← taken, List.length_append] at hfew
    omega

/-! ## (3) Releases -/

theorem Step.success_le (step : Step st t e st') (h : Handle) :
    (if e.succeeds h then 1 else 0) + (st'.table.lookup h).toList.length ≤
      e.filled?.toList.count h + (st.table.lookup h).toList.length := by
  rw [step.lookup_eq]
  cases step with
  | fill k s _ =>
    by_cases hk : k = h
    · simp [Event.effect, Event.filled?, Event.succeeds, hk]
    · simp [Event.effect, Event.succeeds, hk]
  | release k _ =>
    rw [HandleTable.release_fst]
    by_cases hk : k = h
    · subst hk
      cases st.table.lookup k <;> simp [Event.effect, Event.succeeds]
    · simp [Event.effect, Event.succeeds, hk]
  | _ => simp [Event.effect, Event.succeeds]

theorem Run.successes_le (run : Run trace st) (h : Handle) :
    trace.countP (·.2.succeeds h) + (st.table.lookup h).toList.length ≤ (filled trace).count h := by
  induction run with
  | start => rw [HandleTable.lookup_empty]; exact Nat.le_refl 0
  | step _ step ih =>
    have := step.success_le h
    rw [List.countP_append, List.countP_singleton, filled, filterMap_append_event Event.filled?, ← filled,
      List.count_append]
    dsimp only
    omega

/-! ## (4) Handles apart -/

theorem Inv.lookup_pending (inv : Inv trace st) (run : Run trace st) (hp : st.pending t = some (h, s)) :
    st.table.lookup h = none := by
  rw [run.lookup_eq, standing_of_not_filled (inv.pending_unfilled t h s hp), ite_self]

/-- Once its entry was filled, a handle stands for that signature until the first release, and for
    nothing ever after. -/
theorem Inv.lookup_filled (inv : Inv trace st) (run : Run trace st) {before after : Trace Thread}
    (htrace : trace = before ++ (t, .filled h s) :: after) :
    st.table.lookup h = if after.any (·.2.releases h) then none else some s := by
  have hno : h ∉ filled after := by
    have hnodup := inv.filled_nodup
    rw [htrace, filled, List.filterMap_append] at hnodup
    exact (List.nodup_cons.mp hnodup.of_append_right).1
  have hlast : standing h none trace = standing h (some s) after := by
    rw [htrace, standing, List.foldl_append, List.foldl_cons, standing]
    congr 1
    exact if_pos rfl
  rw [run.lookup_eq, hlast, standing_of_not_filled hno]

/-- In every run, no two registrations take the same handle or return the same one; an entry is
    filled with the signature of the registration that took its handle, and was empty before; a
    handle stands for nothing until then, for that signature until the first release, and for
    nothing ever after; at most one release of a handle succeeds; and a step on one handle leaves
    what any other stands for. -/
theorem Run.handles_kept_apart (run : Run trace st) (hfew : (taken trace).length < 2 ^ 64) :
    (taken trace).Nodup ∧ (filled trace).Nodup ∧
    (∀ t h s st', Step st t (.filled h s) st' → (t, .took h s) ∈ trace ∧ st.table.lookup h = none) ∧
    (∀ h, h ∉ filled trace → st.table.lookup h = none) ∧
    (∀ before t h s after, trace = before ++ (t, .filled h s) :: after →
      st.table.lookup h = if after.any (·.2.releases h) then none else some s) ∧
    (∀ h, trace.countP (·.2.succeeds h) ≤ 1) ∧
    (∀ t e st', Step st t e st' → ∀ h, h ≠ e.handle → st'.table.lookup h = st.table.lookup h) := by
  have inv := run.inv hfew
  refine ⟨inv.taken_nodup, inv.filled_nodup, ?_, ?_, ?_, ?_, ?_⟩
  · intro t h s st' step
    cases step with
    | fill _ _ hp => exact ⟨inv.pending_took t h s hp, inv.lookup_pending run hp⟩
  · intro h hno
    rw [run.lookup_eq, standing_of_not_filled hno, ite_self]
  · intro before t h s after htrace
    exact inv.lookup_filled run htrace
  · intro h
    have hsucc := run.successes_le h
    have honce := List.nodup_iff_count_le_one.mp inv.filled_nodup h
    omega
  · intro t e st' step h hne
    rw [step.lookup_eq, e.effect_of_ne hne]

/-! ### A run of three threads -/

theorem Run.step_lookup (run : Run trace st) (hp : st.pending t = none) {found : Option Signature}
    (hf : standing h none trace = found) : Run (trace ++ [(t, .lookedUp h found)]) st := by
  rw [← hf, ← run.lookup_eq h]
  exact run.step (.lookup st t h hp)

theorem Run.release_fst (run : Run trace st) (h : Handle) :
    (st.table.release h).1 = (standing h none trace).isSome := by
  rw [HandleTable.release_fst, run.lookup_eq]

theorem Run.step_release (run : Run trace st) (hp : st.pending t = none) {was : Bool}
    (hw : (standing h none trace).isSome = was) :
    Run (trace ++ [(t, .released h was)]) ⟨(st.table.release h).2, st.pending⟩ := by
  rw [← hw, ← run.release_fst]
  exact run.step (.release st t h hp)

end Runs

def second : Handle := ⟨2, by decide⟩

def only (b : UInt8) : Signature := ⟨[.byte b], nofun⟩

/-- Thread 2 guesses the first handle and releases it while thread 0 is between its two steps, and
    releases it again after them. -/
def crossing : Trace Nat :=
  [(0, .took .first (only 0x48)), (1, .took second (only 0xCC)), (2, .released .first false),
    (1, .filled second (only 0xCC)), (0, .filled .first (only 0x48)), (2, .lookedUp .first (some (only 0x48))),
    (2, .released .first true), (1, .released .first false)]

theorem crossing_runs : ∃ st : State Nat, Run crossing st := by
  have h1 := Run.start.step (.take _ 0 (only 0x48) rfl)
  have h2 := h1.step (.take _ 1 (only 0xCC) rfl)
  have h3 := h2.step_release (t := 2) (h := .first) rfl rfl
  have h4 := h3.step (.fill _ 1 second (only 0xCC) rfl)
  have h5 := h4.step (.fill _ 0 .first (only 0x48) rfl)
  have h6 := h5.step_lookup (t := 2) (h := .first) rfl rfl
  have h7 := h6.step_release (t := 2) (h := .first) rfl rfl
  exact ⟨_, h7.step_release (t := 1) (h := .first) rfl rfl⟩

/-- After it the first handle stands for nothing for good, and the second one for its signature. -/
theorem crossing_keeps_apart : ∃ st : State Nat, Run crossing st ∧ (taken crossing).length < 2 ^ 64 ∧
    st.table.lookup .first = none ∧ st.table.lookup second = some (only 0xCC) := by
  obtain ⟨st, run⟩ := crossing_runs
  have hfew : (taken crossing).length < 2 ^ 64 := by decide
  obtain ⟨-, -, -, -, lookup, -, -⟩ := run.handles_kept_apart hfew
  refine ⟨st, run, hfew, ?_, ?_⟩
  · exact lookup (crossing.take 4) 0 .first (only 0x48) (crossing.drop 5) rfl
  · exact lookup (crossing.take 3) 1 second (only 0xCC) (crossing.drop 4) rfl

end SignatureSearch.Interleaving
