/-
  SignatureSearch.Proofs.Handle.Ownership — holders that release their handles, among callers that do so
  themselves.

  A signature is registered bare, or for a holder that releases it at the end of its life. Handles are
  plain numbers and can be copied or guessed, so an entry may be gone before its holder's life ends; and
  a holder may give its handle up (`into_raw`) and never release it. A run is any sequence of such
  operations from the empty table, in which an operation that ends a holder uses it up (`Step`, `Run`).

  What must not happen is that a holder takes away what was registered for someone else, or leaves its
  own entry behind.

  Proved, over every run with fewer than 2⁶⁴ registrations:
  (1) On the table, a run is one thread of an interleaving (`Run.unfolded`). So an entry is there just
      when it was registered and neither released nor dropped since (`Run.lookup_eq_some_iff`).
  (2) Every holder that ever was is alive, dropped or given up, and only one of these (`Run.accounted`).
      Until its holder is dropped, an entry lasts until it is released by its handle
      (`Run.kept_until_released`).
  (3) So the end of a holder takes away what was registered for it, if it is still there, and nothing
      else; and what a holder has given up is taken away by a release alone
      (`Run.holders_end_their_own`).
-/

import SignatureSearch.Proofs.Handle.Interleaving

namespace SignatureSearch.Ownership

/-- An operation, with what it gave back. -/
inductive Event where
  | registered (h : Handle) (s : Signature)
  /-- A holder came to life, and `s` was registered for it. -/
  | wrapped (o : OwnedHandle) (s : Signature)
  | lookedUp (h : Handle) (found : Option Signature)
  | released (h : Handle) (was : Bool)
  /-- The life of a holder ended, and its entry was still there or not. -/
  | dropped (o : OwnedHandle) (was : Bool)
  | ceded (o : OwnedHandle) (h : Handle)

namespace Event

/-- The event registered `s` under `h`, bare or for a holder. -/
def Registers (h : Handle) (s : Signature) (e : Event) : Prop := e = registered h s ∨ e = wrapped ⟨h⟩ s

def issued? : Event → Option Handle
  | registered h _ => some h
  | wrapped o _ => some o.handle
  | _ => none

def wraps (o : OwnedHandle) : Event → Bool
  | wrapped p _ => p = o
  | _ => false

def drops (o : OwnedHandle) : Event → Bool
  | dropped p _ => p = o
  | _ => false

def cedes (o : OwnedHandle) : Event → Bool
  | ceded p _ => p = o
  | _ => false

def releases (h : Handle) : Event → Bool
  | released k _ => k = h
  | _ => false

def ends (h : Handle) (e : Event) : Bool := e.releases h || e.drops ⟨h⟩

def steps : Event → List Interleaving.Event
  | registered h s => [.took h s, .filled h s]
  | wrapped o s => [.took o.handle s, .filled o.handle s]
  | lookedUp h found => [.lookedUp h found]
  | released h was => [.released h was]
  | dropped o was => [.released o.handle was]
  | ceded _ _ => []

end Event

structure State where
  table : HandleTable
  /-- Those alive. -/
  holders : List OwnedHandle

inductive Step : State → Event → State → Prop
  | register (st : State) (s : Signature) :
      Step st (.registered (st.table.register s).1 s) ⟨(st.table.register s).2, st.holders⟩
  | wrap (st : State) (s : Signature) : Step st (.wrapped (OwnedHandle.register st.table s).1 s)
      ⟨(OwnedHandle.register st.table s).2, (OwnedHandle.register st.table s).1 :: st.holders⟩
  | lookup (st : State) (h : Handle) : Step st (.lookedUp h (st.table.lookup h)) st
  | release (st : State) (h : Handle) :
      Step st (.released h (st.table.release h).1) ⟨(st.table.release h).2, st.holders⟩
  | drop (st : State) (o : OwnedHandle) : o ∈ st.holders →
      Step st (.dropped o (o.signature? st.table).isSome) ⟨o.drop st.table, st.holders.erase o⟩
  | releaseHolder (st : State) (o : OwnedHandle) : o ∈ st.holders →
      Step st (.dropped o (o.signature? st.table).isSome) ⟨o.release st.table, st.holders.erase o⟩
  | intoRaw (st : State) (o : OwnedHandle) : o ∈ st.holders →
      Step st (.ceded o o.intoRaw) ⟨st.table, st.holders.erase o⟩

inductive Run : List Event → State → Prop
  | start : Run [] ⟨.empty, []⟩
  | step {trace : List Event} {st st' : State} {e : Event} :
      Run trace st → Step st e st' → Run (trace ++ [e]) st'

/-- The handles that registrations returned, in order. -/
def issued (trace : List Event) : List Handle := trace.filterMap Event.issued?

/-- The trace as that of a single thread on the table. -/
def unfolded (trace : List Event) : Interleaving.Trace Unit := trace.flatMap fun e => e.steps.map (Prod.mk ())

variable {trace before after : List Event} {st st' : State} {e : Event} {h : Handle} {o : OwnedHandle} {s : Signature}

/-! ## (1) The table -/

theorem issued_cons (e : Event) (trace : List Event) : issued (e :: trace) = e.issued?.toList ++ issued trace := by
  rw [issued, List.filterMap_cons]
  cases e.issued? <;> rfl

theorem unfolded_cons (e : Event) (trace : List Event) :
    unfolded (e :: trace) = e.steps.map (Prod.mk ()) ++ unfolded trace := List.flatMap_cons

theorem unfolded_append (trace later : List Event) : unfolded (trace ++ later) = unfolded trace ++ unfolded later :=
  List.flatMap_append

/-- What is read off the steps is read off the operations, if each step of theirs shows it. -/
theorem filterMap_unfolded {f : Interleaving.Event → Option Handle}
    (hf : ∀ e : Event, e.steps.filterMap f = e.issued?.toList) (trace : List Event) :
    (unfolded trace).filterMap (f ·.2) = issued trace := by
  induction trace with
  | nil => rfl
  | cons e trace ih =>
    have first : (e.steps.map (Prod.mk ())).filterMap (f ·.2) = e.issued?.toList := by
      rw [List.filterMap_map]
      exact hf e
    rw [unfolded_cons, List.filterMap_append, first, ih, issued_cons]

theorem taken_unfolded (trace : List Event) : Interleaving.taken (unfolded trace) = issued trace :=
  filterMap_unfolded (fun e => by cases e <;> rfl) trace

theorem filled_unfolded (trace : List Event) : Interleaving.filled (unfolded trace) = issued trace :=
  filterMap_unfolded (fun e => by cases e <;> rfl) trace

theorem any_releases_steps (e : Event) (h : Handle) :
    (e.steps.map (Prod.mk ())).any (·.2.releases h) = e.ends h := by
  cases e with
  | dropped o was => cases o; simp [Event.steps, Event.ends, Event.releases, Event.drops, Interleaving.Event.releases]
  | _ => simp [Event.steps, Event.ends, Event.releases, Event.drops, Interleaving.Event.releases]

theorem any_releases_unfolded (trace : List Event) (h : Handle) :
    (unfolded trace).any (·.2.releases h) = trace.any (·.ends h) := by
  induction trace with
  | nil => rfl
  | cons e trace ih => rw [unfolded_cons, List.any_append, any_releases_steps, ih, List.any_cons]

theorem run_register {t : HandleTable} {steps : Interleaving.Trace Unit}
    (run : Interleaving.Run steps ⟨t, fun _ => none⟩) (s : Signature) :
    Interleaving.Run (steps ++ [((), .took (t.register s).1 s), ((), .filled (t.register s).1 s)])
      ⟨(t.register s).2, fun _ => none⟩ := by
  have took := run.step (.take _ () s rfl)
  have pending : Function.update (fun _ => none) () (some (t.allocate.1, s)) () = some (t.allocate.1, s) :=
    Function.update_self ..
  have filled := took.step (.fill _ () t.allocate.1 s pending)
  have idle : Function.update (Function.update (fun _ => none) () (some (t.allocate.1, s))) () none = fun _ => none :=
    funext fun _ => Function.update_self ..
  rw [List.append_assoc, idle] at filled
  exact filled

theorem Step.unfolded (step : Step st e st') (run : Interleaving.Run (unfolded trace) ⟨st.table, fun _ => none⟩) :
    Interleaving.Run (unfolded (trace ++ [e])) ⟨st'.table, fun _ => none⟩ := by
  have last : Ownership.unfolded (trace ++ [e]) = Ownership.unfolded trace ++ e.steps.map (Prod.mk ()) := by
    rw [unfolded_append, unfolded_cons]
    exact congrArg _ (List.append_nil _)
  rw [last]
  cases step with
  | register s => exact run_register run s
  | wrap s => exact run_register run s
  | lookup h => exact run.step (.lookup _ () h rfl)
  | release h => exact run.step (.release _ () h rfl)
  | drop o _ =>
    rw [OwnedHandle.signature?, ← HandleTable.release_fst]
    exact run.step (.release _ () o.handle rfl)
  | releaseHolder o _ =>
    rw [OwnedHandle.signature?, ← HandleTable.release_fst]
    exact run.step (.release _ () o.handle rfl)
  | intoRaw o _ =>
    rw [Event.steps, List.map_nil, List.append_nil]
    exact run

theorem Run.unfolded (run : Run trace st) : Interleaving.Run (unfolded trace) ⟨st.table, fun _ => none⟩ := by
  induction run with
  | start => exact .start
  | step _ step ih => exact step.unfolded ih

theorem Run.lookup_registered (run : Run trace st) (hfew : (issued trace).length < 2 ^ 64)
    (htrace : trace = before ++ e :: after) (hreg : e.Registers h s) :
    st.table.lookup h = if after.any (·.ends h) then none else some s := by
  have inv := run.unfolded.inv (by rwa [taken_unfolded])
  have hsteps : Ownership.unfolded trace =
      (Ownership.unfolded before ++ [((), .took h s)]) ++ ((), .filled h s) :: Ownership.unfolded after := by
    rw [htrace, unfolded_append, unfolded_cons, List.append_assoc]
    rcases hreg with rfl | rfl <;> rfl
  rw [inv.lookup_filled run.unfolded hsteps, any_releases_unfolded]

theorem Run.exists_registers (run : Run trace st) (hs : st.table.lookup h = some s) :
    ∃ before e after r, trace = before ++ e :: after ∧ e.Registers h r := by
  have hissued : h ∈ issued trace := by
    rw [← filled_unfolded]
    by_contra hno
    rw [run.unfolded.lookup_eq, Interleaving.standing_of_not_filled hno, ite_self] at hs
    cases hs
  obtain ⟨e, he, hh⟩ := List.mem_filterMap.mp hissued
  obtain ⟨before, after, htrace⟩ := List.append_of_mem he
  cases e with
  | registered k r =>
    obtain rfl : k = h := Option.some.inj hh
    exact ⟨before, _, after, r, htrace, .inl rfl⟩
  | wrapped o r =>
    obtain rfl : o.handle = h := Option.some.inj hh
    exact ⟨before, _, after, r, htrace, .inr rfl⟩
  | _ => cases hh

theorem Run.lookup_eq_some_iff (run : Run trace st) (hfew : (issued trace).length < 2 ^ 64) :
    st.table.lookup h = some s ↔
      ∃ before e after, trace = before ++ e :: after ∧ e.Registers h s ∧ ∀ x ∈ after, x.ends h = false := by
  constructor
  · intro hs
    obtain ⟨before, e, after, r, htrace, hreg⟩ := run.exists_registers hs
    have hlookup := run.lookup_registered hfew htrace hreg
    rw [hs] at hlookup
    by_cases hend : after.any (·.ends h) = true
    · rw [if_pos hend] at hlookup
      cases hlookup
    · rw [if_neg hend] at hlookup
      obtain rfl := Option.some.inj hlookup
      refine ⟨before, e, after, htrace, hreg, fun x hx => ?_⟩
      exact Bool.eq_false_iff.mpr (List.any_eq_false.mp (Bool.eq_false_iff.mpr hend) x hx)
  · intro hlast
    obtain ⟨before, e, after, htrace, hreg, hend⟩ := hlast
    rw [run.lookup_registered hfew htrace hreg, if_neg]
    rw [List.any_eq_true]
    rintro ⟨x, hx, he⟩
    rw [hend x hx] at he
    cases he

/-! ## (2) Holders -/

theorem Step.accounted (step : Step st e st') (o : OwnedHandle) :
    (if e.wraps o then 1 else 0) + st.holders.count o =
      (if e.drops o then 1 else 0) + (if e.cedes o then 1 else 0) + st'.holders.count o := by
  have used : ∀ p ∈ st.holders, st.holders.count o = (if p = o then 1 else 0) + (st.holders.erase p).count o := by
    intro p hp
    rw [(List.perm_cons_erase hp).count_eq, List.count_cons, Nat.add_comm]
    simp only [beq_iff_eq]
  cases step with
  | wrap s => simp [Event.wraps, Event.drops, Event.cedes, List.count_cons, Nat.add_comm]
  | drop p hp => simp [Event.wraps, Event.drops, Event.cedes, used p hp]
  | releaseHolder p hp => simp [Event.wraps, Event.drops, Event.cedes, used p hp]
  | intoRaw p hp => simp [Event.wraps, Event.drops, Event.cedes, used p hp]
  | _ => simp [Event.wraps, Event.drops, Event.cedes]

theorem Run.accounted (run : Run trace st) (o : OwnedHandle) :
    trace.countP (·.wraps o) = trace.countP (·.drops o) + trace.countP (·.cedes o) + st.holders.count o := by
  induction run with
  | start => rfl
  | step _ step ih =>
    have := step.accounted o
    simp only [List.countP_append, List.countP_singleton]
    omega

theorem Event.wraps_le (e : Event) (o : OwnedHandle) :
    (if e.wraps o then 1 else 0) ≤ e.issued?.toList.count o.handle := by
  cases e with
  | wrapped p s =>
    by_cases hp : p = o
    · simp [wraps, issued?, hp]
    · simp [wraps, hp]
  | _ => exact Nat.zero_le _

theorem countP_wraps_le (trace : List Event) (o : OwnedHandle) :
    trace.countP (·.wraps o) ≤ (issued trace).count o.handle := by
  induction trace with
  | nil => exact Nat.le_refl 0
  | cons e trace ih =>
    have := e.wraps_le o
    rw [List.countP_cons, issued_cons, List.count_append]
    omega

theorem Run.issued_nodup (run : Run trace st) (hfew : (issued trace).length < 2 ^ 64) : (issued trace).Nodup := by
  rw [← taken_unfolded] at hfew ⊢
  exact (run.unfolded.inv hfew).taken_nodup

theorem Run.wrapped_once (run : Run trace st) (hfew : (issued trace).length < 2 ^ 64) (o : OwnedHandle) :
    trace.countP (·.wraps o) ≤ 1 :=
  Nat.le_trans (countP_wraps_le trace o) (List.nodup_iff_count_le_one.mp (run.issued_nodup hfew) o.handle)

theorem Run.alive (run : Run trace st) (hfew : (issued trace).length < 2 ^ 64) (ho : o ∈ st.holders) :
    0 < trace.countP (·.wraps o) ∧ trace.countP (·.drops o) = 0 := by
  have once := run.wrapped_once hfew o
  have accounted := run.accounted o
  have alive := List.count_pos_iff.mpr ho
  exact ⟨by omega, by omega⟩

theorem Run.ceded (run : Run trace st) (hfew : (issued trace).length < 2 ^ 64) (hc : .ceded o h ∈ trace) :
    0 < trace.countP (·.wraps o) ∧ trace.countP (·.drops o) = 0 ∧ o ∉ st.holders := by
  have once := run.wrapped_once hfew o
  have accounted := run.accounted o
  have ceded : 0 < trace.countP (·.cedes o) := List.countP_pos_iff.mpr ⟨_, hc, decide_eq_true rfl⟩
  refine ⟨by omega, by omega, ?_⟩
  rw [← List.count_pos_iff]
  omega

/-- Until its holder is dropped, an entry is there until it is released by its handle. -/
theorem Run.kept_until_released (run : Run trace st) (hfew : (issued trace).length < 2 ^ 64)
    (hwrap : 0 < trace.countP (·.wraps o)) (hdrop : trace.countP (·.drops o) = 0) :
    ∃ before s after, trace = before ++ .wrapped o s :: after ∧
      st.table.lookup o.handle = if after.any (·.releases o.handle) then none else some s := by
  obtain ⟨e, he, hw⟩ := List.countP_pos_iff.mp hwrap
  obtain ⟨before, after, htrace⟩ := List.append_of_mem he
  cases e with
  | wrapped p s =>
    obtain rfl : p = o := of_decide_eq_true hw
    refine ⟨before, s, after, htrace, ?_⟩
    -- without a drop, only releases by the handle are left to end the entry
    have hends : after.any (·.ends p.handle) = after.any (·.releases p.handle) := by
      rw [Bool.eq_iff_iff, List.any_eq_true, List.any_eq_true]
      refine exists_congr fun x => and_congr_right fun hx => ?_
      have hmem : x ∈ trace := htrace ▸ List.mem_append_right _ (List.mem_cons_of_mem _ hx)
      rw [Event.ends, Bool.eq_false_iff.mpr (List.countP_eq_zero.mp hdrop x hmem), Bool.or_false]
    rw [run.lookup_registered hfew htrace (.inr rfl), hends]
  | _ => cases hw

/-! ## (3) The end of a holder -/

theorem Run.ceded_handle (run : Run trace st) (hc : .ceded o h ∈ trace) : h = o.handle := by
  induction run with
  | start => cases hc
  | step _ step ih =>
    rcases List.mem_append.mp hc with hc | hc
    · exact ih hc
    · cases List.mem_singleton.mp hc
      cases step
      rfl

theorem lookup_drop (t : HandleTable) (o : OwnedHandle) (h : Handle) :
    (o.drop t).lookup h = if o.handle = h then none else t.lookup h := HandleTable.lookup_release

theorem lookup_register (t : HandleTable) (s : Signature) (h : Handle) :
    (t.register s).2.lookup h = if (t.register s).1 = h then some s else t.lookup h := HandleTable.lookup_insert

/-- Only a release by its handle, or the end of a holder that is alive, takes an entry away. -/
theorem Step.ends_of_lookup (step : Step st e st') (hs : (st.table.lookup h).isSome) (hn : st'.table.lookup h = none) :
    e.releases h ∨ ⟨h⟩ ∈ st.holders := by
  have same : st.table.lookup h ≠ none := Option.isSome_iff_ne_none.mp hs
  have registered : ∀ s, (st.table.register s).2.lookup h ≠ none := by
    intro s
    rw [lookup_register]
    split
    · exact Option.some_ne_none s
    · exact same
  have released : ∀ k, (st.table.release k).2.lookup h = none → k = h := by
    intro k hk
    by_contra hne
    rw [HandleTable.lookup_release, if_neg hne] at hk
    exact same hk
  cases step with
  | register s => exact absurd hn (registered s)
  | wrap s => exact absurd hn (registered s)
  | lookup k => exact absurd hn same
  | release k => exact .inl (decide_eq_true (released k hn))
  | drop o ho =>
    obtain rfl := released o.handle hn
    exact .inr ho
  | releaseHolder o ho =>
    obtain rfl := released o.handle hn
    exact .inr ho
  | intoRaw o _ => exact absurd hn same

/-- What the end of `o` does to the table. -/
structure TakesOwn (trace : List Event) (o : OwnedHandle) (t t' : HandleTable) : Prop where
  gone : t'.lookup o.handle = none
  others : ∀ h, h ≠ o.handle → t'.lookup h = t.lookup h
  counter : t'.counter = t.counter
  /-- If the entry was released by its handle before, nothing; and nothing to what was registered since. -/
  since : ∃ before s after, trace = before ++ .wrapped o s :: after ∧
    t.lookup o.handle = (if after.any (·.releases o.handle) then none else some s) ∧
    (after.any (·.releases o.handle) = true → ∀ h, t'.lookup h = t.lookup h) ∧
    ∀ e ∈ after, ∀ h r, e.Registers h r → h ≠ o.handle ∧ t'.lookup h = t.lookup h

theorem Event.Registers.issued? (hreg : e.Registers h s) : e.issued? = some h := by
  rcases hreg with rfl | rfl <;> rfl

theorem Run.ne_of_registers (run : Run trace st) (hfew : (issued trace).length < 2 ^ 64)
    (htrace : trace = before ++ .wrapped o s :: after) (he : e ∈ after) {r : Signature} (hreg : e.Registers h r) :
    h ≠ o.handle := by
  have hnodup := run.issued_nodup hfew
  rw [htrace, issued, List.filterMap_append] at hnodup
  have hafter : o.handle ∉ issued after := (List.nodup_cons.mp hnodup.of_append_right).1
  rintro rfl
  exact hafter (List.mem_filterMap.mpr ⟨e, he, hreg.issued?⟩)

theorem Run.takesOwn (run : Run trace st) (hfew : (issued trace).length < 2 ^ 64) (ho : o ∈ st.holders) :
    TakesOwn trace o st.table (o.drop st.table) := by
  have others : ∀ h, h ≠ o.handle → (o.drop st.table).lookup h = st.table.lookup h := by
    intro h hne
    rw [lookup_drop, if_neg (Ne.symm hne)]
  have gone : (o.drop st.table).lookup o.handle = none := by rw [lookup_drop, if_pos rfl]
  obtain ⟨hwrap, hdrop⟩ := run.alive hfew ho
  obtain ⟨before, s, after, htrace, hlookup⟩ := run.kept_until_released hfew hwrap hdrop
  refine ⟨gone, others, rfl, before, s, after, htrace, hlookup, ?_, ?_⟩
  · intro hreleased h
    by_cases hh : h = o.handle
    · rw [hh, gone, hlookup, if_pos hreleased]
    · exact others h hh
  · intro e he h r hreg
    have hne := run.ne_of_registers hfew htrace he hreg
    exact ⟨hne, others h hne⟩

/-- In every run, an entry is there just if it was registered, bare or for a holder, and neither
    released nor dropped since. The end of a holder's life, now or later, takes away its own entry and
    leaves every other one; it does nothing if the entry was released by its handle before, and takes
    away nothing that was registered after. Once a holder has given up its handle, nothing is dropped for
    it, and only a release by the handle takes its entry away. -/
theorem Run.holders_end_their_own (run : Run trace st) (hfew : (issued trace).length < 2 ^ 64) :
    (∀ h s, st.table.lookup h = some s ↔
      ∃ before e after, trace = before ++ e :: after ∧ e.Registers h s ∧ ∀ x ∈ after, x.ends h = false) ∧
    (∀ o ∈ st.holders,
      TakesOwn trace o st.table (o.drop st.table) ∧ TakesOwn trace o st.table (o.release st.table)) ∧
    (∀ o h, .ceded o h ∈ trace → h = o.handle ∧ o ∉ st.holders ∧ (∀ was, .dropped o was ∉ trace) ∧
      (∃ before s after, trace = before ++ .wrapped o s :: after ∧
        st.table.lookup h = if after.any (·.releases h) then none else some s) ∧
      ∀ e st', Step st e st' → (st.table.lookup h).isSome → st'.table.lookup h = none → e.releases h) := by
  refine ⟨?_, ?_, ?_⟩
  · intro h s
    exact run.lookup_eq_some_iff hfew
  · intro o ho
    exact ⟨run.takesOwn hfew ho, run.takesOwn hfew ho⟩
  · intro o h hc
    obtain rfl := run.ceded_handle hc
    obtain ⟨hwrap, hdrop, hgone⟩ := run.ceded hfew hc
    refine ⟨rfl, hgone, ?_, run.kept_until_released hfew hwrap hdrop, ?_⟩
    · intro was hmem
      exact List.countP_eq_zero.mp hdrop _ hmem (decide_eq_true rfl)
    · intro e st' step hs hn
      exact (step.ends_of_lookup hs hn).resolve_right hgone

/-! ### A run with two holders -/

open Interleaving (only second)

def third : Handle := ⟨3, by decide⟩

/-- The entry of the first holder is released by its handle while the holder is alive, and the second
    holder gives up. -/
def parted : List Event :=
  [.wrapped ⟨.first⟩ (only 0x48), .released .first true, .registered second (only 0xCC),
    .wrapped ⟨third⟩ (only 0x90), .ceded ⟨third⟩ third]

theorem parted_runs : ∃ st : State, Run parted st ∧ st.holders = [⟨.first⟩] := by
  have h1 := Run.start.step (.wrap _ (only 0x48))
  have h2 := h1.step (.release _ .first)
  rw [h1.unfolded.release_fst] at h2
  have h3 := h2.step (.register _ (only 0xCC))
  have h4 := h3.step (.wrap _ (only 0x90))
  have h5 := h4.step (.intoRaw _ ⟨third⟩ (List.mem_cons_self ..))
  exact ⟨_, h5, rfl⟩

/-- After it, the end of the first holder does nothing, and the entry of the second one is kept. -/
theorem parted_ends_own : ∃ st : State, Run parted st ∧ (issued parted).length < 2 ^ 64 ∧
    (∀ h, (OwnedHandle.drop ⟨.first⟩ st.table).lookup h = st.table.lookup h) ∧
    st.table.lookup second = some (only 0xCC) ∧ st.table.lookup third = some (only 0x90) := by
  obtain ⟨st, run, hholders⟩ := parted_runs
  have hfew : (issued parted).length < 2 ^ 64 := by decide
  obtain ⟨entries, own, -⟩ := run.holders_end_their_own hfew
  have mine := (own ⟨.first⟩ (hholders ▸ List.mem_cons_self ..)).1
  have hmade : parted = [] ++ .wrapped ⟨.first⟩ (only 0x48) :: parted.drop 1 := rfl
  refine ⟨st, run, hfew, ?_, ?_, ?_⟩
  · intro h
    by_cases hh : h = .first
    · rw [hh, mine.gone, run.lookup_registered hfew hmade (.inr rfl)]
      rfl
    · exact mine.others h hh
  · exact (entries second _).mpr ⟨parted.take 2, _, parted.drop 3, rfl, .inl rfl, by decide⟩
  · exact (entries third _).mpr ⟨parted.take 3, _, parted.drop 4, rfl, .inr rfl, by decide⟩

end SignatureSearch.Ownership
