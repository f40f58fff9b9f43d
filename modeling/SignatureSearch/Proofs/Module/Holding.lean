/-
  SignatureSearch.Proofs.Module.Holding — modules that come and go while objects are loaded.

  The loader counts who holds an object, and unloads it when nobody does. A module is one more that
  does (`ModuleHandle`), from when it is found to its end; whoever loaded the object is another. A run
  is any sequence of objects being loaded, modules found and ended, and others letting go (`Step`, `Run`).

  What must not happen is that an object goes away under a module, as its sections would with it.

  Proved:
  (1) The base of an object is its lowest loaded segment, moved by the bias (`LoadedObject.base_collect`).
  (2) To hold an object and let go of it again changes nothing (`Host.letGo_hold`), and an object whose
      last holder lets go is unloaded (`Host.ne_of_mem_letGo`).
  (3) In every run an object has at least as many holders as there are modules of it (`Step.inv`), so
      while a module is there, so is its object, at its place (`Run.module_stays_loaded`).
-/

import Mathlib.Data.List.Count
import SignatureSearch.Proofs.Module.Lookup

namespace SignatureSearch

/-! ## (1) The base -/

theorem LoadedObject.base_collect (name : String) (bias : UInt64) (programs : List Elf.ProgramHeader) :
    ((∀ p ∈ programs, p.isLoad = false) ∧ (collect name bias programs).base = bias) ∨
    ∃ p ∈ programs, p.isLoad ∧ (collect name bias programs).base = bias + p.address ∧
      ∀ q ∈ programs, q.isLoad → p.address ≤ q.address := by
  rw [collect]
  cases lowest : ((programs.filter (·.isLoad)).map (·.address)).min? with
  | none =>
    rw [List.min?_eq_none_iff, List.map_eq_nil_iff, List.filter_eq_nil_iff] at lowest
    exact .inl ⟨fun p hp => Bool.eq_false_iff.mpr (lowest p hp), UInt64.add_zero bias⟩
  | some address =>
    obtain ⟨hmem, hleast⟩ := List.min?_eq_some_iff.mp lowest
    obtain ⟨p, hp, rfl⟩ := List.mem_map.mp hmem
    obtain ⟨hp, load⟩ := List.mem_filter.mp hp
    refine .inr ⟨p, hp, load, rfl, fun q hq hload => ?_⟩
    exact hleast q.address (List.mem_map_of_mem (List.mem_filter.mpr ⟨hq, hload⟩))

/-! ## (2) Holding and letting go -/

/-- The object, with its holders counted anew if it has this name. -/
def LoadedObject.recount (name : String) (f : Nat → Nat) (o : LoadedObject) : LoadedObject :=
  if o.name == name then { o with holders := f o.holders } else o

namespace Host

variable {h h' : Host} {m : Module} {o : LoadedObject} {name : String} {f : Nat → Nat}

theorem holds_recount (held : m.Holds h o) (same : h'.executable = h.executable) :
    m.Holds h' (o.recount name f) := by
  obtain ⟨hobject, hbias, hbase, hpath⟩ := held
  rw [← same] at hpath
  rw [LoadedObject.recount]
  split <;> exact ⟨hobject, hbias, hbase, hpath⟩

theorem name_recount : (o.recount name f).name = o.name := by
  rw [LoadedObject.recount]
  split <;> rfl

theorem holders_recount : (o.recount name f).holders = if o.name = name then f o.holders else o.holders := by
  simp only [LoadedObject.recount, beq_iff_eq]
  split <;> rfl

theorem objects_hold : (h.hold m).objects = h.objects.map (·.recount m.object (· + 1)) := rfl

theorem mem_hold : o ∈ (h.hold m).objects ↔ ∃ x ∈ h.objects, x.recount m.object (· + 1) = o := List.mem_map

theorem objects_letGo : (h.letGo name).objects =
    (h.objects.map (·.recount name (· - 1))).filter (0 < ·.holders) := rfl

theorem mem_letGo : o ∈ (h.letGo name).objects ↔ 0 < o.holders ∧ ∃ x ∈ h.objects, x.recount name (· - 1) = o := by
  rw [objects_letGo, List.mem_filter, List.mem_map, decide_eq_true_iff, and_comm]

theorem letGo_hold (positive : ∀ o ∈ h.objects, 0 < o.holders) (m : Module) : (h.hold m).letGo m.object = h := by
  have back : (LoadedObject.recount m.object (· - 1)) ∘ (LoadedObject.recount m.object (· + 1)) = id := by
    funext o
    simp only [LoadedObject.recount, Function.comp_apply]
    by_cases named : (o.name == m.object) = true
    · rw [if_pos named, if_pos named]
      rfl
    · rw [if_neg named, if_neg named]
      rfl
  have objects : ((h.hold m).letGo m.object).objects = h.objects := by
    rw [objects_letGo, objects_hold, List.map_map, back, List.map_id]
    exact List.filter_eq_self.mpr fun o ho => decide_eq_true (positive o ho)
  cases h
  exact congrArg (Host.mk · _ _ _ _) objects

theorem ne_of_mem_letGo (last : ∀ o ∈ h.objects, o.name = name → o.holders ≤ 1) (ho : o ∈ (h.letGo name).objects) :
    o.name ≠ name := by
  obtain ⟨hpos, x, hx, rfl⟩ := mem_letGo.mp ho
  rw [name_recount]
  intro named
  have := last x hx named
  rw [holders_recount, if_pos named] at hpos
  omega

end Host

/-! ## (3) Runs -/

namespace Holding

structure State where
  host : Host
  /-- Those that have been found and not ended. -/
  modules : List Module

/-- How many of the modules are of an object. -/
def countOf (modules : List Module) (name : String) : Nat := modules.countP (·.object = name)

inductive Step : State → State → Prop
  | load (st : State) (name : String) (bias : UInt64) (programs : List Elf.ProgramHeader) :
      (∀ o ∈ st.host.objects, o.name ≠ name) →
      Step st ⟨{ st.host with objects := st.host.objects ++ [.collect name bias programs] }, st.modules⟩
  | find (st : State) (o : LoadedObject) (m : Module) : o ∈ st.host.objects → st.host.openObject o = .ok (some m) →
      Step st ⟨st.host.hold m, m :: st.modules⟩
  | drop (st : State) (m : Module) : m ∈ st.modules → Step st ⟨st.host.letGo m.object, st.modules.erase m⟩
  /-- One who holds the object, and is none of the modules, lets go of it. -/
  | letGo (st : State) (name : String) : (∀ o ∈ st.host.objects, o.name = name → countOf st.modules name < o.holders) →
      Step st ⟨st.host.letGo name, st.modules⟩

inductive Run (h : Host) : State → Prop
  | start : Run h ⟨h, []⟩
  | step {st st' : State} : Run h st → Step st st' → Run h st'

structure Inv (st : State) : Prop where
  positive : ∀ o ∈ st.host.objects, 0 < o.holders
  counted : ∀ o ∈ st.host.objects, countOf st.modules o.name ≤ o.holders
  loaded : ∀ m ∈ st.modules, ∃ o ∈ st.host.objects, m.Holds st.host o

variable {h : Host} {st st' : State} {m : Module} {name : String}

theorem Inv.countOf_eq_zero (inv : Inv st) (fresh : ∀ o ∈ st.host.objects, o.name ≠ name) : countOf st.modules name = 0 := by
  refine List.countP_eq_zero.mpr fun m hm => ?_
  obtain ⟨o, ho, held⟩ := inv.loaded m hm
  rw [held.object, decide_eq_true_iff]
  exact fresh o ho

theorem countOf_cons (m : Module) (modules : List Module) (name : String) :
    countOf (m :: modules) name = countOf modules name + if m.object = name then 1 else 0 := by
  rw [countOf, List.countP_cons]
  simp only [decide_eq_true_iff]
  rfl

theorem countOf_erase {modules : List Module} (hm : m ∈ modules) (name : String) :
    countOf modules name = countOf (modules.erase m) name + if m.object = name then 1 else 0 := by
  rw [← countOf_cons]
  exact (List.perm_cons_erase hm).countP_eq _

/-- One holder of an object goes, and of the modules at most one of it: then enough are left for those that stay. -/
theorem Inv.letGo (inv : Inv st) {later : List Module} (sub : ∀ m ∈ later, m ∈ st.modules)
    (others : ∀ other, other ≠ name → countOf later other = countOf st.modules other)
    (own : ∀ o ∈ st.host.objects, o.name = name → countOf later name < o.holders) :
    Inv ⟨st.host.letGo name, later⟩ := by
  have counted : ∀ x ∈ st.host.objects, countOf later x.name ≤ (x.recount name (· - 1)).holders := by
    intro x hx
    rw [Host.holders_recount]
    by_cases named : x.name = name
    · rw [if_pos named]
      have := own x hx named
      rw [named]
      omega
    · rw [if_neg named, others x.name named]
      exact inv.counted x hx
  constructor
  case positive => exact fun o ho => (Host.mem_letGo.mp ho).1
  case counted =>
    intro o ho
    obtain ⟨-, x, hx, rfl⟩ := Host.mem_letGo.mp ho
    rw [Host.name_recount]
    exact counted x hx
  case loaded =>
    intro m hm
    obtain ⟨x, hx, held⟩ := inv.loaded m (sub m hm)
    have alive : 0 < countOf later x.name :=
      List.countP_pos_iff.mpr ⟨m, hm, decide_eq_true held.object⟩
    have stays := Nat.lt_of_lt_of_le alive (counted x hx)
    exact ⟨_, Host.mem_letGo.mpr ⟨stays, x, hx, rfl⟩, Host.holds_recount held rfl⟩

theorem Inv.find (inv : Inv st) {o : LoadedObject} (ho : o ∈ st.host.objects)
    (opened : st.host.openObject o = .ok (some m)) : Inv ⟨st.host.hold m, m :: st.modules⟩ := by
  obtain ⟨-, holds⟩ := Host.openObject_eq_some_iff.mp opened
  constructor
  case positive =>
    intro o ho
    obtain ⟨x, hx, rfl⟩ := Host.mem_hold.mp ho
    have := inv.positive x hx
    rw [Host.holders_recount]
    split <;> omega
  case counted =>
    intro o ho
    obtain ⟨x, hx, rfl⟩ := Host.mem_hold.mp ho
    have := inv.counted x hx
    rw [Host.name_recount, Host.holders_recount, countOf_cons]
    by_cases named : x.name = m.object
    · rw [if_pos named, if_pos named.symm]
      exact Nat.succ_le_succ this
    · rw [if_neg named, if_neg (Ne.symm named)]
      exact this
  case loaded =>
    intro m' hm'
    have old : ∃ x ∈ st.host.objects, m'.Holds st.host x := by
      rcases List.mem_cons.mp hm' with rfl | hm'
      · exact ⟨o, ho, holds⟩
      · exact inv.loaded m' hm'
    obtain ⟨x, hx, held⟩ := old
    exact ⟨_, Host.mem_hold.mpr ⟨x, hx, rfl⟩, Host.holds_recount held rfl⟩

theorem Step.inv (step : Step st st') (inv : Inv st) : Inv st' := by
  cases step with
  | load name bias programs fresh =>
    constructor
    case positive =>
      intro o ho
      rcases List.mem_append.mp ho with ho | ho
      · exact inv.positive o ho
      · rw [List.mem_singleton.mp ho]
        exact Nat.one_pos
    case counted =>
      intro o ho
      rcases List.mem_append.mp ho with ho | ho
      · exact inv.counted o ho
      · rw [List.mem_singleton.mp ho]
        exact Nat.le_trans (Nat.le_of_eq (inv.countOf_eq_zero fresh)) (Nat.zero_le _)
    case loaded =>
      intro m hm
      obtain ⟨o, ho, held⟩ := inv.loaded m hm
      exact ⟨o, List.mem_append_left _ ho, held.object, held.bias, held.base, held.path⟩
  | find o m ho opened => exact inv.find ho opened
  | drop m hm =>
    refine inv.letGo (fun m' hm' => List.mem_of_mem_erase hm') (fun other hne => ?_) fun o ho named => ?_
    · have hcount := countOf_erase hm other
      rw [if_neg (Ne.symm hne)] at hcount
      exact hcount.symm
    · have hcount := countOf_erase hm m.object
      have hle := inv.counted o ho
      rw [if_pos rfl] at hcount
      rw [named] at hle
      omega
  | letGo name other => exact inv.letGo (fun _ hm => hm) (fun _ _ => rfl) other

theorem Run.inv (run : Run h st) (positive : ∀ o ∈ h.objects, 0 < o.holders) : Inv st := by
  induction run with
  | start => exact ⟨positive, fun _ _ => Nat.zero_le _, nofun⟩
  | step _ step ih => exact step.inv ih

theorem Run.find (run : Run h st) {asked : Option String} (found : st.host.module? asked = .ok (some m)) :
    Run h ⟨st.host.hold m, m :: st.modules⟩ := by
  obtain ⟨o, ho, opened⟩ := Host.exists_of_module? found
  exact run.step (.find st o m ho opened)

/-- While a module is there, the object that it was found as is loaded, at the same place, with a holder
    for every module of it. -/
theorem Run.module_stays_loaded (run : Run h st) (positive : ∀ o ∈ h.objects, 0 < o.holders) (hm : m ∈ st.modules) :
    ∃ o ∈ st.host.objects, m.Holds st.host o ∧ countOf st.modules o.name ≤ o.holders := by
  obtain ⟨o, ho, holds⟩ := (run.inv positive).loaded m hm
  exact ⟨o, ho, holds, (run.inv positive).counted o ho⟩

end Holding

end SignatureSearch
