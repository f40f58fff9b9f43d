/-
  SignatureSearch.Proofs.Module.Lookup — the module that a name stands for, and its base after it.

  The objects of a process are looked up in three ways: by a name (`get_module`), as the main program
  (`process_module`), and by a base (`module_at`). Names may repeat, the loader may refuse to have an object held
  open, and the main program has no name but the path of its executable, which need not be text. A caller in another
  language keeps nothing of a module but its base, and hands it back when it has something to search. What must not
  happen is that another module is searched then.

  Proved:
  (1) A path goes by itself and by its file name (`nameFits_iff`).
  (2) An object is held open with its own base, and with the path of its file (`Host.openObject_eq_some_iff`).
  (3) A search by name comes to two look-ups, one for libraries and one for the main program (`Host.moduleAmong?_eq`).
      It leads to the object that the name stands for (`Host.module?_eq_some_iff`, `Host.module?_eq_none_iff`), and
      always has an answer (`Host.exists_module?_named`).
  (4) While no two objects have one base, the base of an object leads to it (`Host.moduleAt?_base`).
  (5) A call searches the module that its caller selects (`Calls.findPatternInModule_eq_some_iff`), and with a base
      that was handed out this is the module it was handed out for (`Host.name_and_base_lead_to_one_object`). A
      program is not found by its file name where the path before that is no text
      (`a_path_that_is_no_text_hides_the_file_name`).
-/

import SignatureSearch.Calls
import SignatureSearch.Proofs.Path.FileName

namespace SignatureSearch

/-! ## (1) What a path goes by -/

def Path.GoesBy (path name : String) : Prop := path = name ∨ EndsIn path name

theorem nameFits_iff {path name : String} : nameFits path name = true ↔ Path.GoesBy path name := by
  rw [nameFits, Bool.or_eq_true, beq_iff_eq, beq_iff_eq, Path.fileName?_eq_some_iff, Path.GoesBy]

/-! ## (2) Objects held open -/

/-- The module is the object, with the object's base and the path of its file. -/
structure Module.Holds (m : Module) (h : Host) (o : LoadedObject) : Prop where
  object : m.object = o.name
  bias : m.bias = o.bias
  base : m.base = o.base
  path : if o.name = "" then h.executable = some m.path else m.path = .ofText o.name

namespace Host

variable {h : Host} {o x : LoadedObject} {m : Module} {name text : String} {path : SystemPath}

theorem pathOf_eq_ok_iff :
    h.pathOf o = .ok path ↔ if o.name = "" then h.executable = some path else path = .ofText o.name := by
  rw [pathOf]
  by_cases unnamed : o.name = ""
  · rw [if_pos (String.isEmpty_iff.mpr unnamed), if_pos unnamed]
    cases h.executable with
    | none => exact ⟨nofun, nofun⟩
    | some path' => rw [Except.ok.injEq, Option.some.injEq]
  · rw [if_neg (fun e => unnamed (String.isEmpty_iff.mp e)), if_neg unnamed, Except.ok.injEq, eq_comm]

theorem openObject_of_path (located : h.pathOf o = .ok path) :
    h.openObject o = .ok (if h.opens o then some ⟨o.bias, o.base, path, o.name⟩ else none) := by
  rw [openObject, located]
  rfl

theorem openObject_eq_some_iff : h.openObject o = .ok (some m) ↔ h.opens o = true ∧ m.Holds h o := by
  constructor
  · intro opened
    cases located : h.pathOf o with
    | error cause =>
      rw [openObject, located] at opened
      cases opened
    | ok path =>
      rw [openObject_of_path located, Except.ok.injEq] at opened
      by_cases opens : h.opens o = true
      · rw [if_pos opens, Option.some.injEq] at opened
        obtain rfl := opened
        exact ⟨opens, rfl, rfl, rfl, pathOf_eq_ok_iff.mp located⟩
      · rw [if_neg opens] at opened
        cases opened
  · intro held
    obtain ⟨opens, hobject, hbias, hbase, hpath⟩ := held
    rw [openObject_of_path (pathOf_eq_ok_iff.mpr hpath), if_pos opens, ← hobject, ← hbias, ← hbase]

/-! ## (3) What a name stands for -/

def First (h : Host) (p : LoadedObject → Prop) (o : LoadedObject) : Prop :=
  p o ∧ ∃ before after, h.objects = before ++ o :: after ∧ ∀ x ∈ before, ¬p x

/-- The object is a library that goes by this name and can be held open. -/
structure IsLibrary (h : Host) (name : String) (o : LoadedObject) : Prop where
  named : o.name ≠ ""
  goesBy : Path.GoesBy o.name name
  opens : h.opens o = true

/-- The object is the main program, the path of its executable is text and goes by this name, and it can be held
    open. -/
structure IsMain (h : Host) (name : String) (o : LoadedObject) : Prop where
  first : h.First (·.name = "") o
  goesBy : ∃ path text, h.executable = some path ∧ path.text? = some text ∧ Path.GoesBy text name
  opens : h.opens o = true

/-- A name stands for the first library of this name that can be held open. Only if there is none, it may stand for
    the main program. -/
inductive StandsFor (h : Host) (name : String) (o : LoadedObject) : Prop
  | library : h.First (h.IsLibrary name) o → StandsFor h name o
  | main : (∀ x ∈ h.objects, ¬h.IsLibrary name x) → h.IsMain name o → StandsFor h name o

theorem First.mem {p : LoadedObject → Prop} (first : h.First p o) : o ∈ h.objects := by
  obtain ⟨-, before, after, hobjects, -⟩ := first
  rw [hobjects]
  exact List.mem_append_right _ (List.mem_cons_self ..)

theorem find?_eq_some_iff {q : LoadedObject → Bool} {p : LoadedObject → Prop} (hq : ∀ x, q x = true ↔ p x) :
    h.objects.find? q = some o ↔ h.First p o := by
  simp only [First, List.find?_eq_some_iff_append, Bool.not_eq_true', ← Bool.not_eq_true, hq]

theorem find?_unnamed_eq_some_iff : h.objects.find? (·.name.isEmpty) = some o ↔ h.First (·.name = "") o :=
  find?_eq_some_iff fun _ => String.isEmpty_iff

def endsAt (h : Host) (name : String) (o : LoadedObject) : Bool :=
  !o.name.isEmpty && nameFits o.name name && h.opens o

theorem endsAt_iff : h.endsAt name o = true ↔ h.IsLibrary name o := by
  rw [endsAt, Bool.and_eq_true, Bool.and_eq_true, Bool.not_eq_true', ← Bool.not_eq_true, String.isEmpty_iff,
    nameFits_iff]
  constructor
  · intro ends
    exact ⟨ends.1.1, ends.1.2, ends.2⟩
  · intro library
    exact ⟨⟨library.named, library.goesBy⟩, library.opens⟩

/-- The search goes once through the list, but comes to two look-ups in it. -/
theorem moduleAmong?_eq (main : Option LoadedObject) (objects : List LoadedObject) :
    h.moduleAmong? name main objects =
      match objects.find? (h.endsAt name) with
      | some o => h.openObject o
      | none => h.mainNamed? name (main <|> objects.find? (·.name.isEmpty)) := by
  induction objects generalizing main with
  | nil =>
    rw [moduleAmong?, List.find?_nil, List.find?_nil]
    cases main <;> rfl
  | cons o rest ih =>
    rw [moduleAmong?, List.find?_cons, List.find?_cons, endsAt]
    by_cases unnamed : o.name.isEmpty = true
    · rw [if_pos unnamed, ih, unnamed]
      cases main <;> rfl
    · have hname : o.name ≠ "" := fun e => unnamed (String.isEmpty_iff.mpr e)
      have located : h.pathOf o = .ok (.ofText o.name) := pathOf_eq_ok_iff.mpr (by rw [if_neg hname])
      have opened := openObject_of_path located
      rw [if_neg unnamed, Bool.eq_false_iff.mpr unnamed]
      by_cases fits : nameFits o.name name = true
      · rw [if_pos fits, fits, opened]
        by_cases opens : h.opens o = true
        · rw [if_pos opens] at opened ⊢
          rw [opens]
          exact opened.symm
        · rw [if_neg opens, Bool.eq_false_iff.mpr opens]
          exact ih main
      · rw [if_neg fits, Bool.eq_false_iff.mpr fits]
        exact ih main

theorem mainNamed?_of_known (known : h.executable = some path) (decoded : path.text? = some text) :
    h.mainNamed? name (some o) = if nameFits text name then h.openObject o else .ok none := by
  simp only [mainNamed?, known, Option.bind_some, decoded]

theorem mainNamed?_of_unknown (unknown : h.executable.bind (·.text?) = none) (main : Option LoadedObject) :
    h.mainNamed? name main = .ok none := by
  simp only [mainNamed?, unknown]

theorem module?_named (h : Host) (name : String) :
    h.module? (some name) =
      match h.objects.find? (h.endsAt name) with
      | some o => h.openObject o
      | none => h.mainNamed? name (h.objects.find? (·.name.isEmpty)) := moduleAmong?_eq none h.objects

namespace StandsFor

theorem mem (stands : h.StandsFor name o) : o ∈ h.objects := by
  cases stands with
  | library first => exact first.mem
  | main _ main => exact main.first.mem

theorem opens (stands : h.StandsFor name o) : h.opens o = true := by
  cases stands with
  | library first => exact first.1.opens
  | main _ main => exact main.opens

theorem module?_eq (stands : h.StandsFor name o) : h.module? (some name) = h.openObject o := by
  cases stands with
  | library first => rw [module?_named, (find?_eq_some_iff fun _ => endsAt_iff).mpr first]
  | main others main =>
    obtain ⟨path, text, known, decoded, goesBy⟩ := main.goesBy
    have hnone : h.objects.find? (h.endsAt name) = none :=
      List.find?_eq_none.mpr fun x hx ends => others x hx (endsAt_iff.mp ends)
    rw [module?_named, hnone, find?_unnamed_eq_some_iff.mpr main.first]
    dsimp only
    rw [mainNamed?_of_known known decoded, if_pos (nameFits_iff.mpr goesBy)]

theorem exists_holds (stands : h.StandsFor name o) : ∃ m : Module, m.Holds h o := by
  cases stands with
  | library first => exact ⟨⟨o.bias, o.base, .ofText o.name, o.name⟩, rfl, rfl, rfl, by rw [if_neg first.1.named]⟩
  | main _ main =>
    obtain ⟨path, _, known, -⟩ := main.goesBy
    exact ⟨⟨o.bias, o.base, path, o.name⟩, rfl, rfl, rfl, by rw [if_pos main.first.1, known]⟩

end StandsFor

theorem module?_of_unknown (unknown : ∀ o, ¬h.StandsFor name o) : h.module? (some name) = .ok none := by
  rw [module?_named]
  cases library : h.objects.find? (h.endsAt name) with
  | some o => exact absurd (.library ((find?_eq_some_iff fun _ => endsAt_iff).mp library)) (unknown o)
  | none =>
    have others : ∀ x ∈ h.objects, ¬h.IsLibrary name x := fun x hx isLibrary =>
      List.find?_eq_none.mp library x hx (endsAt_iff.mpr isLibrary)
    cases main : h.objects.find? (·.name.isEmpty) with
    | none => rfl
    | some o =>
      have first := find?_unnamed_eq_some_iff.mp main
      dsimp only
      cases named : h.executable.bind (·.text?) with
      | none => exact mainNamed?_of_unknown named _
      | some text =>
        obtain ⟨path, known, decoded⟩ := Option.bind_eq_some_iff.mp named
        rw [mainNamed?_of_known known decoded]
        by_cases fits : nameFits text name = true
        · have located : h.pathOf o = .ok path := by rw [pathOf_eq_ok_iff, if_pos first.1, known]
          have closed : ¬h.opens o = true := fun opens =>
            unknown o (.main others ⟨first, ⟨path, text, known, decoded, nameFits_iff.mp fits⟩, opens⟩)
          rw [if_pos fits, openObject_of_path located, if_neg closed]
        · rw [if_neg fits]

theorem module?_eq_some_iff : h.module? (some name) = .ok (some m) ↔ ∃ o, h.StandsFor name o ∧ m.Holds h o := by
  constructor
  · intro found
    by_cases known : ∃ o, h.StandsFor name o
    · obtain ⟨o, stands⟩ := known
      rw [stands.module?_eq] at found
      exact ⟨o, stands, (openObject_eq_some_iff.mp found).2⟩
    · rw [module?_of_unknown (not_exists.mp known)] at found
      cases found
  · intro known
    obtain ⟨o, stands, holds⟩ := known
    rw [stands.module?_eq]
    exact openObject_eq_some_iff.mpr ⟨stands.opens, holds⟩

theorem module?_eq_none_iff : h.module? (some name) = .ok none ↔ ∀ o, ¬h.StandsFor name o := by
  constructor
  · intro found o stands
    obtain ⟨m, holds⟩ := stands.exists_holds
    rw [module?_eq_some_iff.mpr ⟨o, stands, holds⟩] at found
    cases found
  · exact module?_of_unknown

theorem exists_module?_named (h : Host) (name : String) : ∃ found, h.module? (some name) = .ok found := by
  by_cases known : ∃ o, h.StandsFor name o
  · obtain ⟨o, stands⟩ := known
    obtain ⟨m, holds⟩ := stands.exists_holds
    exact ⟨some m, module?_eq_some_iff.mpr ⟨o, stands, holds⟩⟩
  · exact ⟨none, module?_of_unknown (not_exists.mp known)⟩

/-! ## (4) Bases -/

theorem processModule_eq_ok_iff :
    h.processModule = .ok m ↔ ∃ o, h.First (·.name = "") o ∧ h.openObject o = .ok (some m) := by
  simp only [← find?_unnamed_eq_some_iff]
  rw [processModule]
  cases main : h.objects.find? (·.name.isEmpty) with
  | none => exact ⟨nofun, nofun⟩
  | some o =>
    simp only [Option.some.injEq, exists_eq_left']
    cases opened : h.openObject o with
    | error cause => exact ⟨nofun, nofun⟩
    | ok answer =>
      cases answer with
      | none => exact ⟨nofun, nofun⟩
      | some m' => exact ⟨fun found => by cases found; rfl, fun found => by cases found; rfl⟩

theorem module?_unnamed_eq_some_iff : h.module? none = .ok (some m) ↔ h.processModule = .ok m := by
  rw [module?]
  cases h.processModule with
  | error cause => exact ⟨nofun, nofun⟩
  | ok m' => exact ⟨fun found => by cases found; rfl, fun found => by cases found; rfl⟩

theorem exists_of_module? {asked : Option String} (found : h.module? asked = .ok (some m)) :
    ∃ o ∈ h.objects, h.openObject o = .ok (some m) := by
  cases asked with
  | none =>
    obtain ⟨o, first, opened⟩ := processModule_eq_ok_iff.mp (module?_unnamed_eq_some_iff.mp found)
    exact ⟨o, first.mem, opened⟩
  | some name =>
    obtain ⟨o, stands, holds⟩ := module?_eq_some_iff.mp found
    exact ⟨o, stands.mem, openObject_eq_some_iff.mpr ⟨stands.opens, holds⟩⟩

theorem find?_base (distinct : h.objects.Pairwise (·.base ≠ ·.base)) (ho : o ∈ h.objects) :
    h.objects.find? (·.base == o.base) = some o := by
  obtain ⟨before, after, hobjects⟩ := List.append_of_mem ho
  rw [hobjects, List.pairwise_append] at distinct
  rw [List.find?_eq_some_iff_append]
  refine ⟨beq_self_eq_true _, before, after, hobjects, fun x hx => ?_⟩
  rw [Bool.not_eq_true']
  exact beq_eq_false_iff_ne.mpr (distinct.2.2 x hx o (List.mem_cons_self ..))

theorem moduleAt?_base (distinct : h.objects.Pairwise (·.base ≠ ·.base)) (ho : o ∈ h.objects) :
    h.moduleAt? o.base = h.openObject o := by
  rw [moduleAt?, find?_base distinct ho]

theorem eq_of_base (distinct : h.objects.Pairwise (·.base ≠ ·.base)) (ho : o ∈ h.objects) (hx : x ∈ h.objects)
    (same : x.base = o.base) : x = o := by
  have hfound := find?_base distinct hx
  rw [same, find?_base distinct ho] at hfound
  exact (Option.some.inj hfound).symm

theorem moduleAt?_of_module? (distinct : h.objects.Pairwise (·.base ≠ ·.base)) {asked : Option String}
    (found : h.module? asked = .ok (some m)) :
    ∃ o ∈ h.objects, m.Holds h o ∧ h.moduleAt? m.base = .ok (some m) := by
  obtain ⟨o, ho, opened⟩ := exists_of_module? found
  obtain ⟨-, holds⟩ := openObject_eq_some_iff.mp opened
  refine ⟨o, ho, holds, ?_⟩
  rw [holds.base, moduleAt?_base distinct ho, opened]

end Host

/-! ## (5) The bases that callers keep -/

namespace Calls

variable {t : HandleTable} {host : Host} {fs : FileSystem} {handle base x : UInt64} {m : Module}
  {sectionName : Option (List UInt8)} {align : UInt32}

theorem join_toOption_eq_some_iff {ε α : Type} {e : Except ε (Option α)} {a : α} :
    e.toOption.join = some a ↔ e = .ok (some a) := by
  cases e with
  | error cause => exact ⟨nofun, nofun⟩
  | ok found =>
    rw [Except.ok.injEq]
    exact Iff.rfl

/-- The module that a call selects by a base, where null selects the main program. -/
def Selects (host : Host) (base : UInt64) (m : Module) : Prop :=
  if base = 0 then host.processModule = .ok m else host.moduleAt? base = .ok (some m)

theorem selects_iff :
    (if base = 0 then host.module? none else host.moduleAt? base) = .ok (some m) ↔ Selects host base m := by
  rw [Selects]
  by_cases null : base = 0
  · rw [if_pos null, if_pos null, Host.module?_unnamed_eq_some_iff]
  · rw [if_neg null, if_neg null]

/-- The call is in order, and `x` is where the first match in the section of the module is. -/
def FindsIn (t : HandleTable) (host : Host) (fs : FileSystem) (handle : UInt64) (m : Module)
    (sectionName : Option (List UInt8)) (align : UInt32) (x : UInt64) : Prop :=
  ∃ s a bytes name, signature? t handle = some s ∧ alignment? align = some a ∧ sectionName = some bytes ∧
    Text.decode? bytes = some name ∧ m.findInSection fs host.memory host.hasAvx2 s name a = .ok (some x)

theorem findPatternInModule_eq_some_iff : findPatternInModule t host fs handle base sectionName align = some x ↔
    ∃ m, Selects host base m ∧ FindsIn t host fs handle m sectionName align x := by
  simp only [findPatternInModule, Option.bind_eq_bind, Option.bind_eq_some_iff, join_toOption_eq_some_iff, selects_iff]
  constructor
  · intro found
    obtain ⟨s, hs, a, ha, bytes, hbytes, name, hname, m, selects, hx⟩ := found
    exact ⟨m, selects, s, a, bytes, name, hs, ha, hbytes, hname, hx⟩
  · intro found
    obtain ⟨m, selects, s, a, bytes, name, hs, ha, hbytes, hname, hx⟩ := found
    exact ⟨s, hs, a, ha, bytes, hbytes, name, hname, m, selects, hx⟩

/-- What a caller means by the bytes of a name, or by null. -/
inductive Means : Option (List UInt8) → Option String → Prop
  | main : Means none none
  | name {bytes : List UInt8} {text : String} : Text.decode? bytes = some text → Means (some bytes) (some text)

theorem baseOfModule_eq_some_iff {name : Option (List UInt8)} : baseOfModule host name = some base ↔
    ∃ asked m, Means name asked ∧ host.module? asked = .ok (some m) ∧ m.base = base := by
  have handed : ∀ asked, ((host.module? asked).toOption.join.bind fun m => some m.base) = some base ↔
      ∃ m, host.module? asked = .ok (some m) ∧ m.base = base := by
    intro asked
    simp only [Option.bind_eq_some_iff, join_toOption_eq_some_iff, Option.some.injEq]
  cases name with
  | none =>
    refine (handed none).trans ⟨?_, ?_⟩
    · intro found
      obtain ⟨m, hm, hbase⟩ := found
      exact ⟨none, m, .main, hm, hbase⟩
    · intro found
      obtain ⟨_, m, ⟨⟩, hm, hbase⟩ := found
      exact ⟨m, hm, hbase⟩
  | some bytes =>
    show ((some <$> Text.decode? bytes).bind fun asked =>
      (host.module? asked).toOption.join.bind fun m => some m.base) = some base ↔ _
    simp only [Option.bind_eq_some_iff, handed]
    constructor
    · intro found
      obtain ⟨_, hasked, m, hm, hbase⟩ := found
      obtain ⟨text, decoded, rfl⟩ := Option.map_eq_some_iff.mp hasked
      exact ⟨some text, m, .name decoded, hm, hbase⟩
    · intro found
      obtain ⟨asked, m, means, hm, hbase⟩ := found
      cases means with
      | name decoded => exact ⟨_, Option.map_eq_some_iff.mpr ⟨_, decoded, rfl⟩, m, hm, hbase⟩

end Calls

/-- A name stands for the first library that goes by it and can be held open; libraries that cannot be are passed over.
    Only if there is none, it stands for the main program, and only if the path of the executable is text and goes by
    it. Every search by name has an answer, and this is it.

    While no two objects have one base, a module that was found by its name or as the main program is found again by
    its base, and it is the only object with this base. So a base that was handed out and is not zero selects, in a
    later call, the very module that the name meant, and what that call finds is what there is in it. -/
theorem Host.name_and_base_lead_to_one_object (h : Host) :
    (∀ name, (∃ found, h.module? (some name) = .ok found) ∧
      (∀ m, h.module? (some name) = .ok (some m) ↔ ∃ o, h.StandsFor name o ∧ m.Holds h o) ∧
      (h.module? (some name) = .ok none ↔ ∀ o, ¬h.StandsFor name o)) ∧
    (h.objects.Pairwise (·.base ≠ ·.base) →
      (∀ m, (∃ asked, h.module? asked = .ok (some m)) ∨ h.processModule = .ok m →
        h.moduleAt? m.base = .ok (some m) ∧ ∃ o ∈ h.objects, m.Holds h o ∧ ∀ x ∈ h.objects, x.base = m.base → x = o) ∧
      ∀ name base, Calls.baseOfModule h name = some base → base ≠ 0 →
        ∃ asked m, Calls.Means name asked ∧ h.module? asked = .ok (some m) ∧ m.base = base ∧
          ∀ t fs handle sectionName align x,
            Calls.findPatternInModule t h fs handle base sectionName align = some x ↔
              Calls.FindsIn t h fs handle m sectionName align x) := by
  refine ⟨fun name => ⟨h.exists_module?_named name, fun m => module?_eq_some_iff, module?_eq_none_iff⟩,
    fun distinct => ⟨?_, ?_⟩⟩
  · intro m found
    obtain ⟨asked, found⟩ : ∃ asked, h.module? asked = .ok (some m) :=
      found.elim id fun main => ⟨none, module?_unnamed_eq_some_iff.mpr main⟩
    obtain ⟨o, ho, holds, again⟩ := moduleAt?_of_module? distinct found
    rw [holds.base]
    exact ⟨holds.base ▸ again, o, ho, holds, fun x hx => eq_of_base distinct ho hx⟩
  · intro name base handed nonzero
    obtain ⟨asked, m, means, found, rfl⟩ := Calls.baseOfModule_eq_some_iff.mp handed
    refine ⟨asked, m, means, found, rfl, fun t fs handle sectionName align x => ?_⟩
    obtain ⟨o, ho, holds, again⟩ := moduleAt?_of_module? distinct found
    have selects : ∀ m', Calls.Selects h m.base m' ↔ m' = m := by
      intro m'
      rw [Calls.Selects, if_neg nonzero, again, Except.ok.injEq, Option.some.injEq, eq_comm]
    rw [Calls.findPatternInModule_eq_some_iff]
    simp only [selects, exists_eq_left]

/-- A page that is no file, and three libraries of one name. The page and the first library cannot be held open. -/
def crowdedHost : Host where
  objects :=
    [{ name := "", bias := 0, base := 0x400000 }, { name := "linux-vdso.so.1", bias := 0x70000, base := 0x70000 },
      { name := "/old/libm.so", bias := 0x10000, base := 0x10000 },
      { name := "/lib/libm.so", bias := 0xFFFFFFFFFFFFF000, base := 0x20000 },
      { name := "/usr/lib/libm.so/.", bias := 0x30000, base := 0x30000 }]
  executable := some (.ofText "/bin/game")
  opens := fun o => o.name != "linux-vdso.so.1" && o.name != "/old/libm.so"

def secondLibrary : Module where
  bias := 0xFFFFFFFFFFFFF000
  base := 0x20000
  path := .ofText "/lib/libm.so"
  object := "/lib/libm.so"

/-- The name stands for the second library, whose base is handed out and selects it again. -/
theorem a_library_that_cannot_be_held_is_passed_over :
    crowdedHost.objects.Pairwise (·.base ≠ ·.base) ∧
    crowdedHost.module? (some "libm.so") = .ok (some secondLibrary) ∧
    crowdedHost.moduleAt? secondLibrary.base = .ok (some secondLibrary) ∧
    Calls.baseOfModule crowdedHost (some [0x6C, 0x69, 0x62, 0x6D, 0x2E, 0x73, 0x6F]) = some secondLibrary.base ∧
    secondLibrary.base ≠ 0 ∧
    ∀ t fs handle sectionName align x,
      Calls.findPatternInModule t crowdedHost fs handle secondLibrary.base sectionName align = some x ↔
        Calls.FindsIn t crowdedHost fs handle secondLibrary sectionName align x := by
  have distinct : crowdedHost.objects.Pairwise (·.base ≠ ·.base) := by decide
  obtain ⟨named, bases⟩ := Host.name_and_base_lead_to_one_object crowdedHost
  obtain ⟨again, calls⟩ := bases distinct
  have stands : crowdedHost.StandsFor "libm.so" ⟨"/lib/libm.so", 0xFFFFFFFFFFFFF000, 0x20000, 1⟩ :=
    .library ((Host.find?_eq_some_iff fun _ => Host.endsAt_iff).mp (by decide))
  have found : crowdedHost.module? (some "libm.so") = .ok (some secondLibrary) :=
    ((named "libm.so").2.1 secondLibrary).mpr ⟨_, stands, rfl, rfl, rfl, rfl⟩
  have handed : Calls.baseOfModule crowdedHost (some [0x6C, 0x69, 0x62, 0x6D, 0x2E, 0x73, 0x6F]) =
      some secondLibrary.base :=
    Calls.baseOfModule_eq_some_iff.mpr ⟨_, secondLibrary, .name (by decide +kernel), found, rfl⟩
  have nonzero : secondLibrary.base ≠ 0 := by decide
  have second := (again secondLibrary (.inl ⟨_, found⟩)).1
  refine ⟨distinct, found, second, handed, nonzero, ?_⟩
  obtain ⟨asked, m, -, found', hbase, same⟩ := calls _ _ handed nonzero
  have second' := (again m (.inl ⟨asked, found'⟩)).1
  rw [hbase, second] at second'
  obtain rfl := Option.some.inj (Except.ok.inj second')
  exact same

/-- Nothing but a program, whose directory has a name that is no text. -/
def hiddenHost : Host where
  objects := [{ name := "", bias := 0, base := 0x400000 }]
  executable := some ⟨[0x2F, 0x74, 0x6D, 0x70, 0x2F, 0xFF, 0x2F, 0x67, 0x61, 0x6D, 0x65]⟩

def hiddenProgram : Module where
  bias := 0
  base := 0x400000
  path := ⟨[0x2F, 0x74, 0x6D, 0x70, 0x2F, 0xFF, 0x2F, 0x67, 0x61, 0x6D, 0x65]⟩
  object := ""

/-- The program is found as the main program and by its base, and its file name is text. It is not found by it. -/
theorem a_path_that_is_no_text_hides_the_file_name :
    hiddenHost.processModule = .ok hiddenProgram ∧
    hiddenHost.moduleAt? hiddenProgram.base = .ok (some hiddenProgram) ∧
    hiddenProgram.path.bytes = (SystemPath.ofText "/tmp/").bytes ++ 0xFF :: (SystemPath.ofText "/game").bytes ∧
    hiddenProgram.path.text? = none ∧ hiddenProgram.name = "game" ∧
    hiddenHost.module? (some "game") = .ok none := by
  refine ⟨rfl, rfl, by decide +kernel, by decide +kernel, by decide +kernel, ?_⟩
  have textless : hiddenHost.executable.bind (·.text?) = none := by decide +kernel
  show hiddenHost.mainNamed? "game" hiddenHost.objects.head? = .ok none
  exact Host.mainNamed?_of_unknown textless _

end SignatureSearch
