/-
  SignatureSearch.Proofs.Handle.Table — what a table keeps under a handle, and which numbers it
  hands out.

  Proved:
  (1) Filling or dropping an entry changes what is found under its own handle and under no other
      (`HandleTable.lookup_insert`, `HandleTable.lookup_release`); taking a number changes nothing.
  (2) A table that has handed out the numbers up to `n` (`HandleTable.HandedOut`) hands out the next
      one, under which there is nothing yet (`HandedOut.allocate_raw`, `HandedOut.lookup_allocated`),
      and every operation leaves such a table, as long as the numbers last.
-/

import Mathlib.Algebra.Group.Nat.Defs
import SignatureSearch.Handle.Table

namespace SignatureSearch

theorem Handle.raw_inj {a b : Handle} : a.raw = b.raw ↔ a = b := by
  cases a
  cases b
  simp only [mk.injEq]

namespace HandleTable

variable {t : HandleTable} {h k : Handle} {s : Signature} {n : Nat}

/-! ## (1) Entries -/

@[simp] theorem lookup_empty : empty.lookup h = none := Std.HashMap.getElem?_empty

@[simp] theorem lookup_allocate : t.allocate.2.lookup h = t.lookup h := rfl

theorem lookup_insert : (t.insert k s).lookup h = if k = h then some s else t.lookup h := by
  simp only [lookup, insert, Std.HashMap.getElem?_insert, beq_iff_eq]

theorem lookup_release : (t.release k).2.lookup h = if k = h then none else t.lookup h := by
  simp only [lookup, release, Std.HashMap.getElem?_erase, beq_iff_eq]

theorem release_fst : (t.release h).1 = (t.lookup h).isSome := by
  simp only [lookup, release, Std.HashMap.isSome_getElem?_eq_contains]

/-! ## (2) Numbers -/

/-- The numbers up to `n` have been handed out, and only they have entries. -/
structure HandedOut (t : HandleTable) (n : Nat) : Prop where
  counter : t.counter = UInt64.ofNat (n + 1)
  entries : ∀ h s, t.lookup h = some s → h.raw.toNat ≤ n

namespace HandedOut

theorem empty : HandleTable.empty.HandedOut 0 := ⟨rfl, fun h s hs => by rw [lookup_empty] at hs; cases hs⟩

/-- The next number, as long as it is one. -/
theorem allocate_raw (ht : t.HandedOut n) (hn : n + 1 < 2 ^ 64) : t.allocate.1.raw.toNat = n + 1 := by
  have hraw : t.counter.toNat = n + 1 := by
    rw [ht.counter, UInt64.toNat_ofNat', Nat.mod_eq_of_lt hn]
  have hne : t.counter ≠ 0 := by
    intro e
    rw [e] at hraw
    exact absurd hraw (by simp)
  simp only [allocate, Handle.ofCounter, Handle.ofRaw?, dif_neg hne, Option.getD_some, hraw]

theorem lookup_of_lt (ht : t.HandedOut n) (hn : n < h.raw.toNat) : t.lookup h = none := by
  cases hs : t.lookup h with
  | none => rfl
  | some s => exact absurd (ht.entries h s hs) (by omega)

theorem lookup_allocated (ht : t.HandedOut n) (hn : n + 1 < 2 ^ 64) : t.lookup t.allocate.1 = none :=
  ht.lookup_of_lt (by rw [ht.allocate_raw hn]; omega)

theorem allocate (ht : t.HandedOut n) : t.allocate.2.HandedOut (n + 1) where
  counter := by
    show t.counter + 1 = _
    rw [ht.counter, ← UInt64.toNat_inj, UInt64.toNat_add]
    simp only [UInt64.toNat_ofNat', UInt64.reduceToNat]
    omega
  entries h s hs := Nat.le_succ_of_le (ht.entries h s hs)

theorem insert (ht : t.HandedOut n) (hk : k.raw.toNat ≤ n) : (t.insert k s).HandedOut n where
  counter := ht.counter
  entries h s hs := by
    rw [lookup_insert] at hs
    split at hs
    · rename_i e
      exact e ▸ hk
    · exact ht.entries h s hs

theorem release (ht : t.HandedOut n) : (t.release k).2.HandedOut n where
  counter := ht.counter
  entries h s hs := by
    rw [lookup_release] at hs
    split at hs
    · cases hs
    · exact ht.entries h s hs

end HandedOut

end HandleTable

end SignatureSearch
