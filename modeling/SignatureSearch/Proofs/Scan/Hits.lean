/-
  SignatureSearch.Proofs.Scan.Hits — what a search is to find.

  A hit is an offset at which the whole signature fits into the bytes, at an address that the
  alignment allows (`IsHit`). A search from a start on has to answer the least hit there, or that
  there is none (`LeastFrom`), and has to end without a fault (`Answers`). An anchor marks a
  signature when the elements it names are the known bytes it names (`Anchor.Marks`); for a search
  by its first byte alone it is enough that this one stands there (`Anchor.Points`).

  Proved:
  (1) A least position is unique (`LeastFrom.unique`), and a search may skip whatever does not
      pass (`LeastFrom.skip`).
  (2) The test at an offset says whether the signature fits there (`matchesAt_iff`).
  (3) Wherever a signature fits, the anchor's bytes stand in their places
      (`Anchor.Points.get?_byte`, `Anchor.Marks.get?_next`), and the anchor that a scan selects
      marks its signature (`Anchor.select_marks`).
-/

import Mathlib.Algebra.Group.Nat.Defs
import SignatureSearch.Scan.Plan

namespace SignatureSearch

/-! ## (1) Least positions -/

/-- `found` is the least position from `start` on that passes, or there is none. -/
def LeastFrom (P : Nat → Prop) (start : Nat) : Option Nat → Prop
  | some i => start ≤ i ∧ P i ∧ ∀ j, start ≤ j → j < i → ¬P j
  | none => ∀ j, start ≤ j → ¬P j

namespace LeastFrom

variable {P Q : Nat → Prop} {start n : Nat} {a b : Option Nat}

theorem here (h : P start) : LeastFrom P start (some start) :=
  ⟨Nat.le_refl _, h, fun _ h1 h2 => absurd h2 (by omega)⟩

theorem skip (hle : start ≤ n) (hno : ∀ j, start ≤ j → j < n → ¬P j) (h : LeastFrom P n a) :
    LeastFrom P start a := by
  cases a with
  | some i =>
    obtain ⟨h1, h2, h3⟩ := h
    refine ⟨by omega, h2, fun j hj hji => ?_⟩
    by_cases e : j < n
    · exact hno j hj e
    · exact h3 j (by omega) hji
  | none =>
    intro j hj
    by_cases e : j < n
    · exact hno j hj e
    · exact h j (by omega)

theorem congr (h : ∀ j, start ≤ j → (P j ↔ Q j)) (hP : LeastFrom P start a) : LeastFrom Q start a := by
  cases a with
  | some i =>
    obtain ⟨h1, h2, h3⟩ := hP
    exact ⟨h1, (h i h1).mp h2, fun j hj hji hq => h3 j hj hji ((h j hj).mpr hq)⟩
  | none => exact fun j hj hq => hP j hj ((h j hj).mpr hq)

theorem unique (ha : LeastFrom P start a) (hb : LeastFrom P start b) : a = b := by
  cases a with
  | none =>
    cases b with
    | none => rfl
    | some j => exact absurd hb.2.1 (ha j hb.1)
  | some i =>
    cases b with
    | none => exact absurd ha.2.1 (hb i ha.1)
    | some j =>
      obtain ⟨ha1, ha2, ha3⟩ := ha
      obtain ⟨hb1, hb2, hb3⟩ := hb
      rcases Nat.lt_trichotomy i j with h | h | h
      · exact absurd ha2 (hb3 i ha1 h)
      · rw [h]
      · exact absurd hb2 (ha3 j hb1 h)

end LeastFrom

/-- The search ends without a fault, with the least position from `start` on that passes. -/
def Answers (P : Nat → Prop) (start : Nat) (search : Guarded (Option Nat)) : Prop :=
  ∃ found, search = .ok found ∧ LeastFrom P start found

namespace Answers

variable {P Q : Nat → Prop} {start n : Nat} {s t : Guarded (Option Nat)}

theorem here (h : P start) : Answers P start (.ok (some start)) := ⟨_, rfl, .here h⟩

theorem nothing (h : ∀ j, start ≤ j → ¬P j) : Answers P start (.ok none) := ⟨_, rfl, h⟩

theorem skip (hle : start ≤ n) (hno : ∀ j, start ≤ j → j < n → ¬P j) (h : Answers P n s) :
    Answers P start s := by
  obtain ⟨found, e, h⟩ := h
  exact ⟨found, e, h.skip hle hno⟩

theorem congr (h : ∀ j, start ≤ j → (P j ↔ Q j)) (hs : Answers P start s) : Answers Q start s := by
  obtain ⟨found, e, hs⟩ := hs
  exact ⟨found, e, hs.congr h⟩

theorem agree (hs : Answers P start s) (ht : Answers P start t) : ∃ found, s = .ok found ∧ t = .ok found := by
  obtain ⟨a, ea, ha⟩ := hs
  obtain ⟨b, eb, hb⟩ := ht
  exact ⟨a, ea, by rw [eb, ha.unique hb]⟩

end Answers

/-! ## Guarded steps that pass -/

namespace Guarded

variable {α β : Type}

@[simp] theorem ok_bind (a : α) (f : α → Guarded β) : (Except.ok a : Guarded α) >>= f = f a := rfl

@[simp] theorem pure_eq (a : α) : (pure a : Guarded α) = .ok a := rfl

theorem add_eq {a b : Nat} (h : a + b < 2 ^ 64) : add a b = .ok (a + b) := if_pos h

theorem sub_eq {a b : Nat} (h : b ≤ a) : sub a b = .ok (a - b) := if_pos h

theorem within_eq {bytes : Bytes} {start stop : Nat} (h1 : start ≤ stop) (h2 : stop ≤ bytes.size) :
    within bytes start stop = .ok () := if_pos ⟨h1, h2⟩

theorem byteAt_eq {bytes : Bytes} {i : Nat} {b : UInt8} (h : bytes.get? i = some b) : byteAt bytes i = .ok b := by
  simp only [byteAt, h]

theorem verify_eq (s : Signature) {bytes : Bytes} {start : Nat} (h : start ≤ bytes.size) :
    verify s bytes start = .ok (s.matchesAt bytes start) := by
  simp only [verify, within_eq h (Nat.le_refl _), ok_bind, pure_eq]

end Guarded

/-! ## (2) Hits -/

def Signature.FitsAt (s : Signature) (bytes : Bytes) (start : Nat) : Prop :=
  ∀ j e, s.elements[j]? = some e → ∃ b, bytes.get? (start + j) = some b ∧ b &&& e.mask = e.value

theorem Signature.length_pos (s : Signature) : 0 < s.length := List.length_pos_iff.mpr s.nonempty

theorem Signature.FitsAt.inside {s : Signature} {bytes : Bytes} {start : Nat} (h : s.FitsAt bytes start) :
    start + s.length ≤ bytes.size := by
  have hpos := s.length_pos
  obtain ⟨b, hb, -⟩ := h (s.length - 1) _ (List.getElem?_eq_getElem (Nat.sub_lt hpos Nat.one_pos))
  have := Bytes.lt_size_of_get? hb
  omega

theorem Element.matchesByte_iff {e : Element} {b : UInt8} : e.matchesByte b = true ↔ b &&& e.mask = e.value := by
  simp only [matchesByte, beq_iff_eq]

theorem Signature.elementsMatchAt_iff (bytes : Bytes) (elements : List Element) :
    ∀ start, elementsMatchAt bytes start elements = true ↔
      ∀ j e, elements[j]? = some e → ∃ b, bytes.get? (start + j) = some b ∧ b &&& e.mask = e.value := by
  induction elements with
  | nil => intro start; simp [elementsMatchAt]
  | cons e rest ih =>
    intro start
    unfold elementsMatchAt
    constructor
    · intro h
      split at h
      · rename_i b hb
        rw [Bool.and_eq_true, Element.matchesByte_iff, ih] at h
        intro j e' he
        cases j with
        | zero =>
          obtain rfl : e = e' := by simpa using he
          exact ⟨b, hb, h.1⟩
        | succ j => rw [← Nat.succ_add_eq_add_succ]; exact h.2 j e' he
      · cases h
    · intro h
      obtain ⟨b, hb, hm⟩ := h 0 e rfl
      rw [Nat.add_zero] at hb
      simp only [hb, Bool.and_eq_true, Element.matchesByte_iff, ih]
      refine ⟨hm, fun j e' he => ?_⟩
      rw [Nat.succ_add_eq_add_succ]
      exact h (j + 1) e' he

theorem Signature.matchesAt_iff {s : Signature} {bytes : Bytes} {start : Nat} :
    s.matchesAt bytes start = true ↔ s.FitsAt bytes start :=
  elementsMatchAt_iff bytes s.elements start

instance (s : Signature) (bytes : Bytes) (start : Nat) : Decidable (s.FitsAt bytes start) :=
  decidable_of_iff _ Signature.matchesAt_iff

/-- The address of the byte at `i`, behind `base`, is a multiple of the stride. -/
def Alignment.Allows (a : Alignment) (base : UInt64) (i : Nat) : Prop :=
  (base.toNat + i) % 2 ^ 64 % a.stride = 0

instance (a : Alignment) (base : UInt64) (i : Nat) : Decidable (a.Allows base i) :=
  inferInstanceAs (Decidable (_ = 0))

namespace Alignment

variable {a : Alignment} {base : UInt64} {i j : Nat}

theorem allows_iff : a.Allows base i ↔ (base.toNat + i) % a.stride = 0 := by
  unfold Allows
  cases a <;> simp only [stride] <;> omega

theorem x1_allows : Alignment.x1.Allows base i := by
  rw [allows_iff]
  exact Nat.mod_one _

theorem Allows.not_between (h : a.Allows base i) (h1 : i < j) (h2 : j < i + a.stride) : ¬a.Allows base j := by
  rw [allows_iff] at h ⊢
  cases a <;> simp only [stride] at * <;> omega

theorem Allows.add_stride (h : a.Allows base i) : a.Allows base (i + a.stride) := by
  rw [allows_iff] at h ⊢
  rw [← Nat.add_assoc, Nat.add_mod_right]
  exact h

end Alignment

/-- The signature fits at `i`, and the alignment allows its address. -/
structure IsHit (s : Signature) (a : Alignment) (bytes : Bytes) (base : UInt64) (i : Nat) : Prop where
  inside : i + s.length ≤ bytes.size
  allowed : a.Allows base i
  fits : s.FitsAt bytes i

instance (s : Signature) (a : Alignment) (bytes : Bytes) (base : UInt64) (i : Nat) :
    Decidable (IsHit s a bytes base i) :=
  decidable_of_iff (i + s.length ≤ bytes.size ∧ a.Allows base i ∧ s.FitsAt bytes i)
    ⟨fun h => ⟨h.1, h.2.1, h.2.2⟩, fun h => ⟨h.inside, h.allowed, h.fits⟩⟩

def Signature.FitsBy (s : Signature) (bytes : Bytes) (last i : Nat) : Prop := i ≤ last ∧ s.FitsAt bytes i

theorem Signature.fitsBy_iff_isHit {s : Signature} {a : Alignment} {bytes : Bytes} {base : UInt64} {last i : Nat}
    (hx : a = .x1) (hlast : last + s.length = bytes.size) : s.FitsBy bytes last i ↔ IsHit s a bytes base i := by
  constructor
  · rintro ⟨hle, hfits⟩
    exact ⟨by omega, hx ▸ Alignment.x1_allows, hfits⟩
  · intro h
    have hinside := h.inside
    exact ⟨by omega, h.fits⟩

abbrev ScanPlan.IsHit (p : ScanPlan) (bytes : Bytes) (base : UInt64) (i : Nat) : Prop :=
  SignatureSearch.IsHit p.signature p.alignment bytes base i

theorem ScanPlan.verify_eq (p : ScanPlan) {bytes : Bytes} {start : Nat} (h : start ≤ bytes.size) :
    p.verify bytes start = .ok (decide (p.signature.FitsAt bytes start)) := by
  rw [verify, Guarded.verify_eq _ h, Except.ok.injEq, Bool.eq_iff_iff, Signature.matchesAt_iff, decide_eq_true_iff]

/-! ## (3) Anchors -/

/-- The element that the anchor points at is the known byte that it names. -/
def Anchor.Points (a : Anchor) (s : Signature) : Prop := s.elements[a.index]? = some (Element.byte a.byte)

/-- The elements that the anchor names are the known bytes that it names. -/
structure Anchor.Marks (a : Anchor) (s : Signature) : Prop where
  byte : s.elements[a.index]? = some (Element.byte a.byte)
  next : ∀ v, a.next = some v → s.elements[a.index + 1]? = some (Element.byte v)

namespace Element

@[simp] theorem byte_mask (v : UInt8) : (byte v).mask = -1 := rfl

@[simp] theorem byte_value (v : UInt8) : (byte v).value = v := UInt8.and_neg_one

theorem eq_byte_of_isByte {e : Element} (h : e.isByte = true) : e = byte e.value := by
  apply ext
  · rw [byte_value]
  · exact beq_iff_eq.mp h

end Element

/-- The element at `i` is fully known, and its value is `v`. -/
def Signature.KnownAt (s : Signature) (i : Nat) (v : UInt8) : Prop :=
  ∃ e, s.elements[i]? = some e ∧ e.mask = 0xFF ∧ e.value = v

theorem Signature.knownAt_iff {s : Signature} {i : Nat} {v : UInt8} :
    s.KnownAt i v ↔ s.elements[i]? = some (Element.byte v) := by
  constructor
  · intro h
    obtain ⟨e, he, hmask, rfl⟩ := h
    rw [he, ← Element.eq_byte_of_isByte (beq_iff_eq.mpr hmask)]
  · intro h
    exact ⟨_, h, rfl, Element.byte_value v⟩

theorem Signature.FitsAt.get?_of_knownAt {s : Signature} {bytes : Bytes} {i j : Nat} {v : UInt8}
    (h : s.FitsAt bytes i) (known : s.KnownAt j v) : bytes.get? (i + j) = some v := by
  obtain ⟨b, hb, hm⟩ := h _ _ (knownAt_iff.mp known)
  rw [Element.byte_mask, Element.byte_value, UInt8.and_neg_one] at hm
  rw [hb, hm]

namespace Anchor

variable {a : Anchor} {s : Signature} {bytes : Bytes} {i : Nat}

theorem Points.index_lt (h : a.Points s) : a.index < s.length := (List.getElem?_eq_some_iff.mp h).1

theorem Points.get?_byte (h : a.Points s) (hf : s.FitsAt bytes i) : bytes.get? (i + a.index) = some a.byte :=
  hf.get?_of_knownAt (Signature.knownAt_iff.mpr h)

theorem Marks.points (h : a.Marks s) : a.Points s := h.byte

theorem Marks.index_lt (h : a.Marks s) : a.index < s.length := h.points.index_lt

theorem Marks.get?_byte (h : a.Marks s) (hf : s.FitsAt bytes i) : bytes.get? (i + a.index) = some a.byte :=
  h.points.get?_byte hf

theorem Marks.get?_next (h : a.Marks s) (hf : s.FitsAt bytes i) {v : UInt8} (hv : a.next = some v) :
    bytes.get? (i + a.index + 1) = some v := by
  rw [Nat.add_assoc]
  exact hf.get?_of_knownAt (Signature.knownAt_iff.mpr (h.next v hv))

/-! ### The anchor that a scan selects -/

/-- The elements from the anchor's index, counted from `k`, on are the known bytes it names. -/
def MarksFrom (k : Nat) (elements : List Element) (a : Anchor) : Prop :=
  ∃ i, a.index = k + i ∧ elements[i]? = some (Element.byte a.byte) ∧
    ∀ v, a.next = some v → elements[i + 1]? = some (Element.byte v)

/-- The elements at the anchor's index, counted from `k`, and behind it are the two known bytes that it names. -/
def PairsFrom (k : Nat) (elements : List Element) (a : Anchor) : Prop :=
  ∃ i v, a.index = k + i ∧ a.next = some v ∧ elements[i]? = some (Element.byte a.byte) ∧
    elements[i + 1]? = some (Element.byte v)

theorem PairsFrom.marks {k : Nat} {elements : List Element} (h : PairsFrom k elements a) : MarksFrom k elements a := by
  obtain ⟨i, v, hi, hv, hb, hn⟩ := h
  refine ⟨i, hi, hb, fun w hw => ?_⟩
  obtain rfl : v = w := Option.some.inj (hv.symm.trans hw)
  exact hn

theorem pairsFrom_cons_iff {k : Nat} {e f : Element} {rest : List Element} :
    PairsFrom k (e :: f :: rest) a ↔
      (a.index = k ∧ ∃ v, a.next = some v ∧ e = Element.byte a.byte ∧ f = Element.byte v) ∨
        PairsFrom (k + 1) (f :: rest) a := by
  constructor
  · intro h
    obtain ⟨i, v, hi, hv, hb, hn⟩ := h
    cases i with
    | zero => exact .inl ⟨hi, v, hv, Option.some.inj hb, Option.some.inj hn⟩
    | succ i => exact .inr ⟨i, v, by omega, hv, hb, hn⟩
  · intro h
    rcases h with ⟨hi, v, hv, rfl, rfl⟩ | ⟨i, v, hi, hv, hb, hn⟩
    · exact ⟨0, v, hi, hv, rfl, rfl⟩
    · exact ⟨i + 1, v, by omega, hv, hb, hn⟩

theorem pairsFrom_cons_cons (k : Nat) (e f : Element) (rest : List Element) :
    pairsFrom k (e :: f :: rest) =
      if (e.isByte && f.isByte) = true then ⟨k, e.value, some f.value⟩ :: pairsFrom (k + 1) (f :: rest)
      else pairsFrom (k + 1) (f :: rest) := by
  rw [pairsFrom]

theorem mem_pairsFrom_iff (elements : List Element) : ∀ k a, a ∈ pairsFrom k elements ↔ PairsFrom k elements a := by
  induction elements with
  | nil =>
    intro k a
    simp [pairsFrom, PairsFrom]
  | cons e rest ih =>
    intro k a
    cases rest with
    | nil => simp [pairsFrom, PairsFrom]
    | cons f rest =>
      rw [pairsFrom_cons_iff, ← ih, pairsFrom_cons_cons]
      by_cases known : (e.isByte && f.isByte) = true
      · have hfront : a = ⟨k, e.value, some f.value⟩ ↔
            a.index = k ∧ ∃ v, a.next = some v ∧ e = Element.byte a.byte ∧ f = Element.byte v := by
          rw [Bool.and_eq_true] at known
          constructor
          · intro h
            subst h
            exact ⟨rfl, f.value, rfl, Element.eq_byte_of_isByte known.1, Element.eq_byte_of_isByte known.2⟩
          · intro h
            obtain ⟨rfl, v, hv, rfl, rfl⟩ := h
            rw [Element.byte_value, Element.byte_value, ← hv]
        rw [if_pos known, List.mem_cons, hfront]
      · rw [if_neg known]
        refine ⟨.inr, fun h => h.resolve_left fun hfront => known ?_⟩
        obtain ⟨-, v, -, rfl, rfl⟩ := hfront
        rfl

theorem firstByteFrom_cases (elements : List Element) :
    ∀ k, (firstByteFrom k elements = none ∧ ∀ (i : Nat) v, elements[i]? ≠ some (Element.byte v)) ∨
      ∃ (i : Nat) (v : UInt8), firstByteFrom k elements = some ⟨k + i, v, none⟩ ∧ elements[i]? = some (Element.byte v) ∧
        ∀ j, j < i → ∀ w, elements[j]? ≠ some (Element.byte w) := by
  induction elements with
  | nil => intro k; exact .inl ⟨rfl, fun i v h => by cases h⟩
  | cons e rest ih =>
    intro k
    rw [firstByteFrom]
    by_cases known : e.isByte = true
    · rw [if_pos known]
      exact .inr ⟨0, e.value, rfl, congrArg some (Element.eq_byte_of_isByte known), fun j hj => absurd hj (by omega)⟩
    · rw [if_neg known]
      have hfront : ∀ v, (e :: rest)[0]? ≠ some (Element.byte v) := by
        intro v h
        obtain rfl := Option.some.inj h
        exact known rfl
      rcases ih (k + 1) with ⟨hnone, hno⟩ | ⟨i, v, hsome, hb, hno⟩
      · refine .inl ⟨hnone, fun i => ?_⟩
        cases i with
        | zero => exact hfront
        | succ i => exact hno i
      · refine .inr ⟨i + 1, v, by rw [hsome, Nat.succ_add_eq_add_succ], hb, fun j hj => ?_⟩
        cases j with
        | zero => exact hfront
        | succ j => exact hno j (by omega)

theorem firstByteFrom_marks {k : Nat} {elements : List Element} (h : firstByteFrom k elements = some a) :
    MarksFrom k elements a := by
  rcases firstByteFrom_cases elements k with ⟨hnone, -⟩ | ⟨i, v, hsome, hb, -⟩
  · rw [hnone] at h
    cases h
  · obtain rfl := Option.some.inj (hsome.symm.trans h)
    exact ⟨i, rfl, hb, fun w hw => by cases hw⟩

theorem foldl_rarer_mem (rest : List Anchor) : ∀ best : Anchor,
    rest.foldl (fun best b => if best.rarity < b.rarity then b else best) best ∈ best :: rest := by
  induction rest with
  | nil => intro best; exact List.mem_cons_self ..
  | cons b rest ih =>
    intro best
    rw [List.foldl_cons]
    rcases List.mem_cons.mp (ih (if best.rarity < b.rarity then b else best)) with h | h
    · rw [h]
      split
      · exact List.mem_cons_of_mem _ (List.mem_cons_self ..)
      · exact List.mem_cons_self ..
    · exact List.mem_cons_of_mem _ (List.mem_cons_of_mem _ h)

theorem rarest_mem {anchors : List Anchor} (h : rarest anchors = some a) : a ∈ anchors := by
  cases anchors with
  | nil => cases h
  | cons first rest =>
    obtain rfl := Option.some.inj h
    exact foldl_rarer_mem rest first

theorem select_marks {alignment : Alignment} {hint : Hint} (h : select s alignment hint = some a) : a.Marks s := by
  have hp : ∀ b ∈ pairs s, MarksFrom 0 s.elements b := fun b hb => ((mem_pairsFrom_iff _ _ _).mp hb).marks
  have hm : MarksFrom 0 s.elements a := by
    simp only [select, Option.orElse_eq_orElse, Option.orElse_eq_or, Option.or_eq_some_iff] at h
    rcases h with h | ⟨-, h⟩
    · split at h
      · cases h
      · exact hp a (List.mem_of_head? h)
      · exact hp a (rarest_mem h)
    · exact firstByteFrom_marks h
  obtain ⟨i, hi, hb, hn⟩ := hm
  rw [Nat.zero_add] at hi
  subst hi
  exact ⟨hb, hn⟩

end Anchor

end SignatureSearch
