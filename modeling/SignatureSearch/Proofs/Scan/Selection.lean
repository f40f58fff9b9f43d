/-
  SignatureSearch.Proofs.Scan.Selection — which part of a signature a search looks for first.

  The search relies on the anchor it is given: where no element is what the anchor says, it skips
  matches or reads behind the signature. How it is chosen (`select`) decides how often the search stops:
  a pair stops it less often than a byte, and in code for x86-64 a pair that is met seldom less often
  than any other.

  Proved:
  (1) A pair of the table has its place there as its rank, since no pair is listed twice, and every
      other pair has the rank behind the last (`PairFrequency.rank_of_getElem?`, `rank_of_not_mem`).
  (2) The pairs of a signature are its pairs of adjacent known bytes in ascending order
      (`Anchor.mem_pairs_iff`, `pairsFrom_ascending`), and keeping the rarer one, pair after pair,
      keeps the rarest and the first of these (`Anchor.rarest_precedes`).
  (3) An anchor is selected just if there is a known byte, and then it is the one that the
      alignment and the hint ask for (`Anchor.select_follows_preference`).
-/

import SignatureSearch.Proofs.Scan.Hits

namespace SignatureSearch

/-! ## (1) Ranks -/

namespace PairFrequency

theorem nodup_mostFrequent : mostFrequent.Nodup := by decide +kernel

theorem rank_of_getElem? {i : Nat} {pair : UInt8 × UInt8} (h : mostFrequent[i]? = some pair) : rank pair = i := by
  obtain ⟨hi, rfl⟩ := List.getElem?_eq_some_iff.mp h
  exact nodup_mostFrequent.idxOf_getElem i hi

theorem rank_of_not_mem {pair : UInt8 × UInt8} (h : pair ∉ mostFrequent) : rank pair = mostFrequent.length :=
  List.idxOf_eq_length h

end PairFrequency

/-! ## (2) Pairs -/

namespace Signature

def PairAt (s : Signature) (i : Nat) (v w : UInt8) : Prop := s.KnownAt i v ∧ s.KnownAt (i + 1) w

theorem KnownAt.unique {s : Signature} {i : Nat} {v w : UInt8} (hv : s.KnownAt i v) (hw : s.KnownAt i w) : v = w := by
  obtain ⟨e, he, -, rfl⟩ := hv
  obtain ⟨f, hf, -, rfl⟩ := hw
  obtain rfl := Option.some.inj (he.symm.trans hf)
  rfl

/-- A pair starts at `i`, and if the data is known to be code then no pair is rarer. -/
def IsPreferred (s : Signature) (hint : Hint) (i : Nat) : Prop :=
  ∃ v w, s.PairAt i v w ∧
    (hint = .x86_64 → ∀ j v' w', s.PairAt j v' w' → PairFrequency.rank (v', w') ≤ PairFrequency.rank (v, w))

end Signature

namespace Anchor

variable {a b : Anchor} {s : Signature}

theorem mem_pairs_iff : a ∈ pairs s ↔ ∃ w, a.next = some w ∧ s.PairAt a.index a.byte w := by
  rw [pairs, mem_pairsFrom_iff]
  constructor
  · intro h
    obtain ⟨i, w, hi, hw, hb, hn⟩ := h
    obtain rfl : a.index = i := by omega
    exact ⟨w, hw, Signature.knownAt_iff.mpr hb, Signature.knownAt_iff.mpr hn⟩
  · intro h
    obtain ⟨w, hw, hb, hn⟩ := h
    exact ⟨a.index, w, by omega, hw, Signature.knownAt_iff.mp hb, Signature.knownAt_iff.mp hn⟩

theorem pair_mem {i : Nat} {v w : UInt8} (h : s.PairAt i v w) : ⟨i, v, some w⟩ ∈ pairs s := mem_pairs_iff.mpr ⟨w, rfl, h⟩

theorem pairsFrom_ascending (elements : List Element) :
    ∀ k, (pairsFrom k elements).Pairwise fun a b => a.index < b.index := by
  induction elements with
  | nil => intro k; exact .nil
  | cons e rest ih =>
    intro k
    cases rest with
    | nil => exact .nil
    | cons f rest =>
      rw [pairsFrom_cons_cons]
      by_cases known : (e.isByte && f.isByte) = true
      · rw [if_pos known]
        refine List.pairwise_cons.mpr ⟨fun b hb => ?_, ih (k + 1)⟩
        obtain ⟨i, -, hi, -⟩ := (mem_pairsFrom_iff _ _ _).mp hb
        show k < b.index
        omega
      · rw [if_neg known]
        exact ih (k + 1)

/-- Of two anchors the rarer one, and of two that are as rare the first. -/
def rarer (a b : Anchor) : Anchor := if a.rarity < b.rarity then b else a

def Precedes (a b : Anchor) : Prop := b.rarity < a.rarity ∨ b.rarity = a.rarity ∧ a.index ≤ b.index

theorem Precedes.refl (a : Anchor) : a.Precedes a := .inr ⟨rfl, Nat.le_refl _⟩

theorem Precedes.trans {c : Anchor} (hab : a.Precedes b) (hbc : b.Precedes c) : a.Precedes c := by
  unfold Precedes at *
  omega

theorem rarer_precedes (h : a.index < b.index) : (rarer a b).Precedes a ∧ (rarer a b).Precedes b := by
  unfold rarer Precedes
  split <;> omega

theorem index_rarer_lt {c : Anchor} (ha : a.index < c.index) (hb : b.index < c.index) :
    (rarer a b).index < c.index := by
  unfold rarer
  split
  · exact hb
  · exact ha

theorem foldl_rarer_precedes (rest : List Anchor) :
    ∀ first : Anchor, (first :: rest).Pairwise (fun a b => a.index < b.index) →
      ∀ b ∈ first :: rest, (rest.foldl rarer first).Precedes b := by
  induction rest with
  | nil =>
    intro first _ b hb
    obtain rfl := List.mem_singleton.mp hb
    exact .refl _
  | cons c rest ih =>
    intro first ascending b hb
    rw [List.foldl_cons]
    obtain ⟨hfirst, hrest⟩ := List.pairwise_cons.mp ascending
    obtain ⟨hc, hlater⟩ := List.pairwise_cons.mp hrest
    obtain ⟨hleft, hright⟩ := rarer_precedes (hfirst c (List.mem_cons_self ..))
    have hkept := ih (rarer first c) <| List.pairwise_cons.mpr
      ⟨fun d hd => index_rarer_lt (hfirst d (List.mem_cons_of_mem _ hd)) (hc d hd), hlater⟩
    rcases List.mem_cons.mp hb with rfl | hb
    · exact (hkept _ (List.mem_cons_self ..)).trans hleft
    · rcases List.mem_cons.mp hb with rfl | hb
      · exact (hkept _ (List.mem_cons_self ..)).trans hright
      · exact hkept b (List.mem_cons_of_mem _ hb)

theorem rarest_precedes {anchors : List Anchor} (ascending : anchors.Pairwise fun a b => a.index < b.index)
    (h : rarest anchors = some a) : ∀ b ∈ anchors, a.Precedes b := by
  cases anchors with
  | nil => cases h
  | cons first rest =>
    obtain rfl := Option.some.inj h
    exact foldl_rarer_precedes rest first ascending

/-! ## (3) The selected anchor -/

/-- The pair that a hint asks for. -/
def pair? (s : Signature) : Hint → Option Anchor
  | .unknown => (pairs s).head?
  | .x86_64 => rarest (pairs s)

theorem pair?_eq_none_iff {hint : Hint} : pair? s hint = none ↔ ∀ i v w, ¬s.PairAt i v w := by
  have hnil : pair? s hint = none ↔ pairs s = [] := by
    cases hint with
    | unknown => exact List.head?_eq_none_iff
    | x86_64 =>
      show rarest (pairs s) = none ↔ _
      cases pairs s <;> simp [rarest]
  rw [hnil]
  constructor
  · intro h i v w hpair
    have hmem := pair_mem hpair
    rw [h] at hmem
    cases hmem
  · intro h
    apply List.eq_nil_iff_forall_not_mem.mpr
    intro a ha
    obtain ⟨w, -, hpair⟩ := mem_pairs_iff.mp ha
    exact h _ _ _ hpair

theorem mem_of_pair? {hint : Hint} (h : pair? s hint = some a) : a ∈ pairs s := by
  cases hint with
  | unknown => exact List.mem_of_head? h
  | x86_64 => exact rarest_mem h

theorem pair?_least {hint : Hint} (h : pair? s hint = some a) : LeastFrom (s.IsPreferred hint) 0 (some a.index) := by
  have ascending : (pairs s).Pairwise fun a b => a.index < b.index := pairsFrom_ascending s.elements 0
  obtain ⟨w, hw, hpair⟩ := mem_pairs_iff.mp (mem_of_pair? h)
  cases hint with
  | unknown =>
    refine ⟨Nat.zero_le _, ⟨a.byte, w, hpair, nofun⟩, fun j _ hj hpreferred => ?_⟩
    obtain ⟨v', w', hpair', -⟩ := hpreferred
    obtain ⟨rest, hpairs⟩ := List.head?_eq_some_iff.mp h
    have hmem := pair_mem hpair'
    rw [hpairs] at ascending hmem
    rcases List.mem_cons.mp hmem with rfl | hlater
    · exact Nat.lt_irrefl _ hj
    · exact Nat.lt_asymm hj ((List.pairwise_cons.mp ascending).1 _ hlater)
  | x86_64 =>
    have hrarity : a.rarity = PairFrequency.rank (a.byte, w) := by
      unfold rarity
      rw [hw]
    have hfirst := rarest_precedes ascending h
    refine ⟨Nat.zero_le _, ⟨a.byte, w, hpair, fun _ j v' w' hpair' => ?_⟩, fun j _ hj hpreferred => ?_⟩
    · rw [← hrarity]
      rcases hfirst _ (pair_mem hpair') with hlt | ⟨heq, -⟩
      · exact Nat.le_of_lt hlt
      · exact Nat.le_of_eq heq
    · obtain ⟨v', w', hpair', hmax⟩ := hpreferred
      have hle := hmax rfl _ _ _ hpair
      rw [← hrarity] at hle
      rcases hfirst _ (pair_mem hpair') with hlt | ⟨-, hindex⟩
      · exact Nat.not_lt.mpr hle hlt
      · exact Nat.not_lt.mpr hindex hj

/-- The anchor that an alignment and a hint ask for. It is a known byte. A second one goes with it where every
address counts and the signature has a pair, and the two are then the first of the pairs, or with a hint
the first of the rarest. Without a second one it is the first known byte. -/
structure IsSelected (a : Anchor) (s : Signature) (alignment : Alignment) (hint : Hint) : Prop where
  known : s.KnownAt a.index a.byte
  paired : (∃ w, a.next = some w) ↔ alignment = .x1 ∧ ∃ i v w, s.PairAt i v w
  next : ∀ w, a.next = some w → s.KnownAt (a.index + 1) w ∧ LeastFrom (s.IsPreferred hint) 0 (some a.index)
  alone : a.next = none → LeastFrom (fun i => ∃ v, s.KnownAt i v) 0 (some a.index)

variable {alignment : Alignment} {hint : Hint}

theorem IsSelected.unique (ha : a.IsSelected s alignment hint) (hb : b.IsSelected s alignment hint) : a = b := by
  have hnext : (∃ w, a.next = some w) ↔ ∃ w, b.next = some w := ha.paired.trans hb.paired.symm
  have hplace : a.index = b.index ∧ a.next = b.next := by
    cases e : a.next with
    | none =>
      cases e' : b.next with
      | none => exact ⟨Option.some.inj ((ha.alone e).unique (hb.alone e')), rfl⟩
      | some w =>
        obtain ⟨w', hw'⟩ := hnext.mpr ⟨w, e'⟩
        rw [e] at hw'
        cases hw'
    | some w =>
      obtain ⟨w', hw'⟩ := hnext.mp ⟨w, e⟩
      obtain ⟨hknown, hleast⟩ := ha.next w e
      obtain ⟨hknown', hleast'⟩ := hb.next w' hw'
      have hindex : a.index = b.index := Option.some.inj (hleast.unique hleast')
      rw [hindex] at hknown
      exact ⟨hindex, by rw [hw', hknown.unique hknown']⟩
  obtain ⟨hindex, hnext⟩ := hplace
  have hbyte : a.byte = b.byte := (hindex ▸ ha.known).unique hb.known
  cases a
  cases b
  simp_all

theorem pair?_selected (h : pair? s hint = some a) : a.IsSelected s .x1 hint := by
  obtain ⟨w, hw, hpair⟩ := mem_pairs_iff.mp (mem_of_pair? h)
  refine ⟨hpair.1, ⟨fun _ => ⟨rfl, _, _, _, hpair⟩, fun _ => ⟨w, hw⟩⟩, fun w' hw' => ?_, fun hnone => ?_⟩
  · obtain rfl : w = w' := Option.some.inj (hw.symm.trans hw')
    exact ⟨hpair.2, pair?_least h⟩
  · rw [hw] at hnone
    cases hnone

theorem firstByte_selected (pairless : ¬(alignment = .x1 ∧ ∃ i v w, s.PairAt i v w)) :
    (firstByteFrom 0 s.elements = none ∧ ∀ i v, ¬s.KnownAt i v) ∨
      ∃ a, firstByteFrom 0 s.elements = some a ∧ a.IsSelected s alignment hint := by
  rcases firstByteFrom_cases s.elements 0 with ⟨hfirst, hno⟩ | ⟨i, v, hfirst, hb, hno⟩
  · exact .inl ⟨hfirst, fun i v hknown => hno i v (Signature.knownAt_iff.mp hknown)⟩
  · rw [Nat.zero_add] at hfirst
    have hknown : s.KnownAt i v := Signature.knownAt_iff.mpr hb
    refine .inr ⟨_, hfirst, hknown, ⟨nofun, fun h => absurd h pairless⟩, nofun, fun _ => ?_⟩
    refine ⟨Nat.zero_le _, ⟨v, hknown⟩, fun j _ hj h => ?_⟩
    obtain ⟨w, hearlier⟩ := h
    exact hno j hj w (Signature.knownAt_iff.mp hearlier)

theorem select_cases (s : Signature) (alignment : Alignment) (hint : Hint) :
    (select s alignment hint = none ∧ ∀ i v, ¬s.KnownAt i v) ∨
      ∃ a, select s alignment hint = some a ∧ a.IsSelected s alignment hint := by
  cases alignment with
  | x1 =>
    have hselect : select s .x1 hint = (pair? s hint <|> firstByteFrom 0 s.elements) := by
      cases hint <;> rfl
    rw [hselect]
    cases hp : pair? s hint with
    | some a => exact .inr ⟨a, rfl, pair?_selected hp⟩
    | none =>
      refine firstByte_selected fun h => ?_
      obtain ⟨-, i, v, w, hpair⟩ := h
      exact pair?_eq_none_iff.mp hp i v w hpair
  | x16 => exact firstByte_selected fun h => by cases h.1

/-- There is no anchor just if no element is fully known, and else it is the one that the alignment and
the hint ask for. How rare a pair is goes by its place in the table, and a pair that is not there
is rarer than all that are. -/
theorem select_follows_preference (s : Signature) (alignment : Alignment) (hint : Hint) :
    (select s alignment hint = none ↔ ∀ e ∈ s.elements, e.mask ≠ 0xFF) ∧
    (∀ a, select s alignment hint = some a ↔ a.IsSelected s alignment hint) ∧
    (∀ i pair, PairFrequency.mostFrequent[i]? = some pair → PairFrequency.rank pair = i) ∧
    ∀ pair, pair ∉ PairFrequency.mostFrequent → PairFrequency.rank pair = PairFrequency.mostFrequent.length := by
  have hunknown : (∀ i v, ¬s.KnownAt i v) ↔ ∀ e ∈ s.elements, e.mask ≠ 0xFF := by
    constructor
    · intro h e he hmask
      obtain ⟨i, hi⟩ := List.mem_iff_getElem?.mp he
      exact h i e.value ⟨e, hi, hmask, rfl⟩
    · intro h i v hknown
      obtain ⟨e, he, hmask, -⟩ := hknown
      exact h e (List.mem_of_getElem? he) hmask
  refine ⟨?_, ?_, fun i pair => PairFrequency.rank_of_getElem?, fun pair => PairFrequency.rank_of_not_mem⟩
  · rw [← hunknown]
    rcases select_cases s alignment hint with ⟨hnone, hno⟩ | ⟨a, hsome, ha⟩
    · simp only [hnone, true_iff]
      exact hno
    · simp only [hsome, reduceCtorEq, false_iff]
      exact fun hno => hno _ _ ha.known
  · intro b
    rcases select_cases s alignment hint with ⟨hnone, hno⟩ | ⟨a, hsome, ha⟩
    · rw [hnone]
      exact ⟨nofun, fun hb => absurd hb.known (hno _ _)⟩
    · rw [hsome, Option.some.injEq]
      constructor
      · intro h
        exact h ▸ ha
      · exact ha.unique

/-- Of four pairs the first and the third are not in the table. -/
example : select ⟨[0x12, 0x13, 0x48, 0x12, 0x13, 0x00, 0x00].map Element.byte, nofun⟩ .x1 .x86_64 =
    some ⟨0, 0x12, some 0x13⟩ := by decide +kernel

end Anchor

end SignatureSearch
