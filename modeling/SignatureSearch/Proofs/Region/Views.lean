/-
  SignatureSearch.Proofs.Region.Views — a region seen through parts of parts.

  A view is narrowed by a call for a part of it (`subregion`), from an offset and for a length that may
  be any 64-bit words, and stays what it is when the call fails (`Region.narrow`). After a chain of
  calls it has been moved by the offsets of those that succeeded, which are added here without wrapping
  (`Region.shift`).

  Proved:
  (1) A call succeeds just when the part lies inside, however large the words are
      (`Region.subregion?_isSome_iff`), and gives the one part that has the bytes and addresses
      (`Region.subregion?_eq_some_iff`, `Region.IsPart.unique`).
  (2) A part of a part is a part of the whole (`Region.IsPart.trans`), so a call that fails or succeeds
      leaves a part of the root (`Region.isPart_narrow`), and so does a chain (`Region.isPart_view`).
  (3) After any chain, the view is what a single call at the root gives, and its bytes and addresses are
      the root's (`Region.chain_is_one_cut`).
-/

import SignatureSearch.Proofs.Scan.Subregion

namespace SignatureSearch.Region

variable {r part other : Region} {start length : Nat} {offset count : UInt64}

/-! ## (1) One call -/

theorem subregion?_isSome_iff : (r.subregion? offset count).isSome ↔ offset.toNat + count.toNat ≤ r.size := by
  constructor
  · intro h
    obtain ⟨part, hpart⟩ := Option.isSome_iff_exists.mp h
    exact (isPart_of_subregion? hpart).inside
  · intro hinside
    -- no region reaches as far as the sum of two words that wraps
    have hsize := r.bytes.size_lt_two_pow
    have hstop : (UInt64.ofNat (offset.toNat + count.toNat)).toNat = offset.toNat + count.toNat := by
      rw [UInt64.toNat_ofNat']
      unfold size at hinside
      omega
    have hcut := Bytes.slice?_isSome_iff.mpr ⟨Nat.le_add_right offset.toNat count.toNat, hinside⟩
    obtain ⟨bytes, hbytes⟩ := Option.isSome_iff_exists.mp hcut
    rw [subregion?, Word.addExact_eq_some_iff.mpr hstop, Option.bind_eq_bind, Option.bind_some, hstop, hbytes]
    rfl

theorem IsPart.unique (h : r.IsPart start length part) (h' : r.IsPart start length other) : part = other := by
  have hbytes : part.bytes = other.bytes := by
    refine Bytes.ext_toList (List.ext_getElem? fun i => ?_)
    have hsize : part.bytes.toList.length = length := h.size_eq
    have hsize' : other.bytes.toList.length = length := h'.size_eq
    by_cases hi : i < length
    · rw [Bytes.getElem?_toList, Bytes.getElem?_toList, h.get?_eq i hi, h'.get?_eq i hi]
    · rw [List.getElem?_eq_none (by omega), List.getElem?_eq_none (by omega)]
  have hbase : part.base = other.base := h.base_eq.trans h'.base_eq.symm
  cases part
  cases other
  cases hbytes
  cases hbase
  rfl

theorem subregion?_eq_some_iff :
    r.subregion? offset count = some part ↔ r.IsPart offset.toNat count.toNat part := by
  constructor
  · exact isPart_of_subregion?
  · intro h
    obtain ⟨cut, hcut⟩ := Option.isSome_iff_exists.mp (subregion?_isSome_iff.mpr h.inside)
    rw [hcut, (isPart_of_subregion? hcut).unique h]

/-! ## (2) Parts of parts -/

theorem isPart_self (r : Region) : r.IsPart 0 r.size r where
  inside := Nat.le_of_eq (Nat.zero_add _)
  size_eq := rfl
  get?_eq i _ := by rw [Nat.zero_add]
  base_eq := (UInt64.add_zero r.base).symm

theorem IsPart.trans {start' length' : Nat} (h : r.IsPart start length part) (h' : part.IsPart start' length' other) :
    r.IsPart (start + start') length' other := by
  have hinside := h.inside
  have hinside' := h'.inside
  rw [h.size_eq] at hinside'
  constructor
  case inside => omega
  case size_eq => exact h'.size_eq
  case get?_eq =>
    intro i hi
    rw [h'.get?_eq i hi, h.get?_eq (start' + i) (by omega), Nat.add_assoc]
  case base_eq => rw [h'.base_eq, h.addressOf_eq]

abbrev Call := UInt64 × UInt64

/-- The view after a call for a part of it. -/
def narrow (view : Region) (call : Call) : Region := (view.subregion? call.1 call.2).getD view

/-- The view after a chain of calls. -/
def view (root : Region) (chain : List Call) : Region := chain.foldl narrow root

/-- What a call moves the start of the view by. -/
def step (view : Region) (call : Call) : Nat := if (view.subregion? call.1 call.2).isSome then call.1.toNat else 0

/-- What a chain of calls moves the start by. -/
def shift (root : Region) : List Call → Nat
  | [] => 0
  | call :: chain => root.step call + shift (root.narrow call) chain

theorem isPart_narrow (view : Region) (call : Call) :
    view.IsPart (view.step call) (view.narrow call).size (view.narrow call) := by
  unfold step narrow
  cases hcut : view.subregion? call.1 call.2 with
  | none => exact view.isPart_self
  | some part =>
    have hpart := isPart_of_subregion? hcut
    have hsize : part.size = call.2.toNat := hpart.size_eq
    simpa [hsize] using hpart

theorem isPart_view (root : Region) (chain : List Call) :
    root.IsPart (root.shift chain) (root.view chain).size (root.view chain) := by
  induction chain generalizing root with
  | nil => exact root.isPart_self
  | cons call chain ih => exact (root.isPart_narrow call).trans (ih (root.narrow call))

/-! ## (3) Chains -/

/-- From any region and through any chain of calls, of which those that fail leave the view: a further
    call succeeds just when its offset and its length come to no more than the view has, as numbers. The
    view is the part of the root from the sum of the offsets that succeeded on, as one call gives it; its
    bytes are the root's from there on, and they keep their addresses, which count on from the root's base
    and wrap at 2⁶⁴. -/
theorem chain_is_one_cut (root : Region) (chain : List Call) :
    (∀ offset count : UInt64,
      ((root.view chain).subregion? offset count).isSome ↔ offset.toNat + count.toNat ≤ (root.view chain).size) ∧
    (∃ offset count : UInt64, offset.toNat = root.shift chain ∧ count.toNat = (root.view chain).size ∧
      root.subregion? offset count = some (root.view chain)) ∧
    (∀ j < (root.view chain).size, (root.view chain).bytes.get? j = root.bytes.get? (root.shift chain + j)) ∧
    ∀ j, (root.view chain).addressOf j = root.addressOf (root.shift chain + j) ∧
      ((root.view chain).addressOf j).toNat = (root.base.toNat + (root.shift chain + j)) % 2 ^ 64 := by
  have hpart := root.isPart_view chain
  refine ⟨fun offset count => subregion?_isSome_iff, ?_, hpart.get?_eq, ?_⟩
  · have hinside := hpart.inside
    have hsize := root.bytes.size_lt_two_pow
    unfold size at hinside
    have hoffset : (UInt64.ofNat (root.shift chain)).toNat = root.shift chain := by
      rw [UInt64.toNat_ofNat']
      omega
    have hcount : (UInt64.ofNat (root.view chain).size).toNat = (root.view chain).size := by
      rw [UInt64.toNat_ofNat']
      unfold size
      omega
    refine ⟨_, _, hoffset, hcount, subregion?_eq_some_iff.mpr ?_⟩
    rwa [hoffset, hcount]
  · intro j
    rw [hpart.addressOf_eq, addressOf, wrapped_toNat]
    exact ⟨rfl, rfl⟩

/-- Two calls that narrow the view of forty bytes, two whose sums leave 64 bits, and one for the empty
    part at the very end. -/
def fiveCalls : List Call := [(2, 33), (0xFFFFFFFFFFFFFFFF, 2), (1, 32), (3, 0xFFFFFFFFFFFFFFFE), (32, 0)]

/-- With address zero at the fourth of those bytes, the empty part at the end is at address 32. -/
theorem chain_is_one_cut_across_zero :
    Scanner.acrossZero.shift fiveCalls = 35 ∧ (Scanner.acrossZero.view fiveCalls).size = 0 ∧
    ((Scanner.acrossZero.view fiveCalls).addressOf 0).toNat = 32 := by
  obtain ⟨-, -, -, addresses⟩ := chain_is_one_cut Scanner.acrossZero fiveCalls
  have hshift : Scanner.acrossZero.shift fiveCalls = 35 := by decide
  refine ⟨hshift, by decide, ?_⟩
  rw [(addresses 0).2, hshift]
  decide

end SignatureSearch.Region
