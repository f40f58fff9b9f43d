/-
  SignatureSearch.Proofs.Signature.Subsumption — which signatures match all that another one matches.

  A signature refines another one when it is no shorter and, place by place, compares at least the
  bits that the other compares and asks for the same values in them (`Signature.Refines`). The
  windows are shorter than 2⁶³ bytes, and so is every signature that a constructor gives of data
  that memory can hold (`Signature.Built`); a signature has thus a window of just its own length.

  Proved:
  (1) An element is satisfied by whatever satisfies another one just when it is refined by it
      (`Element.refines_iff`).
  (2) A signature that can be held fits its own sample, at one place of which any byte may stand
      that the element there matches (`Signature.fitsAt_sample`).
  (3) So a signature is refined just by those whose windows it matches (`Signature.refines_iff`),
      and each constructor keeps to the length of what it is given (`Signature.Built.length_lt`).
      Subsumption is decided by the elements, and signatures that match the same windows are equal
      (`Signature.subsumption_by_elements`).
-/

import SignatureSearch.Proofs.Scan.Hits
import SignatureSearch.Proofs.Signature.Grammar

namespace SignatureSearch

/-! ## (1) Elements -/

/-- The first element compares every bit that the second compares, and with the same value. -/
structure Element.Refines (a b : Element) : Prop where
  mask : b.mask &&& a.mask = b.mask
  value : a.value &&& b.mask = b.value

namespace Element

variable {a b : Element}

instance : Decidable (a.Refines b) :=
  decidable_of_iff (b.mask &&& a.mask = b.mask ∧ a.value &&& b.mask = b.value)
    ⟨fun h => ⟨h.1, h.2⟩, fun h => ⟨h.mask, h.value⟩⟩

theorem Refines.matchesByte (h : a.Refines b) {x : UInt8} (hx : a.matchesByte x = true) : b.matchesByte x = true := by
  rw [matchesByte_iff] at hx ⊢
  calc x &&& b.mask
      = x &&& (a.mask &&& b.mask) := by rw [UInt8.and_comm a.mask, h.mask]
    _ = a.value &&& b.mask := by rw [← UInt8.and_assoc, hx]
    _ = b.value := h.value

theorem refines_of_imp (h : ∀ x, a.matchesByte x = true → b.matchesByte x = true) : a.Refines b := by
  constructor
  · apply eq_of_testBit
    intro i
    rw [UInt8.toNat_and, Nat.testBit_and]
    cases hb : b.mask.toNat.testBit i with
    | true => rw [(bits_of_imp h hb).1, Bool.true_and]
    | false => rw [Bool.false_and]
  · apply eq_of_testBit
    intro i
    rw [UInt8.toNat_and, Nat.testBit_and]
    cases hb : b.mask.toNat.testBit i with
    | true => rw [(bits_of_imp h hb).2, Bool.and_true]
    | false =>
      cases hv : b.value.toNat.testBit i with
      | true => rw [mask_of_value hv] at hb; cases hb
      | false => rw [Bool.and_false]

theorem refines_iff : a.Refines b ↔ ∀ x, a.matchesByte x = true → b.matchesByte x = true :=
  ⟨fun h _ hx => h.matchesByte hx, refines_of_imp⟩

theorem Refines.antisymm (hab : a.Refines b) (hba : b.Refines a) : a = b :=
  ext_of_matches fun _ => ⟨hab.matchesByte, hba.matchesByte⟩

end Element

/-! ## (2) Windows -/

theorem Bytes.toArray_ofList {l : List UInt8} (h : l.length < 2 ^ 63) : (ofList l).toArray = l.toArray := by
  unfold ofList ofArray
  rw [dif_pos (by simpa using h)]

theorem Bytes.get?_ofList {l : List UInt8} (h : l.length < 2 ^ 63) (i : Nat) : (ofList l).get? i = l[i]? := by
  rw [get?, toArray_ofList h, List.getElem?_toArray]

theorem Bytes.size_ofList {l : List UInt8} (h : l.length < 2 ^ 63) : (ofList l).size = l.length := by
  rw [size, toArray_ofList h, List.size_toArray]

theorem Text.Runs.length_le {tokens : List (List Char)} {text : List Char} (h : Runs tokens text) :
    tokens.length ≤ text.length := by
  induction h with
  | nil => exact Nat.le_refl _
  | blank c rest tokens _ _ ih => exact Nat.le_succ_of_le ih
  | token t rest tokens hne _ _ _ ih =>
    have hpos := List.length_pos_iff.mpr hne
    rw [List.length_cons, List.length_append]
    omega

namespace Signature

variable {a b s : Signature}

theorem matchesWindow_iff {window : Bytes} : s.matchesWindow window = true ↔ s.FitsAt window 0 :=
  matchesAt_iff

/-- The values of a signature, but for the byte `x` at place `j`. -/
def sample (s : Signature) (j : Nat) (x : UInt8) : Bytes := .ofList ((s.elements.map Element.value).set j x)

theorem length_sample (s : Signature) (j : Nat) (x : UInt8) :
    ((s.elements.map Element.value).set j x).length = s.length := by
  rw [List.length_set, List.length_map, length]

theorem size_sample (hs : s.length < 2 ^ 63) (j : Nat) (x : UInt8) : (s.sample j x).size = s.length := by
  rw [sample, Bytes.size_ofList (by rwa [length_sample]), length_sample]

theorem get?_sample (hs : s.length < 2 ^ 63) {j : Nat} (hj : j < s.length) (x : UInt8) :
    (s.sample j x).get? j = some x := by
  rw [sample, Bytes.get?_ofList (by rwa [length_sample]), List.getElem?_set_self (by rwa [List.length_map])]

theorem fitsAt_sample (hs : s.length < 2 ^ 63) {j : Nat} {x : UInt8}
    (hx : ∀ e, s.elements[j]? = some e → e.matchesByte x = true) : s.FitsAt (s.sample j x) 0 := by
  intro i e he
  rw [sample, Bytes.get?_ofList (by rwa [length_sample]), Nat.zero_add]
  by_cases hij : j = i
  · subst hij
    have hlt : j < s.length := (List.getElem?_eq_some_iff.mp he).1
    refine ⟨x, ?_, Element.matchesByte_iff.mp (hx e he)⟩
    rw [List.getElem?_set_self (by rwa [List.length_map])]
  · refine ⟨e.value, ?_, e.value_masked⟩
    rw [List.getElem?_set_ne hij, List.getElem?_map, he, Option.map_some]

/-! ## (3) Signatures -/

/-- The first signature is no shorter, and its elements refine those of the second. -/
structure Refines (a b : Signature) : Prop where
  length_le : b.length ≤ a.length
  elements : ∀ (j : Nat) (ea eb : Element), a.elements[j]? = some ea → b.elements[j]? = some eb → ea.Refines eb

instance : Decidable (a.Refines b) :=
  decidable_of_iff
    (b.length ≤ a.length ∧ ∀ j < b.length, ∀ ea ∈ a.elements[j]?, ∀ eb ∈ b.elements[j]?, Element.Refines ea eb)
    ⟨fun h => ⟨h.1, fun j ea eb hea heb => h.2 j (List.getElem?_eq_some_iff.mp heb).1 ea hea eb heb⟩,
      fun h => ⟨h.length_le, fun j _ ea hea eb heb => h.elements j ea eb hea heb⟩⟩

theorem Refines.fitsAt (h : a.Refines b) {window : Bytes} {start : Nat} (ha : a.FitsAt window start) :
    b.FitsAt window start := by
  intro j eb heb
  have hj : j < b.length := (List.getElem?_eq_some_iff.mp heb).1
  have hlt : j < a.length := Nat.lt_of_lt_of_le hj h.length_le
  have hea : a.elements[j]? = some a.elements[j] := List.getElem?_eq_getElem hlt
  obtain ⟨x, hx, hmatch⟩ := ha j _ hea
  have href := h.elements j _ eb hea heb
  exact ⟨x, hx, Element.matchesByte_iff.mp (href.matchesByte (Element.matchesByte_iff.mpr hmatch))⟩

theorem refines_of_imp (ha : a.length < 2 ^ 63) (h : ∀ window : Bytes, a.FitsAt window 0 → b.FitsAt window 0) :
    a.Refines b := by
  constructor
  · have hfits : a.FitsAt (a.sample a.length 0) 0 := by
      refine fitsAt_sample ha fun e he => ?_
      exact absurd (List.getElem?_eq_some_iff.mp he).1 (Nat.lt_irrefl _)
    have hinside := (h _ hfits).inside
    rwa [size_sample ha, Nat.zero_add] at hinside
  · intro j ea eb hea heb
    have hj : j < a.length := (List.getElem?_eq_some_iff.mp hea).1
    apply Element.refines_of_imp
    intro x hx
    have hfits : a.FitsAt (a.sample j x) 0 := by
      refine fitsAt_sample ha fun e he => ?_
      rw [hea] at he
      cases he
      exact hx
    obtain ⟨y, hy, hmatch⟩ := h _ hfits j eb heb
    rw [Nat.zero_add, get?_sample ha hj] at hy
    cases hy
    exact Element.matchesByte_iff.mpr hmatch

theorem refines_iff (ha : a.length < 2 ^ 63) :
    a.Refines b ↔ ∀ window : Bytes, a.matchesWindow window = true → b.matchesWindow window = true := by
  simp only [matchesWindow_iff]
  exact ⟨fun h _ hw => h.fitsAt hw, refines_of_imp ha⟩

theorem ext_elements (h : a.elements = b.elements) : a = b := by
  cases a
  cases b
  cases h
  rfl

theorem Refines.antisymm (hab : a.Refines b) (hba : b.Refines a) : a = b := by
  have hlength : a.length = b.length := Nat.le_antisymm hba.length_le hab.length_le
  apply ext_elements
  apply List.ext_getElem hlength
  intro j hja hjb
  have hea : a.elements[j]? = some a.elements[j] := List.getElem?_eq_getElem hja
  have heb : b.elements[j]? = some b.elements[j] := List.getElem?_eq_getElem hjb
  exact (hab.elements j _ _ hea heb).antisymm (hba.elements j _ _ heb hea)

/-- The signature is what a constructor gives of data that memory can hold. -/
inductive Built (s : Signature) : Prop
  | parse (text : String) : text.toList.length < 2 ^ 63 → Signature.parse text = .ok s → Built s
  | bytes (data : Bytes) : ofBytes data.toList = .ok s → Built s
  | masked (data mask : Bytes) : ofBytesAndMask data.toList mask.toList = .ok s → Built s
  | elements (elements : List Element) : elements.length < 2 ^ 63 → ofElements elements = .ok s → Built s

theorem elements_of_ofNonempty {elements : List Element} (h : ofNonempty elements = .ok s) : s.elements = elements := by
  unfold ofNonempty at h
  split at h
  · cases h
  · cases h
    rfl

theorem elements_of_ofElements {elements : List Element} (h : ofElements elements = .ok s) :
    s.elements = elements := by
  unfold ofElements at h
  split at h
  · cases h
  · split at h
    · exact elements_of_ofNonempty h
    · cases h

theorem elements_of_ofBytesAndMask {data mask : List UInt8} (h : ofBytesAndMask data mask = .ok s) :
    s.elements = List.zipWith Element.masked data mask := by
  unfold ofBytesAndMask at h
  split at h
  · cases h
  · split at h
    · cases h
    · split at h
      · cases h
      · exact elements_of_ofNonempty h

theorem length_le_of_parse {text : String} (h : parse text = .ok s) : s.length ≤ text.toList.length := by
  have hread := congrArg List.length (tokenElements?_eq_some_iff.mp (read_of_parse h))
  rw [List.length_map, List.length_map] at hread
  rw [length, ← hread]
  exact (Text.runs_iff_words.mpr rfl).length_le

theorem Built.length_lt (h : s.Built) : s.length < 2 ^ 63 := by
  cases h with
  | parse text hlen h => exact Nat.lt_of_le_of_lt (length_le_of_parse h) hlen
  | bytes data h =>
    rw [length, elements_of_ofNonempty h, List.length_map]
    exact data.size_lt
  | masked data mask h =>
    rw [length, elements_of_ofBytesAndMask h, List.length_zipWith]
    exact Nat.lt_of_le_of_lt (Nat.min_le_left ..) data.size_lt
  | elements elements hlen h => rwa [length, elements_of_ofElements h]

/-- Of two signatures that were built, the second matches every window that the first matches just
    when it is no longer and, place by place, compares no bit that the first leaves free and asks
    for the first one's value in those it compares; and only equal ones match the same windows. -/
theorem subsumption_by_elements (ha : a.Built) (hb : b.Built) :
    ((∀ window : Bytes, a.matchesWindow window = true → b.matchesWindow window = true) ↔
      b.length ≤ a.length ∧ ∀ (j : Nat) (ea eb : Element), a.elements[j]? = some ea → b.elements[j]? = some eb →
        eb.mask &&& ea.mask = eb.mask ∧ ea.value &&& eb.mask = eb.value) ∧
    (a = b ↔ ∀ window : Bytes, a.matchesWindow window = b.matchesWindow window) := by
  constructor
  · rw [← refines_iff ha.length_lt]
    constructor
    · intro h
      refine ⟨h.length_le, fun j ea eb hea heb => ?_⟩
      have hj := h.elements j ea eb hea heb
      exact ⟨hj.mask, hj.value⟩
    · intro h
      refine ⟨h.1, fun j ea eb hea heb => ?_⟩
      have hj := h.2 j ea eb hea heb
      exact ⟨hj.1, hj.2⟩
  · constructor
    · intro h window
      rw [h]
    · intro h
      have hab : a.Refines b := (refines_iff ha.length_lt).mpr fun window hw => by rwa [← h window]
      have hba : b.Refines a := (refines_iff hb.length_lt).mpr fun window hw => by rwa [h window]
      exact hab.antisymm hba

/-- `48 8B ?5`, read from a text, and 48 with a byte that ends in two set bits, made from data with a
    mask: the second matches whatever the first matches, but not the other way round. -/
theorem subsumption_by_masked_pair : ∃ a b : Signature,
    parse (String.ofList ['4', '8', ' ', '8', 'B', ' ', '?', '5']) = .ok a ∧
    ofBytesAndMask [0x48, 0xFF] [0xFF, 0x03] = .ok b ∧
    (∀ window : Bytes, a.matchesWindow window = true → b.matchesWindow window = true) ∧
    ∃ window : Bytes, a.matchesWindow window ≠ b.matchesWindow window := by
  let a : Signature := ⟨[.byte 0x48, .byte 0x8B, .masked 0x05 0x0F], nofun⟩
  let b : Signature := ⟨[.byte 0x48, .masked 0x03 0x03], nofun⟩
  have hparse : parse (String.ofList ['4', '8', ' ', '8', 'B', ' ', '?', '5']) = .ok a := by
    rw [parse, String.toList_ofList]
    rfl
  have hmasked : ofBytesAndMask [0x48, 0xFF] [0xFF, 0x03] = .ok b := rfl
  have ha : a.Built := .parse _ (by rw [String.toList_ofList]; decide) hparse
  have hb : b.Built := .masked (.ofList [0x48, 0xFF]) (.ofList [0xFF, 0x03]) hmasked
  obtain ⟨hsub, heq⟩ := subsumption_by_elements ha hb
  have href : a.Refines b := by decide
  refine ⟨a, b, hparse, hmasked, hsub.mpr ⟨href.length_le, fun j ea eb hea heb => ?_⟩, ?_⟩
  · have h := href.elements j ea eb hea heb
    exact ⟨h.mask, h.value⟩
  · have hne : a ≠ b := by decide
    rw [Ne, heq] at hne
    exact Classical.not_forall.mp hne

end Signature

end SignatureSearch
