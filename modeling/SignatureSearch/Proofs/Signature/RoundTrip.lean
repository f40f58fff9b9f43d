/-
  SignatureSearch.Proofs.Signature.RoundTrip — what is written is read back.

  An element is written as a wildcard, as two halves or as eight bits, whichever its mask allows.
  Each form is a well-formed token that admits just the bytes the element matches, and elements
  that match the same bytes are equal, so nothing has to be said about how the reader computes.

  Proved:
  (1) The halves (`Element.half_admits_iff`) and the bits (`Element.bit_admits_iff`) of an element
      are written as digits that stand for them.
  (2) The written form of an element is well-formed and admits the bytes that the element matches
      (`Element.renderChars_wellFormed`, `Element.admits_renderChars_iff`), so it is read as the
      element (`Element.ofToken?_renderChars`).
  (3) Tokens with a space between two of them are split into those tokens (`Text.words_intercalate`),
      and the written form of a signature is read as its elements (`Signature.parse_render`).
-/

import SignatureSearch.Proofs.Signature.Grammar
import SignatureSearch.Signature.Printer

namespace SignatureSearch

/-! ## (1) Digits -/

theorem HexDigit.iff_eq {c : Char} {m n : Nat} (h : HexDigit c m) : HexDigit c n ↔ n = m := by
  constructor
  · exact fun hn => hn.unique h
  · rintro rfl
    exact h

theorem HexDigit.ne_open {c : Char} {n : Nat} (h : HexDigit c n) : c ≠ '?' := by
  rintro rfl
  have hnone : Text.digitValue? 16 '?' = none := by decide
  rw [hexDigit_iff_digitValue?, hnone] at h
  cases h

theorem HexDigit.not_blank {c : Char} {n : Nat} (h : HexDigit c n) : Text.isBlank c = false := by
  have hpass := h.passes (fun c => !Text.isBlank c) (by decide) (by decide)
  rwa [Bool.not_eq_true'] at hpass

namespace Element

theorem hexDigit_upperHexDigit {v : UInt8} (h : v.toNat < 16) : HexDigit (upperHexDigit v) v.toNat := by
  have hall : ∀ n < 16, upperDigits[n]? = some (upperHexDigit (UInt8.ofNat n)) := by decide
  have hv := hall v.toNat h
  rw [UInt8.ofNat_toNat] at hv
  exact .inr hv

/-- The half of a byte agrees with the digit, if there is one, as it does with the value under the
    mask. -/
theorem half_admits_iff {v m : UInt8} {n : Nat} (hm : wholeOrFree m = true) (hv : v.toNat &&& m.toNat = v.toNat)
    (hlt : v.toNat < 16) (hn : n < 2 ^ 4) :
    (nibbleChar v m ≠ '?' → HexDigit (nibbleChar v m) n) ↔ n &&& m.toNat = v.toNat := by
  rw [wholeOrFree, Bool.or_eq_true, beq_iff_eq, beq_iff_eq] at hm
  have hdigit := hexDigit_upperHexDigit hlt
  rcases hm with rfl | rfl
  · have hfull : n &&& (0xF : UInt8).toNat = n := Nat.and_two_pow_sub_one_of_lt_two_pow hn
    rw [hfull, nibbleChar, if_pos (beq_self_eq_true _), ← hdigit.iff_eq]
    exact ⟨fun h => h hdigit.ne_open, fun h _ => h⟩
  · have hfree : n &&& (0 : UInt8).toNat = 0 := Nat.and_zero n
    have hzero : v.toNat = 0 := by rw [← hv]; exact Nat.and_zero _
    rw [hfree, hzero, nibbleChar, if_neg (by decide)]
    exact ⟨fun _ => rfl, fun _ h => absurd rfl h⟩

theorem toNat_bit (v : UInt8) {i : Nat} (hi : i < 8) : (v >>> UInt8.ofNat i &&& 1).toNat = (v.toNat.testBit i).toNat := by
  have h : (UInt8.ofNat i).toNat % 8 = i := by rw [UInt8.toNat_ofNat']; omega
  rw [UInt8.toNat_and, UInt8.toNat_shiftRight, h, UInt8.toNat_one, Nat.and_one_is_mod, Nat.shiftRight_eq_div_pow,
    Nat.toNat_testBit]

theorem bitChar_eq (e : Element) {i : Nat} (hi : i < 8) : e.bitChar i =
    if e.mask.toNat.testBit i then if e.value.toNat.testBit i then '1' else '0' else '?' := by
  have hm : (e.mask >>> UInt8.ofNat i &&& 1 == 0) = !e.mask.toNat.testBit i := by
    rw [Bool.eq_iff_iff, beq_iff_eq, ← UInt8.toNat_inj, toNat_bit _ hi]
    cases e.mask.toNat.testBit i <;> decide
  have hv : (e.value >>> UInt8.ofNat i &&& 1 == 1) = e.value.toNat.testBit i := by
    rw [Bool.eq_iff_iff, beq_iff_eq, ← UInt8.toNat_inj, toNat_bit _ hi]
    cases e.value.toNat.testBit i <;> decide
  rw [bitChar, hm, hv]
  cases e.mask.toNat.testBit i <;> rfl

/-- The bit of a byte agrees with the digit, if there is one, as it does with the value if it is
    compared. -/
theorem bit_admits_iff (e : Element) {i : Nat} (hi : i < 8) (b : Nat) :
    (e.bitChar i ≠ '?' → HexDigit (e.bitChar i) (b / 2 ^ i % 2)) ↔
      (e.mask.toNat.testBit i = true → b.testBit i = e.value.toNat.testBit i) := by
  rw [bitChar_eq e hi, ← Nat.toNat_testBit]
  cases e.mask.toNat.testBit i with
  | false => exact ⟨fun _ h => absurd h Bool.false_ne_true, fun _ h => absurd rfl h⟩
  | true =>
    have hdigit : ∀ v : Bool, HexDigit (if v then '1' else '0') v.toNat := by
      intro v
      cases v
      · exact .inl rfl
      · exact .inl rfl
    have hv := hdigit (e.value.toNat.testBit i)
    rw [if_pos rfl, hv.iff_eq]
    constructor
    · exact fun h _ => by
        have heq := h hv.ne_open
        revert heq
        cases b.testBit i <;> cases e.value.toNat.testBit i <;> decide
    · exact fun h _ => congrArg Bool.toNat (h rfl)

/-! ## (2) Elements -/

theorem matchesByte_iff_halves (e : Element) (b : UInt8) : e.matchesByte b = true ↔
    b.toNat / 2 ^ 4 &&& e.mask.toNat / 2 ^ 4 = e.value.toNat / 2 ^ 4 ∧
    b.toNat % 2 ^ 4 &&& e.mask.toNat % 2 ^ 4 = e.value.toNat % 2 ^ 4 := by
  have hlt : ∀ n, n % 2 ^ 4 < 2 ^ 4 := fun n => Nat.mod_lt n (Nat.two_pow_pos 4)
  have hand := and_split (b.toNat / 2 ^ 4) (e.mask.toNat / 2 ^ 4) (hlt b.toNat) (hlt e.mask.toNat)
  rw [Nat.div_add_mod, Nat.div_add_mod] at hand
  rw [matchesByte, beq_iff_eq, ← UInt8.toNat_inj, UInt8.toNat_and, hand]
  conv => lhs; rhs; rw [← Nat.div_add_mod e.value.toNat (2 ^ 4)]
  exact digits_inj (Nat.lt_of_le_of_lt Nat.and_le_left (hlt _)) (hlt _)

theorem toNat_high (v : UInt8) : (v >>> 4).toNat = v.toNat / 2 ^ 4 := by
  rw [UInt8.toNat_shiftRight, Nat.shiftRight_eq_div_pow]
  rfl

theorem toNat_low (v : UInt8) : (v &&& 0xF).toNat = v.toNat % 2 ^ 4 := by
  rw [UInt8.toNat_and]
  exact Nat.and_two_pow_sub_one_eq_mod v.toNat 4

theorem renderChars_cases (e : Element) :
    (e.mask = 0 ∧ e.renderChars = ['?']) ∨
    (wholeOrFree (e.mask >>> 4) = true ∧ wholeOrFree (e.mask &&& 0xF) = true ∧
      e.renderChars = [nibbleChar (e.value >>> 4) (e.mask >>> 4), nibbleChar (e.value &&& 0xF) (e.mask &&& 0xF)]) ∨
    e.renderChars = [7, 6, 5, 4, 3, 2, 1, 0].map e.bitChar := by
  unfold renderChars
  simp only
  split
  · rename_i hw
    exact .inl ⟨beq_iff_eq.mp hw, rfl⟩
  · split
    · rename_i hn
      rw [Bool.and_eq_true] at hn
      exact .inr (.inl ⟨hn.1, hn.2, rfl⟩)
    · exact .inr (.inr rfl)

theorem nibbleChar_digit {v : UInt8} (h : v.toNat < 16) (m : UInt8) :
    nibbleChar v m = '?' ∨ ∃ n, HexDigit (nibbleChar v m) n := by
  unfold nibbleChar
  split
  · exact .inr ⟨_, hexDigit_upperHexDigit h⟩
  · exact .inl rfl

theorem bitChar_digit (e : Element) (i : Nat) : e.bitChar i = '?' ∨ e.bitChar i = '0' ∨ e.bitChar i = '1' := by
  unfold bitChar
  split
  · exact .inl rfl
  · split
    · exact .inr (.inr rfl)
    · exact .inr (.inl rfl)

theorem high_lt (v : UInt8) : (v >>> 4).toNat < 16 := by
  have hv := v.toNat_lt
  rw [toNat_high]
  omega

theorem low_lt (v : UInt8) : (v &&& 0xF).toNat < 16 := by
  rw [toNat_low]
  exact Nat.mod_lt _ (by decide)

theorem renderChars_wellFormed (e : Element) : Token.WellFormed e.renderChars := by
  rcases renderChars_cases e with ⟨-, h⟩ | ⟨-, -, h⟩ | h
  · exact .inl h
  · refine .inr (.inr (.inl ⟨by rw [h]; rfl, ?_⟩))
    rw [h, List.forall_mem_cons, List.forall_mem_singleton]
    exact ⟨nibbleChar_digit (high_lt _) _, nibbleChar_digit (low_lt _) _⟩
  · refine .inr (.inr (.inr ⟨by rw [h]; rfl, ?_⟩))
    rw [h]
    intro c hc
    obtain ⟨i, -, rfl⟩ := List.mem_map.mp hc
    exact bitChar_digit e i

theorem admits_pair (hi lo : Char) (b : UInt8) : Token.Admits [hi, lo] b ↔
    (hi ≠ '?' → HexDigit hi (b.toNat / 2 ^ 4)) ∧ (lo ≠ '?' → HexDigit lo (b.toNat % 2 ^ 4)) := by
  rw [Token.Admits, forall_getElem?_cons, forall_getElem?_cons]
  exact ⟨fun h => ⟨h.1, h.2.1⟩, fun h => ⟨h.1, h.2, nofun⟩⟩

theorem admits_bits (digit : Nat → Char) (b : UInt8) : Token.Admits ([7, 6, 5, 4, 3, 2, 1, 0].map digit) b ↔
    ∀ i < 8, digit i ≠ '?' → HexDigit (digit i) (b.toNat / 2 ^ i % 2) := by
  have hget : ∀ k < 8, ([7, 6, 5, 4, 3, 2, 1, 0].map digit)[k]? = some (digit (7 - k)) := by
    intro k hk
    have hall : ∀ k < 8, [7, 6, 5, 4, 3, 2, 1, 0][k]? = some (7 - k) := by decide
    rw [List.getElem?_map, hall k hk]
    rfl
  constructor
  · intro h i hi
    have hk := h (7 - i) _ (hget _ (by omega))
    rwa [List.length_map, digitAt, if_neg (by decide), show 7 - (7 - i) = i by omega] at hk
  · intro h k c hc
    have hk : k < 8 := (List.getElem?_eq_some_iff.mp hc).1
    rw [hget k hk] at hc
    obtain rfl := Option.some.inj hc
    exact h (7 - k) (by omega)

theorem admits_renderChars_iff (e : Element) (b : UInt8) : Token.Admits e.renderChars b ↔ e.matchesByte b = true := by
  rcases renderChars_cases e with ⟨hm, h⟩ | ⟨hhi, hlo, h⟩ | h
  · have hv : e.value = 0 := by rw [← e.value_masked, hm, UInt8.and_zero]
    rw [matchesByte, hm, hv, UInt8.and_zero, h, Token.Admits, forall_getElem?_cons]
    exact iff_of_true ⟨fun hne => absurd rfl hne, fun k c hc => by cases hc⟩ rfl
  · have hmasked := (matchesByte_iff_halves e e.value).mp e.matchesByte_value
    have hb := b.toNat_lt
    rw [← toNat_high, ← toNat_high, ← toNat_low, ← toNat_low] at hmasked
    rw [h, admits_pair, half_admits_iff hhi hmasked.1 (high_lt _) (by omega),
      half_admits_iff hlo hmasked.2 (low_lt _) (by omega), matchesByte_iff_halves, toNat_high, toNat_high,
      toNat_low, toNat_low]
  · rw [h, admits_bits, matchesByte_iff_bits]
    constructor
    · intro hbits i hm
      exact (bit_admits_iff e (lt_eight_of_testBit hm) b.toNat).mp (hbits i (lt_eight_of_testBit hm)) hm
    · intro hbits i hi
      exact (bit_admits_iff e hi b.toNat).mpr (hbits i)

/-- What is written for an element is read as the element. -/
theorem ofToken?_renderChars (e : Element) : ofToken? e.renderChars = some e := by
  obtain ⟨read, hread⟩ := Option.isSome_iff_exists.mp ((ofToken?_isSome_iff _).mpr e.renderChars_wellFormed)
  have heq : read = e := ext_of_matches fun b => by rw [matchesByte_of_ofToken? hread, admits_renderChars_iff]
  rw [hread, heq]

end Element

/-! ## (3) Signatures -/

theorem Token.WellFormed.ne_nil {token : List Char} (h : WellFormed token) : token ≠ [] := by
  rintro rfl
  rcases h with h | h | ⟨h, -⟩ | ⟨h, -⟩ <;> cases h

theorem Token.WellFormed.not_blank {token : List Char} (h : WellFormed token) :
    ∀ c ∈ token, Text.isBlank c = false := by
  intro c hc
  have hopen : Text.isBlank '?' = false := by decide
  have hzero : Text.isBlank '0' = false := by decide
  have hone : Text.isBlank '1' = false := by decide
  rcases h with rfl | rfl | ⟨-, h⟩ | ⟨-, h⟩
  · rw [List.mem_singleton.mp hc, hopen]
  · rw [List.eq_of_mem_replicate (n := 2) hc, hopen]
  · rcases h c hc with rfl | ⟨n, hn⟩
    · exact hopen
    · exact hn.not_blank
  · rcases h c hc with rfl | rfl | rfl
    · exact hopen
    · exact hzero
    · exact hone

namespace Text

/-- Tokens that a blank stands between are told apart again. -/
theorem words_intercalate {tokens : List (List Char)} (h : ∀ t ∈ tokens, t ≠ [] ∧ ∀ c ∈ t, isBlank c = false) :
    words ([' '].intercalate tokens) = tokens := by
  induction tokens with
  | nil => rfl
  | cons t rest ih =>
    have ht := h t (List.mem_cons_self ..)
    have hrest := ih fun t ht => h t (List.mem_cons_of_mem _ ht)
    cases rest with
    | nil =>
      have hone := @words_append t [] ht.1 ht.2 (fun c hc => by cases hc)
      rw [List.append_nil] at hone
      rw [List.intercalate_singleton]
      exact hone
    | cons u rest =>
      have hblank : ∀ c, (' ' :: [' '].intercalate (u :: rest)).head? = some c → isBlank c = true := by
        intro c hc
        obtain rfl : ' ' = c := Option.some.inj hc
        rfl
      rw [List.intercalate_cons_cons, List.append_assoc, List.singleton_append, words_append ht.1 ht.2 hblank,
        words_blank rfl, hrest]

end Text

namespace Signature

theorem words_renderChars (s : Signature) : Text.words s.renderChars = s.elements.map Element.renderChars := by
  refine Text.words_intercalate fun t ht => ?_
  obtain ⟨e, -, rfl⟩ := List.mem_map.mp ht
  exact ⟨e.renderChars_wellFormed.ne_nil, e.renderChars_wellFormed.not_blank⟩

theorem tokenElements?_render (s : Signature) : tokenElements? (Text.words s.render.toList) = some s.elements := by
  rw [render, String.toList_ofList, words_renderChars, tokenElements?_eq_some_iff, List.map_map]
  exact List.map_congr_left fun e _ => e.ofToken?_renderChars

/-- The words of what is written for a signature are read as its elements, so reading it gives the
    signature back if it has a fully known byte, and fails for want of one if not. -/
theorem parse_render (s : Signature) :
    tokenElements? (Text.words s.render.toList) = some s.elements ∧
    parse s.render = if ∃ e ∈ s.elements, e.mask = 0xFF then .ok s else .error .noByte := by
  refine ⟨s.tokenElements?_render, ?_⟩
  have hany : s.elements.any Element.isByte = true ↔ ∃ e ∈ s.elements, e.mask = 0xFF := by
    simp only [List.any_eq_true, Element.isByte, beq_iff_eq]
  rw [parse_of_read s.tokenElements?_render, ofElements_eq, dif_neg s.nonempty]
  simp only [hany]

end Signature

end SignatureSearch
