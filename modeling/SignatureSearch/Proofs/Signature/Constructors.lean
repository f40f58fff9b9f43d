/-
  SignatureSearch.Proofs.Signature.Constructors — the ways to build a signature agree.

  Data with a mask (`from_bytes_and_mask`), a list of elements (`from_elements`), data alone
  (`from_bytes`) and text (`parse`) are each checked by code of their own, in an order of its own. Data
  with a mask asks that some bit be compared, and a list of elements that some byte be fully known, so
  they part over masks with bits but no full byte (`NoneFull`).

  Proved:
  (1) Data with a mask is refused for its lengths, then for want of bytes, then for want of bits
      (`ofBytesAndMask_outcome`), and makes the elements of the bytes under their masks.
  (2) With a mask of its length, data makes the same as those elements listed, but for a mask with bits
      and no full byte (`ofBytesAndMask_eq_ofElements`, `ofElements_noneFull`).
  (3) Text that spells bytes in digits (`Text.Spells`) is read as those bytes (`Text.Spells.read`).
  (4) The constructors agree (`constructors_agree`).
-/

import SignatureSearch.Proofs.Scan.Excerpt
import SignatureSearch.Proofs.Signature.RoundTrip

namespace SignatureSearch

/-- Some bit of the mask is set, and no byte of it has all bits set. -/
structure NoneFull (mask : List UInt8) : Prop where
  bit : ∃ m ∈ mask, m ≠ 0
  none_full : ∀ m ∈ mask, m ≠ 0xFF

namespace Signature

variable {data mask : List UInt8}

/-! ## (1) Data with a mask -/

/-- The outcomes of data with a mask, each with what it takes; no two of them go together. -/
theorem ofBytesAndMask_outcome (data mask : List UInt8) :
    (ofBytesAndMask data mask = .error .lengthMismatch ∧ data.length ≠ mask.length) ∨
    (ofBytesAndMask data mask = .error .empty ∧ data = [] ∧ mask = []) ∨
    (ofBytesAndMask data mask = .error .noByte ∧ data.length = mask.length ∧ data ≠ [] ∧ ∀ m ∈ mask, m = 0) ∨
    (∃ s, ofBytesAndMask data mask = .ok s ∧ s.elements = List.zipWith Element.masked data mask) ∧
      data.length = mask.length ∧ data ≠ [] ∧ ∃ m ∈ mask, m ≠ 0 := by
  by_cases hlength : data.length = mask.length
  · by_cases hdata : data = []
    · subst hdata
      obtain rfl : mask = [] := List.length_eq_zero_iff.mp hlength.symm
      exact .inr (.inl ⟨rfl, rfl, rfl⟩)
    · by_cases hbit : ∃ m ∈ mask, m ≠ 0
      · obtain ⟨s, hs⟩ := exists_ofBytesAndMask hlength hbit
        exact .inr (.inr (.inr ⟨⟨s, hs, elements_of_ofBytesAndMask hs⟩, hlength, hdata, hbit⟩))
      · have hzero : ∀ m ∈ mask, m = 0 := by simpa using hbit
        have hall : mask.all (· == 0) = true := by simpa using hzero
        refine .inr (.inr (.inl ⟨?_, hlength, hdata, hzero⟩))
        rw [ofBytesAndMask, if_neg (not_not_intro hlength), if_neg hdata, if_pos hall]
  · exact .inl ⟨if_pos hlength, hlength⟩

/-! ## (2) Elements under masks -/

theorem any_isByte_zipWith (hlength : data.length = mask.length) :
    (List.zipWith Element.masked data mask).any Element.isByte = true ↔ 0xFF ∈ mask := by
  induction data generalizing mask with
  | nil =>
    obtain rfl : mask = [] := List.length_eq_zero_iff.mp hlength.symm
    simp
  | cons d data ih =>
    cases mask with
    | nil => cases hlength
    | cons m mask =>
      have hrest := ih (Nat.succ.inj hlength)
      have hfirst : (Element.masked d m).isByte = true ↔ 0xFF = m := beq_iff_eq.trans eq_comm
      rw [List.zipWith_cons_cons, List.any_cons, Bool.or_eq_true, hfirst, hrest, List.mem_cons]

theorem zipWith_eq_nil_iff (hlength : data.length = mask.length) :
    List.zipWith Element.masked data mask = [] ↔ data = [] := by
  rw [List.zipWith_eq_nil_iff]
  constructor
  · intro h
    rcases h with h | h
    · exact h
    · exact List.length_eq_zero_iff.mp (hlength.trans (List.length_eq_zero_iff.mpr h))
  · exact .inl

theorem ofElements_zipWith (hlength : data.length = mask.length) (hdata : data ≠ []) :
    ofElements (List.zipWith Element.masked data mask) =
      if 0xFF ∈ mask then ofNonempty (List.zipWith Element.masked data mask) else .error .noByte := by
  have hpairs : List.zipWith Element.masked data mask ≠ [] := by rwa [ne_eq, zipWith_eq_nil_iff hlength]
  rw [ofElements, if_neg hpairs]
  simp only [any_isByte_zipWith hlength]

theorem ofElements_noneFull (hlength : data.length = mask.length) (h : NoneFull mask) :
    ofElements (List.zipWith Element.masked data mask) = .error .noByte := by
  obtain ⟨m, hm, -⟩ := h.bit
  have hdata : data ≠ [] := by
    rintro rfl
    have hpos := List.length_pos_of_mem hm
    rw [← hlength] at hpos
    exact absurd hpos (Nat.lt_irrefl 0)
  rw [ofElements_zipWith hlength hdata, if_neg]
  exact fun hfull => h.none_full _ hfull rfl

theorem ofNonempty_elements (s : Signature) : ofNonempty s.elements = .ok s := dif_neg s.nonempty

theorem ofBytesAndMask_eq_ofElements (hlength : data.length = mask.length) (h : ¬NoneFull mask) :
    ofBytesAndMask data mask = ofElements (List.zipWith Element.masked data mask) := by
  rcases ofBytesAndMask_outcome data mask with ⟨-, hne⟩ | ⟨-, rfl, rfl⟩ | ⟨hresult, -, hdata, hzero⟩ |
    ⟨⟨s, hs, helements⟩, -, hdata, hbit⟩
  · exact absurd hlength hne
  · rfl
  · have hnone : 0xFF ∉ mask := fun hfull => absurd (hzero _ hfull) (by decide)
    rw [hresult, ofElements_zipWith hlength hdata, if_neg hnone]
  · rw [hs, ofElements_zipWith hlength hdata]
    by_cases hfull : 0xFF ∈ mask
    · rw [if_pos hfull, ← helements, ofNonempty_elements]
    · exact absurd ⟨hbit, fun m hm e => hfull (e ▸ hm)⟩ h

theorem ofBytesAndMask_full (data : List UInt8) :
    ofBytesAndMask data (List.replicate data.length 0xFF) = ofBytes data := by
  by_cases hdata : data = []
  · subst hdata
    rfl
  · have hlength : data.length = (List.replicate data.length (0xFF : UInt8)).length := List.length_replicate.symm
    have hbit : ¬(List.replicate data.length (0xFF : UInt8)).all (· == 0) = true := by
      simpa using hdata
    rw [ofBytesAndMask, if_neg (not_not_intro hlength), if_neg hdata, if_neg hbit, ofBytes, map_byte_eq]

end Signature

/-! ## (3) Bytes in digits -/

/-- The text is the bytes in order, each in two digits of either case, with one blank or more between
    two of them, and any around them. -/
inductive Text.Spells : List UInt8 → List Char → Prop
  | nil : Spells [] []
  | blank (c : Char) (data : List UInt8) (text : List Char) :
      isBlank c = true → Spells data text → Spells data (c :: text)
  | byte (b : UInt8) (hi lo : Char) (data : List UInt8) (text : List Char) :
      HexDigit hi (b.toNat / 16) → HexDigit lo (b.toNat % 16) → (∀ c, text.head? = some c → isBlank c = true) →
      Spells data text → Spells (b :: data) (hi :: lo :: text)

theorem Element.ofToken?_of_digits {b : UInt8} {hi lo : Char} (hhi : HexDigit hi (b.toNat / 16))
    (hlo : HexDigit lo (b.toNat % 16)) : ofToken? [hi, lo] = some (byte b) := by
  have hwell : Token.WellFormed [hi, lo] := by
    refine .inr (.inr (.inl ⟨rfl, ?_⟩))
    rw [List.forall_mem_cons, List.forall_mem_singleton]
    exact ⟨.inr ⟨_, hhi⟩, .inr ⟨_, hlo⟩⟩
  obtain ⟨read, hread⟩ := Option.isSome_iff_exists.mp ((ofToken?_isSome_iff _).mpr hwell)
  rw [hread, Option.some_inj]
  refine ext_of_matches fun x => ?_
  have hfull : (byte b).matchesByte x = true ↔ x = b := by
    rw [matchesByte_iff]
    show x &&& -1 = b &&& -1 ↔ x = b
    rw [UInt8.and_neg_one, UInt8.and_neg_one]
  have hhalves : x = b ↔ x.toNat / 16 = b.toNat / 16 ∧ x.toNat % 16 = b.toNat % 16 := by
    rw [← UInt8.toNat_inj]
    omega
  rw [matchesByte_of_ofToken? hread, admits_pair, hfull, hhalves]
  constructor
  · intro h
    exact ⟨(h.1 hhi.ne_open).unique hhi, (h.2 hlo.ne_open).unique hlo⟩
  · intro h
    refine ⟨fun _ => ?_, fun _ => ?_⟩
    · exact h.1 ▸ hhi
    · exact h.2 ▸ hlo

theorem Text.Spells.read {data : List UInt8} {text : List Char} (h : Spells data text) :
    Signature.tokenElements? (words text) = some (data.map Element.byte) := by
  induction h with
  | nil => rfl
  | blank c data text hc _ ih => rw [words_blank hc, ih]
  | byte b hi lo data text hhi hlo hend _ ih =>
    have hfree : ∀ c ∈ [hi, lo], isBlank c = false := by
      rw [List.forall_mem_cons, List.forall_mem_singleton]
      exact ⟨hhi.not_blank, hlo.not_blank⟩
    have hwords : words (hi :: lo :: text) = [hi, lo] :: words text := words_append (t := [hi, lo]) nofun hfree hend
    rw [hwords, Signature.tokenElements?_cons, Element.ofToken?_of_digits hhi hlo, ih]
    rfl

theorem Signature.ofElements_map_byte (data : List UInt8) : ofElements (data.map Element.byte) = ofBytes data := by
  cases data with
  | nil => rfl
  | cons b data => rfl

theorem Text.exists_spells (data : List UInt8) : ∃ text, Spells data text := by
  induction data with
  | nil => exact ⟨[], .nil⟩
  | cons b data ih =>
    obtain ⟨text, h⟩ := ih
    have hhi := Element.hexDigit_upperHexDigit (Element.high_lt b)
    have hlo := Element.hexDigit_upperHexDigit (Element.low_lt b)
    rw [Element.toNat_high] at hhi
    rw [Element.toNat_low] at hlo
    refine ⟨_, .byte b _ _ data (' ' :: text) hhi hlo ?_ (.blank ' ' data text rfl h)⟩
    intro c hc
    obtain rfl : ' ' = c := Option.some.inj hc
    rfl

/-! ## (4) The constructors together -/

namespace Signature

/-- For all data and every mask: together they are refused just when their lengths differ, else when
    there is no data, else when the mask has no bit, and make a signature else. If the lengths are equal,
    the elements of the bytes under their masks, listed, make the same just when the mask is not one that
    has bits and is nowhere full, which makes a signature of those elements while they are refused. And
    the data alone, the data with a mask of all bits, and any text that spells the data make the same. -/
theorem constructors_agree (data mask : List UInt8) :
    (ofBytesAndMask data mask = .error .lengthMismatch ↔ data.length ≠ mask.length) ∧
    (ofBytesAndMask data mask = .error .empty ↔ data = [] ∧ mask = []) ∧
    (ofBytesAndMask data mask = .error .noByte ↔ data.length = mask.length ∧ data ≠ [] ∧ ∀ m ∈ mask, m = 0) ∧
    ((∃ s, ofBytesAndMask data mask = .ok s) ↔ data.length = mask.length ∧ data ≠ [] ∧ ∃ m ∈ mask, m ≠ 0) ∧
    (data.length = mask.length →
      (ofBytesAndMask data mask = ofElements (List.zipWith Element.masked data mask) ↔ ¬NoneFull mask) ∧
      (NoneFull mask →
        (∃ s, ofBytesAndMask data mask = .ok s ∧ s.elements = List.zipWith Element.masked data mask) ∧
        ofElements (List.zipWith Element.masked data mask) = .error .noByte)) ∧
    ofBytesAndMask data (List.replicate data.length 0xFF) = ofBytes data ∧
    (∃ text : String, Text.Spells data text.toList) ∧
    ∀ text : String, Text.Spells data text.toList → parse text = ofBytes data := by
  have outcome := ofBytesAndMask_outcome data mask
  have parted : data.length = mask.length → NoneFull mask →
      (∃ s, ofBytesAndMask data mask = .ok s ∧ s.elements = List.zipWith Element.masked data mask) ∧
      ofElements (List.zipWith Element.masked data mask) = .error .noByte := by
    intro hlength hnone
    obtain ⟨s, hs⟩ := exists_ofBytesAndMask hlength hnone.bit
    exact ⟨⟨s, hs, elements_of_ofBytesAndMask hs⟩, ofElements_noneFull hlength hnone⟩
  refine ⟨?_, ?_, ?_, ?_, ?_, ofBytesAndMask_full data, ?_, ?_⟩
  · grind
  · grind
  · grind
  · grind
  · intro hlength
    refine ⟨?_, parted hlength⟩
    constructor
    · intro hsame hnone
      obtain ⟨⟨s, hs, -⟩, hrefused⟩ := parted hlength hnone
      rw [hs, hrefused] at hsame
      cases hsame
    · exact ofBytesAndMask_eq_ofElements hlength
  · obtain ⟨text, h⟩ := Text.exists_spells data
    refine ⟨String.ofList text, ?_⟩
    rwa [String.toList_ofList]
  · intro text h
    rw [parse_of_read h.read, ofElements_map_byte]

/-- Half a byte is enough under a mask and not in a list, and digits may be of either case. -/
theorem constructors_agree_on_two_bytes :
    (∃ s, ofBytesAndMask [0x48, 0x8B] [0xF0, 0x00] = .ok s) ∧
    ofElements [.masked 0x48 0xF0, .masked 0x8B 0x00] = .error .noByte ∧
    parse " 48\t\n8b" = ofBytes [0x48, 0x8B] := by
  obtain ⟨-, -, -, -, parted, -, -, spelled⟩ := constructors_agree [0x48, 0x8B] [0xF0, 0x00]
  have hmask : NoneFull [0xF0, 0x00] := ⟨⟨0xF0, by decide, by decide⟩, by simp⟩
  obtain ⟨⟨s, hs, -⟩, hrefused⟩ := (parted rfl).2 hmask
  refine ⟨⟨s, hs⟩, hrefused, spelled _ ?_⟩
  have last : Text.Spells [0x8B] ['8', 'b'] := .byte 0x8B '8' 'b' [] [] (.inl rfl) (.inl rfl) nofun .nil
  have blanks : Text.Spells [0x8B] ['\t', '\n', '8', 'b'] := .blank _ _ _ rfl (.blank _ _ _ rfl last)
  exact .blank _ _ _ rfl (.byte 0x48 '4' '8' _ _ (.inl rfl) (.inl rfl) (fun c hc => Option.some.inj hc ▸ rfl) blanks)

end Signature

end SignatureSearch
