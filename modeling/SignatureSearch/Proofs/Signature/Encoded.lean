/-
  SignatureSearch.Proofs.Signature.Encoded — signatures in bytes that need not hold text.

  The reader wants text, so bytes are decoded as UTF-8 first, and what does not decode is refused as
  malformed. The bytes can also be taken one by one, each for the character of its number
  (`Text.ofBytes`). Characters beyond ASCII stand in no well-formed token, so it makes no difference.

  Proved:
  (1) Bytes hold a text when they are its encoding (`Text.decode?_eq_some_iff`); ASCII bytes hold the
      characters of their numbers (`Text.decode?_of_ascii`).
  (2) A text with a character beyond ASCII is malformed (`Signature.parseChars_of_beyond_ascii`).
  (3) Decoding bytes and reading the text comes to reading the bytes one by one
      (`Signature.parse_decoded`).
-/

import SignatureSearch.Proofs.Signature.Grammar
import SignatureSearch.Text.Utf8

namespace SignatureSearch

/-! ## (1) Bytes that hold text -/

namespace Text

/-- The bytes one by one, each as the character of its number. -/
def ofBytes (bytes : List UInt8) : List Char := bytes.map Char.ofUInt8

theorem decode?_eq_some_iff {bytes : List UInt8} {text : String} :
    decode? bytes = some text ↔ text.toList.flatMap String.utf8EncodeChar = bytes := by
  have hencode : text.toByteArray = (text.toList.flatMap String.utf8EncodeChar).toByteArray :=
    String.utf8Encode_toList.symm
  have hbytes : (⟨bytes.toArray⟩ : ByteArray) = bytes.toByteArray := ByteArray.ext List.data_toByteArray.symm
  rw [decode?, hbytes, String.fromUTF8?]
  constructor
  · intro h
    split at h
    · have htext : text.toByteArray = bytes.toByteArray := by rw [← Option.some.inj h]; rfl
      have hdata := congrArg (fun b : ByteArray => b.data.toList) (hencode.symm.trans htext)
      simpa only [List.data_toByteArray] using hdata
    · cases h
  · rintro rfl
    rw [dif_pos (hencode ▸ text.isValidUTF8), Option.some_inj, ← String.toByteArray_inj]
    exact hencode.symm

theorem encode_of_ascii {cs : List Char} (h : ∀ c ∈ cs, c.toNat < 128) :
    cs.flatMap String.utf8EncodeChar = cs.map Char.toUInt8 := by
  induction cs with
  | nil => rfl
  | cons c cs ih =>
    have hsize : c.utf8Size = 1 := by
      rw [Char.utf8Size_eq_one_iff, UInt32.le_iff_toNat_le]
      exact Nat.le_of_lt_succ (h c (List.mem_cons_self ..))
    rw [List.flatMap_cons, String.utf8EncodeChar_eq_singleton hsize, ih fun d hd => h d (List.mem_cons_of_mem _ hd)]
    rfl

theorem toNat_ofUInt8 (b : UInt8) : (Char.ofUInt8 b).toNat = b.toNat := UInt8.toNat_toUInt32 b

theorem decode?_of_ascii {bytes : List UInt8} (h : ∀ b ∈ bytes, b.toNat < 128) :
    decode? bytes = some (String.ofList (ofBytes bytes)) := by
  have hchars : ∀ c ∈ ofBytes bytes, c.toNat < 128 := by
    intro c hc
    obtain ⟨b, hb, rfl⟩ := List.mem_map.mp hc
    rw [toNat_ofUInt8]
    exact h b hb
  rw [decode?_eq_some_iff, String.toList_ofList, encode_of_ascii hchars, ofBytes, List.map_map]
  refine (List.map_congr_left fun b _ => ?_).trans (List.map_id bytes)
  exact UInt8.toUInt8_toUInt32 b

/-! ## (2) Characters beyond ASCII -/

theorem Runs.mem_token {tokens : List (List Char)} {text : List Char} (h : Runs tokens text) {c : Char}
    (hmem : c ∈ text) (hc : isBlank c = false) : ∃ t ∈ tokens, c ∈ t := by
  induction h with
  | nil => cases hmem
  | blank b rest tokens hb _ ih =>
    rcases List.mem_cons.mp hmem with rfl | hmem
    · rw [hb] at hc
      cases hc
    · exact ih hmem
  | token t rest tokens _ _ _ _ ih =>
    rcases List.mem_append.mp hmem with hmem | hmem
    · exact ⟨t, List.mem_cons_self .., hmem⟩
    · obtain ⟨u, hu, hcu⟩ := ih hmem
      exact ⟨u, List.mem_cons_of_mem _ hu, hcu⟩

theorem isBlank_of_beyond_ascii {c : Char} (hc : 128 ≤ c.toNat) : isBlank c = false := by
  rw [← Bool.not_eq_true]
  intro h
  simp only [isBlank, Bool.or_eq_true, decide_eq_true_eq] at h
  rcases h with (((rfl | rfl) | rfl) | rfl) | rfl <;> exact absurd hc (by decide)

end Text

theorem Token.WellFormed.ascii {token : List Char} (h : WellFormed token) : ∀ c ∈ token, c.toNat < 128 := by
  intro c hc
  have hopen : '?'.toNat < 128 := by decide
  rcases h with rfl | rfl | ⟨-, h⟩ | ⟨-, h⟩
  · rw [List.mem_singleton.mp hc]
    exact hopen
  · rw [List.eq_of_mem_replicate (n := 2) hc]
    exact hopen
  · rcases h c hc with rfl | ⟨n, hn⟩
    · exact hopen
    · exact of_decide_eq_true (hn.passes (fun c => c.toNat < 128) (by decide) (by decide))
  · rcases h c hc with rfl | rfl | rfl
    · exact hopen
    · decide
    · decide

namespace Signature

theorem parse_ofList (text : List Char) : parse (String.ofList text) = parseChars text := by
  rw [parse, String.toList_ofList]

theorem parseChars_of_beyond_ascii {text : List Char} {c : Char} (hmem : c ∈ text) (hc : 128 ≤ c.toNat) :
    parseChars text = .error .invalid := by
  have hruns : Text.Runs (Text.words text) text := Text.runs_iff_words.mpr rfl
  obtain ⟨t, ht, hct⟩ := hruns.mem_token hmem (Text.isBlank_of_beyond_ascii hc)
  rw [← parse_ofList]
  refine parse_of_malformed fun hall => ?_
  rw [String.toList_ofList] at hall
  exact absurd ((hall t ht).ascii c hct) (by omega)

/-! ## (3) Bytes read one by one -/

/-- Bytes that hold no text are malformed when read one by one, and the text of others is read like
    the bytes. -/
theorem parse_decoded (bytes : List UInt8) :
    (match Text.decode? bytes with
      | none => .error .invalid
      | some text => parse text) = parseChars (Text.ofBytes bytes) := by
  by_cases h : ∀ b ∈ bytes, b.toNat < 128
  · rw [Text.decode?_of_ascii h]
    exact parse_ofList _
  · obtain ⟨b, hb, hlarge⟩ : ∃ b ∈ bytes, 128 ≤ b.toNat := by simpa using h
    have hmem : Char.ofUInt8 b ∈ Text.ofBytes bytes := List.mem_map_of_mem hb
    rw [parseChars_of_beyond_ascii hmem (by rw [Text.toNat_ofUInt8]; exact hlarge)]
    split
    · rfl
    · rename_i text htext
      have hbeyond : ∃ c ∈ text.toList, 128 ≤ c.toNat := by
        refine Classical.byContradiction fun hsmall => ?_
        have hno : ∀ c ∈ text.toList, c.toNat < 128 := by simpa using hsmall
        rw [Text.decode?_eq_some_iff, Text.encode_of_ascii hno] at htext
        rw [← htext] at hb
        obtain ⟨c, hc, rfl⟩ := List.mem_map.mp hb
        have hsmall := hno c hc
        have hcode : c.toUInt8.toNat = c.toNat % 256 := UInt32.toNat_toUInt8 c.val
        omega
      obtain ⟨c, hc, hlarge⟩ := hbeyond
      exact parseChars_of_beyond_ascii hc hlarge

end Signature

end SignatureSearch
