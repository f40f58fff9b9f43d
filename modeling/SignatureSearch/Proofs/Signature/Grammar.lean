/-
  SignatureSearch.Proofs.Signature.Grammar — what the reader accepts, and what it reads.

  The grammar is stated apart from the reader. The tokens of a text are its maximal runs of characters
  that are no blanks (`Text.Runs`). A token (`parse_token`) is well-formed when it is a wildcard, two
  digits or eight bits, each of which may be a `?` (`Token.WellFormed`), and a byte satisfies it when
  every digit that is given is the one at that place in the byte (`Token.Admits`).

  Proved:
  (1) Every text has just one list of tokens, and the reader splits it into those
      (`Text.runs_iff_words`).
  (2) Exactly the well-formed tokens are read (`Element.ofToken?_isSome_iff`), as elements that the
      bytes they admit satisfy (`Element.matchesByte_of_ofToken?`), and that are fully known when
      every digit is given (`Element.isByte_of_ofToken?`).
  (3) The reader rejects and accepts as the grammar does, a malformed token before all else, and
      gives one element a token, with the token's meaning (`Signature.parse_follows_grammar`).
-/

import SignatureSearch.Proofs.Signature.Element
import SignatureSearch.Signature.Parser

namespace SignatureSearch

/-! ## (1) Tokens -/

namespace Text

/-- The tokens are the maximal runs of the text that hold no blank, in order: between and around
    them are blanks alone, and behind each comes a blank or the end. -/
inductive Runs : List (List Char) → List Char → Prop
  | nil : Runs [] []
  | blank (c : Char) (rest : List Char) (tokens : List (List Char)) : isBlank c = true → Runs tokens rest →
      Runs tokens (c :: rest)
  | token (t rest : List Char) (tokens : List (List Char)) : t ≠ [] → (∀ c ∈ t, isBlank c = false) →
      (∀ c, rest.head? = some c → isBlank c = true) → Runs tokens rest → Runs (t :: tokens) (t ++ rest)

theorem wordsFrom_blank {c : Char} (h : isBlank c = true) (word rest : List Char) :
    wordsFrom word (c :: rest) = if word.isEmpty then words rest else word :: words rest := by
  rw [wordsFrom, if_pos h, words]

theorem words_blank {c : Char} (h : isBlank c = true) (rest : List Char) : words (c :: rest) = words rest := by
  rw [words, wordsFrom_blank h, if_pos List.isEmpty_nil]

theorem wordsFrom_append (word t rest : List Char) (h : ∀ c ∈ t, isBlank c = false) :
    wordsFrom word (t ++ rest) = wordsFrom (word ++ t) rest := by
  induction t generalizing word with
  | nil => rw [List.nil_append, List.append_nil]
  | cons c t ih =>
    have hc : ¬isBlank c = true := by rw [h c (List.mem_cons_self ..)]; exact Bool.false_ne_true
    rw [List.cons_append, wordsFrom, if_neg hc, ih _ fun x hx => h x (List.mem_cons_of_mem _ hx),
      List.append_assoc, List.singleton_append]

theorem words_append {t rest : List Char} (hne : t ≠ []) (hfree : ∀ c ∈ t, isBlank c = false)
    (hend : ∀ c, rest.head? = some c → isBlank c = true) : words (t ++ rest) = t :: words rest := by
  have he : ¬t.isEmpty = true := fun e => hne (List.isEmpty_iff.mp e)
  rw [words, wordsFrom_append _ _ _ hfree, List.nil_append]
  cases rest with
  | nil => rw [wordsFrom, if_neg he]; rfl
  | cons c rest =>
    have hc := hend c rfl
    rw [wordsFrom_blank hc, if_neg he, words_blank hc]

theorem Runs.words_eq {tokens : List (List Char)} {text : List Char} (h : Runs tokens text) : words text = tokens := by
  induction h with
  | nil => rfl
  | blank c rest tokens hc _ ih => rw [words_blank hc, ih]
  | token t rest tokens hne hfree hend _ ih => rw [words_append hne hfree hend, ih]

/-- What is left of a text once its first word has been read up to `word`. -/
theorem runs_wordsFrom (text : List Char) : ∀ word : List Char, (∀ c ∈ word, isBlank c = false) →
    Runs (wordsFrom word text) (word ++ text) := by
  induction text with
  | nil =>
    intro word hfree
    rw [wordsFrom]
    split
    · rename_i he
      rw [List.isEmpty_iff.mp he]
      exact .nil
    · rename_i he
      exact .token word [] [] (fun e => he (List.isEmpty_iff.mpr e)) hfree (fun c h => by cases h) .nil
  | cons c rest ih =>
    intro word hfree
    by_cases hc : isBlank c = true
    · have hrest : Runs (words rest) (c :: rest) := .blank c rest _ hc (ih [] (fun x hx => by cases hx))
      rw [wordsFrom_blank hc]
      split
      · rename_i he
        rw [List.isEmpty_iff.mp he]
        exact hrest
      · rename_i he
        refine .token word (c :: rest) _ (fun e => he (List.isEmpty_iff.mpr e)) hfree (fun x hx => ?_) hrest
        obtain rfl : c = x := Option.some.inj hx
        exact hc
    · have hw : ∀ x ∈ word ++ [c], isBlank x = false := by
        intro x hx
        rcases List.mem_append.mp hx with hx | hx
        · exact hfree x hx
        · rw [List.mem_singleton.mp hx]
          exact Bool.eq_false_iff.mpr hc
      have hrun := ih (word ++ [c]) hw
      rw [List.append_assoc, List.singleton_append] at hrun
      rw [wordsFrom, if_neg hc]
      exact hrun

/-- A text has just one list of tokens: its words. -/
theorem runs_iff_words {tokens : List (List Char)} {text : List Char} : Runs tokens text ↔ tokens = words text := by
  constructor
  · exact fun h => h.words_eq.symm
  · rintro rfl
    exact runs_wordsFrom text [] (fun c hc => by cases hc)

end Text

/-! ## (2) What a token stands for -/

def lowerDigits : List Char := ['0', '1', '2', '3', '4', '5', '6', '7', '8', '9', 'a', 'b', 'c', 'd', 'e', 'f']

def upperDigits : List Char := ['0', '1', '2', '3', '4', '5', '6', '7', '8', '9', 'A', 'B', 'C', 'D', 'E', 'F']

/-- The character is the hexadecimal digit of value `n`, in either case. -/
def HexDigit (c : Char) (n : Nat) : Prop := lowerDigits[n]? = some c ∨ upperDigits[n]? = some c

/-- The digit at place `k` from the left of a byte written in `count` digits: a half of the byte if
    there are two of them, a bit if there are eight. -/
def digitAt (count k : Nat) (b : UInt8) : Nat :=
  if count = 2 then if k = 0 then b.toNat / 16 else b.toNat % 16
  else b.toNat / 2 ^ (7 - k) % 2

namespace Token

/-- A wildcard, two hexadecimal digits or eight bits, each of them given or left open. -/
def WellFormed (token : List Char) : Prop :=
  token = ['?'] ∨ token = ['?', '?'] ∨
  (token.length = 2 ∧ ∀ c ∈ token, c = '?' ∨ ∃ n, HexDigit c n) ∨
  (token.length = 8 ∧ ∀ c ∈ token, c = '?' ∨ c = '0' ∨ c = '1')

/-- Every digit is given. -/
def FullyKnown (token : List Char) : Prop := '?' ∉ token

instance (token : List Char) : Decidable (FullyKnown token) := inferInstanceAs (Decidable ('?' ∉ token))

/-- Every digit that is given is the one at its place in the byte. -/
def Admits (token : List Char) (b : UInt8) : Prop :=
  ∀ k c, token[k]? = some c → c ≠ '?' → HexDigit c (digitAt token.length k b)

end Token

theorem HexDigit.lt {c : Char} {n : Nat} (h : HexDigit c n) : n < 16 := by
  rcases h with h | h <;> exact (List.getElem?_eq_some_iff.mp h).1

theorem HexDigit.passes {c : Char} {n : Nat} (h : HexDigit c n) (test : Char → Bool)
    (hlower : lowerDigits.all test = true) (hupper : upperDigits.all test = true) : test c = true := by
  rcases h with h | h
  · exact List.all_eq_true.mp hlower c (List.mem_of_getElem? h)
  · exact List.all_eq_true.mp hupper c (List.mem_of_getElem? h)

/-! ### Digits -/

theorem digitValue?_lowerDigits : ∀ n < 16, lowerDigits[n]?.bind (Text.digitValue? 16) = some n := by decide

theorem digitValue?_upperDigits : ∀ n < 16, upperDigits[n]?.bind (Text.digitValue? 16) = some n := by decide

/-- A character of a run of consecutive ones stands at its distance from the first of them. -/
theorem getElem?_of_run {digits : List Char} {c : Char} (first shift width : Nat)
    (h : ∀ k < width, digits[k + shift]? = some (Char.ofNat (first + k)))
    (h1 : first ≤ c.toNat) (h2 : c.toNat < first + width) : digits[c.toNat - first + shift]? = some c := by
  rw [h _ (by omega), Nat.add_sub_cancel' h1, Char.ofNat_toNat]

theorem char_le_iff {a b : Char} : a ≤ b ↔ a.toNat ≤ b.toNat := Iff.rfl

theorem hexDigit_iff_digitValue? {c : Char} {n : Nat} : HexDigit c n ↔ Text.digitValue? 16 c = some n := by
  constructor
  · intro h
    have hn := h.lt
    rcases h with h | h
    · simpa only [h, Option.bind_some] using digitValue?_lowerDigits n hn
    · simpa only [h, Option.bind_some] using digitValue?_upperDigits n hn
  · intro h
    simp only [Text.digitValue?, Option.filter_eq_some_iff, char_le_iff, Char.reduceToNat] at h
    obtain ⟨h, -⟩ := h
    split at h
    · obtain rfl := Option.some.inj h
      exact .inl (getElem?_of_run 48 0 10 (by decide) (by omega) (by omega))
    · split at h
      · obtain rfl := Option.some.inj h
        rw [show c.toNat - 87 = c.toNat - 97 + 10 by omega]
        exact .inl (getElem?_of_run 97 10 6 (by decide) (by omega) (by omega))
      · split at h
        · obtain rfl := Option.some.inj h
          rw [show c.toNat - 55 = c.toNat - 65 + 10 by omega]
          exact .inr (getElem?_of_run 65 10 6 (by decide) (by omega) (by omega))
        · cases h

theorem HexDigit.unique {c : Char} {m n : Nat} (hm : HexDigit c m) (hn : HexDigit c n) : m = n := by
  rw [hexDigit_iff_digitValue?] at hm hn
  exact Option.some.inj (hm.symm.trans hn)

theorem digitValue?_eq_some_iff {base n : Nat} (hb : base ≤ 16) {c : Char} :
    Text.digitValue? base c = some n ↔ HexDigit c n ∧ n < base := by
  have key : Text.digitValue? base c = (Text.digitValue? 16 c).filter (· < base) := by
    simp only [Text.digitValue?, Option.filter_filter]
    congr 1
    funext d
    rw [← Bool.decide_and, decide_eq_decide]
    omega
  rw [key, Option.filter_eq_some_iff, hexDigit_iff_digitValue?, decide_eq_true_iff]

/-! ### Numbers in digits to base `2 ^ w` -/

section Digits

variable {w A B a b X M V d : Nat}

theorem digits_inj (ha : a < 2 ^ w) (hb : b < 2 ^ w) : 2 ^ w * A + a = 2 ^ w * B + b ↔ A = B ∧ a = b := by
  constructor
  · intro h
    have hdiv := congrArg (· / 2 ^ w) h
    have hmod := congrArg (· % 2 ^ w) h
    simp only [Nat.mul_add_div (Nat.two_pow_pos w), Nat.div_eq_of_lt ha, Nat.div_eq_of_lt hb, Nat.add_zero] at hdiv
    simp only [Nat.mul_add_mod, Nat.mod_eq_of_lt ha, Nat.mod_eq_of_lt hb] at hmod
    exact ⟨hdiv, hmod⟩
  · rintro ⟨rfl, rfl⟩; rfl

theorem and_of_digits (hb : b < 2 ^ w) : X &&& (2 ^ w * B + b) = 2 ^ w * (X / 2 ^ w &&& B) + (X % 2 ^ w &&& b) := by
  have h := and_split (X / 2 ^ w) B (Nat.mod_lt X (Nat.two_pow_pos w)) hb
  rwa [Nat.div_add_mod] at h

/-- Under a mask whose last digit is open, the last digits do not count. -/
theorem masked_eq_open : X &&& (2 ^ w * M) = (2 ^ w * V) &&& (2 ^ w * M) ↔ X / 2 ^ w &&& M = V &&& M := by
  have hpos := Nat.two_pow_pos w
  have h : ∀ Y, Y &&& (2 ^ w * M) = 2 ^ w * (Y / 2 ^ w &&& M) + 0 := fun Y => by
    have := and_of_digits (X := Y) (B := M) hpos
    rwa [Nat.and_zero] at this
  rw [h, h, digits_inj hpos hpos, Nat.mul_div_cancel_left _ hpos]
  exact and_iff_left rfl

theorem masked_eq_closed (hd : d < 2 ^ w) :
    X &&& (2 ^ w * M + (2 ^ w - 1)) = (2 ^ w * V + d) &&& (2 ^ w * M + (2 ^ w - 1)) ↔
      X / 2 ^ w &&& M = V &&& M ∧ X % 2 ^ w = d := by
  have hpos := Nat.two_pow_pos w
  have h : ∀ Y, Y &&& (2 ^ w * M + (2 ^ w - 1)) = 2 ^ w * (Y / 2 ^ w &&& M) + Y % 2 ^ w := fun Y => by
    have := and_of_digits (X := Y) (B := M) (show 2 ^ w - 1 < 2 ^ w by omega)
    rwa [Nat.and_two_pow_sub_one_of_lt_two_pow (Nat.mod_lt Y hpos)] at this
  rw [h, h, digits_inj (Nat.mod_lt _ hpos) (Nat.mod_lt _ hpos), Nat.mul_add_div hpos, Nat.div_eq_of_lt hd,
    Nat.add_zero, Nat.mul_add_mod, Nat.mod_eq_of_lt hd]

end Digits

namespace Element

/-! ### Reading digits -/

namespace DigitKind

variable (kind : DigitKind)

def bits : Nat := kind.width.toNat

theorem base_eq : kind.base = 2 ^ kind.bits := by cases kind <;> rfl

theorem base_le : kind.base ≤ 16 := by cases kind <;> decide

theorem one_lt_two_pow : 1 < 2 ^ kind.bits := by cases kind <;> decide

theorem two_pow_succ (count : Nat) : 2 ^ (kind.bits * (count + 1)) = 2 ^ (kind.bits * count) * 2 ^ kind.bits := by
  rw [Nat.mul_succ, Nat.pow_add]

theorem digitMask_eq : kind.digitMask = UInt8.ofNat (2 ^ kind.bits - 1) := by cases kind <;> rfl

theorem toNat_shift {v : UInt8} (h : 2 ^ kind.bits * v.toNat < 256) :
    (v <<< kind.width).toNat = 2 ^ kind.bits * v.toNat := by
  have hw : kind.width.toNat % 8 = kind.bits := by cases kind <;> rfl
  rw [UInt8.toNat_shiftLeft, Nat.shiftLeft_eq, hw, Nat.mul_comm, Nat.mod_eq_of_lt h]

theorem toNat_push {v : UInt8} {d : Nat} (h : 2 ^ kind.bits * v.toNat < 256) (hd : d < 2 ^ kind.bits) :
    (v <<< kind.width ||| UInt8.ofNat d).toNat = 2 ^ kind.bits * v.toNat + d := by
  have hle := kind.base_le
  rw [base_eq] at hle
  rw [UInt8.toNat_or, kind.toNat_shift h, UInt8.toNat_ofNat', Nat.mod_eq_of_lt (by omega),
    Nat.two_pow_add_eq_or_of_lt hd]

/-- A number that leaves room in a byte for so many more digits. -/
def LeavesRoom (count v : Nat) : Prop := 2 ^ (kind.bits * count) * (v + 1) ≤ 256

variable {kind} {count v : Nat}

theorem leavesRoom_of_full (h : kind.bits * count = 8) : kind.LeavesRoom count 0 := by
  rw [LeavesRoom, h]
  exact Nat.le_refl 256

theorem leavesRoom_succ_iff :
    kind.LeavesRoom (count + 1) v ↔ 2 ^ (kind.bits * count) * (2 ^ kind.bits * v + 2 ^ kind.bits) ≤ 256 := by
  rw [LeavesRoom, two_pow_succ, Nat.mul_assoc, Nat.mul_add_one]

theorem LeavesRoom.push (h : kind.LeavesRoom (count + 1) v) {d : Nat} (hd : d < 2 ^ kind.bits) :
    kind.LeavesRoom count (2 ^ kind.bits * v + d) := by
  rw [leavesRoom_succ_iff] at h
  exact Nat.le_trans (Nat.mul_le_mul_left _ (by omega)) h

theorem LeavesRoom.open_lt (h : kind.LeavesRoom (count + 1) v) :
    2 ^ (kind.bits * count) * (2 ^ kind.bits * v + 1) < 256 := by
  rw [leavesRoom_succ_iff] at h
  have hone := kind.one_lt_two_pow
  exact Nat.lt_of_lt_of_le (Nat.mul_lt_mul_of_pos_left (by omega) (Nat.two_pow_pos _)) h

theorem LeavesRoom.lt (h : kind.LeavesRoom count v) : v < 256 :=
  Nat.lt_of_lt_of_le (Nat.lt_succ_self v) (Nat.le_trans (Nat.le_mul_of_pos_left _ (Nat.two_pow_pos _)) h)

theorem LeavesRoom.mul_lt (h : kind.LeavesRoom (count + 1) v) : 2 ^ kind.bits * v < 256 :=
  (h.push (Nat.two_pow_pos _)).lt

theorem toNat_open {v : UInt8} (h : kind.LeavesRoom (count + 1) v.toNat) :
    (v <<< kind.width).toNat = 2 ^ kind.bits * v.toNat + 0 := kind.toNat_shift h.mul_lt

theorem toNat_closed {v : UInt8} (h : kind.LeavesRoom (count + 1) v.toNat) {d : Nat} (hd : d < 2 ^ kind.bits) :
    (v <<< kind.width ||| UInt8.ofNat d).toNat = 2 ^ kind.bits * v.toNat + d := kind.toNat_push h.mul_lt hd

end DigitKind

variable {kind : DigitKind} {e : Element}

theorem ofDigits?_cons {v m : UInt8} {c : Char} {rest : List Char} (h : ofDigits? kind v m (c :: rest) = some e) :
    (c = '?' ∧ ofDigits? kind (v <<< kind.width) (m <<< kind.width) rest = some e) ∨
    ∃ d, c ≠ '?' ∧ HexDigit c d ∧ d < 2 ^ kind.bits ∧ ofDigits? kind (v <<< kind.width ||| UInt8.ofNat d)
      (m <<< kind.width ||| UInt8.ofNat (2 ^ kind.bits - 1)) rest = some e := by
  simp only [ofDigits?] at h
  split at h
  · rename_i hc
    exact .inl ⟨hc, h⟩
  · rename_i hc
    split at h
    · rename_i d hd
      rw [digitValue?_eq_some_iff kind.base_le, DigitKind.base_eq] at hd
      rw [DigitKind.digitMask_eq] at h
      exact .inr ⟨d, hc, hd.1, hd.2, h⟩
    · cases h

theorem ofDigits?_isSome_iff (cs : List Char) : ∀ v m,
    (ofDigits? kind v m cs).isSome ↔ ∀ c ∈ cs, c = '?' ∨ ∃ n, HexDigit c n ∧ n < 2 ^ kind.bits := by
  induction cs with
  | nil => intro v m; simp [ofDigits?]
  | cons c rest ih =>
    intro v m
    rw [List.forall_mem_cons]
    simp only [ofDigits?]
    split
    · rename_i hc
      rw [ih]
      exact ⟨fun h => ⟨.inl hc, h⟩, fun h => h.2⟩
    · rename_i hc
      split
      · rename_i d hd
        rw [digitValue?_eq_some_iff kind.base_le, DigitKind.base_eq] at hd
        rw [ih]
        exact ⟨fun h => ⟨.inr ⟨d, hd⟩, h⟩, fun h => h.2⟩
      · rename_i hd
        refine ⟨nofun, fun h => ?_⟩
        rcases h.1 with h | ⟨n, hn⟩
        · exact absurd h hc
        · rw [← DigitKind.base_eq, ← digitValue?_eq_some_iff kind.base_le] at hn
          rw [hd] at hn
          cases hn

theorem forall_getElem?_cons {α : Type} {a : α} {l : List α} {F : Nat → α → Prop} :
    (∀ k x, (a :: l)[k]? = some x → F k x) ↔ F 0 a ∧ ∀ k x, l[k]? = some x → F (k + 1) x := by
  constructor
  · exact fun h => ⟨h 0 a rfl, fun k x hx => h (k + 1) x hx⟩
  · rintro ⟨h0, h⟩ k x hx
    cases k with
    | zero => obtain rfl := Option.some.inj hx; exact h0
    | succ k => exact h k x hx

/-- What was read so far is compared with the byte's first digits, and each digit that is still to
    be read with the one at its place. -/
theorem matchesByte_of_ofDigits? (cs : List Char) : ∀ v m : UInt8, kind.LeavesRoom cs.length v.toNat →
    kind.LeavesRoom cs.length m.toNat → ofDigits? kind v m cs = some e → ∀ b : UInt8,
    (e.matchesByte b = true ↔ b.toNat / 2 ^ (kind.bits * cs.length) &&& m.toNat = v.toNat &&& m.toNat ∧
      ∀ k c, cs[k]? = some c → c ≠ '?' →
        HexDigit c (b.toNat / 2 ^ (kind.bits * (cs.length - 1 - k)) % 2 ^ kind.bits)) := by
  induction cs with
  | nil =>
    intro v m _ _ h b
    obtain rfl := Option.some.inj h
    simp [matchesByte, masked, ← UInt8.toNat_inj]
  | cons c rest ih =>
    intro v m hv hm h b
    have hpos := Nat.two_pow_pos kind.bits
    have hfull : 2 ^ kind.bits - 1 < 2 ^ kind.bits := by omega
    rw [List.length_cons] at hv hm
    rw [List.length_cons, DigitKind.two_pow_succ, ← Nat.div_div_eq_div_mul, forall_getElem?_cons]
    simp only [Nat.add_sub_cancel, Nat.sub_zero, Nat.sub_add_eq, Nat.sub_right_comm _ _ 1]
    rcases ofDigits?_cons h with ⟨hc, hrest⟩ | ⟨d, hc, hd, hlt, hrest⟩
    · have ev := DigitKind.toNat_open hv
      have em := DigitKind.toNat_open hm
      rw [ih _ _ (ev ▸ hv.push hpos) (em ▸ hm.push hpos) hrest b, ev, em, Nat.add_zero, Nat.add_zero, masked_eq_open]
      exact ⟨fun h => ⟨h.1, fun hne => absurd hc hne, h.2⟩, fun h => ⟨h.1, h.2.2⟩⟩
    · have ev := DigitKind.toNat_closed hv hlt
      have em := DigitKind.toNat_closed hm hfull
      rw [ih _ _ (ev ▸ hv.push hlt) (em ▸ hm.push hfull) hrest b, ev, em, masked_eq_closed hlt]
      constructor
      · rintro ⟨⟨h1, h2⟩, h3⟩
        exact ⟨h1, fun _ => h2 ▸ hd, h3⟩
      · rintro ⟨h1, h2, h3⟩
        exact ⟨⟨h1, (h2 hc).unique hd⟩, h3⟩

theorem mask_of_ofDigits? (cs : List Char) : ∀ v m : UInt8, kind.LeavesRoom cs.length m.toNat →
    ofDigits? kind v m cs = some e →
    (e.mask.toNat + 1 = 256 ↔ 2 ^ (kind.bits * cs.length) * (m.toNat + 1) = 256 ∧ '?' ∉ cs) := by
  induction cs with
  | nil =>
    intro v m _ h
    obtain rfl := Option.some.inj h
    simp [masked]
  | cons c rest ih =>
    intro v m hm h
    have hpos := Nat.two_pow_pos kind.bits
    have hfull : 2 ^ kind.bits - 1 < 2 ^ kind.bits := by omega
    rw [List.length_cons] at hm
    rw [List.length_cons, DigitKind.two_pow_succ, Nat.mul_assoc, Nat.mul_add_one]
    rcases ofDigits?_cons h with ⟨hc, hrest⟩ | ⟨d, hc, hd, hlt, hrest⟩
    · have em := DigitKind.toNat_open hm
      rw [ih _ _ (em ▸ hm.push hpos) hrest, em]
      have hshort := hm.open_lt
      constructor
      · rintro ⟨h1, -⟩; exact absurd h1 (Nat.ne_of_lt hshort)
      · rintro ⟨-, h2⟩; exact absurd (hc ▸ List.mem_cons_self ..) h2
    · have em := DigitKind.toNat_closed hm hfull
      rw [ih _ _ (em ▸ hm.push hfull) hrest, em,
        show 2 ^ kind.bits * m.toNat + (2 ^ kind.bits - 1) + 1 = 2 ^ kind.bits * m.toNat + 2 ^ kind.bits by omega]
      simp only [List.mem_cons, not_or]
      exact ⟨fun h => ⟨h.1, fun e => hc e.symm, h.2⟩, fun h => ⟨h.1, h.2.2⟩⟩

/-! ### Reading tokens -/

theorem utf8Size_of_hexDigit {c : Char} {n : Nat} (h : HexDigit c n) : c.utf8Size = 1 :=
  beq_iff_eq.mp (h.passes (fun c => c.utf8Size == 1) (by decide) (by decide))

theorem utf8Length_eq {token : List Char} (h : ∀ c ∈ token, c = '?' ∨ ∃ n, HexDigit c n) :
    utf8Length token = token.length := by
  induction token with
  | nil => rfl
  | cons c rest ih =>
    rw [List.forall_mem_cons] at h
    have hc : c.utf8Size = 1 := by
      rcases h.1 with rfl | ⟨n, hn⟩
      · rfl
      · exact utf8Size_of_hexDigit hn
    rw [utf8Length, hc, ih h.2, List.length_cons, Nat.add_comm]

theorem hexDigit_of_ofDigits? {v m : UInt8} {cs : List Char} (h : ofDigits? kind v m cs = some e) :
    ∀ c ∈ cs, c = '?' ∨ ∃ n, HexDigit c n ∧ n < 2 ^ kind.bits :=
  (ofDigits?_isSome_iff cs v m).mp (by rw [h]; rfl)

theorem length_of_ofDigits? {v m : UInt8} {cs : List Char} (h : ofDigits? kind v m cs = some e) :
    utf8Length cs = cs.length :=
  utf8Length_eq fun c hc => (hexDigit_of_ofDigits? h c hc).imp_right fun ⟨n, hn⟩ => ⟨n, hn.1⟩

theorem eq_replicate_of_all {token : List Char} (h : token.all (· == '?') = true) :
    token = List.replicate (utf8Length token) '?' := by
  have hall : ∀ c ∈ token, c = '?' := by simpa using h
  rw [utf8Length_eq fun c hc => .inl (hall c hc)]
  exact List.eq_replicate_iff.mpr ⟨rfl, hall⟩

theorem ofToken?_cases {token : List Char} (h : ofToken? token = some e) :
    ((token = ['?'] ∨ token = ['?', '?']) ∧ e = wildcard) ∨
    (token.length = 2 ∧ ofDigits? .hexadecimal 0 0 token = some e) ∨
    (token.length = 8 ∧ ofDigits? .binary 0 0 token = some e) := by
  unfold ofToken? at h
  split at h
  · rename_i hlen
    split at h
    · rename_i hall
      have := eq_replicate_of_all hall
      rw [hlen] at this
      exact .inl ⟨.inl this, (Option.some.inj h).symm⟩
    · cases h
  · rename_i hlen
    split at h
    · rename_i hall
      have := eq_replicate_of_all hall
      rw [hlen] at this
      exact .inl ⟨.inr this, (Option.some.inj h).symm⟩
    · exact .inr (.inl ⟨length_of_ofDigits? h ▸ hlen, h⟩)
  · rename_i hlen
    exact .inr (.inr ⟨length_of_ofDigits? h ▸ hlen, h⟩)
  · cases h

theorem hexDigit_lt_two_iff {c : Char} : (∃ n, HexDigit c n ∧ n < 2 ^ DigitKind.binary.bits) ↔ c = '0' ∨ c = '1' := by
  constructor
  · rintro ⟨n, hn, hlt⟩
    have hlt : n < 2 := hlt
    obtain rfl | rfl : n = 0 ∨ n = 1 := by omega
    · left; rcases hn with h | h <;> exact (Option.some.inj h).symm
    · right; rcases hn with h | h <;> exact (Option.some.inj h).symm
  · rintro (rfl | rfl)
    · exact ⟨0, .inl rfl, by decide⟩
    · exact ⟨1, .inl rfl, by decide⟩

theorem ofToken?_isSome_iff (token : List Char) : (ofToken? token).isSome ↔ Token.WellFormed token := by
  constructor
  · intro h
    obtain ⟨e, he⟩ := Option.isSome_iff_exists.mp h
    rcases ofToken?_cases he with ⟨h | h, -⟩ | ⟨hlen, h⟩ | ⟨hlen, h⟩
    · exact .inl h
    · exact .inr (.inl h)
    · exact .inr (.inr (.inl ⟨hlen, fun c hc =>
        (hexDigit_of_ofDigits? h c hc).imp_right fun ⟨n, hn⟩ => ⟨n, hn.1⟩⟩))
    · exact .inr (.inr (.inr ⟨hlen, fun c hc => (hexDigit_of_ofDigits? h c hc).imp_right hexDigit_lt_two_iff.mp⟩))
  · rintro (rfl | rfl | ⟨hlen, h⟩ | ⟨hlen, h⟩)
    · decide
    · decide
    · have hu := utf8Length_eq h
      rw [hlen] at hu
      have hdigits : ∀ c ∈ token, c = '?' ∨ ∃ n, HexDigit c n ∧ n < 2 ^ DigitKind.hexadecimal.bits :=
        fun c hc => (h c hc).imp_right fun ⟨n, hn⟩ => ⟨n, hn, hn.lt⟩
      simp only [ofToken?, hu]
      split
      · rfl
      · exact (ofDigits?_isSome_iff token 0 0).mpr hdigits
    · have hdigits : ∀ c ∈ token, c = '?' ∨ ∃ n, HexDigit c n ∧ n < 2 ^ DigitKind.binary.bits :=
        fun c hc => (h c hc).imp_right hexDigit_lt_two_iff.mpr
      have hu := utf8Length_eq fun c hc => (hdigits c hc).imp_right fun ⟨n, hn⟩ => ⟨n, hn.1⟩
      rw [hlen] at hu
      simp only [ofToken?, hu]
      exact (ofDigits?_isSome_iff token 0 0).mpr hdigits

theorem matchesByte_of_digits {cs : List Char} (hroom : kind.bits * cs.length = 8)
    (h : ofDigits? kind 0 0 cs = some e) (b : UInt8) :
    e.matchesByte b = true ↔ ∀ k c, cs[k]? = some c → c ≠ '?' →
      HexDigit c (b.toNat / 2 ^ (kind.bits * (cs.length - 1 - k)) % 2 ^ kind.bits) := by
  have hroom := DigitKind.leavesRoom_of_full hroom
  rw [matchesByte_of_ofDigits? cs 0 0 hroom hroom h b]
  exact and_iff_right (by simp)

theorem digitAt_two {k : Nat} (hk : k < 2) (b : UInt8) : digitAt 2 k b = b.toNat / 2 ^ (4 * (2 - 1 - k)) % 2 ^ 4 := by
  have hb := b.toNat_lt
  obtain rfl | rfl : k = 0 ∨ k = 1 := by omega
  · simp only [digitAt, if_true]; omega
  · simp [digitAt]

theorem digitAt_eight (k : Nat) (b : UInt8) : digitAt 8 k b = b.toNat / 2 ^ (1 * (8 - 1 - k)) % 2 ^ 1 := by
  rw [digitAt, if_neg (by decide), Nat.one_mul, Nat.pow_one]

theorem matchesByte_of_ofToken? {token : List Char} (h : ofToken? token = some e) (b : UInt8) :
    e.matchesByte b = true ↔ Token.Admits token b := by
  unfold Token.Admits
  rcases ofToken?_cases h with ⟨hw, rfl⟩ | ⟨hlen, h⟩ | ⟨hlen, h⟩
  · have hall : ∀ c ∈ token, c = '?' := by rcases hw with rfl | rfl <;> simp
    refine ⟨fun _ k c hc hne => absurd (hall c (List.mem_of_getElem? hc)) hne, fun _ => ?_⟩
    simp [wildcard, matchesByte]
  · rw [matchesByte_of_digits (by rw [hlen]; rfl) h, hlen]
    refine forall_congr' fun k => forall_congr' fun c => forall_congr' fun hc => ?_
    have hk : k < 2 := hlen ▸ (List.getElem?_eq_some_iff.mp hc).1
    rw [digitAt_two hk]
    rfl
  · rw [matchesByte_of_digits (by rw [hlen]; rfl) h, hlen]
    refine forall_congr' fun k => forall_congr' fun c => forall_congr' fun _ => ?_
    rw [digitAt_eight]
    rfl

theorem isByte_iff : e.isByte = true ↔ e.mask.toNat + 1 = 256 := by
  have h : (0xFF : UInt8).toNat = 255 := rfl
  rw [isByte, beq_iff_eq, ← UInt8.toNat_inj, h]
  omega

theorem isByte_of_ofToken? {token : List Char} (h : ofToken? token = some e) :
    e.isByte = true ↔ Token.FullyKnown token := by
  have digits : ∀ {kind}, DigitKind.bits kind * token.length = 8 → ofDigits? kind 0 0 token = some e →
      (e.isByte = true ↔ Token.FullyKnown token) := by
    intro kind hfull h
    rw [isByte_iff, mask_of_ofDigits? token 0 0 (DigitKind.leavesRoom_of_full hfull) h, hfull]
    exact and_iff_right rfl
  rcases ofToken?_cases h with ⟨hw, rfl⟩ | ⟨hlen, h⟩ | ⟨hlen, h⟩
  · rcases hw with rfl | rfl <;> decide
  · exact digits (by rw [hlen]; rfl) h
  · exact digits (by rw [hlen]; rfl) h

end Element

/-! ## (3) The reader and the grammar -/

namespace Signature

variable {tokens : List (List Char)} {elements : List Element}

theorem tokenElements?_cons (t : List Char) : tokenElements? (t :: tokens) =
    (Element.ofToken? t).bind fun e => (tokenElements? tokens).bind fun es => some (e :: es) := by
  rw [tokenElements?, List.mapM_cons]
  rfl

theorem tokenElements?_eq_some_iff :
    tokenElements? tokens = some elements ↔ tokens.map Element.ofToken? = elements.map some := by
  induction tokens generalizing elements with
  | nil =>
    rw [tokenElements?, List.mapM_nil, List.map_nil, eq_comm (a := []), List.map_eq_nil_iff, eq_comm (a := elements)]
    exact Option.some_inj
  | cons t tokens ih =>
    rw [tokenElements?_cons, List.map_cons, eq_comm (b := elements.map some), List.map_eq_cons_iff,
      Option.bind_eq_some_iff]
    constructor
    · rintro ⟨e, he, hes⟩
      obtain ⟨es, hes, hcons⟩ := Option.bind_eq_some_iff.mp hes
      exact ⟨e, es, (Option.some.inj hcons).symm, he.symm, (ih.mp hes).symm⟩
    · rintro ⟨e, es, rfl, he, hes⟩
      exact ⟨e, he.symm, by rw [ih.mpr hes.symm]; rfl⟩

theorem tokenElements?_isSome_iff : (tokenElements? tokens).isSome ↔ ∀ t ∈ tokens, Token.WellFormed t := by
  induction tokens with
  | nil => exact iff_of_true rfl (fun t ht => by cases ht)
  | cons t tokens ih =>
    rw [tokenElements?_cons, List.forall_mem_cons, ← ih, ← Element.ofToken?_isSome_iff]
    cases Element.ofToken? t <;> cases tokenElements? tokens <;> simp

theorem fullyKnown_of_mem {e : Element} (h : tokenElements? tokens = some elements) (he : e ∈ elements)
    (hb : e.isByte = true) : ∃ t ∈ tokens, Token.FullyKnown t := by
  have hmem : some e ∈ tokens.map Element.ofToken? := by
    rw [tokenElements?_eq_some_iff.mp h]
    exact List.mem_map_of_mem he
  obtain ⟨t, ht, hte⟩ := List.mem_map.mp hmem
  exact ⟨t, ht, (Element.isByte_of_ofToken? hte).mp hb⟩

theorem mem_of_fullyKnown {t : List Char} (h : tokenElements? tokens = some elements) (ht : t ∈ tokens)
    (hk : Token.FullyKnown t) : ∃ e ∈ elements, e.isByte = true := by
  have hmem : Element.ofToken? t ∈ elements.map some := by
    rw [← tokenElements?_eq_some_iff.mp h]
    exact List.mem_map_of_mem ht
  obtain ⟨e, he, hte⟩ := List.mem_map.mp hmem
  exact ⟨e, he, (Element.isByte_of_ofToken? hte.symm).mpr hk⟩

theorem any_isByte_iff (h : tokenElements? tokens = some elements) :
    elements.any Element.isByte = true ↔ ∃ t ∈ tokens, Token.FullyKnown t := by
  rw [List.any_eq_true]
  constructor
  · rintro ⟨e, he, hb⟩
    exact fullyKnown_of_mem h he hb
  · rintro ⟨t, ht, hk⟩
    exact mem_of_fullyKnown h ht hk

theorem tokens_eq_nil_iff (h : tokenElements? tokens = some elements) : elements = [] ↔ tokens = [] := by
  rw [← List.map_eq_nil_iff (f := some), ← tokenElements?_eq_some_iff.mp h, List.map_eq_nil_iff]

theorem ofElements_eq (elements : List Element) :
    ofElements elements = if h : elements = [] then .error .empty
      else if elements.any Element.isByte then .ok ⟨elements, h⟩ else .error .noByte := by
  unfold ofElements ofNonempty
  split
  · rfl
  · split <;> rfl

theorem parse_of_read {text : String} (h : tokenElements? (Text.words text.toList) = some elements) :
    parse text = ofElements elements := by
  rw [parse, parseChars, h]

theorem parse_of_malformed {text : String} (h : ¬∀ t ∈ Text.words text.toList, Token.WellFormed t) :
    parse text = .error .invalid := by
  rw [← tokenElements?_isSome_iff, Option.not_isSome_iff_eq_none] at h
  rw [parse, parseChars, h]

theorem read_of_parse {text : String} {s : Signature} (h : parse text = .ok s) :
    tokenElements? (Text.words text.toList) = some s.elements := by
  rw [parse, parseChars] at h
  split at h
  · rename_i elements hread
    rw [ofElements_eq] at h
    split at h
    · cases h
    · split at h
      · cases h
        exact hread
      · cases h
  · cases h

/-- The outcomes of reading a text, each with what it takes; no two of them go together. -/
theorem parse_outcome (text : String) {tokens : List (List Char)} (htokens : tokens = Text.words text.toList) :
    (parse text = .error .invalid ∧ ∃ t ∈ tokens, ¬Token.WellFormed t) ∨
    (parse text = .error .empty ∧ tokens = []) ∨
    (parse text = .error .noByte ∧ tokens ≠ [] ∧ ∀ t ∈ tokens, Token.WellFormed t ∧ ¬Token.FullyKnown t) ∨
    (∃ s, parse text = .ok s) ∧ (∀ t ∈ tokens, Token.WellFormed t) ∧ ∃ t ∈ tokens, Token.FullyKnown t := by
  by_cases hwell : ∀ t ∈ tokens, Token.WellFormed t
  · obtain ⟨elements, hread⟩ := Option.isSome_iff_exists.mp (tokenElements?_isSome_iff.mpr hwell)
    have hnil := tokens_eq_nil_iff hread
    have hany := any_isByte_iff hread
    rw [htokens] at hread
    rw [parse_of_read hread, ofElements_eq]
    by_cases he : elements = []
    · exact .inr (.inl ⟨dif_pos he, hnil.mp he⟩)
    · rw [dif_neg he]
      by_cases hb : elements.any Element.isByte = true
      · exact .inr (.inr (.inr ⟨⟨_, if_pos hb⟩, hwell, hany.mp hb⟩))
      · exact .inr (.inr (.inl ⟨if_neg hb, fun h => he (hnil.mpr h),
          fun t ht => ⟨hwell t ht, fun hk => hb (hany.mpr ⟨t, ht, hk⟩)⟩⟩))
  · have hbad : ∃ t ∈ tokens, ¬Token.WellFormed t := by simpa using hwell
    exact .inl ⟨parse_of_malformed (htokens ▸ hwell), hbad⟩

/-- A text is rejected for a malformed token before all else, then for want of tokens, then for
    want of a fully known one, and accepted otherwise; what is accepted has an element for each
    token, in order, that matches the bytes the token admits. -/
theorem parse_follows_grammar (text : String) : ∃ tokens,
    (∀ ts, Text.Runs ts text.toList ↔ ts = tokens) ∧
    (parse text = .error .invalid ↔ ∃ t ∈ tokens, ¬Token.WellFormed t) ∧
    (parse text = .error .empty ↔ tokens = []) ∧
    (parse text = .error .noByte ↔ tokens ≠ [] ∧ ∀ t ∈ tokens, Token.WellFormed t ∧ ¬Token.FullyKnown t) ∧
    ((∃ s, parse text = .ok s) ↔ (∀ t ∈ tokens, Token.WellFormed t) ∧ ∃ t ∈ tokens, Token.FullyKnown t) ∧
    ∀ s, parse text = .ok s → s.length = tokens.length ∧
      ∀ (k : Nat) (t : List Char) (e : Element), tokens[k]? = some t → s.elements[k]? = some e →
        ∀ b, e.matchesByte b = true ↔ Token.Admits t b := by
  obtain ⟨tokens, htokens⟩ : ∃ tokens, tokens = Text.words text.toList := ⟨_, rfl⟩
  have outcome := parse_outcome text htokens
  refine ⟨tokens, fun ts => htokens ▸ Text.runs_iff_words, ?_, ?_, ?_, ?_, ?_⟩
  · grind
  · grind
  · grind
  · grind
  · intro s hs
    have hread := tokenElements?_eq_some_iff.mp (htokens ▸ read_of_parse hs)
    constructor
    · have hlen := congrArg List.length hread
      rw [List.length_map, List.length_map] at hlen
      exact hlen.symm
    · intro k t e ht he b
      have hk := congrArg (·[k]?) hread
      simp only [List.getElem?_map, ht, he, Option.map_some, Option.some_inj] at hk
      exact Element.matchesByte_of_ofToken? hk b

end Signature

end SignatureSearch
