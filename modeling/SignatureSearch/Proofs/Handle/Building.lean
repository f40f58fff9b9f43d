/-
  SignatureSearch.Proofs.Handle.Building — what a call that builds a signature leaves behind.

  Two calls build signatures, `sigscan_parse_signature` from text and `sigscan_create_signature` from
  bytes with a mask (`Request`). Either one registers a signature under a handle that was never handed
  out (`Registered`), or leaves the table as it was and the handle zero (`Refused`).

  Proved, for every table that threads can bring about:
  (1) Each request is refused or registers the signature that it describes (`Request.outcome`), and
      it is refused where it describes none (`Request.signature?_of_refused`).
  (2) The status of a reading is decided by the bytes of the text, taken one by one
      (`parseSignature_eq`), whether they are UTF-8 or not.
  (3) Success means that the signature described is registered under a fresh handle, any other status
      that nothing has changed, and the status of a reading follows the grammar
      (`Request.registers_or_leaves`).
-/

import SignatureSearch.Calls
import SignatureSearch.Proofs.Handle.Interleaving
import SignatureSearch.Proofs.Signature.Encoded

namespace SignatureSearch.Calls

/-- A call that builds a signature, with what it is handed. -/
inductive Request where
  | parse (text : Option (List UInt8)) (out : Out)
  | create (bytes mask : Option (List UInt8)) (size : Nat) (out : Out)

namespace Request

def out : Request → Out
  | parse _ out | create _ _ _ out => out

def answer (t : HandleTable) : Request → Built
  | parse text out => parseSignature t text out
  | create bytes mask size out => createSignature t bytes mask size out

def signature? : Request → Option Signature
  | parse text _ => text.bind fun bytes => (Signature.parseChars (Text.ofBytes bytes)).toOption
  | create bytes mask size _ =>
    bytes.bind fun bytes => mask.bind fun mask =>
      (Signature.ofBytesAndMask (bytes.take size) (mask.take size)).toOption

end Request

/-! ## (1) Outcomes -/

/-- The call registered `s` under `h`, which stood for nothing, took one number and left the entries
    of other handles. -/
structure Registered (t : HandleTable) (b : Built) (h : Handle) (s : Signature) : Prop where
  out : b.out = some h.raw
  absent : t.lookup h = none
  counter : b.table.counter = t.counter + 1
  lookup : ∀ k, b.table.lookup k = if h = k then some s else t.lookup k

/-- The call left the table, and stored zero if it was given a place. -/
structure Refused (t : HandleTable) (out : Out) (b : Built) : Prop where
  status : b.status ≠ .success
  table : b.table = t
  out : out = .given → b.out = some 0

variable {t : HandleTable} {b : Built} {h : Handle} {s : Signature} {out : Out}

theorem Registered.not_refused (hb : Registered t b h s) : ¬Refused t out b := by
  intro href
  have hl := hb.lookup h
  rw [if_pos rfl, href.table, hb.absent] at hl
  cases hl

theorem Registered.of_store {s' : Signature} (hb : Registered t (store t (.ok s')) h s) : s' = s := by
  have hstored : (store t (.ok s')).table.lookup h = if t.allocate.1 = h then some s' else t.lookup h :=
    HandleTable.lookup_insert
  rw [hb.lookup h, if_pos rfl, hb.absent] at hstored
  by_cases e : t.allocate.1 = h
  · rw [if_pos e] at hstored
    exact (Option.some.inj hstored).symm
  · rw [if_neg e] at hstored
    cases hstored

theorem store_status (t : HandleTable) (result : Except SignatureError Signature) :
    (store t result).status = Status.ofResult result := by
  cases result <;> rfl

theorem store_outcome (t : HandleTable) (result : Except SignatureError Signature) :
    Refused t .given (store t result) ∨ ∃ s, result.toOption = some s ∧ store t result = store t (.ok s) := by
  cases result with
  | error e => exact .inl ⟨by cases e <;> exact nofun, rfl, fun _ => rfl⟩
  | ok s => exact .inr ⟨s, rfl, rfl⟩

theorem parseSignature_eq (t : HandleTable) (bytes : List UInt8) :
    parseSignature t (some bytes) .given = store t (Signature.parseChars (Text.ofBytes bytes)) := by
  rw [← Signature.parse_decoded]
  simp only [parseSignature]
  cases Text.decode? bytes with
  | none => rfl
  | some text => rfl

/-- A request is refused, or registers the signature that it describes. -/
theorem Request.outcome (t : HandleTable) (r : Request) : Refused t r.out (r.answer t) ∨
    ∃ s, r.signature? = some s ∧ r.out = .given ∧ r.answer t = store t (.ok s) := by
  cases r with
  | parse text out =>
    cases out with
    | null => exact .inl ⟨nofun, rfl, nofun⟩
    | given =>
      cases text with
      | none => exact .inl ⟨nofun, rfl, fun _ => rfl⟩
      | some bytes =>
        simp only [answer, Request.out, signature?, parseSignature_eq, true_and, Option.bind_some]
        exact store_outcome t _
  | create bytes mask size out =>
    cases out with
    | null => exact .inl ⟨nofun, rfl, nofun⟩
    | given =>
      simp only [answer, createSignature]
      split
      · exact .inl ⟨nofun, rfl, fun _ => rfl⟩
      · split
        · simp only [Request.out, signature?, true_and, Option.bind_some]
          exact store_outcome t _
        · exact .inl ⟨nofun, rfl, fun _ => rfl⟩

theorem Request.signature?_of_refused {r : Request} (given : r.out = .given) (refused : Refused t r.out (r.answer t)) :
    r.signature? = none := by
  have refused_store : ∀ result, r.answer t = store t result → result.toOption = none := by
    intro result hanswer
    cases result with
    | error e => rfl
    | ok s => exact absurd (congrArg Built.status hanswer) refused.status
  cases r with
  | parse text out =>
    obtain rfl : out = .given := given
    cases text with
    | none => rfl
    | some bytes => exact refused_store _ (parseSignature_eq t bytes)
  | create bytes mask size out =>
    obtain rfl : out = .given := given
    cases bytes with
    | none => rfl
    | some bytes =>
      cases mask with
      | none => rfl
      | some mask =>
        by_cases empty : size = 0
        · subst empty
          rfl
        · exact refused_store _ (if_neg empty)

theorem store_registered {n : Nat} (ht : t.HandedOut n) (hn : n + 1 < 2 ^ 64) (s : Signature) :
    Registered t (store t (.ok s)) t.allocate.1 s where
  out := rfl
  absent := ht.lookup_allocated hn
  counter := rfl
  lookup _ := HandleTable.lookup_insert

/-! ## (2) The status of a reading -/

/-- The status follows the grammar of the bytes' tokens. -/
theorem parseSignature_status (t : HandleTable) (bytes : List UInt8) {tokens : List (List Char)}
    (htokens : tokens = Text.words (Text.ofBytes bytes)) :
    ((parseSignature t (some bytes) .given).status = .invalid ↔ ∃ t ∈ tokens, ¬Token.WellFormed t) ∧
    ((parseSignature t (some bytes) .given).status = .empty ↔ tokens = []) ∧
    ((parseSignature t (some bytes) .given).status = .noByte ↔
      tokens ≠ [] ∧ ∀ t ∈ tokens, Token.WellFormed t ∧ ¬Token.FullyKnown t) ∧
    ((parseSignature t (some bytes) .given).status = .success ↔
      (∀ t ∈ tokens, Token.WellFormed t) ∧ ∃ t ∈ tokens, Token.FullyKnown t) := by
  rw [← String.toList_ofList (l := Text.ofBytes bytes)] at htokens
  have outcome := Signature.parse_outcome _ htokens
  rw [Signature.parse_ofList] at outcome
  rw [parseSignature_eq, store_status]
  rcases outcome with ⟨h, hbad⟩ | ⟨h, hnil⟩ | ⟨h, hne, hall⟩ | ⟨⟨s, h⟩, hwell, hknown⟩ <;>
    simp only [h, Status.ofResult, Status.ofError] <;> grind

/-! ## (3) Registrations -/

open Interleaving in
/-- A call that builds a signature answers success just when it was given a place for the handle,
    has registered one signature under a handle that no registration had taken, and has stored that
    handle. That is when what it was handed describes a signature, and then this is the signature that
    is registered. Any other status leaves the table and the next number, and zero in the place. The
    status of reading a text follows from its bytes: a token outside the grammar comes before all else,
    then the lack of tokens, then the lack of a fully known one. -/
theorem Request.registers_or_leaves {Thread : Type} [DecidableEq Thread] {trace : Trace Thread} {st : State Thread}
    (run : Run trace st) (hfew : (taken trace).length + 1 < 2 ^ 64) :
    (∀ r : Request,
      ((r.answer st.table).status = .success ↔
        r.out = .given ∧ ∃ h s, h ∉ taken trace ∧ Registered st.table (r.answer st.table) h s) ∧
      ((r.answer st.table).status = .success ↔ r.out = .given ∧ r.signature?.isSome) ∧
      (∀ h s, Registered st.table (r.answer st.table) h s → r.signature? = some s) ∧
      ((r.answer st.table).status ≠ .success →
        (r.answer st.table).table = st.table ∧ (r.out = .given → (r.answer st.table).out = some 0))) ∧
    ∀ bytes : List UInt8, ∃ tokens, (∀ ts, Text.Runs ts (Text.ofBytes bytes) ↔ ts = tokens) ∧
      ((parseSignature st.table (some bytes) .given).status = .invalid ↔ ∃ t ∈ tokens, ¬Token.WellFormed t) ∧
      ((parseSignature st.table (some bytes) .given).status = .empty ↔ tokens = []) ∧
      ((parseSignature st.table (some bytes) .given).status = .noByte ↔
        tokens ≠ [] ∧ ∀ t ∈ tokens, Token.WellFormed t ∧ ¬Token.FullyKnown t) ∧
      ((parseSignature st.table (some bytes) .given).status = .success ↔
        (∀ t ∈ tokens, Token.WellFormed t) ∧ ∃ t ∈ tokens, Token.FullyKnown t) := by
  have inv := run.inv (by omega)
  constructor
  · intro r
    rcases r.outcome st.table with href | ⟨s, hs, hgiven, hstore⟩
    · refine ⟨⟨fun h => absurd h href.status, ?_⟩, ⟨fun h => absurd h href.status, ?_⟩,
        fun h s hreg => absurd href hreg.not_refused, fun _ => ⟨href.table, href.out⟩⟩
      · rintro ⟨-, h, s, -, hreg⟩
        exact absurd href hreg.not_refused
      · rintro ⟨hgiven, described⟩
        rw [signature?_of_refused hgiven href] at described
        cases described
    · have hfresh : st.table.allocate.1 ∉ taken trace := by
        intro hmem
        have hle := inv.taken_le _ hmem
        rw [inv.handedOut.allocate_raw hfew] at hle
        omega
      rw [hstore, hs]
      refine ⟨⟨fun _ => ?_, fun _ => rfl⟩, ⟨fun _ => ⟨hgiven, rfl⟩, fun _ => rfl⟩, fun h s' hreg => ?_,
        fun h => absurd rfl h⟩
      · exact ⟨hgiven, _, s, hfresh, store_registered inv.handedOut hfew s⟩
      · rw [hreg.of_store]
  · intro bytes
    exact ⟨_, fun ts => Text.runs_iff_words, parseSignature_status st.table bytes rfl⟩

/-- A byte and half of one, from three bytes of each. -/
def createdPair : Request := .create (some [0x90, 0xC3, 0x11]) (some [0xFF, 0x0F, 0xFF]) 2 .given

def pairSignature : Signature := ⟨[.masked 0x90 0xFF, .masked 0xC3 0x0F], nofun⟩

open Interleaving in
/-- Behind the run of three threads a byte is registered, and so are the first two bytes with their
    mask. Bytes that are no UTF-8 are malformed and change nothing, and neither does a mask of zeros. -/
theorem Request.registers_or_leaves_after_crossing : ∃ st : State Nat, Run crossing st ∧
    (taken crossing).length + 1 < 2 ^ 64 ∧
    (∃ h s, h ∉ taken crossing ∧
      Registered st.table (parseSignature st.table (some [0x34, 0x38]) .given) h s) ∧
    (∃ h, h ∉ taken crossing ∧ Registered st.table (createdPair.answer st.table) h pairSignature) ∧
    (parseSignature st.table (some [0x34, 0x38, 0x20, 0xFF]) .given).status = .invalid ∧
    (parseSignature st.table (some [0x34, 0x38, 0x20, 0xFF]) .given).table = st.table ∧
    (createSignature st.table (some [0x90]) (some [0x00]) 1 .given).status = .noByte ∧
    (createSignature st.table (some [0x90]) (some [0x00]) 1 .given).table = st.table := by
  obtain ⟨st, run⟩ := crossing_runs
  have hfew : (taken crossing).length + 1 < 2 ^ 64 := by decide
  have hbyte : (parseSignature st.table (some [0x34, 0x38]) .given).status = .success := by
    rw [parseSignature_eq, store_status]
    decide
  have hbad : (parseSignature st.table (some [0x34, 0x38, 0x20, 0xFF]) .given).status = .invalid := by
    rw [parseSignature_eq, store_status]
    decide
  have hopen : (createSignature st.table (some [0x90]) (some [0x00]) 1 .given).status = .noByte := rfl
  obtain ⟨calls, -⟩ := Request.registers_or_leaves run hfew
  refine ⟨st, run, hfew, ?_, ?_, hbad, ?_, hopen, ?_⟩
  · exact ((calls (.parse (some [0x34, 0x38]) .given)).1.mp hbyte).2
  · obtain ⟨fresh, described, same, -⟩ := calls createdPair
    obtain ⟨-, h, s, hnew, hreg⟩ := fresh.mp (described.mpr ⟨rfl, rfl⟩)
    obtain rfl : pairSignature = s := Option.some.inj (same h s hreg)
    exact ⟨h, hnew, hreg⟩
  · refine ((calls (.parse (some [0x34, 0x38, 0x20, 0xFF]) .given)).2.2.2 ?_).1
    exact fun h => nomatch hbad.symm.trans h
  · refine ((calls (.create (some [0x90]) (some [0x00]) 1 .given)).2.2.2 ?_).1
    exact fun h => nomatch hopen.symm.trans h

end SignatureSearch.Calls
