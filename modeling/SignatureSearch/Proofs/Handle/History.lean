/-
  SignatureSearch.Proofs.Handle.History — what the searches among a sequence of calls find.

  A program makes calls one after the other: it builds signatures, frees handles
  (`sigscan_free_signature`) and searches buffers (`sigscan_find_pattern`), with whatever arguments it
  likes. A session keeps the table and a log of the calls with their answers. A handle is held for a
  signature when a call of the log issued it for that signature and none has freed it since (`Held`).

  Proved, for every sequence of calls with fewer than 2⁶⁴ registrations:
  (1) A call changes nothing, registers one signature or frees one handle (`perform_effect`).
  (2) So a handle stands for a signature just when it is held for it (`Session.Sound.call`,
      `run_sound`).
  (3) A search looks at the first bytes of its buffer, however many it has (`isHit_window`), and
      answers the least place at which the signature fits there (`findPattern_least`).
  (4) Each search of the sequence therefore answers an address just when its handle is held, its
      alignment known, its buffer there and a fit in it, and then the least such address
      (`find_answers_for_held`).
-/

import Mathlib.Data.List.Induction
import SignatureSearch.Proofs.Handle.Building
import SignatureSearch.Proofs.Scan.Subregion

namespace SignatureSearch.Calls

inductive Call where
  | build (r : Request)
  | free (handle : UInt64)
  /-- A search, which may be by blocks or not. -/
  | find (hasAvx2 : Bool) (handle : UInt64) (buffer : Option Region) (size : Nat) (align : UInt32)

inductive Answer where
  | built (status : Status) (out : Option UInt64)
  | freed
  | found (address : Option UInt64)

abbrev Entry := Call × Answer

def perform (t : HandleTable) : Call → Answer × HandleTable
  | .build r => (.built (r.answer t).status (r.answer t).out, (r.answer t).table)
  | .free handle => (.freed, freeSignature t handle)
  | .find hasAvx2 handle buffer size align => (.found (findPattern hasAvx2 t handle buffer size align), t)

structure Session where
  table : HandleTable := .empty
  log : List Entry := []

def Session.call (σ : Session) (c : Call) : Session :=
  ⟨(perform σ.table c).2, σ.log ++ [(c, (perform σ.table c).1)]⟩

def run (calls : List Call) : Session := calls.foldl Session.call {}

/-- The call succeeded in building `s` and stored the handle `h`. -/
def Issues (h : UInt64) (s : Signature) (e : Entry) : Prop :=
  ∃ r, e = (.build r, .built .success (some h)) ∧ r.signature? = some s

def Frees (h : UInt64) (e : Entry) : Prop := e.1 = .free h

/-- A call of the log issued `h` for `s`, and no later one has freed it. -/
def Held (log : List Entry) (h : UInt64) (s : Signature) : Prop :=
  ∃ before e after, log = before ++ e :: after ∧ Issues h s e ∧ ∀ x ∈ after, ¬Frees h x

def registers : Entry → Bool
  | (.build _, .built status _) => status == .success
  | _ => false

/-- How many calls of the log have registered a signature. -/
def registrations (log : List Entry) : Nat := log.countP registers

variable {t t' : HandleTable} {log : List Entry} {h : UInt64} {s : Signature} {e : Entry}

/-! ## (1) The effect of a call -/

/-- What an entry of the log has made of the table. -/
inductive Effect (t : HandleTable) (e : Entry) : HandleTable → Prop where
  | nothing : registers e = false → (∀ h s, ¬Issues h s e) → (∀ h, ¬Frees h e) → Effect t e t
  /-- It took the next number for `s`. -/
  | registration (s : Signature) : registers e = true →
      (∀ h s', Issues h s' e ↔ t.allocate.1.raw = h ∧ s = s') → (∀ h, ¬Frees h e) →
      Effect t e (store t (.ok s)).table
  | release (k : UInt64) : registers e = false → (∀ h s, ¬Issues h s e) → (∀ h, Frees h e ↔ k = h) →
      Effect t e (freeSignature t k)

theorem perform_effect (t : HandleTable) (c : Call) : Effect t (c, (perform t c).1) (perform t c).2 := by
  cases c with
  | build r =>
    rcases r.outcome t with href | ⟨s, hs, -, hstore⟩
    · have htable : (perform t (.build r)).2 = t := href.table
      rw [htable]
      refine .nothing (beq_eq_false_iff_ne.mpr href.status) ?_ nofun
      rintro h s ⟨r', he, -⟩
      simp only [perform, Prod.mk.injEq, Answer.built.injEq] at he
      exact href.status he.2.1
    · simp only [perform, hstore]
      refine .registration s rfl (fun h s' => ?_) nofun
      constructor
      · rintro ⟨r', he, hs'⟩
        cases he
        exact ⟨rfl, Option.some.inj (hs.symm.trans hs')⟩
      · rintro ⟨rfl, rfl⟩
        exact ⟨r, rfl, hs⟩
  | free k =>
    refine .release k rfl ?_ fun h => Call.free.injEq k h ▸ Iff.rfl
    rintro h s ⟨r, he, -⟩
    cases he
  | find hasAvx2 handle buffer size align =>
    refine .nothing rfl ?_ nofun
    rintro h s ⟨r, he, -⟩
    cases he

theorem registrations_append : registrations (log ++ [e]) = registrations log + if registers e then 1 else 0 := by
  rw [registrations, List.countP_append, List.countP_singleton]
  rfl

theorem freeSignature_eq (t : HandleTable) (k : UInt64) :
    freeSignature t k = t ∧ k = 0 ∨ ∃ h : Handle, h.raw = k ∧ freeSignature t k = (t.release h).2 := by
  unfold freeSignature Handle.ofRaw?
  split
  · rename_i h hk
    split at hk
    · cases hk
    · cases hk
      exact .inr ⟨_, rfl, rfl⟩
  · rename_i hk
    split at hk
    · rename_i h0
      exact .inl ⟨rfl, h0⟩
    · cases hk

theorem Effect.handedOut (eff : Effect t e t') (ht : t.HandedOut (registrations log))
    (hfew : registrations (log ++ [e]) < 2 ^ 64) : t'.HandedOut (registrations (log ++ [e])) := by
  rw [registrations_append] at hfew ⊢
  cases eff with
  | nothing hreg =>
    rw [hreg]
    exact ht
  | registration s hreg =>
    rw [hreg, if_pos rfl] at hfew ⊢
    exact ht.allocate.insert (Nat.le_of_eq (ht.allocate_raw hfew))
  | release k hreg =>
    rw [hreg]
    rcases freeSignature_eq t k with ⟨heq, -⟩ | ⟨h, -, heq⟩ <;> rw [heq]
    · exact ht
    · exact ht.release

/-! ## (2) Handles that are held -/

theorem not_held_nil : ¬Held [] h s := by
  rintro ⟨before, e, after, hlog, -⟩
  exact List.append_ne_nil_of_right_ne_nil before (List.cons_ne_nil e after) hlog.symm

theorem held_append : Held (log ++ [e]) h s ↔ Issues h s e ∨ (Held log h s ∧ ¬Frees h e) := by
  constructor
  · rintro ⟨before, x, after, hlog, hissue, hfree⟩
    rcases List.eq_nil_or_concat after with rfl | ⟨after, y, rfl⟩
    · obtain ⟨-, hx⟩ := List.append_inj' hlog rfl
      cases hx
      exact .inl hissue
    · rw [List.concat_eq_append] at hlog hfree
      rw [← List.cons_append, ← List.append_assoc] at hlog
      obtain ⟨hbefore, hy⟩ := List.append_inj' hlog rfl
      cases hy
      refine .inr ⟨⟨before, x, after, hbefore, hissue, fun z hz => hfree z ?_⟩, hfree e ?_⟩
      · exact List.mem_append_left _ hz
      · exact List.mem_append_right _ (List.mem_singleton_self _)
  · rintro (hissue | ⟨⟨before, x, after, rfl, hissue, hfree⟩, he⟩)
    · exact ⟨log, e, [], rfl, hissue, fun _ hx => nomatch hx⟩
    · refine ⟨before, x, after ++ [e], List.append_assoc .., hissue, fun z hz => ?_⟩
      rcases List.mem_append.mp hz with hz | hz
      · exact hfree z hz
      · rw [List.mem_singleton.mp hz]
        exact he

theorem signature?_zero (t : HandleTable) : signature? t 0 = none := rfl

theorem signature?_raw (t : HandleTable) (h : Handle) : signature? t h.raw = t.lookup h := by
  rw [signature?, Handle.ofRaw?, dif_neg h.raw_ne_zero, Option.bind_some]

theorem signature?_of_lookup {k : Handle} {found : Option Signature}
    (hl : ∀ h, t'.lookup h = if k = h then found else t.lookup h) (h : UInt64) :
    signature? t' h = if k.raw = h then found else signature? t h := by
  by_cases h0 : h = 0
  · rw [h0, signature?_zero, signature?_zero, if_neg k.raw_ne_zero]
  · obtain ⟨h, rfl⟩ : ∃ h' : Handle, h'.raw = h := ⟨⟨h, h0⟩, rfl⟩
    simp only [signature?_raw, hl, Handle.raw_inj]

theorem signature?_free (t : HandleTable) (k h : UInt64) :
    signature? (freeSignature t k) h = if k = h then none else signature? t h := by
  rcases freeSignature_eq t k with ⟨heq, rfl⟩ | ⟨k, rfl, heq⟩ <;> rw [heq]
  · split
    · rename_i h0
      rw [← h0, signature?_zero]
    · rfl
  · exact signature?_of_lookup (fun _ => HandleTable.lookup_release) h

/-- The numbers handed out are counted by the log, and a handle stands for what it is held for. -/
structure Session.Sound (σ : Session) : Prop where
  handedOut : σ.table.HandedOut (registrations σ.log)
  held : ∀ h s, signature? σ.table h = some s ↔ Held σ.log h s

theorem Effect.held (eff : Effect t e t') (ht : t.HandedOut (registrations log))
    (hfew : registrations (log ++ [e]) < 2 ^ 64) (hheld : ∀ h s, signature? t h = some s ↔ Held log h s)
    (h : UInt64) (s : Signature) : signature? t' h = some s ↔ Held (log ++ [e]) h s := by
  rw [held_append, ← hheld]
  cases eff with
  | nothing _ hissue hfree => simp only [hissue, hfree, false_or, not_false_iff, and_true]
  | registration s' hreg hissue hfree =>
    rw [registrations_append, hreg, if_pos rfl] at hfew
    have hl : signature? (store t (.ok s')).table h = if t.allocate.1.raw = h then some s' else signature? t h :=
      signature?_of_lookup (fun _ => HandleTable.lookup_insert) h
    rw [hissue, hl]
    simp only [hfree, not_false_iff, and_true]
    split
    · rename_i hk
      have habsent : signature? t h = none := by rw [← hk, signature?_raw, ht.lookup_allocated hfew]
      simp [hk, habsent]
    · rename_i hk
      simp [hk]
  | release k _ hissue hfree =>
    rw [signature?_free, hfree]
    split <;> rename_i hk <;> simp [hissue, hk]

theorem Session.Sound.call {σ : Session} (hσ : σ.Sound) {c : Call} (hfew : registrations (σ.call c).log < 2 ^ 64) :
    (σ.call c).Sound where
  handedOut := (perform_effect σ.table c).handedOut hσ.handedOut hfew
  held := (perform_effect σ.table c).held hσ.handedOut hfew hσ.held

theorem run_append (calls : List Call) (c : Call) : run (calls ++ [c]) = (run calls).call c := by
  rw [run, List.foldl_append]
  rfl

theorem run_sound {calls : List Call} (hfew : registrations (run calls).log < 2 ^ 64) : (run calls).Sound := by
  induction calls using List.reverseRecOn with
  | nil =>
    refine ⟨.empty, fun h s => iff_of_false (fun hs => ?_) not_held_nil⟩
    obtain ⟨k, -, hk⟩ := Option.bind_eq_some_iff.mp hs
    exact nomatch HandleTable.lookup_empty.symm.trans hk
  | append_singleton calls c ih =>
    rw [run_append] at hfew ⊢
    have hbefore : registrations (run calls).log ≤ registrations ((run calls).call c).log :=
      Nat.le_trans (Nat.le_add_right ..) (Nat.le_of_eq registrations_append.symm)
    exact (ih (by omega)).call hfew

/-! ## (3) One search -/

/-- From `i` on, the signature fits into the first `size` bytes of the buffer, and its address is a
    multiple of the stride. -/
structure FitsBuffer (s : Signature) (a : Alignment) (b : Region) (size i : Nat) : Prop where
  inside : i + s.length ≤ size
  aligned : (b.base.toNat + i) % a.stride = 0
  fits : s.FitsAt b.bytes i

variable {a : Alignment} {b : Region} {size i : Nat}

theorem fitsBuffer_iff : FitsBuffer s a b size i ↔ IsHit s a b.bytes b.base i ∧ i + s.length ≤ size :=
  ⟨fun hit => ⟨⟨hit.fits.inside, Alignment.allows_iff.mpr hit.aligned, hit.fits⟩, hit.inside⟩,
    fun ⟨hit, hin⟩ => ⟨hin, Alignment.allows_iff.mp hit.allowed, hit.fits⟩⟩

theorem isHit_window :
    IsHit s a ((b.bytes.slice? 0 size).getD b.bytes) b.base i ↔ FitsBuffer s a b size i := by
  rw [fitsBuffer_iff]
  cases hbytes : b.bytes.slice? 0 size with
  | some bytes =>
    have hpart := Region.isPart_of_slice? hbytes
    have haddress : b.addressOf 0 = b.base := UInt64.add_zero b.base
    have hit := hpart.isHit_iff (s := s) (a := a) (i := i)
    rwa [haddress, Nat.zero_add, Nat.sub_zero] at hit
  | none =>
    have hsize : ¬size ≤ b.bytes.size := by
      intro hle
      have hsome := Bytes.slice?_isSome_iff.mpr ⟨Nat.zero_le _, hle⟩
      rw [hbytes] at hsome
      cases hsome
    rw [Option.getD_none]
    refine ⟨fun hit => ⟨hit, ?_⟩, fun hit => hit.1⟩
    have := hit.inside
    omega

theorem alignment?_eq_some_iff {align : UInt32} :
    alignment? align = some a ↔ align = 0 ∧ a = .x1 ∨ align = 1 ∧ a = .x16 := by
  unfold alignment?
  split
  · simp [eq_comm]
  · simp [eq_comm]
  · rename_i h0 h1
    refine iff_of_false nofun ?_
    rintro (⟨rfl, -⟩ | ⟨rfl, -⟩)
    · exact h0 rfl
    · exact h1 rfl

theorem findPattern_least {handle : UInt64} {align : UInt32} (hs : signature? t handle = some s)
    (ha : alignment? align = some a) (hasAvx2 : Bool) (b : Region) (size : Nat) :
    ∃ found, findPattern hasAvx2 t handle (some b) size align = found.map b.addressOf ∧
      LeastFrom (FitsBuffer s a b size) 0 found := by
  let window : Region := ⟨(b.bytes.slice? 0 size).getD b.bytes, b.base⟩
  let scanner : Scanner := ⟨s, { alignment := a }, hasAvx2⟩
  refine ⟨scanner.findFirst window, ?_, ?_⟩
  · simp only [findPattern, hs, ha, Option.bind_eq_bind, Option.bind_some, Option.pure_def]
    exact Option.map_eq_bind.symm
  · have sound := scanner.findAll_sound window
    have hleast := scanner.backend.find_least sound.suits sound.anchored window (show 0 + 15 < 2 ^ 64 by decide)
    exact hleast.congr fun i _ => isHit_window

theorem FitsBuffer.toNat_addressOf (hit : FitsBuffer s a b size i) (hroom : b.base.toNat + size ≤ 2 ^ 64) :
    (b.addressOf i).toNat = b.base.toNat + i := by
  have hpos := s.length_pos
  have hin := hit.inside
  rw [Region.addressOf, wrapped_toNat, Nat.mod_eq_of_lt (by omega)]

/-! ## (4) The searches of a sequence -/

theorem length_log (calls : List Call) : (run calls).log.length = calls.length := by
  induction calls using List.reverseRecOn with
  | nil => rfl
  | append_singleton calls c ih =>
    rw [run_append, Session.call, List.length_append, List.length_append, ih]
    rfl

theorem registrations_le (calls : List Call) : registrations (run calls).log ≤ calls.length :=
  length_log calls ▸ List.countP_le_length

/-- Each call is answered on the table that the calls before it have left. -/
theorem getElem?_log (earlier later : List Call) (c : Call) :
    (run (earlier ++ c :: later)).log[earlier.length]? = some (c, (perform (run earlier).table c).1) := by
  induction later using List.reverseRecOn with
  | nil =>
    rw [run_append, ← length_log earlier]
    exact List.getElem?_concat_length
  | append_singleton later d ih =>
    have hlt := (List.getElem?_eq_some_iff.mp ih).1
    rw [← List.cons_append, ← List.append_assoc, run_append, Session.call, List.getElem?_append_left hlt]
    exact ih

/-- The handle is held for `s`, the number of the alignment stands for `a`, and the buffer is `b`. -/
structure WellPosed (log : List Entry) (handle : UInt64) (buffer : Option Region) (align : UInt32) (s : Signature)
    (a : Alignment) (b : Region) : Prop where
  held : Held log handle s
  alignment : align = 0 ∧ a = .x1 ∨ align = 1 ∧ a = .x16
  buffer : buffer = some b

namespace WellPosed

variable {σ : Session} {hasAvx2 : Bool} {handle : UInt64} {buffer : Option Region} {align : UInt32} {address : UInt64}

/-- Only a search that is well posed answers an address. -/
theorem exists_of_findPattern (hσ : σ.Sound) (hfound : findPattern hasAvx2 σ.table handle buffer size align = some address) :
    ∃ s a b, WellPosed σ.log handle buffer align s a b := by
  simp only [findPattern, Option.bind_eq_bind, Option.bind_eq_some_iff] at hfound
  obtain ⟨s, hs, a, ha, b, hb, -⟩ := hfound
  exact ⟨s, a, b, (hσ.held handle s).mp hs, alignment?_eq_some_iff.mp ha, hb⟩

/-- In a buffer that ends within 64 bits, it answers null where there is no fit, and else the
    address of the least one. -/
theorem outcome (hσ : σ.Sound) (hposed : WellPosed σ.log handle buffer align s a b)
    (hroom : b.base.toNat + size ≤ 2 ^ 64) (hasAvx2 : Bool) :
    (findPattern hasAvx2 σ.table handle buffer size align = none ∧ ∀ i, ¬FitsBuffer s a b size i) ∨
    ∃ i, LeastFrom (FitsBuffer s a b size) 0 (some i) ∧
      ((findPattern hasAvx2 σ.table handle buffer size align).getD 0).toNat = b.base.toNat + i := by
  obtain ⟨hheld, halign, rfl⟩ := hposed
  have hs := (hσ.held handle s).mpr hheld
  have ha := alignment?_eq_some_iff.mpr halign
  obtain ⟨found, heq, hleast⟩ := findPattern_least hs ha hasAvx2 b size
  rw [heq]
  cases found with
  | none => exact .inl ⟨rfl, fun i => hleast i (Nat.zero_le i)⟩
  | some i => exact .inr ⟨i, hleast, hleast.2.1.toNat_addressOf hroom⟩

end WellPosed

/-- Of every search in a sequence of calls: it answers an address other than null just when its
    handle was issued by an earlier call and not freed since, its alignment is known, its buffer is
    there and the signature fits in it at a multiple of the stride. It then answers the address of
    the least such place, which leaves room for the signature. -/
theorem find_answers_for_held (earlier later : List Call) (hasAvx2 : Bool) (handle : UInt64)
    (buffer : Option Region) (size : Nat) (align : UInt32) (hfew : registrations (run earlier).log < 2 ^ 64)
    (hbuffer : ∀ b, buffer = some b → b.base ≠ 0 ∧ b.base.toNat + size ≤ 2 ^ 64) :
    ∃ answer,
      (run (earlier ++ .find hasAvx2 handle buffer size align :: later)).log[earlier.length]? =
        some (.find hasAvx2 handle buffer size align, .found answer) ∧
      (answer.getD 0 ≠ 0 ↔
        ∃ s a b i, WellPosed (run earlier).log handle buffer align s a b ∧ FitsBuffer s a b size i) ∧
      ∀ s a b, WellPosed (run earlier).log handle buffer align s a b → answer.getD 0 ≠ 0 →
        ∃ i, LeastFrom (FitsBuffer s a b size) 0 (some i) ∧ (answer.getD 0).toNat = b.base.toNat + i ∧
          i + s.length ≤ size := by
  have sound := run_sound hfew
  have null_or_least : ∀ s a b, WellPosed (run earlier).log handle buffer align s a b → _ :=
    fun s a b hposed => hposed.outcome sound (hbuffer b hposed.buffer).2 hasAvx2
  refine ⟨findPattern hasAvx2 (run earlier).table handle buffer size align, getElem?_log .., ⟨fun hne => ?_, ?_⟩, ?_⟩
  · cases hanswer : findPattern hasAvx2 (run earlier).table handle buffer size align with
    | none =>
      rw [hanswer] at hne
      exact absurd rfl hne
    | some address =>
      obtain ⟨s, a, b, hposed⟩ := WellPosed.exists_of_findPattern sound hanswer
      rcases null_or_least s a b hposed with ⟨hnull, -⟩ | ⟨i, hleast, -⟩
      · exact nomatch hanswer.symm.trans hnull
      · exact ⟨s, a, b, i, hposed, hleast.2.1⟩
  · rintro ⟨s, a, b, i, hposed, hit⟩ hzero
    rcases null_or_least s a b hposed with ⟨-, hnone⟩ | ⟨j, -, haddress⟩
    · exact hnone i hit
    · have hbase : b.base.toNat ≠ 0 := fun h0 => (hbuffer b hposed.buffer).1 (UInt64.toNat_inj.mp h0)
      rw [hzero, UInt64.toNat_zero] at haddress
      omega
  · intro s a b hposed hne
    rcases null_or_least s a b hposed with ⟨hnull, -⟩ | ⟨i, hleast, haddress⟩
    · rw [hnull] at hne
      exact absurd rfl hne
    · exact ⟨i, hleast, haddress, hleast.2.1.inside⟩

def freedTwice : List Call :=
  [.build (.create (some [0xCC]) (some [0xFF]) 1 .given),
    .build (.create (some [0x90, 0xC3]) (some [0xFF, 0x0F]) 2 .given), .free 1, .free 1]

/-- Twenty bytes, of which one lies at a multiple of sixteen with room behind it. -/
def misaligned : Region := ⟨.ofList (List.replicate 6 0xCC ++ [0x90, 0x53] ++ List.replicate 12 0xCC), 0x100A⟩

/-- Behind them the second handle is found at its aligned address, and the first one nowhere. -/
theorem find_answers_behind_freed_handle :
    registrations (run freedTwice).log < 2 ^ 64 ∧
    (misaligned.base ≠ 0 ∧ misaligned.base.toNat + 20 ≤ 2 ^ 64) ∧
    (∃ answer, (run (freedTwice ++ [Call.find true 2 (some misaligned) 20 1])).log[4]? =
        some (Call.find true 2 (some misaligned) 20 1, Answer.found answer) ∧ (answer.getD 0).toNat = 0x1010) ∧
    ∃ answer, (run (freedTwice ++ [Call.find false 1 (some misaligned) 20 0])).log[4]? =
        some (Call.find false 1 (some misaligned) 20 0, Answer.found answer) ∧ answer.getD 0 = 0 := by
  have hfew : registrations (run freedTwice).log < 2 ^ 64 :=
    Nat.lt_of_le_of_lt (registrations_le freedTwice) (by decide)
  have hroom : misaligned.base ≠ 0 ∧ misaligned.base.toNat + 20 ≤ 2 ^ 64 := by decide
  have hbuffer : ∀ b, some misaligned = some b → b.base ≠ 0 ∧ b.base.toNat + 20 ≤ 2 ^ 64 :=
    fun b hb => Option.some.inj hb ▸ hroom
  refine ⟨hfew, hroom, ?_, ?_⟩
  · obtain ⟨answer, hlog, hiff, hleast⟩ := find_answers_for_held freedTwice [] true 2 (some misaligned) 20 1 hfew hbuffer
    have hposed : WellPosed (run freedTwice).log 2 (some misaligned) 1 pairSignature .x16 misaligned := by
      refine ⟨⟨[_], _, [_, _], rfl, ⟨_, rfl, rfl⟩, fun x hx hfree => ?_⟩, .inr ⟨rfl, rfl⟩, rfl⟩
      simp only [List.mem_cons, List.not_mem_nil, or_false] at hx
      rcases hx with rfl | rfl <;> exact absurd (Call.free.inj hfree) (by decide)
    have hit : FitsBuffer pairSignature .x16 misaligned 20 6 := ⟨by decide, by decide, by decide⟩
    have hne := hiff.mpr ⟨pairSignature, .x16, misaligned, 6, hposed, hit⟩
    obtain ⟨i, ⟨-, hfits, -⟩, haddress, hin⟩ := hleast pairSignature .x16 misaligned hposed hne
    have hbase : misaligned.base.toNat = 0x100A := rfl
    have hlength : pairSignature.length = 2 := rfl
    have haligned := hfits.aligned
    rw [hbase, Alignment.stride] at haligned
    exact ⟨answer, hlog, by omega⟩
  · obtain ⟨answer, hlog, hiff, -⟩ := find_answers_for_held freedTwice [] false 1 (some misaligned) 20 0 hfew hbuffer
    refine ⟨answer, hlog, not_not.mp fun hne => ?_⟩
    obtain ⟨s, _, _, _, hposed, -⟩ := hiff.mp hne
    have hheld : Held ((run (freedTwice.take 3)).log ++ [(.free 1, .freed)]) 1 s := hposed.held
    rcases held_append.mp hheld with ⟨r, he, -⟩ | ⟨-, hfree⟩
    · cases he
    · exact hfree rfl

end SignatureSearch.Calls
