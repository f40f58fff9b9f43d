/-
  SignatureSearch.Bytes — the contents of a file or of a stretch of memory.

  A `Bytes` is shorter than 2⁶³ bytes, which is more than a 64-bit address space ever hands out
  in one piece, so a position plus a small constant never leaves 64 bits. `slice?` is the only
  way to cut one, and it refuses a range that does not lie inside.
-/

namespace SignatureSearch

structure Bytes where
  toArray : Array UInt8
  size_lt : toArray.size < 0x8000000000000000

namespace Bytes

def empty : Bytes := ⟨#[], by decide⟩

instance : Inhabited Bytes := ⟨empty⟩

/-- Bytes that no address space could hold are given up. -/
def ofArray (bytes : Array UInt8) : Bytes :=
  if h : bytes.size < 0x8000000000000000 then ⟨bytes, h⟩ else empty

def ofList (bytes : List UInt8) : Bytes := ofArray bytes.toArray

def size (b : Bytes) : Nat := b.toArray.size

def isEmpty (b : Bytes) : Bool := b.size == 0

def get? (b : Bytes) (i : Nat) : Option UInt8 := b.toArray[i]?

def toList (b : Bytes) : List UInt8 := b.toArray.toList

/-- The bytes from `start` up to `stop`. -/
def slice? (b : Bytes) (start stop : Nat) : Option Bytes :=
  if start ≤ stop ∧ stop ≤ b.size then
    some ⟨b.toArray.extract start stop, by
      have := b.size_lt
      rw [Array.size_extract]
      omega⟩
  else none

def take (b : Bytes) (n : Nat) : List UInt8 := (b.toArray.extract 0 n).toList

def drop (b : Bytes) (start : Nat) : Bytes :=
  ⟨b.toArray.extract start b.toArray.size, by
    have := b.size_lt
    rw [Array.size_extract]
    omega⟩

instance : BEq Bytes := ⟨fun a b => a.toArray == b.toArray⟩

theorem size_lt_two_pow (b : Bytes) : b.size < 0x8000000000000000 := b.size_lt

@[simp] theorem size_empty : empty.size = 0 := rfl

@[simp] theorem length_toList (b : Bytes) : b.toList.length = b.size := rfl

@[simp] theorem getElem?_toList (b : Bytes) (i : Nat) : b.toList[i]? = b.get? i := Array.getElem?_toList

theorem exists_get? {b : Bytes} {i : Nat} (h : i < b.size) : ∃ byte, b.get? i = some byte :=
  ⟨_, Array.getElem?_eq_getElem h⟩

theorem lt_size_of_get? {b : Bytes} {i : Nat} {byte : UInt8} (h : b.get? i = some byte) : i < b.size :=
  (Array.getElem?_eq_some_iff.mp h).1

theorem slice?_isSome_iff {b : Bytes} {start stop : Nat} :
    (b.slice? start stop).isSome ↔ start ≤ stop ∧ stop ≤ b.size := by
  unfold slice?
  split <;> simp_all

theorem size_of_slice? {b c : Bytes} {start stop : Nat} (h : b.slice? start stop = some c) :
    c.size = stop - start := by
  unfold slice? at h
  split at h
  · rename_i hr
    obtain rfl := Option.some.inj h
    simp only [size, Array.size_extract] at hr ⊢
    omega
  · simp at h

theorem size_drop {b : Bytes} {start : Nat} : (b.drop start).size = b.size - start := by
  show (b.toArray.extract start b.toArray.size).size = b.toArray.size - start
  rw [Array.size_extract, Nat.min_self]

theorem get?_drop {b : Bytes} {start : Nat} (i : Nat) : (b.drop start).get? i = b.get? (start + i) := by
  by_cases h : start + i < b.size
  · exact Array.getElem?_extract.trans (if_pos (by unfold size at h; omega))
  · have hnone : b.get? (start + i) = none := Array.getElem?_eq_none (Nat.not_lt.mp h)
    have hnone' : (b.drop start).get? i = none := by
      apply Array.getElem?_eq_none
      show (b.drop start).size ≤ i
      rw [size_drop]
      omega
    rw [hnone, hnone']

theorem ext_toList {b c : Bytes} (h : b.toList = c.toList) : b = c := by
  cases b
  cases c
  obtain rfl := Array.ext' h
  rfl

theorem get?_of_slice? {b c : Bytes} {start stop : Nat} (h : b.slice? start stop = some c)
    (i : Nat) (hi : i < stop - start) : c.get? i = b.get? (start + i) := by
  unfold slice? at h
  split at h
  · rename_i hr
    obtain rfl := Option.some.inj h
    simp only [get?, size] at hr ⊢
    rw [Array.getElem?_extract, if_pos (by omega)]
  · simp at h

end Bytes

/-! ## Numbers stored in bytes -/

inductive ByteOrder where
  | little
  | big
  deriving DecidableEq, Repr

/-- The number whose digits to base 256 are `digits`. -/
def ByteOrder.value (order : ByteOrder) (digits : List UInt8) : Nat :=
  let most : List UInt8 := match order with
    | .little => digits.reverse
    | .big => digits
  most.foldl (fun n d => n * 256 + d.toNat) 0

namespace Bytes

def number? (b : Bytes) (order : ByteOrder) (pos width : Nat) : Option Nat :=
  (b.slice? pos (pos + width)).map fun field => order.value field.toList

def u16? (b : Bytes) (order : ByteOrder) (pos : Nat) : Option UInt16 :=
  (b.number? order pos 2).map UInt16.ofNat

def u32? (b : Bytes) (order : ByteOrder) (pos : Nat) : Option UInt32 :=
  (b.number? order pos 4).map UInt32.ofNat

def u64? (b : Bytes) (order : ByteOrder) (pos : Nat) : Option UInt64 :=
  (b.number? order pos 8).map UInt64.ofNat

end Bytes

end SignatureSearch
