/-
  SignatureSearch.Region — bytes together with the address of the first one.

  Addresses count on from the base and wrap at 2⁶⁴. A part of a region keeps the addresses of its
  bytes; a part that does not lie inside, or whose end is no 64-bit number, is refused.
-/

import SignatureSearch.Bytes
import SignatureSearch.Text.Number
import SignatureSearch.Word

namespace SignatureSearch

structure Region where
  bytes : Bytes
  base : UInt64

namespace Region

def empty : Region := ⟨.empty, 0⟩

def size (r : Region) : Nat := r.bytes.size

/-- `address_of`: the address of the byte at `offset`. -/
def addressOf (r : Region) (offset : Nat) : UInt64 := r.base + UInt64.ofNat offset

/-- `subregion`, with `checked_add` for the end. -/
def subregion? (r : Region) (offset length : UInt64) : Option Region := do
  let stop ← Word.addExact offset length
  let bytes ← r.bytes.slice? offset.toNat stop.toNat
  return ⟨bytes, r.addressOf offset.toNat⟩

def describe (r : Region) : String :=
  "Region \x7b base: " ++ Text.hex r.base.toNat ++ ", len: " ++ Text.decimal r.size ++ " \x7d"

end Region

end SignatureSearch
