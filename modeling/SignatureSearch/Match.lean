/-
  SignatureSearch.Match — a place in a region where a signature matched.

  Code holds distances to other code as signed 32-bit displacements, counted from the end of the
  instruction. `displacement?` reads one and `target?` follows it; both refuse what leaves the
  region or the 64-bit address space.
-/

import SignatureSearch.Region

namespace SignatureSearch

structure Match where
  region : Region
  /-- From the start of the region. -/
  offset : Nat

namespace Match

def address (m : Match) : UInt64 := m.region.addressOf m.offset

/-- The region from the match on. -/
def bytes (m : Match) : Bytes := m.region.bytes.drop m.offset

/-- The signed number whose two's complement form is `n`. -/
def signed32 (n : UInt32) : Int := if n.toNat < 0x80000000 then n.toNat else (n.toNat : Int) - UInt32.size

/-- `read_i32`: the displacement `at_` bytes after the match. -/
def displacement? (m : Match) (at_ : UInt64) : Option Int := do
  let start ← Word.addExact (UInt64.ofNat m.offset) at_
  let _ ← Word.addExact start 4
  let n ← m.region.bytes.u32? .little start.toNat
  return signed32 n

/-- `rel`: the address that a displacement `at_` bytes after the match leads to, with `remaining` bytes
of its instruction behind it. -/
def target? (m : Match) (at_ remaining : UInt64) : Option UInt64 := do
  let d ← m.displacement? at_
  let next ← Word.addExact m.address at_
  let next ← Word.addExact next 4
  let next ← Word.addExact next remaining
  Word.addSigned next d

def describe (m : Match) : String :=
  "Match \x7b addr: " ++ Text.hex m.address.toNat ++ ", offset: " ++ Text.hex m.offset ++ " \x7d"

end Match

end SignatureSearch
