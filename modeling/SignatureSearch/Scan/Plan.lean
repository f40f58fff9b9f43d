/-
  SignatureSearch.Scan.Plan — what the searches for one signature share.

  They address bytes by position, in 64-bit arithmetic and without further checks. Here they are
  written with every such step guarded: a step that would leave the bytes or the range of its
  numbers is a fault, and ends the search. A search without faults is one whose unguarded form is
  safe.
-/

import SignatureSearch.Region
import SignatureSearch.Scan.Anchor
import SignatureSearch.Signature.Basic

namespace SignatureSearch

namespace Guarded

def byteAt (bytes : Bytes) (i : Nat) : Guarded UInt8 :=
  match bytes.get? i with
  | some b => .ok b
  | none => .error .outOfBounds

def within (bytes : Bytes) (start stop : Nat) : Guarded Unit :=
  if start ≤ stop ∧ stop ≤ bytes.size then .ok () else .error .outOfBounds

/-- `verify`, with a check of the range that it takes from the bytes. -/
def verify (s : Signature) (bytes : Bytes) (start : Nat) : Guarded Bool := do
  within bytes start bytes.size
  return s.matchesAt bytes start

end Guarded

/-- `ScanContext`. -/
structure ScanPlan where
  signature : Signature
  alignment : Alignment
  anchor : Option Anchor

namespace ScanPlan

/-- `last_start`: the last offset at which a match can start. -/
def lastStart? (p : ScanPlan) (bytes : Bytes) : Option Nat :=
  if p.signature.length ≤ bytes.size then some (bytes.size - p.signature.length) else none

/-- `first_candidate`: the first offset from `start` on whose address counts. -/
def firstCandidate (p : ScanPlan) (base : UInt64) (start : Nat) : Guarded Nat :=
  let stride := p.alignment.stride
  let misalign := (base + UInt64.ofNat start).toNat % stride
  if misalign = 0 then .ok start else Guarded.add start (stride - misalign)

def verify (p : ScanPlan) (bytes : Bytes) (start : Nat) : Guarded Bool :=
  Guarded.verify p.signature bytes start

end ScanPlan

end SignatureSearch
