/-
  SignatureSearch.Scan.Single — the search that goes byte by byte.

  With an anchor and every address allowed it jumps from one occurrence of the anchor's byte to
  the next; otherwise it walks from one allowed address to the next, where an anchor spares most
  comparisons.
-/

import SignatureSearch.Scan.Plan

namespace SignatureSearch.Single

/-- `memchr`: the first position of `byte` from `pos` up to `stop`. -/
def positionOf (bytes : Bytes) (byte : UInt8) (pos stop : Nat) : Option Nat :=
  if pos < stop then
    if bytes.get? pos == some byte then some pos else positionOf bytes byte (pos + 1) stop
  else none
termination_by stop - pos

/-- The first match from `start` to `last`, looking for the anchor's byte. -/
def jump (p : ScanPlan) (anchor : Anchor) (bytes : Bytes) (last start : Nat) :
    Guarded (Option Nat) :=
  if start ≤ last then do
    let first ← Guarded.add start anchor.index
    let final ← Guarded.add last anchor.index
    Guarded.within bytes first (final + 1)
    match positionOf bytes anchor.byte first (final + 1) with
    | none => return none
    | some found =>
      let candidate := start + (found - first)
      if ← p.verify bytes candidate then return some candidate
      else jump p anchor bytes last (candidate + 1)
  else return none
termination_by last + 1 - start

/-- The first of `start`, `start + stride`, … up to `last` that passes `test`. -/
def walk (test : Nat → Guarded Bool) (alignment : Alignment) (last start : Nat) :
    Guarded (Option Nat) :=
  if start ≤ last then do
    if ← test start then return some start
    else walk test alignment last (start + alignment.stride)
  else return none
termination_by last + 1 - start
decreasing_by
  have := alignment.stride_pos
  omega

/-- Whether the anchor's byte is in its place after `start` and the whole signature matches. -/
def anchoredMatch (p : ScanPlan) (anchor : Anchor) (bytes : Bytes) (start : Nat) :
    Guarded Bool := do
  let place ← Guarded.add start anchor.index
  if (← Guarded.byteAt bytes place) == anchor.byte then p.verify bytes start else return false

/-- `find` byte by byte. -/
def find (p : ScanPlan) (bytes : Bytes) (base : UInt64) (start : Nat) : Guarded (Option Nat) :=
  match p.lastStart? bytes with
  | none => return none
  | some last => do
    let start ← p.firstCandidate base start
    if last < start then return none
    else
      match p.anchor, p.alignment with
      | some anchor, .x1 => jump p anchor bytes last start
      | some anchor, .x16 => walk (anchoredMatch p anchor bytes) .x16 last start
      | none, alignment => walk (p.verify bytes) alignment last start

end SignatureSearch.Single
