/-
  SignatureSearch.Scan.Block — the search that compares 32 positions at once.

  A block of 32 bytes is compared with the anchor's byte in one step, which leaves a word with one
  bit a lane; for a pair the block one byte further is compared with the second byte, and a lane
  counts only when both agree. The lanes are verified from the lowest on. What is left when no
  whole block fits any more goes to the byte by byte search.
-/

import SignatureSearch.Scan.Single

namespace SignatureSearch.Block

def lanes : Nat := 32

/-- The word whose bit `k` says whether lane `k` passes. -/
def laneWord (passes : Nat → Bool) : UInt32 :=
  (List.range lanes).foldl
    (fun word k => if passes k then word ||| 1 <<< UInt32.ofNat k else word) 0

def compareBlock (bytes : Bytes) (pos : Nat) (byte : UInt8) : Guarded UInt32 := do
  Guarded.within bytes pos (pos + lanes)
  return laneWord fun k => bytes.get? (pos + k) == some byte

def lowestLane (word : UInt32) : Nat :=
  ((List.range lanes).find? fun k => word &&& 1 <<< UInt32.ofNat k != 0).getD lanes

def clearLowest (word : UInt32) : UInt32 := word &&& (word - 1)

theorem clearLowest_lt {word : UInt32} (h : word ≠ 0) :
    (clearLowest word).toNat < word.toNat := by
  have hpos : word.toNat ≠ 0 := fun e => h (UInt32.toNat_inj.1 e)
  have hle : (1 : UInt32) ≤ word := by
    rw [UInt32.le_iff_toNat_le]
    simp only [UInt32.reduceToNat]
    omega
  unfold clearLowest
  rw [UInt32.toNat_and]
  have := @Nat.and_le_right word.toNat (word - 1).toNat
  rw [UInt32.toNat_sub_of_le _ _ hle] at this ⊢
  simp only [UInt32.reduceToNat] at this ⊢
  omega

def lanesBelow (count : Nat) : Guarded UInt32 := do
  if count < lanes then return (1 <<< UInt32.ofNat count) - 1 else throw .overflow

/-- The first lane whose candidate matches, from the lowest on. -/
def verifyLanes (p : ScanPlan) (index : Nat) (bytes : Bytes) (pos : Nat) (word : UInt32) :
    Guarded (Option Nat) :=
  if word = 0 then return none
  else do
    let place ← Guarded.add pos (lowestLane word)
    let candidate ← Guarded.sub place index
    if ← p.verify bytes candidate then return some candidate
    else verifyLanes p index bytes pos (clearLowest word)
termination_by word.toNat
decreasing_by exact clearLowest_lt (by assumption)

/-- The lanes of the block at `pos` in which the anchor stands. -/
def standingLanes (anchor : Anchor) (bytes : Bytes) (pos : Nat) : Guarded UInt32 := do
  let word ← compareBlock bytes pos anchor.byte
  match anchor.next with
  | some next => return word &&& (← compareBlock bytes (← Guarded.add pos 1) next)
  | none => return word

/-- Those of them that lie before `stop`. -/
def anchorLanes (anchor : Anchor) (bytes : Bytes) (stop pos : Nat) : Guarded UInt32 := do
  let word ← standingLanes anchor bytes pos
  let remaining ← Guarded.sub stop pos
  if remaining < lanes then return word &&& (← lanesBelow remaining) else return word

inductive Outcome where
  | found (start : Nat)
  /-- No block fits at this position any more. -/
  | reached (pos : Nat)
  deriving DecidableEq, Repr

/-- Goes over the blocks from `pos` on, for anchors before `stop`. -/
def blocks (p : ScanPlan) (anchor : Anchor) (bytes : Bytes) (width stop pos : Nat) :
    Guarded Outcome :=
  if pos < stop then do
    if (← Guarded.add pos width) ≤ bytes.size then
      let word ← anchorLanes anchor bytes stop pos
      match ← verifyLanes p anchor.index bytes pos word with
      | some start => return .found start
      | none => do
        let _ ← Guarded.add pos lanes
        blocks p anchor bytes width stop (pos + lanes)
    else return .reached pos
  else return .reached pos
termination_by stop - pos
decreasing_by
  unfold lanes
  omega

/-- `find` by blocks, for searches that allow every address. -/
def find (p : ScanPlan) (anchor : Anchor) (bytes : Bytes) (base : UInt64) (start : Nat) :
    Guarded (Option Nat) :=
  match p.lastStart? bytes with
  | none => return none
  | some last =>
    if last < start then return none
    else do
      let stop ← Guarded.add (← Guarded.add last anchor.index) 1
      let width := if anchor.next.isSome then lanes + 1 else lanes
      let pos ← Guarded.add start anchor.index
      match ← blocks p anchor bytes width stop pos with
      | .found start => return some start
      | .reached pos =>
        if stop ≤ pos then return none
        else Single.find p bytes base (← Guarded.sub pos anchor.index)

end SignatureSearch.Block
