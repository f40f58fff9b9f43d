/-
  SignatureSearch.Scan.Scanner — finding a signature in a region.

  A scanner is a signature with the options of a scan. `findFirst` gives the lowest match and
  `findAll` an iterator over all of them, in ascending order; the iterator is a value of its own,
  so copies of it go on independently.
-/

import SignatureSearch.Match
import SignatureSearch.Scan.Block

namespace SignatureSearch

/-- A search that is fit for its plan: blocks need an anchor. -/
inductive Backend where
  | single
  | avx2 (anchor : Anchor)
  deriving DecidableEq, Repr

namespace Backend

def name : Backend → String
  | .single => "Single"
  | .avx2 _ => "Avx2"

/-- `resolve` and `vectorized`: the search for a mode. Blocks are of use only where every address
counts, and only a processor that has them can search by blocks. -/
def resolve (hasAvx2 : Bool) (mode : Mode) (p : ScanPlan) : Backend :=
  match mode, p.anchor, p.alignment with
  | .single, _, _ => .single
  | _, some anchor, .x1 => if hasAvx2 then .avx2 anchor else .single
  | _, _, _ => .single

def search (b : Backend) (p : ScanPlan) (bytes : Bytes) (base : UInt64) (start : Nat) :
    Guarded (Option Nat) :=
  match b with
  | .single => Single.find p bytes base start
  | .avx2 anchor => Block.find p anchor bytes base start

/-- The first match from `start` on; a search that faulted finds none. -/
def find (b : Backend) (p : ScanPlan) (r : Region) (start : Nat) : Option Nat :=
  match b.search p r.bytes r.base start with
  | .ok found => found
  | .error _ => none

end Backend

/-- The matches of a signature in a region that are still to come. -/
structure Matches where
  plan : ScanPlan
  backend : Backend
  region : Region
  /-- Where to go on, or nothing once the region is exhausted. -/
  resume : Option Nat

namespace Matches

def next (m : Matches) : Option Nat × Matches :=
  match m.resume with
  | none => (none, m)
  | some start =>
    let found := m.backend.find m.plan m.region start
    (found, { m with resume := found.map (· + m.plan.alignment.stride) })

/-- `next`, at most `n` times, and what is left. -/
def take : Nat → Matches → List Nat × Matches
  | 0, m => ([], m)
  | n + 1, m =>
    match m.next with
    | (none, m) => ([], m)
    | (some offset, m) =>
      let (later, m) := take n m
      (offset :: later, m)

/-- All matches that are left: no more than there are offsets in the region. -/
def toList (m : Matches) : List Nat := (m.take (m.region.size + 1)).1

end Matches

structure Scanner where
  signature : Signature
  options : ScanOptions := {}
  /-- Of the processor: `is_x86_feature_detected`. -/
  hasAvx2 : Bool := true

namespace Scanner

def plan (s : Scanner) : ScanPlan where
  signature := s.signature
  alignment := s.options.alignment
  anchor := Anchor.select s.signature s.options.alignment s.options.hint

def backend (s : Scanner) : Backend := Backend.resolve s.hasAvx2 s.options.mode s.plan

/-- `find_first`: the lowest offset at which the signature matches. -/
def findFirst (s : Scanner) (r : Region) : Option Nat := s.backend.find s.plan r 0

/-- `find_match`. -/
def findMatch (s : Scanner) (r : Region) : Option Match := (s.findFirst r).map fun i => ⟨r, i⟩

/-- `find_all`. -/
def findAll (s : Scanner) (r : Region) : Matches := ⟨s.plan, s.backend, r, some 0⟩

end Scanner

end SignatureSearch
