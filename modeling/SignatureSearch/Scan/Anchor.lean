/-
  SignatureSearch.Scan.Anchor — the part of a signature that a search looks for first.

  An anchor is a fully known element, where possible together with a fully known one behind it.
  Code for x86-64 holds some pairs of bytes far more often than others; knowing that the data is
  such code, the anchor is the pair met least.
-/

import SignatureSearch.Scan.Options
import SignatureSearch.Scan.PairFrequency
import SignatureSearch.Signature.Basic

namespace SignatureSearch

structure Anchor where
  index : Nat
  byte : UInt8
  /-- The byte of the element behind it, when that is fully known too and looked for. -/
  next : Option UInt8
  deriving DecidableEq, Repr

namespace Anchor

/-- The anchors on two adjacent known bytes, the first element standing at `index`. -/
def pairsFrom (index : Nat) : List Element → List Anchor
  | a :: b :: rest =>
    let later := pairsFrom (index + 1) (b :: rest)
    if a.isByte && b.isByte then ⟨index, a.value, some b.value⟩ :: later else later
  | _ => []

def pairs (s : Signature) : List Anchor := pairsFrom 0 s.elements

/-- `pair_score`: how rare the anchor's pair is in x86-64 code: its place among the frequent ones, most frequent
first, or beyond them all. -/
def rarity (a : Anchor) : Nat :=
  match a.next with
  | some next => PairFrequency.rank (a.byte, next)
  | none => 0

/-- `rarest`: of anchors that are as rare, the first one. -/
def rarest : List Anchor → Option Anchor
  | [] => none
  | a :: rest => some (rest.foldl (fun best b => if best.rarity < b.rarity then b else best) a)

/-- The first fully known element, the first element standing at `index`. -/
def firstByteFrom (index : Nat) : List Element → Option Anchor
  | [] => none
  | e :: rest => if e.isByte then some ⟨index, e.value, none⟩ else firstByteFrom (index + 1) rest

/-- `select`: the anchor of a search. Start addresses that are multiples of sixteen are so few that a pair
gains nothing. -/
def select (s : Signature) (alignment : Alignment) (hint : Hint) : Option Anchor :=
  let pair := match alignment, hint with
    | .x16, _ => none
    | .x1, .unknown => (pairs s).head?
    | .x1, .x86_64 => rarest (pairs s)
  pair <|> firstByteFrom 0 s.elements

end Anchor

end SignatureSearch
