/-
  SignatureSearch.Signature.Basic — byte signatures and the ways to build one.

  A signature is a non-empty list of elements. Reading text and listing elements ask for a fully
  known byte among them; data with a mask asks only that some bit be compared.
-/

import SignatureSearch.Bytes
import SignatureSearch.Signature.Element

namespace SignatureSearch

inductive SignatureError where
  /-- A token is neither a byte nor a wildcard. -/
  | invalid
  | empty
  /-- Nothing is fully known. -/
  | noByte
  | lengthMismatch
  deriving DecidableEq, Repr

def SignatureError.message : SignatureError → String
  | .invalid =>
    "invalid signature token, expected 2 hex digits, 8 binary digits or a ?/?? wildcard"
  | .empty => "signature is empty"
  | .noByte => "signature does not contain a fully known byte"
  | .lengthMismatch => "mask is not the same length as the data"

structure Signature where
  elements : List Element
  nonempty : elements ≠ []
  deriving DecidableEq

namespace Signature

def length (s : Signature) : Nat := s.elements.length

def ofNonempty (elements : List Element) : Except SignatureError Signature :=
  if h : elements = [] then .error .empty else .ok ⟨elements, h⟩

/-- `from_elements`. -/
def ofElements (elements : List Element) : Except SignatureError Signature :=
  if elements = [] then .error .empty
  else if elements.any Element.isByte then ofNonempty elements
  else .error .noByte

/-- `from_bytes`: the signature that only `bytes` satisfy. -/
def ofBytes (bytes : List UInt8) : Except SignatureError Signature :=
  ofNonempty (bytes.map Element.byte)

/-- `from_bytes_and_mask`: compares each byte under its mask byte. -/
def ofBytesAndMask (bytes mask : List UInt8) : Except SignatureError Signature :=
  if bytes.length ≠ mask.length then .error .lengthMismatch
  else if bytes = [] then .error .empty
  else if mask.all (· == 0) then .error .noByte
  else ofNonempty (List.zipWith Element.masked bytes mask)

def elementsMatchAt (bytes : Bytes) : Nat → List Element → Bool
  | _, [] => true
  | start, e :: rest =>
    match bytes.get? start with
    | some b => e.matchesByte b && elementsMatchAt bytes (start + 1) rest
    | none => false

/-- Whether the bytes from `start` on satisfy every element. -/
def matchesAt (s : Signature) (bytes : Bytes) (start : Nat) : Bool :=
  elementsMatchAt bytes start s.elements

/-- `matches`: whether `window` starts with bytes that satisfy every element. -/
def matchesWindow (s : Signature) (window : Bytes) : Bool := s.matchesAt window 0

end Signature

end SignatureSearch
