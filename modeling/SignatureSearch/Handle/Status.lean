/-
  SignatureSearch.Handle.Status — the outcome of building a signature, as a number.
-/

import SignatureSearch.Signature.Basic

namespace SignatureSearch

inductive Status where
  | success
  | unknownError
  | invalid
  | empty
  | noByte
  deriving DecidableEq, Repr

namespace Status

def code : Status → Nat
  | .success => 0
  | .unknownError => 1
  | .invalid => 2
  | .empty => 3
  | .noByte => 4

def name : Status → String
  | .success => "Success"
  | .unknownError => "ErrUnknown"
  | .invalid => "SigInvalid"
  | .empty => "SigEmpty"
  | .noByte => "SigNoByte"

def ofError : SignatureError → Status
  | .invalid => .invalid
  | .empty => .empty
  | .noByte => .noByte
  | .lengthMismatch => .unknownError

def ofResult {α : Type} : Except SignatureError α → Status
  | .ok _ => .success
  | .error e => ofError e

end Status

end SignatureSearch
