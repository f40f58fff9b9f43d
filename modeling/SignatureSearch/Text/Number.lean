/-
  SignatureSearch.Text.Number — numbers as the program writes them: lower-case hexadecimal after
  `0x`, decimal, and both filled up to a width.
-/

namespace SignatureSearch.Text

def padLeft (fill : Char) (width : Nat) (s : String) : String :=
  String.ofList (List.replicate (width - s.length) fill) ++ s

def padRight (fill : Char) (width : Nat) (s : String) : String :=
  s ++ String.ofList (List.replicate (width - s.length) fill)

def hexDigits (n : Nat) : String := String.ofList (Nat.toDigits 16 n)

def hex (n : Nat) : String := "0x" ++ hexDigits n

/-- Hexadecimal with zeros up to `width` characters, `0x` among them. -/
def hexWide (width : Nat) (n : Nat) : String := "0x" ++ padLeft '0' (width - 2) (hexDigits n)

def decimal (n : Nat) : String := String.ofList (Nat.toDigits 10 n)

def digitValue? (base : Nat) (c : Char) : Option Nat :=
  let value? :=
    if '0' ≤ c ∧ c ≤ '9' then some (c.toNat - 48)
    else if 'a' ≤ c ∧ c ≤ 'f' then some (c.toNat - 87)
    else if 'A' ≤ c ∧ c ≤ 'F' then some (c.toNat - 55)
    else none
  value?.filter (· < base)

def isDecimalDigit (c : Char) : Bool := '0' ≤ c && c ≤ '9'

/-- The digits as a number, if there is one and all are digits. -/
def decimalValue? (digits : List Char) : Option Nat :=
  if digits.isEmpty then none
  else digits.foldl
    (fun n? c => n?.bind fun n => if isDecimalDigit c then some (n * 10 + (c.toNat - 48)) else none)
    (some 0)

/-- A word written in decimal, with or without a plus sign. -/
def word? (text : List Char) : Option Nat :=
  let digits := match text with
    | '+' :: rest => rest
    | _ => text
  (decimalValue? digits).filter (· < UInt64.size)

end SignatureSearch.Text
