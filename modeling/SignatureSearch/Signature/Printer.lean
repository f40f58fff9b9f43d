/-
  SignatureSearch.Signature.Printer — the written form of a signature.

  An element is written in the shortest form that keeps it: `?`, two hexadecimal digits when each
  half of its mask is whole or empty, else eight binary digits.
-/

import SignatureSearch.Signature.Basic

namespace SignatureSearch

namespace Element

def upperHexDigit (n : UInt8) : Char :=
  let n := n.toNat
  if n < 10 then Char.ofNat (48 + n) else Char.ofNat (55 + n)

/-- A mask nibble that compares all its bits, or none. -/
def wholeOrFree (nibble : UInt8) : Bool := nibble == 0xF || nibble == 0

def nibbleChar (value mask : UInt8) : Char :=
  if mask == 0xF then upperHexDigit value else '?'

def bitChar (e : Element) (bit : Nat) : Char :=
  if e.mask >>> UInt8.ofNat bit &&& 1 == 0 then '?'
  else if e.value >>> UInt8.ofNat bit &&& 1 == 1 then '1'
  else '0'

def renderChars (e : Element) : List Char :=
  let hi := e.mask >>> 4
  let lo := e.mask &&& 0xF
  if e.isWildcard then ['?']
  else if wholeOrFree hi && wholeOrFree lo then
    [nibbleChar (e.value >>> 4) hi, nibbleChar (e.value &&& 0xF) lo]
  else [7, 6, 5, 4, 3, 2, 1, 0].map e.bitChar

def render (e : Element) : String := String.ofList e.renderChars

end Element

namespace Signature

def renderChars (s : Signature) : List Char :=
  [' '].intercalate (s.elements.map Element.renderChars)

/-- `fmt`: the words with a space between two of them. -/
def render (s : Signature) : String := String.ofList s.renderChars

def describe (s : Signature) : String := "Signature(\"" ++ s.render ++ "\")"

end Signature

end SignatureSearch
