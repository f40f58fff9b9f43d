/-
  SignatureSearch.Signature.Parser — signatures written as text.

  A signature is written as words. `?` and `??` are wildcards, two hexadecimal digits a byte, and
  eight binary digits a byte too; each digit of the longer forms may be a `?`. What a word may be
  is decided by its length in UTF-8 bytes. Only the ASCII blanks separate words: space, tab, line
  feed, form feed, carriage return. A vertical tab and the blanks beyond ASCII belong to the word
  they stand in.
-/

import SignatureSearch.Signature.Basic
import SignatureSearch.Text.Number

namespace SignatureSearch

namespace Text

def isBlank (c : Char) : Bool :=
  c = ' ' || c = '\t' || c = '\n' || c = '\x0c' || c = '\r'

/-- The words of a text, `word` being the part of the first one read so far. -/
def wordsFrom (word : List Char) : List Char → List (List Char)
  | [] => if word.isEmpty then [] else [word]
  | c :: rest =>
    if isBlank c then
      if word.isEmpty then wordsFrom [] rest else word :: wordsFrom [] rest
    else wordsFrom (word ++ [c]) rest

/-- The maximal runs of characters that are no blanks. -/
def words (text : List Char) : List (List Char) := wordsFrom [] text

end Text

namespace Element

inductive DigitKind where
  | hexadecimal
  | binary
  deriving DecidableEq, Repr

def DigitKind.base : DigitKind → Nat
  | .hexadecimal => 16
  | .binary => 2

def DigitKind.width : DigitKind → UInt8
  | .hexadecimal => 4
  | .binary => 1

def DigitKind.digitMask : DigitKind → UInt8
  | .hexadecimal => 0xF
  | .binary => 0x1

/-- Reads digits from the most significant one on, into what the earlier ones left. -/
def ofDigits? (n : DigitKind) : UInt8 → UInt8 → List Char → Option Element
  | value, mask, [] => some (masked value mask)
  | value, mask, c :: rest =>
    let value := value <<< n.width
    let mask := mask <<< n.width
    if c = '?' then ofDigits? n value mask rest
    else
      match Text.digitValue? n.base c with
      | some d => ofDigits? n (value ||| UInt8.ofNat d) (mask ||| n.digitMask) rest
      | none => none

def utf8Length : List Char → Nat
  | [] => 0
  | c :: rest => c.utf8Size + utf8Length rest

/-- `parse_token`. -/
def ofToken? (token : List Char) : Option Element :=
  match utf8Length token with
  | 1 => if token.all (· == '?') then some wildcard else none
  | 2 => if token.all (· == '?') then some wildcard else ofDigits? .hexadecimal 0 0 token
  | 8 => ofDigits? .binary 0 0 token
  | _ => none

end Element

namespace Signature

def tokenElements? (tokens : List (List Char)) : Option (List Element) :=
  tokens.mapM Element.ofToken?

def parseChars (text : List Char) : Except SignatureError Signature :=
  match tokenElements? (Text.words text) with
  | some elements => ofElements elements
  | none => .error .invalid

def parse (text : String) : Except SignatureError Signature := parseChars text.toList

end Signature

end SignatureSearch
