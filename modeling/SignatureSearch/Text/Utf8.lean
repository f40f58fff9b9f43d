/-
  SignatureSearch.Text.Utf8 — bytes that hold text, and how text and bytes are shown.

  Bytes that are no UTF-8 are shown piece by piece: characters as they are, and a sign for what is
  none. Such a stray piece is as long as it could still have become a character.
-/

import SignatureSearch.Text.CharClass

namespace SignatureSearch.Text

def decode? (bytes : List UInt8) : Option String := String.fromUTF8? ⟨bytes.toArray⟩

/-- The text of the bytes up to the first nul. -/
def decodeUntilNul? (bytes : List UInt8) : Option String := decode? (bytes.takeWhile (· != 0))

/-! ## Bytes that need not be text -/

inductive Piece where
  | character (c : Char)
  | stray (bytes : List UInt8)
  deriving DecidableEq, Repr

/-- How many bytes a character has that starts with this one; none does if that is zero. -/
def sizeFrom (first : UInt8) : Nat :=
  if first < 0x80 then 1
  else if first < 0xC2 then 0
  else if first < 0xE0 then 2
  else if first < 0xF0 then 3
  else if first < 0xF5 then 4
  else 0

/-- The second byte is bound more narrowly where the character could be written shorter, is none
or is too high. -/
def mayFollow (first second : UInt8) : Bool :=
  let least : UInt8 := if first = 0xE0 then 0xA0 else if first = 0xF0 then 0x90 else 0x80
  let most : UInt8 := if first = 0xED then 0x9F else if first = 0xF4 then 0x8F else 0xBF
  least ≤ second && second ≤ most

/-- How many bytes from the start on could belong to one character, or else one. -/
def pieceSize : List UInt8 → Nat
  | first :: second :: later =>
    if 2 ≤ sizeFrom first ∧ mayFollow first second then
      2 + ((later.take (sizeFrom first - 2)).takeWhile fun b => 0x80 ≤ b && b ≤ 0xBF).length
    else 1
  | _ => 1

def pieceOf (bytes : List UInt8) : Piece :=
  match (decode? bytes).map (·.toList) with
  | some [c] => .character c
  | _ => .stray bytes

/-- The pieces of the bytes behind the first `skip` ones. -/
def piecesFrom : Nat → List UInt8 → List Piece
  | _, [] => []
  | skip + 1, _ :: rest => piecesFrom skip rest
  | 0, first :: rest =>
    let size := pieceSize (first :: rest)
    pieceOf ((first :: rest).take size) :: piecesFrom (size - 1) rest

/-- The bytes as text, with one sign in place of each stray piece: `to_string_lossy`. -/
def shown (bytes : List UInt8) : String :=
  (decode? bytes).getD <| String.ofList <| (piecesFrom 0 bytes).map fun
    | .character c => c
    | .stray _ => '\uFFFD'

/-! ## Text in double quotes

A quote and a backslash get a backslash in front. Characters that show nothing of their own are
written by number, and so are the bytes of a stray piece.
-/

def quotedChar (c : Char) : List Char :=
  if c = '"' then ['\\', '"']
  else if c = '\\' then ['\\', '\\']
  else if c = '\n' then ['\\', 'n']
  else if c = '\r' then ['\\', 'r']
  else if c = '\t' then ['\\', 't']
  else if c = '\x00' then ['\\', '0']
  else if isUnseen c then ['\\', 'u', '\x7b'] ++ Nat.toDigits 16 c.toNat ++ ['\x7d']
  else [c]

def quotedByte (b : UInt8) : List Char :=
  ['\\', 'x'] ++ (Nat.toDigits 16 b.toNat).map Char.toUpper

def inQuotes (text : List Char) : String := "\"" ++ String.ofList text ++ "\""

def quoted (s : String) : String := inQuotes (s.toList.flatMap quotedChar)

def quotedBytes (bytes : List UInt8) : String :=
  inQuotes <| (piecesFrom 0 bytes).flatMap fun
    | .character c => quotedChar c
    | .stray bytes => bytes.flatMap quotedByte

end SignatureSearch.Text
