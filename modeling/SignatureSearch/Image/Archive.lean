/-
  SignatureSearch.Image.Archive — libraries of object files, as far as telling a sound one goes.

  After the magic come members, each a header of 60 bytes and its contents, on even positions.
  Some members are no files: an index of symbols, of which there are two kinds that can stand one
  behind the other and a third one, and a table of long names. In a sound archive every symbol
  that an index names is in a member.
-/

import SignatureSearch.Bytes
import SignatureSearch.Image.Tables
import SignatureSearch.Text.Number
import SignatureSearch.Text.CharClass

namespace SignatureSearch.Archive

def headerSize : Nat := 60

/-- The bytes of `!<arch>` and a line feed. -/
def magic : List UInt8 := [0x21, 0x3C, 0x61, 0x72, 0x63, 0x68, 0x3E, 0x0A]

structure Member where
  name : String
  /-- A name that stands in front of the contents. -/
  longName : Option String
  start : Nat
  contentsStart : Nat
  stop : Nat

namespace Member

/-- The length of a name that stands in front of the contents, for a name field that says so. -/
def longNameLength? (name : String) : Option Nat :=
  match name.toList with
  | '#' :: '1' :: '/' :: digits => Text.word? (Text.dropEnd (· == ' ') digits)
  | _ => none

/-- Reads the header at `pos`, and the name behind it. -/
def read? (bytes : Bytes) (pos : Nat) : Option Member := do
  let header ← bytes.slice? pos (pos + headerSize)
  let name ← Text.decode? (header.toList.take 16)
  let sizeField ← Text.decode? ((header.toList.drop 48).take 10)
  let size ← Text.word? (Text.dropEnd Text.isSpace sizeField.toList)
  let behind := pos + headerSize
  match longNameLength? name with
  | none => return ⟨name, none, pos, behind, behind + size⟩
  | some n =>
    let text ← Text.decode? (← bytes.slice? behind (behind + n)).toList
    let longName := String.ofList (Text.dropEnd (· == '\x00') text.toList)
    return ⟨name, some longName, pos, behind + n, behind + size⟩

def contents? (m : Member) (bytes : Bytes) : Option Bytes :=
  bytes.slice? m.contentsStart m.stop

def isIndex (m : Member) : Bool := m.name == "/               "

def isSymbolList (m : Member) : Bool :=
  m.longName == some "__.SYMDEF" || m.longName == some "__.SYMDEF SORTED"

def isNameTable (m : Member) : Bool := m.name == "//              "

end Member

/-! ## Indices -/

/-- Where the members are that an index names, one for each of its symbols. -/
abbrev Index := List Nat

def word? (bytes : Bytes) (order : ByteOrder) (pos : Nat) : Option Nat :=
  (bytes.u32? order pos).map (·.toNat)

/-- The first index: a count, the positions, and the symbols. -/
def firstIndex? (bytes : Bytes) : Option Index := do
  let count ← word? bytes .big 0
  if count > bytes.size / 4 then none
  else
    let positions ← Image.readRow (word? bytes .big) 4 count 4
    let symbols ← StringTable.ofBytes? 0 (bytes.drop (4 * count + 4)).toList
    return positions.take symbols.size

/-- The second index: the positions of all members, and for each symbol the number of one. -/
def secondIndex? (bytes : Bytes) : Option Index := do
  let count ← word? bytes .little 0
  if count > bytes.size / 4 then none
  else
    let members ← Image.readRow (word? bytes .little) 4 count 4
    let symbolsAt := 4 * count + 4
    let symbolCount ← word? bytes .little symbolsAt
    if symbolCount > bytes.size / 2 then none
    else
      let numbers ← Image.readRow (bytes.u16? .little) 2 symbolCount (symbolsAt + 4)
      let positions ← numbers.mapM fun n => if n == 0 then none else members[n.toNat - 1]?
      let symbols ←
        StringTable.ofBytes? 0 (bytes.drop (symbolsAt + 4 + 2 * symbolCount)).toList
      return positions.take symbols.size

/-- A list of symbols: pairs of a place in the table of strings and a position, and the table. -/
def symbolList? (bytes : Bytes) : Option Index := do
  let pairsSize ← word? bytes .little 0
  let stringsSize ← word? bytes .little (pairsSize + 4)
  let start := pairsSize + 8
  let strings ← StringTable.ofBytes? 0 (← bytes.slice? start (start + stringsSize)).toList
  (List.range (pairsSize / 8)).mapM fun k => do
    let _ ← strings.get? (← word? bytes .little (8 * k + 4))
    word? bytes .little (8 * k + 8)

/-! ## Members -/

inductive IndexKind where
  | first
  | second
  | symbolList
  deriving DecidableEq, Repr

/-- What the members read so far hold. -/
structure Progress where
  indexKind : Option IndexKind := none
  index : Index := []
  members : List Nat := []

def Progress.take? (p : Progress) (bytes : Bytes) (m : Member) : Option Progress :=
  if m.isIndex then do
    let contents ← m.contents? bytes
    match p.indexKind with
    | none => return { p with indexKind := some .first, index := ← firstIndex? contents }
    | some .first => return { p with indexKind := some .second, index := ← secondIndex? contents }
    | some _ => none
  else if m.isSymbolList then do
    if p.indexKind.isSome then none
    else
      let index ← symbolList? (← m.contents? bytes)
      return { p with indexKind := some .symbolList, index }
  else if m.isNameTable then do
    let lines ← bytes.slice? (m.contentsStart - 1) m.stop
    let _ ← StringTable.ofBytes? 0x0A lines.toList
    return p
  else some { p with members := m.start :: p.members }

def readFrom? (bytes : Bytes) (p : Progress) (pos : Nat) : Option Progress :=
  if pos + 1 < bytes.size then do
    let m ← Member.read? bytes (pos + pos % 2)
    let p ← p.take? bytes m
    if pos < m.stop then readFrom? bytes p m.stop else none
  else some p
termination_by bytes.size - pos

/-- Whether all members can be read and every index names members only. -/
def isSound (bytes : Bytes) : Bool :=
  match readFrom? bytes {} magic.length with
  | some p => p.index.all p.members.contains
  | none => false

end SignatureSearch.Archive
