/-
  SignatureSearch.Image.Tables — what files hold in rows: records, and strings that stand one behind
  the other with a byte between them.
-/

import SignatureSearch.Text.Utf8

namespace SignatureSearch

namespace Image

/-- Reads `count` records, each from where the one before ended. -/
def readEach {α : Type} (read : Nat → Option (α × Nat)) : Nat → Nat → Option (List α × Nat)
  | 0, pos => some ([], pos)
  | count + 1, pos => do
    let (a, pos) ← read pos
    let (later, pos) ← readEach read count pos
    return (a :: later, pos)

def readRow {α : Type} (read : Nat → Option α) (size count pos : Nat) : Option (List α) :=
  (List.range count).mapM fun k => read (pos + k * size)

end Image

/-- The strings of a table, each with the position it starts at. -/
structure StringTable where
  strings : List (Nat × List UInt8)

namespace StringTable

/-- Cuts at every `mark`; a last string may do without. -/
def cutFrom (mark : UInt8) (start : Nat) (current : List UInt8) :
    List UInt8 → List (Nat × List UInt8)
  | [] => if current.isEmpty then [] else [(start, current.reverse)]
  | b :: rest =>
    if b == mark then
      (start, current.reverse) :: cutFrom mark (start + current.length + 1) [] rest
    else cutFrom mark start (b :: current) rest

/-- Refuses a table in which some string is no UTF-8. -/
def ofBytes? (mark : UInt8) (contents : List UInt8) : Option StringTable :=
  let strings := cutFrom mark 0 [] contents
  if strings.all fun s => (Text.decode? s.2).isSome then some ⟨strings⟩ else none

def empty : StringTable := ⟨[]⟩

def size (t : StringTable) : Nat := t.strings.length

/-- The rest of the string that `offset` points into, if it does not cut a character. -/
def get? (t : StringTable) (offset : Nat) : Option String := do
  let (start, string) ← t.strings.find? fun s => s.1 ≤ offset ∧ offset ≤ s.1 + s.2.length
  Text.decode? (string.drop (offset - start))

end StringTable

end SignatureSearch
