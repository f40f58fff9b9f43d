/-
  SignatureSearch.Path — file paths, as text and as the system has them.

  A path is cut at slashes. Empty parts mean nothing, and neither does a dot unless it stands
  first in a relative path. `join` is plain text; an absolute path on the right stands for itself.
  The system has paths as bytes, and not all of these are text.
-/

import SignatureSearch.Text.Utf8

namespace SignatureSearch

namespace Path

/-- The parts of a path, `part` being what was read of the first one. -/
def partsFrom (part : List Char) : List Char → List (List Char)
  | [] => [part]
  | '/' :: rest => part :: partsFrom [] rest
  | c :: rest => partsFrom (part ++ [c]) rest

def parts (path : String) : List (List Char) := partsFrom [] path.toList

def isAbsolute (path : String) : Bool := path.toList.head? == some '/'

/-- Whether a part counts; a dot does as the first one only. -/
def counts (index : Nat) (part : List Char) : Bool :=
  !part.isEmpty && (part != ['.'] || index == 0)

def lastPart? (path : List (List Char)) : Option (List Char × Nat) :=
  (path.zipIdx.filter fun p => counts p.2 p.1).getLast?

/-- `file_name`: the last part, if it names something. -/
def fileName? (path : String) : Option String :=
  match lastPart? (parts path) with
  | some (part, _) =>
    if part = ['.'] ∨ part = ['.', '.'] then none else some (String.ofList part)
  | none => none

def parent? (path : String) : Option String :=
  let all := parts path
  match lastPart? all with
  | none => none
  | some (_, index) =>
    match lastPart? (all.take index) with
    | some (_, last) => some (String.ofList (['/'].intercalate (all.take (last + 1))))
    | none => some (if isAbsolute path then "/" else "")

def join (dir path : String) : String :=
  if isAbsolute path || dir.isEmpty then path
  else if dir.toList.getLast? == some '/' then dir ++ path
  else dir ++ "/" ++ path

end Path

/-- A path as the system has it. -/
structure SystemPath where
  bytes : List UInt8
  deriving DecidableEq, Repr

namespace SystemPath

def ofText (path : String) : SystemPath := ⟨path.toUTF8.data.toList⟩

def text? (p : SystemPath) : Option String := Text.decode? p.bytes

/-- For a reader, who sees a sign where the path is no text. -/
def shown (p : SystemPath) : String := Text.shown p.bytes

theorem text?_ofText (path : String) : (ofText path).text? = some path := by
  show String.fromUTF8? ⟨path.toByteArray.data.toList.toArray⟩ = some path
  rw [Array.toArray_toList, String.fromUTF8?, dif_pos path.isValidUTF8]
  rfl

end SystemPath

end SignatureSearch
