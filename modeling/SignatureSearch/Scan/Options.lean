/-
  SignatureSearch.Scan.Options — how a scan is run.

  Each choice has a written name and accepts a second one in some places: on a command line any
  spelling counts whatever its case, while a settings file takes the written name alone.
-/

namespace SignatureSearch

/-- `ScanAlignment`: which start addresses count. -/
inductive Alignment where
  | x1
  | x16
  deriving DecidableEq, Repr, Inhabited

/-- `ScanHint`: what is known of the scanned data. -/
inductive Hint where
  | unknown
  | x86_64
  deriving DecidableEq, Repr, Inhabited

/-- `ScanMode`: which search is asked for. -/
inductive Mode where
  | auto
  | single
  | avx2
  deriving DecidableEq, Repr, Inhabited

def Alignment.stride : Alignment → Nat
  | .x1 => 1
  | .x16 => 16

theorem Alignment.stride_pos (a : Alignment) : 0 < a.stride := by cases a <;> decide

/-- A choice that has a name, and other spellings that a reader accepts. -/
class Named (α : Type) where
  all : List α
  name : α → String
  alias? : α → Option String
  /-- The name of the choice in a dump of the settings. -/
  label : α → String

instance : Named Alignment where
  all := [.x1, .x16]
  name
    | .x1 => "x1"
    | .x16 => "x16"
  alias?
    | .x1 => some "none"
    | .x16 => some "align16"
  label
    | .x1 => "X1"
    | .x16 => "X16"

instance : Named Hint where
  all := [.unknown, .x86_64]
  name
    | .unknown => "none"
    | .x86_64 => "x86-64"
  alias?
    | .unknown => none
    | .x86_64 => some "x86_64"
  label
    | .unknown => "None"
    | .x86_64 => "X86_64"

instance : Named Mode where
  all := [.auto, .single, .avx2]
  name
    | .auto => "auto"
    | .single => "single"
    | .avx2 => "avx2"
  alias? _ := none
  label
    | .auto => "Auto"
    | .single => "Single"
    | .avx2 => "Avx2"

namespace Named

variable {α : Type} [Named α]

/-- Equality up to the case of ASCII letters. -/
def sameLetters (a b : String) : Bool := a.toList.map Char.toLower == b.toList.map Char.toLower

def parse? (text : String) : Option α :=
  (all (α := α)).find? fun a => sameLetters text (name a) || (alias? a).any (sameLetters text)

def ofName? (text : String) : Option α := (all (α := α)).find? fun a => text == name a

def unknownMessage : String := "Matching variant not found"

end Named

structure ScanOptions where
  alignment : Alignment := .x1
  hint : Hint := .unknown
  mode : Mode := .auto
  deriving DecidableEq, Repr, Inhabited

end SignatureSearch
