/-
  SignatureSearch.Settings.Basic — what a settings file decides, and the file's own form.

  `Settings.render` writes a file from which `Settings.ofToml?` takes the same choices again. A
  file may leave out anything, which then has its default, and may hold more than is known.
-/

import SignatureSearch.Path
import SignatureSearch.Scan.Options
import SignatureSearch.Text.Utf8
import SignatureSearch.Toml.Document
import SignatureSearch.Toml.Writer

namespace SignatureSearch

structure LogSettings where
  level : String := "warn"
  /-- Whether a line of the log names the target of its event. -/
  targets : Bool := false
  /-- A file that gets the log too, from the directory of the settings. -/
  file : Option String := none
  deriving DecidableEq, Repr

structure Settings where
  log : LogSettings := {}
  scan : ScanOptions := {}
  deriving DecidableEq, Repr

namespace Settings

open Toml (Value Entries)

/-! ## Reading -/

/-- Looks a field up by its name in a table and by its place in an array. Any other value is
refused, but for a date, which counts as a table of unknown keys. -/
def fields? : Value → Option (String → Nat → Option Value)
  | .table _ entries => some fun name _ => Entries.get? entries name
  | .array items | .tables items => some fun _ place => items[place]?
  | .dateTime => some fun _ _ => none
  | _ => none

def text? : Value → Option String
  | .string s => some s
  | _ => none

def flag? : Value → Option Bool
  | .boolean b => some b
  | _ => none

def isEmptyTable : Value → Bool
  | .table _ entries => entries.isEmpty
  | .array items | .tables items => items.isEmpty
  | _ => false

/-- A choice is its name, or a table with an empty table under that name alone. -/
def choice? {α : Type} [Named α] : Value → Option α
  | .string s => Named.ofName? s
  | .table _ [(name, value)] => if isEmptyTable value then Named.ofName? name else none
  | _ => none

/-- What `read?` makes of a field, or the default of one that is missing. -/
def orDefault {α : Type} (default : α) (read? : Value → Option α) : Option Value → Option α
  | none => some default
  | some value => read? value

def log? (value : Value) : Option LogSettings := do
  let field ← fields? value
  return {
    level := ← orDefault "warn" text? (field "level" 0)
    targets := ← orDefault false flag? (field "targets" 1)
    file := ← orDefault none (fun v => some <$> text? v) (field "file" 2) }

def scan? (value : Value) : Option ScanOptions := do
  let field ← fields? value
  return {
    alignment := ← orDefault .x1 choice? (field "alignment" 0)
    hint := ← orDefault .unknown choice? (field "hint" 1)
    mode := ← orDefault .auto choice? (field "mode" 2) }

def ofEntries? (entries : Entries) : Option Settings := do
  return {
    log := ← orDefault {} log? (entries.get? "log")
    scan := ← orDefault {} scan? (entries.get? "scan") }

def ofToml? (text : String) : Option Settings := Toml.parse? text >>= ofEntries?

/-! ## Writing -/

def entry (key value : String) : String := key ++ " = " ++ value ++ "\n"

def named {α : Type} [Named α] (a : α) : String := Toml.renderString (Named.name a)

def render (s : Settings) : String :=
  "[log]\n" ++ entry "level" (Toml.renderString s.log.level) ++
    entry "targets" (Toml.renderBool s.log.targets) ++
    s.log.file.elim "" (fun file => entry "file" (Toml.renderString file)) ++
    "\n[scan]\n" ++ entry "alignment" (named s.scan.alignment) ++
    entry "hint" (named s.scan.hint) ++ entry "mode" (named s.scan.mode)

def record (name : String) (fields : List (String × String)) : String :=
  let inside := ", ".intercalate (fields.map fun f => f.1 ++ ": " ++ f.2)
  name ++ " \x7b " ++ inside ++ " \x7d"

/-- The settings read from `path`, for a log. -/
def describe (s : Settings) (path : String) : String :=
  record "Config" [
    ("path", Text.quoted path),
    ("log", record "Log" [
      ("level", Text.quoted s.log.level),
      ("targets", Toml.renderBool s.log.targets),
      ("file", s.log.file.elim "None" fun file => "Some(" ++ Text.quoted file ++ ")")]),
    ("scan", record "Scan" [
      ("alignment", Named.label s.scan.alignment),
      ("hint", Named.label s.scan.hint),
      ("mode", Named.label s.scan.mode)])]

end Settings

end SignatureSearch
