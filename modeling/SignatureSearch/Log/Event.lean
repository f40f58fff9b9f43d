/-
  SignatureSearch.Log.Event — what a log tells of a run.
-/

import SignatureSearch.Log.Filter
import SignatureSearch.Scan.Scanner
import SignatureSearch.Settings.Basic
import SignatureSearch.Signature.Printer

namespace SignatureSearch.Log

inductive Event where
  | settingsLoaded (path : String) (settings : Settings)
  | sectionFound (module name : String) (address : UInt64) (size : Nat)
  | sectionOpened (name : String) (address size : UInt64) (fileStart : Option UInt64)
  | anchorSelected (plan : ScanPlan)
  | backendResolved (mode : Mode) (backend : Backend)

namespace Event

def level : Event → Level
  | .settingsLoaded .. | .sectionOpened .. => .debug
  | .sectionFound .. | .anchorSelected .. | .backendResolved .. => .trace

/-- The part of the program that an event is from. -/
def target : Event → String
  | .settingsLoaded .. => "sigscan"
  | .sectionOpened .. => "sigscan::commands"
  | .sectionFound .. => "sigscan::module"
  | .anchorSelected .. => "sigscan::scan"
  | .backendResolved .. => "sigscan::scan::backends"

def optional {α : Type} (describe : α → String) : Option α → String
  | some a => "Some(" ++ describe a ++ ")"
  | none => "None"

def byteText (b : UInt8) : String := Text.decimal b.toNat

def wordText (w : UInt64) : String := Text.decimal w.toNat

def anchorText (a : Anchor) : String :=
  Settings.record "Anchor" [
    ("index", Text.decimal a.index), ("byte", byteText a.byte),
    ("next", optional byteText a.next)]

def title : Event → String
  | .settingsLoaded .. => "loaded config"
  | .sectionFound .. => "resolved section"
  | .sectionOpened .. => "scanning section"
  | .anchorSelected .. => "selected anchor"
  | .backendResolved .. => "resolved scan backend"

def details : Event → List (String × String)
  | .settingsLoaded path settings => [("path", path), ("config", settings.describe path)]
  | .sectionFound module name address size => [
    ("module", module), ("section", Text.quoted name), ("address", wordText address),
    ("size", Text.decimal size)]
  | .sectionOpened name address size fileStart => [
    ("section", Text.quoted name), ("address", wordText address), ("size", wordText size),
    ("file_start", optional wordText fileStart)]
  | .anchorSelected plan => [
    ("signature", plan.signature.render), ("anchor", optional anchorText plan.anchor),
    ("alignment", Named.name plan.alignment)]
  | .backendResolved mode backend => [("mode", Named.name mode), ("backend", backend.name)]

/-- The names of the fields that a filter can ask for; the title is one. -/
def fields (e : Event) : List String := "message" :: e.details.map (·.1)

def message (e : Event) : String :=
  e.title ++ String.join (e.details.map fun d => " " ++ d.1 ++ "=" ++ d.2)

/-- The line of an event, with or without its target. -/
def line (targets : Bool) (e : Event) : String :=
  Text.padLeft ' ' 5 e.level.name ++ " " ++ (if targets then e.target ++ ": " else "") ++ e.message

end Event

end SignatureSearch.Log
