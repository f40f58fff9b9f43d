/-
  SignatureSearch.Log.Filter — which events are logged.

  A filter is a list of directives between commas: a level for all events, a target for every
  event below it, or a target with a level. Brackets behind a target narrow a directive down to
  the events inside a named span, or in braces to those that have a field. Of the directives that
  hold for an event the one with the longest target decides, among these one that asks for a
  field, and of two equals the later.
-/

import SignatureSearch.Text.CharClass
import SignatureSearch.Text.Number

namespace SignatureSearch.Log

inductive Level where
  | error
  | warn
  | info
  | debug
  | trace
  deriving DecidableEq, Repr

namespace Level

def rank : Level → Nat
  | .error => 1
  | .warn => 2
  | .info => 3
  | .debug => 4
  | .trace => 5

def name : Level → String
  | .error => "ERROR"
  | .warn => "WARN"
  | .info => "INFO"
  | .debug => "DEBUG"
  | .trace => "TRACE"

end Level

/-- The highest rank that is logged; zero for none. -/
abbrev Threshold := Nat

def thresholds : List (String × Threshold) :=
  [("off", 0), ("error", 1), ("warn", 2), ("info", 3), ("debug", 4), ("trace", 5)]

/-- A level in any case, or a number up to five. -/
def threshold? (text : List Char) : Option Threshold :=
  match Text.word? text with
  | some n => if n ≤ 5 then some n else none
  | none => thresholds.lookup (String.ofList (text.map Char.toLower))

/-- What stands in brackets. -/
structure Condition where
  /-- The name of a span. Nothing here happens inside a span. -/
  span : Option (List Char) := none
  field : Option (List Char) := none
  /-- Whether a value is asked for, which only the fields of spans have. -/
  hasValue : Bool := false
  deriving DecidableEq, Repr

namespace Condition

/-- Reads a condition up to its closing bracket, and gives what follows. -/
def parse? (text : List Char) : Option (Condition × List Char) :=
  let (span, rest) := text.span fun c => c != ']' && c != '\x7b'
  match rest with
  | ']' :: rest => some ({ span := some span }, rest)
  | _ :: rest =>
    let (field, rest) := rest.span (· != '\x7d')
    match field, rest with
    | _ :: _, _ :: ']' :: rest =>
      let name := field.takeWhile (· != '=')
      some ({
        span := if span.isEmpty then none else some span
        field := some name
        hasValue := field.contains '=' }, rest)
    | _, _ => none
  | [] => none

def holds (c : Condition) (fields : List String) : Bool :=
  c.span.isNone && !c.hasValue && c.field.all fun name => fields.contains (String.ofList name)

end Condition

structure Directive where
  target : List Char := []
  condition : Condition := {}
  threshold : Threshold := Level.trace.rank
  deriving DecidableEq, Repr

namespace Directive

/-- Whether a directive can start with this character. -/
def canStart (c : Char) : Bool := c = '-' || c = ':' || c = '_' || Text.isLetterOrDigit c

/-- The target, the condition if there is one, and what follows. -/
def shape? (text : List Char) : Option (List Char × Option Condition × List Char) :=
  let (target, rest) := text.span fun c => c != '=' && c != '['
  match rest with
  | '[' :: inside => (Condition.parse? inside).map fun (c, rest) => (target, some c, rest)
  | rest => some (target, none, rest)

/-- Reads what stands between two commas. Spaces in front become a part of the target, so that it
fits no event, and leave no room for a level. -/
def parse? (part : List Char) : Option Directive := do
  let text := part.dropWhile Text.isSpace
  let flush := text.length = part.length
  if !text.head?.any (fun c => c = '[' || canStart c) then none
  else
    let (target, condition, rest) ← shape? text
    let d : Directive := { target, condition := condition.getD {} }
    match rest with
    | '=' :: level =>
      if !flush then none
      else if level.isEmpty then some d
      else (threshold? level).map fun n => { d with threshold := n }
    | _ =>
      if !rest.all Text.isSpace then none
      else if !flush then some { target := part }
      else if condition.isSome then some d
      else some ((threshold? target).elim d fun n => { threshold := n })

def holds (d : Directive) (target : String) (fields : List String) : Bool :=
  d.target.isPrefixOf target.toList && d.condition.holds fields

/-- Whether the other one decides, of two that hold. -/
def yields (d other : Directive) : Bool :=
  if d.target.length = other.target.length then
    match d.condition.field, other.condition.field with
    | none, _ => true
    | some _, none => false
    | some name, some name' => String.ofList name ≤ String.ofList name'
  else d.target.length < other.target.length

end Directive

structure Filter where
  directives : List Directive
  deriving DecidableEq, Repr

namespace Filter

def partsFrom (part : List Char) : List Char → List (List Char)
  | [] => [part]
  | ',' :: rest => part :: partsFrom [] rest
  | c :: rest => partsFrom (part ++ [c]) rest

def standard : Filter := ⟨[{ threshold := Level.warn.rank }]⟩

/-- Reads a filter; empty parts count for nothing. -/
def parse? (text : String) : Option Filter := do
  let parts := (partsFrom [] text.toList).filter (!·.isEmpty)
  let directives ← parts.mapM Directive.parse?
  return if directives.isEmpty then standard else ⟨directives⟩

/-- The directive that decides on events of this target with these fields. -/
def deciding? (f : Filter) (target : String) (fields : List String) : Option Directive :=
  (f.directives.filter (·.holds target fields)).foldl
    (fun best? d => some (best?.elim d fun best => if best.yields d then d else best)) none

def enables (f : Filter) (level : Level) (target : String) (fields : List String) : Bool :=
  (f.deciding? target fields).any fun d => level.rank ≤ d.threshold

end Filter

end SignatureSearch.Log
