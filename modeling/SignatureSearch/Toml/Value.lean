/-
  SignatureSearch.Toml.Value — TOML values, and building tables from dotted keys.

  A table remembers how it came about, since that decides what may still be added to it: one that
  a header opened is closed to dotted keys, one that only some longer header implied can still be
  opened, one that dotted keys made grows by dotted keys alone, and an inline table is complete.
-/

namespace SignatureSearch.Toml

inductive Origin where
  | header
  /-- Named on the way to another table. -/
  | implied
  | dotted
  | inline
  deriving DecidableEq, Repr

inductive Value where
  | string (text : String)
  | integer (n : Int)
  | float
  | boolean (b : Bool)
  | dateTime
  | array (items : List Value)
  | table (origin : Origin) (entries : List (String × Value))
  /-- Tables that headers in double brackets add one by one. -/
  | tables (items : List Value)

abbrev Entries := List (String × Value)

/-- A table under construction. -/
abbrev Table := Origin × Entries

namespace Entries

def get? (es : Entries) (key : String) : Option Value := es.lookup key

def set (es : Entries) (key : String) (value : Value) : Entries :=
  if es.any (·.1 == key) then es.map fun e => if e.1 == key then (key, value) else e
  else es ++ [(key, value)]

end Entries

/-- Changes the table that a path leads to, making those that are missing. Nothing leads through
a plain value or an inline table, and dotted keys do not lead into a table with a header. -/
def descend (made : Origin) (change : Table → Option Table) :
    List String → Table → Option Table
  | [], t => change t
  | key :: path, (origin, entries) =>
    match entries.get? key with
    | none => do
      let (o, es) ← descend made change path (made, [])
      return (origin, entries.set key (.table o es))
    | some (.table o es) =>
      if o = .inline ∨ (made = .dotted ∧ o = .header) then none
      else do
        let (o, es) ← descend made change path (o, es)
        return (origin, entries.set key (.table o es))
    | some (.tables items) =>
      match items.getLast? with
      | some (.table o es) => do
        let (o, es) ← descend made change path (o, es)
        return (origin, entries.set key (.tables (items.dropLast ++ [.table o es])))
      | _ => none
    | some _ => none

def splitLast? (path : List String) : Option (List String × String) :=
  path.getLast?.map fun key => (path.dropLast, key)

/-- Adds an entry under a dotted key. -/
def assign (path : List String) (value : Value) (t : Table) : Option Table := do
  let (before, key) ← splitLast? path
  descend .dotted
    (fun (origin, entries) =>
      if (origin == .dotted) == before.isEmpty then none
      else if (entries.get? key).isSome then none
      else some (origin, entries.set key value))
    before t

def openTable (path : List String) (root : Table) : Option Table := do
  let (before, key) ← splitLast? path
  descend .implied
    (fun (origin, entries) =>
      match entries.get? key with
      | none => some (origin, entries.set key (.table .header []))
      | some (.table .implied es) => some (origin, entries.set key (.table .header es))
      | some _ => none)
    before root

/-- Adds the table that a header in double brackets names. -/
def addTable (path : List String) (root : Table) : Option Table := do
  let (before, key) ← splitLast? path
  descend .implied
    (fun (origin, entries) =>
      match entries.get? key with
      | none => some (origin, entries.set key (.tables [.table .header []]))
      | some (.tables items) =>
        some (origin, entries.set key (.tables (items ++ [.table .header []])))
      | some _ => none)
    before root

end SignatureSearch.Toml
