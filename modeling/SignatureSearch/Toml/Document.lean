/-
  SignatureSearch.Toml.Document — reading a TOML text.

  A text is read line by line: a key with its value goes into the table that the last header
  opened. The readers carry fuel, of which the length of the text is always enough.
-/

import SignatureSearch.Toml.Token

namespace SignatureSearch.Toml

/-- Skips blanks, line ends and comments, as between the items of an array. -/
def skipLines : Nat → List Char → List Char
  | 0, cs => cs
  | fuel + 1, cs =>
    let rest := skipComment (skipBlanks cs)
    match newline? rest with
    | some rest => skipLines fuel rest
    | none => rest

mutual

/-- A value, holding values at most `depth` deep. -/
def value? : Nat → Nat → List Char → Option (Value × List Char)
  | 0, _, _ => none
  | fuel + 1, depth, cs =>
    match cs with
    | '[' :: rest =>
      match depth with
      | 0 => none
      | depth + 1 => (items? fuel depth rest).map fun (items, rest) => (.array items, rest)
    | '\x7b' :: rest =>
      match depth with
      | 0 => none
      | depth + 1 =>
        match skipBlanks rest with
        | '\x7d' :: rest => some (.table .inline [], rest)
        | rest => (pairs? fuel depth (.inline, []) rest).map fun (entries, rest) =>
          (.table .inline entries, rest)
    | 't' :: 'r' :: 'u' :: 'e' :: rest => some (.boolean true, rest)
    | 'f' :: 'a' :: 'l' :: 's' :: 'e' :: rest => some (.boolean false, rest)
    | _ =>
      match string? cs with
      | some (s, rest) => some (.string s, rest)
      | none => dateTime? cs <|> float? cs <|> integer? cs

/-- The items of an array and its closing bracket. -/
def items? : Nat → Nat → List Char → Option (List Value × List Char)
  | 0, _, _ => none
  | fuel + 1, depth, cs =>
    match skipLines cs.length cs with
    | ']' :: rest => some ([], rest)
    | cs => do
      let (item, rest) ← value? fuel depth cs
      match skipLines rest.length rest with
      | ']' :: rest => return ([item], rest)
      | ',' :: rest => do
        let (items, rest) ← items? fuel depth rest
        return (item :: items, rest)
      | _ => none

/-- The entries of an inline table, after those of `t`, and its closing brace. -/
def pairs? : Nat → Nat → Table → List Char → Option (Entries × List Char)
  | 0, _, _, _ => none
  | fuel + 1, depth, t, cs => do
    let (key, rest) ← key? cs
    let (value, rest) ← value? fuel depth (skipBlanks (← char? '=' rest))
    let t ← assign key value t
    match skipBlanks rest with
    | '\x7d' :: rest => return (t.2, rest)
    | ',' :: rest => pairs? fuel depth t rest
    | _ => none

end

/-- A text that has been read in part. -/
structure Progress where
  root : Table := (.header, [])
  current : List String := []

/-- A header, from behind its first bracket. -/
def header? (p : Progress) (cs : List Char) : Option (Progress × List Char) := do
  match cs with
  | '[' :: rest =>
    let (path, rest) ← key? rest
    match rest with
    | ']' :: ']' :: rest => return (⟨← addTable path p.root, path⟩, rest)
    | _ => none
  | _ =>
    let (path, rest) ← key? cs
    match rest with
    | ']' :: rest => return (⟨← openTable path p.root, path⟩, rest)
    | _ => none

/-- An entry of the current table. -/
def entry? (p : Progress) (cs : List Char) : Option (Progress × List Char) := do
  let (key, rest) ← key? cs
  let rest := skipBlanks (← char? '=' rest)
  let (value, rest) ← value? (2 * rest.length + 2) depthLimit rest
  return ({ p with root := ← descend .implied (assign key value) p.current p.root }, rest)

def lines? : Nat → Progress → List Char → Option Progress
  | 0, _, _ => none
  | fuel + 1, p, cs =>
    match skipBlanks cs with
    | [] => some p
    | '[' :: rest => do
      let (p, rest) ← header? p rest
      lines? fuel p (← lineEnd? rest)
    | c :: rest =>
      if c = '#' ∨ c = '\n' ∨ c = '\r' then do lines? fuel p (← lineEnd? (c :: rest))
      else do
        let (p, rest) ← entry? p (c :: rest)
        lines? fuel p (← lineEnd? rest)

/-- The table that a text describes. A mark of byte order in front is no part of it. -/
def parse? (text : String) : Option Entries :=
  let cs := match text.toList with
    | '\uFEFF' :: rest => rest
    | cs => cs
  (lines? (cs.length + 1) {} cs).map (·.root.2)

end SignatureSearch.Toml
