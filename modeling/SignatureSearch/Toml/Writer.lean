/-
  SignatureSearch.Toml.Writer — writing TOML so that it is pleasant to read.

  A string is written in the first of these forms that needs no escape: in quotes, in apostrophes,
  in three quotes, in three apostrophes. Failing all, it is escaped.
-/

import SignatureSearch.Text.Number

namespace SignatureSearch.Toml

/-- The longest run of `c` in a text, `run` being the one read last and `longest` the longest. -/
def longestRunFrom (c : Char) (run longest : Nat) : List Char → Nat
  | [] => max run longest
  | d :: rest =>
    if d = c then longestRunFrom c (run + 1) longest rest
    else longestRunFrom c 0 (max run longest) rest

def longestRun (c : Char) (text : List Char) : Nat := longestRunFrom c 0 0 text

def apostrophe : Char := '\x27'

/-- A control that no string can hold as it is. -/
def needsEscape (c : Char) : Bool := (c.toNat ≤ 0x1F && c != '\t' && c != '\n') || c.toNat = 0x7F

def numberEscape (c : Char) : List Char :=
  let digits := (Nat.toDigits 16 c.toNat).map Char.toUpper
  ['\\', 'u'] ++ List.replicate (4 - digits.length) '0' ++ digits

/-- The characters of an escaped string; `allowed` is how many quotes may stand in a row, `quotes`
how many just did. -/
def escapedFrom (long : Bool) (allowed quotes : Nat) : List Char → List Char
  | [] => []
  | c :: rest =>
    if c = '"' then
      if allowed ≤ quotes then '\\' :: '"' :: escapedFrom long allowed 0 rest
      else '"' :: escapedFrom long allowed (quotes + 1) rest
    else
      let written :=
        if c = '\\' then ['\\', '\\']
        else if c = '\x08' then ['\\', 'b']
        else if c = '\t' then ['\\', 't']
        else if c = '\n' then (if long then ['\n'] else ['\\', 'n'])
        else if c = '\x0c' then ['\\', 'f']
        else if c = '\r' then ['\\', 'r']
        else if needsEscape c then numberEscape c
        else [c]
      written ++ escapedFrom long allowed 0 rest

def quotedString (text : List Char) : List Char := ['"'] ++ escapedFrom false 0 0 text ++ ['"']

def lineStart (text : List Char) : List Char := if text.contains '\n' then ['\n'] else []

def longQuotedString (text : List Char) : List Char :=
  ['"', '"', '"'] ++ lineStart text ++ escapedFrom true 2 0 text ++ ['"', '"', '"']

def literalString (text : List Char) : List Char := [apostrophe] ++ text ++ [apostrophe]

def longLiteralString (text : List Char) : List Char :=
  List.replicate 3 apostrophe ++ lineStart text ++ text ++ List.replicate 3 apostrophe

def renderString (s : String) : String :=
  let text := s.toList
  let lines := text.contains '\n'
  let controls := text.any needsEscape
  let backslash := text.contains '\\'
  let quotes := longestRun '"' text
  let apostrophes := longestRun apostrophe text
  String.ofList <|
    if !controls && !backslash && quotes = 0 && !lines then quotedString text
    else if !controls && apostrophes = 0 && !lines then literalString text
    else if !controls && !backslash && quotes ≤ 2 then longQuotedString text
    else if !controls && apostrophes ≤ 2 then longLiteralString text
    else if lines then longQuotedString text
    else quotedString text

def renderBool (b : Bool) : String := if b then "true" else "false"

end SignatureSearch.Toml
