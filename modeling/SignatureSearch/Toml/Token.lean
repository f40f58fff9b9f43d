/-
  SignatureSearch.Toml.Token — the smallest parts of a TOML text: blanks, strings, keys, numbers,
  dates and times. Each reader takes what it can from the front and gives the rest, or nothing if
  the front is no such part.
-/

import SignatureSearch.Text.Number
import SignatureSearch.Toml.Value

namespace SignatureSearch.Toml

abbrev Reader (α : Type) := List Char → Option (α × List Char)

def isBlank (c : Char) : Bool := c = ' ' || c = '\t'

def skipBlanks (cs : List Char) : List Char := cs.dropWhile isBlank

/-- A line feed, alone or behind a carriage return. -/
def newline? : List Char → Option (List Char)
  | '\n' :: rest => some rest
  | '\r' :: '\n' :: rest => some rest
  | _ => none

/-- May stand in a comment: everything but controls other than the tab. -/
def isPlain (c : Char) : Bool := c = '\t' || (0x20 ≤ c.toNat && c.toNat != 0x7F)

def skipComment : List Char → List Char
  | '#' :: rest => rest.dropWhile isPlain
  | cs => cs

/-- What may follow on a line that is complete: blanks, a comment, and the end. -/
def lineEnd? (cs : List Char) : Option (List Char) :=
  match skipComment (skipBlanks cs) with
  | [] => some []
  | rest => newline? rest

/-! ## Strings -/

def scalar? (digits : List Char) : Option Char := do
  let n ← digits.foldlM (fun n c => (Text.digitValue? 16 c).map (n * 16 + ·)) 0
  if n.isValidChar then some (Char.ofNat n) else none

def escape? (c : Char) : Option Char :=
  match c with
  | 'b' => some '\x08'
  | 't' => some '\t'
  | 'n' => some '\n'
  | 'f' => some '\x0c'
  | 'r' => some '\r'
  | '"' => some '"'
  | '\\' => some '\\'
  | _ => none

/-- The characters of a string up to its closing quote, in reverse before them `read`. -/
def basicFrom (read : List Char) : Reader (List Char)
  | '"' :: rest => some (read.reverse, rest)
  | '\\' :: 'u' :: a :: b :: c :: d :: rest => do
    basicFrom ((← scalar? [a, b, c, d]) :: read) rest
  | '\\' :: 'U' :: a :: b :: c :: d :: e :: f :: g :: h :: rest => do
    basicFrom ((← scalar? [a, b, c, d, e, f, g, h]) :: read) rest
  | '\\' :: c :: rest => do basicFrom ((← escape? c) :: read) rest
  | c :: rest => if isPlain c then basicFrom (c :: read) rest else none
  | [] => none

def isApostrophe (c : Char) : Bool := c.toNat = 0x27

def literalFrom (read : List Char) : Reader (List Char)
  | [] => none
  | c :: rest =>
    if isApostrophe c then some (read.reverse, rest)
    else if isPlain c then literalFrom (c :: read) rest
    else none

/-- Whether blanks are being skipped at the end of a line in a string of several lines. -/
inductive Skip where
  | no
  /-- Behind a backslash, before the line ends. -/
  | toLineEnd
  /-- On the lines after it. -/
  | lines
  deriving DecidableEq, Repr

/-- The characters of a string of several lines up to its three closing quotes; up to two quotes
more in front of these belong to it. -/
def longBasicFrom (skip : Skip) (read : List Char) : Reader (List Char)
  | [] => none
  | '\n' :: rest =>
    match skip with
    | .no => longBasicFrom .no ('\n' :: read) rest
    | _ => longBasicFrom .lines read rest
  | '\r' :: '\n' :: rest =>
    match skip with
    | .no => longBasicFrom .no ('\n' :: read) rest
    | _ => longBasicFrom .lines read rest
  | c :: rest =>
    if skip ≠ .no ∧ isBlank c then longBasicFrom skip read rest
    else if skip = .toLineEnd then none
    else
      match c, rest with
      | '"', '"' :: '"' :: '"' :: '"' :: rest => some (('"' :: '"' :: read).reverse, rest)
      | '"', '"' :: '"' :: '"' :: rest => some (('"' :: read).reverse, rest)
      | '"', '"' :: '"' :: rest => some (read.reverse, rest)
      | '\\', 'u' :: a :: b :: c :: d :: rest => do
        longBasicFrom .no ((← scalar? [a, b, c, d]) :: read) rest
      | '\\', 'U' :: a :: b :: c :: d :: e :: f :: g :: h :: rest => do
        longBasicFrom .no ((← scalar? [a, b, c, d, e, f, g, h]) :: read) rest
      | '\\', d :: rest =>
        match escape? d with
        | some e => longBasicFrom .no (e :: read) rest
        | none =>
          if isBlank d ∨ d = '\n' ∨ d = '\r' then longBasicFrom .toLineEnd read (d :: rest)
          else none
      | '\\', [] => none
      | c, rest => if isPlain c then longBasicFrom .no (c :: read) rest else none
termination_by cs => cs.length

def longLiteralFrom (read : List Char) : Reader (List Char)
  | [] => none
  | '\r' :: '\n' :: rest => longLiteralFrom ('\n' :: read) rest
  | '\n' :: rest => longLiteralFrom ('\n' :: read) rest
  | c :: rest =>
    if isApostrophe c then
      match rest with
      | a :: b :: more =>
        if isApostrophe a ∧ isApostrophe b then
          let extra := (more.takeWhile isApostrophe).take 2
          some (read.reverse ++ extra, more.drop extra.length)
        else longLiteralFrom (c :: read) rest
      | _ => longLiteralFrom (c :: read) rest
    else if isPlain c then longLiteralFrom (c :: read) rest
    else none

/-- A line feed right behind the opening quotes is no part of the string. -/
def dropFirstNewline (cs : List Char) : List Char := (newline? cs).getD cs

def shortString? : Reader String
  | [] => none
  | c :: rest =>
    let read := if c = '"' then basicFrom [] rest else if isApostrophe c then literalFrom [] rest
      else none
    read.map fun (chars, rest) => (String.ofList chars, rest)

def string? (cs : List Char) : Option (String × List Char) :=
  match cs with
  | '"' :: '"' :: '"' :: rest =>
    (longBasicFrom .no [] (dropFirstNewline rest)).map fun (s, rest) => (String.ofList s, rest)
  | a :: b :: c :: rest =>
    if isApostrophe a ∧ isApostrophe b ∧ isApostrophe c then
      (longLiteralFrom [] (dropFirstNewline rest)).map fun (s, rest) => (String.ofList s, rest)
    else shortString? cs
  | _ => shortString? cs

/-! ## Keys -/

def isBare (c : Char) : Bool := c.isAlphanum || c = '_' || c = '-'

/-- One part of a key. -/
def keyPart? (cs : List Char) : Option (String × List Char) :=
  match cs.takeWhile isBare with
  | [] => shortString? cs
  | bare => some (String.ofList bare, cs.dropWhile isBare)

/-- The most parts that a key can have, and the deepest that values nest. -/
def depthLimit : Nat := 79

/-- The parts of a key, with blanks around each; at most `fuel` of them. -/
def keyFrom : Nat → Reader (List String)
  | 0, _ => none
  | fuel + 1, cs => do
    let (part, rest) ← keyPart? (skipBlanks cs)
    match skipBlanks rest with
    | '.' :: rest => do
      let (parts, rest) ← keyFrom fuel rest
      return (part :: parts, rest)
    | rest => return ([part], rest)

def key? : Reader (List String) := keyFrom depthLimit

/-! ## Numbers -/

/-- Digits to a base, single underscores between them allowed; `start` says that a digit has to
come next. -/
def digitsFrom (isDigit : Char → Bool) (start : Bool) : List Char → Option (List Char × List Char)
  | [] => if start then none else some ([], [])
  | c :: rest =>
    if isDigit c then do
      let (digits, rest) ← digitsFrom isDigit false rest
      return (c :: digits, rest)
    else if start then none
    else if c = '_' then digitsFrom isDigit true rest
    else some ([], c :: rest)

def digits? (isDigit : Char → Bool) : List Char → Option (List Char × List Char) :=
  digitsFrom isDigit true

/-- A sign, negative if it is a minus. -/
def sign : List Char → Bool × List Char
  | '+' :: rest => (false, rest)
  | '-' :: rest => (true, rest)
  | cs => (false, cs)

/-- The digits of a decimal number that has no needless zero in front. -/
def wholePart? (cs : List Char) : Option (List Char × List Char) :=
  match cs with
  | '0' :: rest => some (['0'], rest)
  | _ => digits? Text.isDecimalDigit cs

def valueOf (base : Nat) (digits : List Char) : Nat :=
  digits.foldl (fun n c => n * base + (Text.digitValue? 16 c).getD 0) 0

/-- A number of 64 bits with a sign. -/
def integer64? (n : Int) : Option Value :=
  if -0x8000000000000000 ≤ n ∧ n < 0x8000000000000000 then some (.integer n) else none

/-- A number to a base told by its second character. -/
def basedInteger? (base : Nat) (cs : List Char) : Option (Value × List Char) := do
  let (digits, rest) ← digits? (fun c => (Text.digitValue? 16 c).any (· < base)) cs
  return (← integer64? (valueOf base digits), rest)

def integer? (cs : List Char) : Option (Value × List Char) :=
  match cs with
  | '0' :: 'x' :: rest => basedInteger? 16 rest
  | '0' :: 'o' :: rest => basedInteger? 8 rest
  | '0' :: 'b' :: rest => basedInteger? 2 rest
  | _ => do
    let (negative, rest) := sign cs
    let (digits, rest) ← wholePart? rest
    let n : Int := valueOf 10 digits
    return (← integer64? (if negative then -n else n), rest)

/-- The least number that rounds to infinity in a 64-bit float. -/
def floatBound : Nat := 1 <<< 1024 - 1 <<< 970

/-- Whether `mantissa` tens to the power `exponent` are beyond a 64-bit float. -/
def floatOverflows (mantissa : List Char) (exponent : Int) : Bool :=
  let m := valueOf 10 mantissa
  let size : Int := (Nat.toDigits 10 m).length + exponent
  if m = 0 ∨ size < 300 then false
  else if 320 < size then true
  else if 0 ≤ exponent then decide (floatBound ≤ m * Nat.pow 10 exponent.toNat)
  else decide (floatBound * Nat.pow 10 (-exponent).toNat ≤ m)

def fraction? : List Char → Option (List Char × List Char)
  | '.' :: rest => digits? Text.isDecimalDigit rest
  | cs => some ([], cs)

def exponent? : List Char → Option (Option Int × List Char)
  | c :: rest =>
    if c = 'e' ∨ c = 'E' then do
      let (negative, rest) := sign rest
      let (digits, rest) ← digits? Text.isDecimalDigit rest
      let n : Int := valueOf 10 digits
      return (some (if negative then -n else n), rest)
    else some (none, c :: rest)
  | [] => some (none, [])

def infinityOrNan? : List Char → Option (List Char)
  | 'i' :: 'n' :: 'f' :: rest => some rest
  | 'n' :: 'a' :: 'n' :: rest => some rest
  | _ => none

def float? (cs : List Char) : Option (Value × List Char) :=
  let (negative, rest) := sign cs
  match infinityOrNan? rest with
  | some rest => some (.float, rest)
  | none => do
    let (whole, rest) ← wholePart? rest
    let (part, rest) ← fraction? rest
    let (power, rest) ← exponent? rest
    if part.isEmpty ∧ power.isNone then none
    else if !negative ∧ floatOverflows (whole ++ part) (power.getD 0 - part.length) then none
    else some (.float, rest)

/-! ## Dates and times -/

def fixed? (width : Nat) (cs : List Char) : Option (Nat × List Char) :=
  let digits := cs.take width
  if digits.length = width ∧ digits.all Text.isDecimalDigit then
    some (valueOf 10 digits, cs.drop width)
  else none

def char? (c : Char) : List Char → Option (List Char)
  | d :: rest => if c = d then some rest else none
  | [] => none

def isLeapYear (year : Nat) : Bool := year % 4 = 0 && (year % 100 != 0 || year % 400 = 0)

def daysIn (year month : Nat) : Nat :=
  match month with
  | 2 => if isLeapYear year then 29 else 28
  | 4 | 6 | 9 | 11 => 30
  | _ => 31

def date? (cs : List Char) : Option (List Char) := do
  let (year, rest) ← fixed? 4 cs
  let (month, rest) ← fixed? 2 (← char? '-' rest)
  let (day, rest) ← fixed? 2 (← char? '-' rest)
  if 1 ≤ month ∧ month ≤ 12 ∧ 1 ≤ day ∧ day ≤ daysIn year month then some rest else none

def clock? (cs : List Char) : Option (List Char) := do
  let (hour, rest) ← fixed? 2 cs
  let (minute, rest) ← fixed? 2 (← char? ':' rest)
  if hour ≤ 23 ∧ minute ≤ 59 then some rest else none

def time? (cs : List Char) : Option (List Char) := do
  let (second, rest) ← fixed? 2 (← char? ':' (← clock? cs))
  if second ≤ 60 then
    match rest with
    | '.' :: more =>
      match more.takeWhile Text.isDecimalDigit with
      | [] => none
      | _ => some (more.dropWhile Text.isDecimalDigit)
    | _ => some rest
  else none

def offset (cs : List Char) : List Char :=
  match cs with
  | 'Z' :: rest | 'z' :: rest => rest
  | '+' :: rest | '-' :: rest => (clock? rest).getD cs
  | _ => cs

def dateTime? (cs : List Char) : Option (Value × List Char) :=
  match date? cs with
  | some rest =>
    let withTime := match rest with
      | 'T' :: more | 't' :: more | ' ' :: more => (time? more).map offset
      | _ => none
    some (.dateTime, withTime.getD rest)
  | none => (time? cs).map fun rest => (.dateTime, rest)

end SignatureSearch.Toml
