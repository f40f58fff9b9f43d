/-
  SignatureSearch.Text.Terminal — text with and without what steers a terminal.

  A sequence for a terminal starts with an escape character; how it ends depends on the character
  behind that. `plain` leaves out all sequences and all controls but the line feed.
-/

namespace SignatureSearch.Text

/-! ## Colours and weights -/

def styled (on off : String) (text : String) : String :=
  "\x1b[" ++ on ++ "m" ++ text ++ "\x1b[" ++ off ++ "m"

def green : String → String := styled "32" "39"

def red : String → String := styled "31" "39"

def cyan : String → String := styled "36" "39"

def dimmed : String → String := styled "2" "0"

def bold : String → String := styled "1" "0"

/-! ## Plain text -/

inductive TerminalState where
  | text
  | escape
  /-- Behind an escape character and a character that says that another one follows. -/
  | charset
  /-- In a command, which a letter ends. -/
  | command
  /-- In a string, which an escape character ends. -/
  | string
  /-- In a string that a bell ends too. -/
  | title
  deriving DecidableEq, Repr

namespace TerminalState

def isFrom (a b : Nat) (c : Char) : Bool := a ≤ c.toNat && c.toNat ≤ b

def afterEscape (c : Char) : TerminalState :=
  match c with
  | '[' => .command
  | ']' => .title
  | 'P' | 'X' | '^' | '_' => .string
  | c => if isFrom 0x20 0x2F c then .charset else if isFrom 0x30 0x7E c then .text else .escape

/-- Any sequence is broken off by another one and by the controls for cancelling. -/
def next (s : TerminalState) (c : Char) : TerminalState :=
  if c = '\x1b' then .escape
  else if c = '\x18' ∨ c = '\x1a' then .text
  else
    match s with
    | .text => .text
    | .escape => afterEscape c
    | .charset => if isFrom 0x30 0x7E c then .text else .charset
    | .command => if isFrom 0x40 0x7E c then .text else .command
    | .string => .string
    | .title => if c = '\x07' then .text else .title

/-- Whether a character is seen. A line feed counts even in the middle of a sequence that is no
string. -/
def shows (s : TerminalState) (c : Char) : Bool :=
  match s with
  | .text => c = '\n' || !(c.toNat < 0x20 || isFrom 0x80 0x9F c)
  | .escape | .charset | .command => c = '\n'
  | .string | .title => false

end TerminalState

def plainFrom (s : TerminalState) : List Char → List Char
  | [] => []
  | c :: rest =>
    if s.shows c then c :: plainFrom (s.next c) rest else plainFrom (s.next c) rest

def plain (text : String) : String := String.ofList (plainFrom .text text.toList)

end SignatureSearch.Text
