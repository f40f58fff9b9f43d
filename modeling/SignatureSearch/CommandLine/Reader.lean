/-
  SignatureSearch.CommandLine.Reader — reading a command line from left to right.

  A value is looked at when it is sure that it is complete: when the next option or argument
  comes, or at the end. The first fault counts. Of an option that every part takes, the value
  behind the command wins.
-/

import SignatureSearch.CommandLine.Parameter

namespace SignatureSearch.CommandLine

/-- What has been read of one part. -/
structure Progress where
  given : List (Parameter × String) := []
  /-- An option or argument not looked at yet, an option perhaps without its value. -/
  pending : Option (Parameter × Option String) := none
  placed : Nat := 0
  /-- Whether only arguments can follow, two dashes having been read. -/
  trailing : Bool := false

namespace Progress

def give (s : Progress) (p : Parameter) (value : String) : Except Rejection Progress :=
  if s.given.any (·.1 == p) then .error .repeated
  else match p.fault? value with
    | some fault => .error fault
    | none => .ok { s with given := s.given ++ [(p, value)] }

def settle (s : Progress) : Except Rejection Progress :=
  match s.pending with
  | none => .ok s
  | some (_, none) => .error .missingValue
  | some (p, some value) => { s with pending := none }.give p value

/-- Whether the next word can be the value of an option. -/
def isWaiting (s : Progress) : Bool :=
  !s.trailing && s.pending.any (·.2.isNone)

def flag (s : Progress) (p : Parameter) : Except Rejection Progress := do
  let s ← s.settle
  match p with
  | .help => throw .helpAsked
  | .version => throw .versionAsked
  | _ => s.give p ""

/-- Takes an option, with the value that is written in the same word. -/
def option (s : Progress) (p : Parameter) (attached : Option String) :
    Except Rejection Progress := do
  match p.takesValue, attached with
  | true, some value => (← s.settle).give p value
  | true, none => return { ← s.settle with pending := some (p, none) }
  | false, some _ => throw .unwantedValue
  | false, none => s.flag p

/-- Takes letters behind one dash. What follows the letter of an option with a value is the
value, with or without a sign of equality. -/
def letters (g : Grammar) (s : Progress) : List Char → Except Rejection Progress
  | [] => .ok s
  | c :: rest =>
    match g.short? c with
    | none => .error .unknownArgument
    | some p =>
      if p.takesValue then
        s.option p <| match rest with
          | [] => none
          | '=' :: value => some (String.ofList value)
          | value => some (String.ofList value)
      else do letters g (← s.flag p) rest

/-- Takes what stands behind two dashes. -/
def long (g : Grammar) (s : Progress) (word : List Char) : Except Rejection Progress :=
  let (name, value) := word.span (· != '=')
  match g.long? (String.ofList name) with
  | none => .error .unknownArgument
  | some p => s.option p (if value.isEmpty then none else some (String.ofList (value.drop 1)))

def argument (g : Grammar) (s : Progress) (word : String) : Except Rejection Progress :=
  match g.arguments[s.placed]? with
  | some p => do
    return { ← s.settle with pending := some (p, some word), placed := s.placed + 1 }
  | none =>
    if g.commands.isEmpty || (s.trailing && g.commands.contains word) then .error .unknownArgument
    else .error .unknownCommand

/-- Takes a word that is the value of an option waiting for one, or else an argument. -/
def plain (g : Grammar) (s : Progress) (word : String) : Except Rejection Progress :=
  match s.pending with
  | some (p, none) =>
    if s.trailing then s.argument g word
    else .ok { s with pending := some (p, some word) }
  | _ => s.argument g word

def take (g : Grammar) (s : Progress) (word : String) : Except Rejection Progress :=
  if s.trailing then s.plain g word
  else match word.toList with
    | ['-', '-'] => .ok { s with trailing := true }
    | '-' :: '-' :: rest => s.long g rest
    | ['-'] => s.plain g word
    | '-' :: rest => s.letters g rest
    | _ => s.plain g word

/-- Takes words up to a command, and gives the command and the words behind it. -/
def takeAll (g : Grammar) (s : Progress) :
    List String → Except Rejection (Progress × Option (String × List String))
  | [] => .ok (s, none)
  | word :: rest =>
    if !s.trailing && !s.isWaiting && g.commands.contains word then .ok (s, some (word, rest))
    else do takeAll g (← s.take g word) rest

def value? (s : Progress) (p : Parameter) : Option String := s.given.lookup p

end Progress

/-- What asking for help on these commands leads to. -/
def helpOn : List String → Rejection
  | [] => .helpAsked
  | name :: rest =>
    if frontGrammar.commands.contains name && rest.isEmpty then .helpAsked else .unknownCommand

def requestOf (s : Progress) : ScanRequest where
  alignment := s.value? .alignment >>= Named.parse?
  hint := s.value? .hint >>= Named.parse?
  mode := s.value? .mode >>= Named.parse?
  all := (s.value? .all).isSome

/-- The section of a module that is scanned when no other is named. -/
def codeSection : String := ".text"

def commandOf (name : CommandName) (s : Progress) : Option Command := do
  match name with
  | .explain => return .explain (← s.value? .signature)
  | .scanFile =>
    return .scanFile (← s.value? .file) (← s.value? .signature) (s.value? .sectionName)
      (requestOf s)
  | .listSections => return .listSections (← s.value? .file)
  | .scanModule =>
    return .scanModule (← s.value? .signature) (s.value? .moduleName)
      ((s.value? .sectionName).getD codeSection) (requestOf s)

def readCommand (front : Progress) (name : CommandName) (words : List String) :
    Except Rejection Invocation := do
  let (s, _) ← ({} : Progress).takeAll name.grammar words
  let s ← s.settle
  match commandOf name s with
  | none => throw .missingArgument
  | some command =>
    let front ← front.settle
    return {
      settingsPath := s.value? .settingsPath <|> front.value? .settingsPath
      logFilter := s.value? .logFilter <|> front.value? .logFilter
      command }

def read (words : List String) : Except Rejection Invocation := do
  let (front, chosen) ← ({} : Progress).takeAll frontGrammar words
  match chosen with
  | none => throw (if (← front.settle).given.isEmpty then .nothingGiven else .noCommand)
  | some (word, rest) =>
    match CommandName.ofText? word with
    | some name => readCommand front name rest
    | none => throw (helpOn rest)

end SignatureSearch.CommandLine
