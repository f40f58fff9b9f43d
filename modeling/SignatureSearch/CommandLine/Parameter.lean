/-
  SignatureSearch.CommandLine.Parameter — the options and arguments, and where they belong.
-/

import SignatureSearch.CommandLine.Basic

namespace SignatureSearch.CommandLine

inductive Parameter where
  | settingsPath
  | logFilter
  | help
  | version
  | file
  | signature
  | sectionName
  | moduleName
  | alignment
  | hint
  | mode
  | all
  deriving DecidableEq, Repr

namespace Parameter

/-- The name of an option behind two dashes; a plain argument has none. -/
def long? : Parameter → Option String
  | .settingsPath => some "config"
  | .logFilter => some "log"
  | .help => some "help"
  | .version => some "version"
  | .sectionName => some "section"
  | .moduleName => some "module"
  | .alignment => some "align"
  | .hint => some "hint"
  | .mode => some "mode"
  | .all => some "all"
  | .file | .signature => none

/-- The letter of an option behind one dash. -/
def short? : Parameter → Option Char
  | .help => some 'h'
  | .version => some 'V'
  | .sectionName => some 's'
  | .moduleName => some 'm'
  | .all => some 'a'
  | _ => none

def takesValue : Parameter → Bool
  | .help | .version | .all => false
  | _ => true

/-- What is wrong with a value. -/
def fault? (p : Parameter) (value : String) : Option Rejection :=
  let refuseUnless (good : Bool) : Option Rejection := if good then none else some .badValue
  match p with
  | .settingsPath | .file => if value.isEmpty then some .missingValue else none
  | .alignment => refuseUnless (Named.parse? (α := Alignment) value).isSome
  | .hint => refuseUnless (Named.parse? (α := Hint) value).isSome
  | .mode => refuseUnless (Named.parse? (α := Mode) value).isSome
  | _ => none

end Parameter

/-- What may stand in one part of a command line. -/
structure Grammar where
  options : List Parameter
  /-- The arguments, all of which must be there, in their order. -/
  arguments : List Parameter := []
  /-- The words with which the next part begins. -/
  commands : List String := []

namespace Grammar

def long? (g : Grammar) (name : String) : Option Parameter :=
  g.options.find? fun p => p.long? == some name

def short? (g : Grammar) (letter : Char) : Option Parameter :=
  g.options.find? fun p => p.short? == some letter

end Grammar

inductive CommandName where
  | explain
  | scanFile
  | listSections
  | scanModule
  deriving DecidableEq, Repr

namespace CommandName

def all : List CommandName := [.explain, .scanFile, .listSections, .scanModule]

def text : CommandName → String
  | .explain => "parse"
  | .scanFile => "scan"
  | .listSections => "sections"
  | .scanModule => "self"

def ofText? (word : String) : Option CommandName := all.find? (·.text == word)

/-- The options that every part takes. -/
def shared : List Parameter := [.settingsPath, .logFilter, .help]

def scanning : List Parameter := [.sectionName, .alignment, .hint, .mode, .all]

def grammar : CommandName → Grammar
  | .explain => { options := shared, arguments := [.signature] }
  | .scanFile => { options := scanning ++ shared, arguments := [.file, .signature] }
  | .listSections => { options := shared, arguments := [.file] }
  | .scanModule => { options := .moduleName :: scanning ++ shared, arguments := [.signature] }

end CommandName

def helpWord : String := "help"

def frontGrammar : Grammar where
  options := .version :: CommandName.shared
  commands := helpWord :: CommandName.all.map CommandName.text

end SignatureSearch.CommandLine
