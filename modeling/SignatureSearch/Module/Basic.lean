/-
  SignatureSearch.Module.Basic — the programs and libraries loaded into a process.

  The loader lists what it holds. The main program stands there without a name and is known by the
  path of its executable, if that is text; a library is known by its path or its file name. What is
  found is held open, which the loader may refuse: then the search goes on behind it. While anyone
  holds an object it stays loaded.
-/

import SignatureSearch.FileSystem
import SignatureSearch.Image.Elf
import SignatureSearch.Text.Utf8

namespace SignatureSearch

structure LoadedObject where
  /-- Empty for the main program. -/
  name : String
  /-- What is added to the addresses in its file. -/
  bias : UInt64
  base : UInt64
  holders : Nat := 1
  deriving DecidableEq, Repr

/-- `collect`: an object with these segments, of which the lowest one that is mapped tells the base. -/
def LoadedObject.collect (name : String) (bias : UInt64) (programs : List Elf.ProgramHeader) :
    LoadedObject where
  name
  bias
  base := bias + (((programs.filter (·.isLoad)).map (·.address)).min?).getD 0

structure Module where
  bias : UInt64
  base : UInt64
  path : SystemPath
  object : String
  deriving DecidableEq, Repr

inductive ModuleError where
  | file (cause : FileError)
  | image (cause : ImageError)
  | noProcessModule
  deriving DecidableEq, Repr

def ModuleError.message : ModuleError → String
  | .file cause => cause.message
  | .image cause => cause.message
  | .noProcessModule => "current process module not found"

/-- A process, as far as its loaded objects go. -/
structure Host where
  objects : List LoadedObject := []
  /-- The path of the main program, if it is known (`current_exe`). -/
  executable : Option SystemPath := none
  /-- Whether the loader lets an object be held open. -/
  opens : LoadedObject → Bool := fun _ => true
  memory : UInt64 → UInt8 := fun _ => 0
  hasAvx2 : Bool := true

namespace Module

def name (m : Module) : String := (Path.fileName? m.path.shown).getD ""

def describeWith (m : Module) (path name : String) : String :=
  "Module \x7b base: " ++ Text.hex m.base.toNat ++ ", path: " ++ path ++ ", name: " ++ name ++
    " \x7d"

def describe (m : Module) : String := m.describeWith m.path.shown m.name

def describeQuoted (m : Module) : String :=
  m.describeWith (Text.quotedBytes m.path.bytes) (Text.quoted m.name)

end Module

/-- `name_matches`: a name is the whole name of an object or its file name. -/
def nameFits (object name : String) : Bool :=
  object == name || Path.fileName? object == some name

namespace Host

/-- `path`: where the file of an object is. -/
def pathOf (h : Host) (o : LoadedObject) : Except ModuleError SystemPath :=
  if o.name.isEmpty then
    match h.executable with
    | some path => .ok path
    | none => .error (.file .notFound)
  else .ok (.ofText o.name)

/-- `into_module`: holds an object open, if the loader lets it be. -/
def openObject (h : Host) (o : LoadedObject) : Except ModuleError (Option Module) := do
  let path ← h.pathOf o
  return if h.opens o then some ⟨o.bias, o.base, path, o.name⟩ else none

/-- `process_module`. -/
def processModule (h : Host) : Except ModuleError Module := do
  match h.objects.find? (·.name.isEmpty) with
  | none => throw .noProcessModule
  | some o =>
    match ← h.openObject o with
    | some m => return m
    | none => throw .noProcessModule

/-- The main program, if the name is that of its executable. A path that is no text has no name, not
even where its file name is one. -/
def mainNamed? (h : Host) (name : String) (main : Option LoadedObject) :
    Except ModuleError (Option Module) :=
  match main, h.executable.bind (·.text?) with
  | some o, some path => if nameFits path name then h.openObject o else .ok none
  | _, _ => .ok none

/-- The first of the objects that has the name and can be opened, and only then the main program:
the first without a name, here or among those before. -/
def moduleAmong? (h : Host) (name : String) (main : Option LoadedObject) :
    List LoadedObject → Except ModuleError (Option Module)
  | [] => h.mainNamed? name main
  | o :: rest =>
    if o.name.isEmpty then moduleAmong? h name (main <|> some o) rest
    else if nameFits o.name name then do
      match ← h.openObject o with
      | some m => return some m
      | none => moduleAmong? h name main rest
    else moduleAmong? h name main rest

/-- `get_module`: the module of a name; without a name, the main program. -/
def module? (h : Host) (name : Option String) : Except ModuleError (Option Module) :=
  match name with
  | some name => h.moduleAmong? name none h.objects
  | none => some <$> h.processModule

/-- `module_at`. -/
def moduleAt? (h : Host) (base : UInt64) : Except ModuleError (Option Module) :=
  match h.objects.find? (·.base == base) with
  | some o => h.openObject o
  | none => .ok none

/-! ## Holding -/

/-- One holder more of an object: `dlopen`. -/
def hold (h : Host) (m : Module) : Host :=
  { h with objects := h.objects.map fun o =>
      if o.name == m.object then { o with holders := o.holders + 1 } else o }

/-- One holder less: `dlclose`. An object that nobody holds is unloaded. -/
def letGo (h : Host) (object : String) : Host :=
  let objects := h.objects.map fun o =>
    if o.name == object then { o with holders := o.holders - 1 } else o
  { h with objects := objects.filter (0 < ·.holders) }

end Host

end SignatureSearch
