/-
  SignatureSearch.FileSystem — a tree of files, and what can go wrong with one.

  A file is found by walking its path part by part from the root or from the working directory.
  There are no links, so a walk ends.
-/

import SignatureSearch.Bytes
import SignatureSearch.Path

namespace SignatureSearch

inductive FileError where
  | notFound
  | notDirectory
  | isDirectory
  /-- A directory has no contents to look at. -/
  | noContents
  /-- A part of a path, or all of it, is longer than a file system takes. -/
  | tooLong
  | nulInName
  deriving DecidableEq, Repr

def FileError.message : FileError → String
  | .notFound => "No such file or directory (os error 2)"
  | .notDirectory => "Not a directory (os error 20)"
  | .isDirectory => "Is a directory (os error 21)"
  | .noContents => "No such device (os error 19)"
  | .tooLong => "File name too long (os error 36)"
  | .nulInName => "file name contained an unexpected NUL byte"

/-- The names from the root down. -/
abbrev Location := List String

structure FileSystem where
  files : List (Location × Bytes) := []
  directories : List Location := [[]]
  /-- Where relative paths start. -/
  working : Location := []
  /-- The files at paths that are no text, by their whole paths. -/
  textless : List (SystemPath × Bytes) := []

namespace FileSystem

inductive Node where
  | file (contents : Bytes)
  | directory

def node? (fs : FileSystem) (l : Location) : Option Node :=
  match fs.files.lookup l with
  | some contents => some (.file contents)
  | none => if l ∈ fs.directories then some .directory else none

def partLimit : Nat := 255

def pathLimit : Nat := 4095

def isTooLong (part : List Char) : Bool := partLimit < (String.ofList part).utf8ByteSize

def checked (path : String) : Except FileError String :=
  if path.contains '\x00' then .error .nulInName
  else if pathLimit < path.utf8ByteSize then .error .tooLong
  else .ok path

/-- Walks from a directory along the parts of a path; the last one may name anything. -/
def walk (fs : FileSystem) (l : Location) : List (List Char) → Except FileError Location
  | [] => .ok l
  | part :: rest =>
    match fs.node? l with
    | none => .error .notFound
    | some (.file _) => .error .notDirectory
    | some .directory =>
      if part = [] ∨ part = ['.'] then walk fs l rest
      else if part = ['.', '.'] then walk fs l.dropLast rest
      else if isTooLong part then .error .tooLong
      else walk fs (l ++ [String.ofList part]) rest

/-- Where a path leads to, be there something or not. -/
def locate (fs : FileSystem) (path : String) : Except FileError Location := do
  let path ← checked path
  if path.isEmpty then throw .notFound
  else walk fs (if Path.isAbsolute path then [] else fs.working) (Path.parts path)

def find (fs : FileSystem) (path : String) : Except FileError Node := do
  match fs.node? (← fs.locate path) with
  | some node => return node
  | none => throw .notFound

def has (fs : FileSystem) (path : String) : Bool := (fs.find path).isOk

def read (fs : FileSystem) (path : String) : Except FileError Bytes := do
  match ← fs.find path with
  | .file contents => return contents
  | .directory => throw .isDirectory

/-- Looks at the contents of a file in place, which a directory does not allow. -/
def view (fs : FileSystem) (path : String) : Except FileError Bytes := do
  match ← fs.find path with
  | .file contents => return contents
  | .directory => throw .noContents

def viewAt (fs : FileSystem) (path : SystemPath) : Except FileError Bytes :=
  match path.text? with
  | some text => fs.view text
  | none =>
    match fs.textless.lookup path with
    | some contents => .ok contents
    | none => .error .notFound

theorem viewAt_ofText (fs : FileSystem) (path : String) : fs.viewAt (.ofText path) = fs.view path := by
  rw [viewAt, SystemPath.text?_ofText]

def put (fs : FileSystem) (l : Location) (contents : Bytes) : FileSystem :=
  { fs with files := (l, contents) :: fs.files.filter (·.1 != l) }

def write (fs : FileSystem) (path : String) (contents : Bytes) : Except FileError FileSystem := do
  let l ← fs.locate path
  match fs.node? l with
  | some .directory => throw .isDirectory
  | some (.file _) => return fs.put l contents
  | none =>
    match fs.node? l.dropLast with
    | some .directory => return fs.put l contents
    | some (.file _) => throw .notDirectory
    | none => throw .notFound

def makeFrom (fs : FileSystem) (l : Location) : List (List Char) → Except FileError FileSystem
  | [] => .ok fs
  | part :: rest =>
    if part = [] ∨ part = ['.'] then makeFrom fs l rest
    else if part = ['.', '.'] then makeFrom fs l.dropLast rest
    else if isTooLong part then .error .tooLong
    else
      let next := l ++ [String.ofList part]
      match fs.node? next with
      | some (.file _) => .error .notDirectory
      | some .directory => makeFrom fs next rest
      | none => makeFrom { fs with directories := next :: fs.directories } next rest

def makeDirectories (fs : FileSystem) (path : String) : Except FileError FileSystem := do
  let path ← checked path
  makeFrom fs (if Path.isAbsolute path then [] else fs.working) (Path.parts path)

/-- The file system in which a working directory holds these files, by their paths in it. -/
def ofFiles (working : Location) (files : List (String × Bytes)) : FileSystem :=
  let above := (List.range (working.length + 1)).map working.take
  files.foldl
    (fun fs (path, contents) =>
      let fs := ((Path.parent? path).bind fun p => (fs.makeDirectories p).toOption).getD fs
      (fs.write path contents).toOption.getD fs)
    { directories := above, working }

end FileSystem

end SignatureSearch
