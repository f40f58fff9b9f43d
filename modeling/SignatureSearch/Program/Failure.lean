/-
  SignatureSearch.Program.Failure — why a command comes to nothing.
-/

import SignatureSearch.FileSystem
import SignatureSearch.Handle.Status
import SignatureSearch.Module.Basic

namespace SignatureSearch.Program

inductive Failure where
  | signature (text : String) (cause : SignatureError)
  /-- A file that cannot be opened. -/
  | unopened (path : String) (cause : FileError)
  /-- A file that was opened and has no contents to look at. -/
  | unread (cause : FileError)
  | image (cause : ImageError)
  | module (cause : ModuleError)
  | noSection (owner name : String)
  | noContents
  deriving DecidableEq, Repr

namespace Failure

/-- The program ends where it stands, and reports no error. -/
def isFault : Failure → Bool
  | .image (.fault _) | .module (.image (.fault _)) => true
  | _ => false

def statusText (s : Status) : String :=
  "status " ++ Text.decimal s.code ++ " = " ++ s.name

/-- What went wrong, and then why. -/
def messages : Failure → List String
  | .signature text cause =>
    ["`" ++ text ++ "`: " ++ cause.message ++ " (" ++ statusText (Status.ofError cause) ++ ")"]
  | .unopened path cause => ["failed to open " ++ path, cause.message]
  | .unread cause => [cause.message]
  | .image cause => [cause.message]
  | .module cause => [cause.message]
  | .noSection owner name => [owner ++ " has no section named `" ++ name ++ "`"]
  | .noContents => ["section has no data in the file"]

end Failure

end SignatureSearch.Program
