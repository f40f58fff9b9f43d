/-
  SignatureSearch.Calls — the calls that programs of other languages make.

  Such a caller has plain numbers and pointers. A pointer may be null, which is `none` here; text
  is the bytes before its final nul and need not be UTF-8. Every call answers, whatever it is
  handed: a status, or a pointer that is null when there is nothing to point to.
-/

import SignatureSearch.Handle.Status
import SignatureSearch.Handle.Table
import SignatureSearch.Module.Sections
import SignatureSearch.Scan.Scanner
import SignatureSearch.Signature.Parser
import SignatureSearch.Text.Utf8

namespace SignatureSearch.Calls

/-- What a call that builds a signature leaves behind. -/
structure Built where
  status : Status
  /-- What stands where the caller wants the handle, if it wants one. -/
  out : Option UInt64
  table : HandleTable

/-- Where the caller wants the handle stored. -/
inductive Out where
  | null
  | given
  deriving DecidableEq, Repr

/-- `store`: registers a signature that could be built; else the handle is zero. -/
def store (t : HandleTable) : Except SignatureError Signature → Built
  | .ok s =>
    let (h, t) := t.register s
    ⟨.success, some h.raw, t⟩
  | .error e => ⟨Status.ofError e, some 0, t⟩

/-- `sigscan_parse_signature`. -/
def parseSignature (t : HandleTable) (text : Option (List UInt8)) (out : Out) : Built :=
  match out, text with
  | .null, _ => ⟨.unknownError, none, t⟩
  | .given, none => ⟨.unknownError, some 0, t⟩
  | .given, some bytes =>
    match Text.decode? bytes with
    | none => ⟨.invalid, some 0, t⟩
    | some text => store t (Signature.parse text)

/-- `sigscan_create_signature`. -/
def createSignature (t : HandleTable) (bytes mask : Option (List UInt8)) (size : Nat)
    (out : Out) : Built :=
  match out with
  | .null => ⟨.unknownError, none, t⟩
  | .given =>
    if size = 0 then ⟨.empty, some 0, t⟩
    else
      match bytes, mask with
      | some bytes, some mask =>
        store t (Signature.ofBytesAndMask (bytes.take size) (mask.take size))
      | _, _ => ⟨.unknownError, some 0, t⟩

def alignment? (n : UInt32) : Option Alignment :=
  match n with
  | 0 => some .x1
  | 1 => some .x16
  | _ => none

def signature? (t : HandleTable) (handle : UInt64) : Option Signature :=
  (Handle.ofRaw? handle).bind t.lookup

/-- `sigscan_find_pattern`: the address of the first match in the first `size` bytes of a buffer. -/
def findPattern (hasAvx2 : Bool) (t : HandleTable) (handle : UInt64) (buffer : Option Region) (size : Nat)
    (align : UInt32) : Option UInt64 := do
  let s ← signature? t handle
  let alignment ← alignment? align
  let buffer ← buffer
  let region : Region := ⟨(buffer.bytes.slice? 0 size).getD buffer.bytes, buffer.base⟩
  let offset ← Scanner.findFirst ⟨s, { alignment }, hasAvx2⟩ region
  return buffer.addressOf offset

/-- `sigscan_free_signature`. -/
def freeSignature (t : HandleTable) (handle : UInt64) : HandleTable :=
  match Handle.ofRaw? handle with
  | some h => (t.release h).2
  | none => t

/-! ## Calls on modules

A module is named by its base. Null is the main program.
-/

/-- `sigscan_find_pattern_mod`: the address of the first match in a section of the module that has
a base; null is the main program. -/
def findPatternInModule (t : HandleTable) (host : Host) (fs : FileSystem) (handle : UInt64)
    (base : UInt64) (sectionName : Option (List UInt8)) (align : UInt32) : Option UInt64 := do
  let s ← signature? t handle
  let alignment ← alignment? align
  let name ← Text.decode? (← sectionName)
  let found := if base = 0 then host.module? none else host.moduleAt? base
  let m ← found.toOption.join
  (m.findInSection fs host.memory host.hasAvx2 s name alignment).toOption.join

/-- `sigscan_get_module`: the base of a module; null names the main program. -/
def baseOfModule (host : Host) (name : Option (List UInt8)) : Option UInt64 := do
  let name ← match name with
    | none => some none
    | some bytes => some <$> Text.decode? bytes
  let m ← (host.module? name).toOption.join
  return m.base

end SignatureSearch.Calls
