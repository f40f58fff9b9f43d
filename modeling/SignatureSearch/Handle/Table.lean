/-
  SignatureSearch.Handle.Table — signatures kept under numbers.

  A caller that cannot hold a signature itself registers it and keeps a handle, a number that is
  never zero. Numbers are handed out in ascending order and not used again. Registering takes two
  steps, taking a number and filling its entry, so that other callers may come between them.
-/

import Std.Data.HashMap
import SignatureSearch.Signature.Basic

namespace SignatureSearch

structure Handle where
  raw : UInt64
  raw_ne_zero : raw ≠ 0
  deriving DecidableEq

namespace Handle

instance : Hashable Handle := ⟨fun h => hash h.raw⟩

def first : Handle := ⟨1, by decide⟩

instance : Inhabited Handle := ⟨first⟩

/-- `from_raw`: a number as a handle; zero is none. -/
def ofRaw? (raw : UInt64) : Option Handle := if h : raw = 0 then none else some ⟨raw, h⟩

/-- A number as a handle; should the numbers wrap, zero counts as one. -/
def ofCounter (raw : UInt64) : Handle := (ofRaw? raw).getD first

end Handle

structure HandleTable where
  counter : UInt64 := 1
  entries : Std.HashMap Handle Signature := {}

namespace HandleTable

def empty : HandleTable := {}

def allocate (t : HandleTable) : Handle × HandleTable :=
  (Handle.ofCounter t.counter, { t with counter := t.counter + 1 })

def insert (t : HandleTable) (h : Handle) (s : Signature) : HandleTable :=
  { t with entries := t.entries.insert h s }

def register (t : HandleTable) (s : Signature) : Handle × HandleTable :=
  let (h, t) := t.allocate
  (h, t.insert h s)

def lookup (t : HandleTable) (h : Handle) : Option Signature := t.entries[h]?

/-- Drops an entry and says whether there was one. -/
def release (t : HandleTable) (h : Handle) : Bool × HandleTable :=
  (t.entries.contains h, { t with entries := t.entries.erase h })

end HandleTable

/-- A handle whose holder releases it at the end of its life. -/
structure OwnedHandle where
  handle : Handle
  deriving DecidableEq

namespace OwnedHandle

def register (t : HandleTable) (s : Signature) : OwnedHandle × HandleTable :=
  let (h, t) := t.register s
  (⟨h⟩, t)

def signature? (o : OwnedHandle) (t : HandleTable) : Option Signature := t.lookup o.handle

/-- The end of the holder's life. An entry released before then is no matter. -/
def drop (o : OwnedHandle) (t : HandleTable) : HandleTable := (t.release o.handle).2

def release (o : OwnedHandle) (t : HandleTable) : HandleTable := o.drop t

/-- `into_raw`: gives up the holder and keeps the entry. -/
def intoRaw (o : OwnedHandle) : Handle := o.handle

end OwnedHandle

end SignatureSearch
