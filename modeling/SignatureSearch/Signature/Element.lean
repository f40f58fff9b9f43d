/-
  SignatureSearch.Signature.Element — one position of a signature.

  An element compares the bits of its mask and leaves the others free. The bits of its value
  outside the mask are clear, so equal elements match the same bytes and the other way round.
-/

namespace SignatureSearch

structure Element where
  value : UInt8
  /-- The bits that are compared. -/
  mask : UInt8
  value_masked : value &&& mask = value := by decide

namespace Element

@[ext] theorem ext {a b : Element} (hv : a.value = b.value) (hm : a.mask = b.mask) : a = b := by
  cases a; cases b; simp_all

instance : DecidableEq Element := fun a b =>
  if h : a.value = b.value ∧ a.mask = b.mask then isTrue (ext h.1 h.2)
  else isFalse fun e => h (e ▸ ⟨rfl, rfl⟩)

def wildcard : Element := { value := 0, mask := 0 }

instance : Inhabited Element := ⟨wildcard⟩

/-- Compares the bits of `mask` with those of `value`. -/
def masked (value mask : UInt8) : Element where
  value := value &&& mask
  mask := mask
  value_masked := by rw [UInt8.and_assoc, UInt8.and_self]

def byte (value : UInt8) : Element := masked value 0xFF

def isWildcard (e : Element) : Bool := e.mask == 0

def isByte (e : Element) : Bool := e.mask == 0xFF

def matchesByte (e : Element) (b : UInt8) : Bool := b &&& e.mask == e.value

end Element

end SignatureSearch
