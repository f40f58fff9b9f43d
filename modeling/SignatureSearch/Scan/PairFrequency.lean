/-
  SignatureSearch.Scan.PairFrequency — the hundred pairs of adjacent bytes that code for x86-64
  holds most.
-/

namespace SignatureSearch.PairFrequency

/-- Most frequent first. -/
def mostFrequent : List (UInt8 × UInt8) := [
  (0x00, 0x00), (0x48, 0x8B), (0xCC, 0xCC), (0x48, 0x8D), (0x48, 0x89),
  (0x00, 0x48), (0x48, 0x83), (0x44, 0x24), (0x01, 0x00), (0x49, 0x8B),
  (0x48, 0x85), (0x4C, 0x24), (0xFF, 0xFF), (0x0F, 0x11), (0x4C, 0x8B),
  (0x08, 0x48), (0x24, 0x20), (0x5C, 0x24), (0x01, 0x48), (0xFF, 0x48),
  (0x4C, 0x89), (0x4C, 0x8D), (0xCC, 0x48), (0xFF, 0x15), (0x10, 0x48),
  (0x24, 0x30), (0x03, 0x48), (0x89, 0x44), (0x00, 0xE8), (0x90, 0x48),
  (0x8D, 0x05), (0x83, 0xC4), (0xC3, 0xCC), (0x20, 0x48), (0x0F, 0x57),
  (0x30, 0x48), (0x02, 0x00), (0xF3, 0x0F), (0x00, 0x0F), (0x54, 0x24),
  (0x85, 0xC9), (0xC0, 0x0F), (0x48, 0xC7), (0x48, 0x81), (0x85, 0xC0),
  (0x74, 0x24), (0x02, 0x48), (0x89, 0x5C), (0x0F, 0x10), (0x83, 0xEC),
  (0xC9, 0x74), (0x8D, 0x4D), (0x24, 0x40), (0x57, 0xC0), (0x24, 0x28),
  (0x8D, 0x4C), (0x24, 0x38), (0x00, 0x4C), (0x8B, 0xCB), (0x38, 0x48),
  (0x48, 0x3B), (0xF8, 0x48), (0x8D, 0x0D), (0xC0, 0x48), (0x04, 0x48),
  (0x0F, 0x84), (0x03, 0x00), (0x00, 0x49), (0xC3, 0x48), (0x8B, 0xCF),
  (0xC0, 0x74), (0x89, 0x45), (0x57, 0x48), (0x40, 0x48), (0x48, 0x33),
  (0x24, 0x48), (0x24, 0x50), (0x0F, 0xB6), (0x8D, 0x15), (0x18, 0x48),
  (0x28, 0x48), (0x0F, 0x7F), (0x7C, 0x24), (0x8D, 0x54), (0x8B, 0x40),
  (0x8B, 0xC8), (0x8B, 0x01), (0x8D, 0x8D), (0xC1, 0x48), (0x8B, 0x5C),
  (0xFE, 0x48), (0x89, 0x74), (0xC7, 0x44), (0x66, 0x0F), (0x83, 0xF8),
  (0xCB, 0xE8), (0x24, 0x60), (0xCC, 0xE8), (0xC4, 0x20), (0x8B, 0x4D)]

/-- The place of a pair, counted from the most frequent one; all others share the place behind the
last. -/
def rank (pair : UInt8 × UInt8) : Nat := mostFrequent.idxOf pair

end SignatureSearch.PairFrequency
