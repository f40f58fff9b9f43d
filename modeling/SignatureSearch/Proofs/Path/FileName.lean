/-
  SignatureSearch.Proofs.Path.FileName — the file name of a path.

  A path may end in slashes, with dots between them, and mean the same file as without them. So its file name
  (`file_name`) need not be what stands at its end.

  Proved:
  (1) The parts of a path are what is between its slashes (`Path.parts_eq`).
  (2) The last part is the last that is neither empty nor a dot, if there is one (`Path.lastPart?_eq_some_iff`), and it
      is the file name unless it leads upwards (`Path.fileName?_eq_some_iff`).
-/

import SignatureSearch.Path

namespace SignatureSearch.Path

/-! ## (1) Parts -/

theorem partsFrom_eq (part rest : List Char) :
    partsFrom part rest = (rest.splitOn '/').modifyHead (part ++ ·) := by
  fun_induction partsFrom part rest with
  | case1 part => rw [List.splitOn_nil, List.modifyHead_cons, List.append_nil]
  | case2 part rest ih =>
    have hnil : ([] ++ · : List Char → List Char) = id := rfl
    rw [ih, hnil, List.modifyHead_id, List.splitOn_cons_eq_if_modifyHead, if_pos (beq_self_eq_true _),
      List.modifyHead_cons, List.append_nil]
    rfl
  | case3 part c rest hc ih =>
    rw [ih, List.splitOn_cons_eq_if_modifyHead, if_neg (fun h => hc (beq_iff_eq.mp h)), List.modifyHead_modifyHead]
    congr 1
    funext head
    exact List.append_assoc ..

theorem parts_eq (path : String) : parts path = path.toList.splitOn '/' := by
  have hnil : ([] ++ · : List Char → List Char) = id := rfl
  rw [parts, partsFrom_eq, hnil, List.modifyHead_id]
  rfl

/-! ## (2) The last part -/

theorem counts_iff {index : Nat} {part : List Char} :
    counts index part = true ↔ part ≠ [] ∧ (part = ['.'] → index = 0) := by
  rw [counts, Bool.and_eq_true, Bool.or_eq_true, Bool.not_eq_true', List.isEmpty_eq_false_iff, bne_iff_ne, beq_iff_eq,
    Decidable.imp_iff_not_or]

theorem not_counts_zipIdx_iff {after : List (List Char)} {index : Nat} (behind : 0 < index) :
    (∀ q ∈ after.zipIdx index, (!counts q.2 q.1) = true) ↔ ∀ part ∈ after, part = [] ∨ part = ['.'] := by
  have hnot : ∀ {part : List Char} {i : Nat}, index ≤ i →
      ((!counts i part) = true ↔ part = [] ∨ part = ['.']) := by
    intro part i hi
    have hne : i ≠ 0 := by omega
    rw [Bool.not_eq_true', ← Bool.not_eq_true, counts_iff]
    by_cases e : part = []
    · simp [e]
    · simp [e, hne]
  constructor
  · intro h part hpart
    obtain ⟨k, hk⟩ := List.mem_iff_getElem?.mp hpart
    have hmem : (part, index + k) ∈ after.zipIdx index := by
      rw [List.mem_zipIdx_iff_le_and_getElem?_sub, Nat.add_sub_cancel_left]
      exact ⟨Nat.le_add_right _ _, hk⟩
    exact (hnot (Nat.le_add_right _ _)).mp (h _ hmem)
  · intro h q hq
    obtain ⟨hle, hpart⟩ := List.mem_zipIdx_iff_le_and_getElem?_sub.mp hq
    exact (hnot hle).mpr (h _ (List.mem_of_getElem? hpart))

theorem reverse_zipIdx_eq_iff {α : Type} {list : List α} {a : α} {i : Nat} {later earlier : List (α × Nat)} :
    list.zipIdx.reverse = later ++ (a, i) :: earlier ↔ ∃ before after, list = before ++ a :: after ∧
      before.length = i ∧ later = (after.zipIdx (i + 1)).reverse ∧ earlier = before.zipIdx.reverse := by
  rw [List.reverse_eq_append_iff, List.reverse_cons, List.append_assoc, List.singleton_append]
  constructor
  · intro h
    obtain ⟨before, rest, rfl, hbefore, hrest⟩ := List.zipIdx_eq_append_iff.mp h
    obtain ⟨_, after, rfl, hentry, hafter⟩ := List.zipIdx_eq_cons_iff.mp hrest.symm
    obtain ⟨rfl, rfl⟩ := Prod.mk.inj hentry
    exact ⟨before, after, rfl, (Nat.zero_add _).symm, List.reverse_eq_iff.mp hafter, List.reverse_eq_iff.mp hbefore⟩
  · intro h
    obtain ⟨before, after, rfl, rfl, rfl, rfl⟩ := h
    rw [List.reverse_reverse, List.reverse_reverse, List.zipIdx_append, List.zipIdx_cons, Nat.zero_add]

theorem lastPart?_eq_some_iff {path : List (List Char)} {part : List Char} {index : Nat} :
    lastPart? path = some (part, index) ↔ ∃ before after, path = before ++ part :: after ∧ before.length = index ∧
      counts index part = true ∧ ∀ other ∈ after, other = [] ∨ other = ['.'] := by
  rw [lastPart?, List.getLast?_filter, List.find?_eq_some_iff_append]
  constructor
  · intro h
    obtain ⟨hcounts, later, earlier, hsplit, hlater⟩ := h
    obtain ⟨before, after, hpath, hindex, rfl, -⟩ := reverse_zipIdx_eq_iff.mp hsplit
    refine ⟨before, after, hpath, hindex, hcounts, (not_counts_zipIdx_iff (Nat.succ_pos index)).mp ?_⟩
    intro q hq
    exact hlater q (List.mem_reverse.mpr hq)
  · intro h
    obtain ⟨before, after, hpath, hindex, hcounts, hafter⟩ := h
    refine ⟨hcounts, _, _, reverse_zipIdx_eq_iff.mpr ⟨before, after, hpath, hindex, rfl, rfl⟩, ?_⟩
    intro q hq
    exact (not_counts_zipIdx_iff (Nat.succ_pos index)).mpr hafter q (List.mem_reverse.mp hq)

/-- The path ends in the file name, but for slashes behind it and dots between these. A dot or two are no file name. -/
def EndsIn (path file : String) : Prop :=
  ∃ before after, path.toList.splitOn '/' = before ++ file.toList :: after ∧
    (∀ part ∈ after, part = [] ∨ part = ['.']) ∧ file ≠ "" ∧ file ≠ "." ∧ file ≠ ".."

theorem fileName?_eq_some_iff {path file : String} : fileName? path = some file ↔ EndsIn path file := by
  have hempty : file ≠ "" ↔ file.toList ≠ [] := not_congr String.toList_inj.symm
  have hdot : file ≠ "." ↔ file.toList ≠ ['.'] := not_congr String.toList_inj.symm
  have hdots : file ≠ ".." ↔ file.toList ≠ ['.', '.'] := not_congr String.toList_inj.symm
  rw [EndsIn, hempty, hdot, hdots, ← parts_eq, fileName?]
  constructor
  · intro h
    split at h
    · next part index last =>
      obtain ⟨before, after, hparts, -, hcounts, hafter⟩ := lastPart?_eq_some_iff.mp last
      split at h
      · cases h
      · next named =>
        obtain rfl := Option.some.inj h
        rw [String.toList_ofList]
        exact ⟨before, after, hparts, hafter, (counts_iff.mp hcounts).1, not_or.mp named⟩
    · cases h
  · intro h
    obtain ⟨before, after, hparts, hafter, hne, hname⟩ := h
    have hcounts : counts before.length file.toList = true := counts_iff.mpr ⟨hne, fun e => absurd e hname.1⟩
    rw [lastPart?_eq_some_iff.mpr ⟨before, after, hparts, rfl, hcounts, hafter⟩]
    dsimp only
    rw [if_neg (not_or.mpr hname), String.ofList_toList]

example : fileName? "lib/libm.so/.//" = some "libm.so" ∧ fileName? "lib/.." = none := by decide

end SignatureSearch.Path
