import Mathlib.Data.List.DropRight
import TypedVocabulary.Text.Slice

/-! # Laws of slices -/
namespace TypedVocabulary.Text
variable {sep : Char} {front cs rest : List Char}

/-! ## First occurrences -/

theorem cut?_append_cons (h : sep ∉ front) (rest : List Char) :
    cut? sep (front ++ sep :: rest) = some (front, rest) := by
  induction front with
  | nil => rw [List.nil_append, cut?, if_pos rfl]
  | cons c front ih =>
    have hc : c ≠ sep := fun hc => h (hc ▸ List.mem_cons_self)
    have hfront : sep ∉ front := fun hmem => h (List.mem_cons_of_mem _ hmem)
    rw [List.cons_append, cut?, if_neg hc, ih hfront]
    rfl

theorem cut?_of_not_mem (h : sep ∉ cs) : cut? sep cs = none := by
  induction cs with
  | nil => rfl
  | cons c cs ih =>
    have hc : c ≠ sep := fun hc => h (hc ▸ List.mem_cons_self)
    have hcs : sep ∉ cs := fun hmem => h (List.mem_cons_of_mem _ hmem)
    rw [cut?, if_neg hc, ih hcs]
    rfl

theorem cut?_append (h : sep ∉ rest) (cs : List Char) :
    cut? sep (cs ++ rest) = (cut? sep cs).map fun (before, after) => (before, after ++ rest) := by
  induction cs with
  | nil => exact cut?_of_not_mem h
  | cons c cs ih =>
    rw [List.cons_append, cut?, cut?, ih]
    split
    · rfl
    · cases cut? sep cs <;> rfl

/-! ## Pieces -/

theorem splitOn_eq (sep : Char) (cs : List Char) : splitOn sep cs = cs.splitOn sep := by
  induction cs with
  | nil => rfl
  | cons c cs ih =>
    rw [splitOn, ih, List.splitOn_cons_eq_if_modifyHead]
    by_cases hc : c = sep
    · simp [hc]
    · cases h : cs.splitOn sep with
      | nil => exact absurd h (List.splitOn_ne_nil sep cs)
      | cons piece pieces => simp [hc]

theorem splitOn_append_cons (sep : Char) (xs ys : List Char) :
    splitOn sep (xs ++ sep :: ys) = splitOn sep xs ++ splitOn sep ys := by
  simp only [splitOn_eq, List.splitOn_append_cons_self]

theorem splitOn_of_not_mem (h : sep ∉ cs) : splitOn sep cs = [cs] := by
  rw [splitOn_eq, List.splitOn_eq_singleton h]

theorem exists_splitOn_cons (sep : Char) (cs : List Char) :
    ∃ piece pieces, splitOn sep cs = piece :: pieces := by
  rw [splitOn_eq]
  exact List.exists_cons_of_ne_nil (List.splitOn_ne_nil sep cs)

theorem splitOn_append_of_not_mem (h : sep ∉ front) {piece : List Char}
    {pieces : List (List Char)} (hcs : splitOn sep cs = piece :: pieces) :
    splitOn sep (front ++ cs) = (front ++ piece) :: pieces := by
  induction front with
  | nil => exact hcs
  | cons c front ih =>
    obtain ⟨hc, hfront⟩ : sep ≠ c ∧ sep ∉ front := by simpa using h
    rw [List.cons_append, splitOn, if_neg hc.symm, ih hfront]
    rfl

theorem splitOn_eq_takeWhile (sep : Char) (cs : List Char) :
    ∃ pieces, splitOn sep cs = cs.takeWhile (· != sep) :: pieces := by
  induction cs with
  | nil => exact ⟨[], rfl⟩
  | cons c cs ih =>
    obtain ⟨pieces, hpieces⟩ := ih
    by_cases hc : c = sep
    · exact ⟨splitOn sep cs, by rw [splitOn, if_pos hc, List.takeWhile_cons_of_neg (by simp [hc])]⟩
    · refine ⟨pieces, ?_⟩
      rw [splitOn, if_neg hc, hpieces, List.takeWhile_cons_of_pos (by simp [hc])]

theorem not_mem_of_mem_splitOn {piece : List Char} (h : piece ∈ splitOn sep cs) :
    sep ∉ piece := by
  induction cs generalizing piece with
  | nil =>
    obtain rfl := List.mem_singleton.mp h
    exact List.not_mem_nil
  | cons c cs ih =>
    unfold splitOn at h
    split at h
    · rcases List.mem_cons.mp h with rfl | h
      · exact List.not_mem_nil
      · exact ih h
    · rename_i hc
      obtain ⟨first, rest, hsplit⟩ := exists_splitOn_cons sep cs
      rw [hsplit] at h ih
      rcases List.mem_cons.mp h with rfl | h
      · simpa [Ne.symm hc] using ih List.mem_cons_self
      · exact ih (List.mem_cons_of_mem _ h)

/-! ## Trimming -/

section
variable {p : Char → Bool} {c : Char}

theorem mem_trim (h : c ∈ trim p cs) : c ∈ cs := by
  unfold trim trimRight trimLeft at h
  have hback := (List.dropWhile_suffix p).subset (List.mem_reverse.mp h)
  exact (List.dropWhile_suffix p).subset (List.mem_reverse.mp hback)

theorem trim_of_forall (h : ∀ d ∈ cs, p d = false) : trim p cs = cs := by
  have hfront : trimLeft p cs = cs :=
    List.dropWhile_eq_self_iff.mpr fun hl => by simp [h _ (List.getElem_mem hl)]
  have hback : trimRight p cs = cs :=
    List.rdropWhile_eq_self_iff.mpr fun hne => by simp [h _ (List.getLast_mem hne)]
  rw [trim, hfront, hback]

theorem trimRight_append (p : Char → Bool) (cs : List Char) :
    ∃ blanks, cs = trimRight p cs ++ blanks ∧ ∀ c ∈ blanks, p c = true := by
  refine ⟨cs.rtakeWhile p, List.rdropWhile_append_rtakeWhile.symm, fun c hc => ?_⟩
  exact List.mem_rtakeWhile_imp hc

theorem trimRight_of_last (hlast : cs.getLast? = some c) (hc : p c = false) : trimRight p cs = cs := by
  obtain ⟨init, rfl⟩ := List.getLast?_eq_some_iff.mp hlast
  rw [trimRight, List.reverse_append, List.reverse_singleton, List.singleton_append,
    List.dropWhile_cons_of_neg (by simp [hc])]
  simp

/-- Nothing is taken away from in front of a character that stays. -/
theorem trimRight_append_of_last (hlast : front.getLast? = some c) (hc : p c = false)
    (cs : List Char) :
    trimRight p (front ++ cs) = front ++ trimRight p cs := by
  have hfront := trimRight_of_last hlast hc
  unfold trimRight at hfront ⊢
  rw [List.reverse_eq_iff] at hfront
  rw [List.reverse_append, List.dropWhile_append, hfront]
  cases cs.reverse.dropWhile p <;> simp

end

end TypedVocabulary.Text
