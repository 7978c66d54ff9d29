import TypedVocabulary.Proofs.Naming.Sanitizer

/-! # Candidates for a name

A scope tries the escaped form of a converted name first, and then this form with the suffix and a
number behind it, counted from one. The tries are all different, an answer is always one of them, and
where those that are in use are the first ones it is the next.
-/
namespace TypedVocabulary

/-! ## Numbers -/

theorem isDigit_of_mem_toString {c : Char} {k : Nat} (h : c ∈ (toString k).toList) :
    c.isDigit = true := by
  rw [Nat.toString_eq_ofList_toDigits, String.toList_ofList] at h
  exact Nat.isDigit_of_mem_toDigits (by decide) (by decide) h

theorem exists_lastDigit (k : Nat) : ∃ cs c, (toString k).toList = cs ++ [c] ∧ c.isDigit = true := by
  have hne : (toString k).toList ≠ [] := by
    rw [Nat.toString_eq_ofList_toDigits, String.toList_ofList]
    exact Nat.toDigits_ne_nil
  obtain ⟨cs, c, hsplit⟩ := (List.eq_nil_or_concat' _).resolve_left hne
  have hmem : c ∈ (toString k).toList := by
    rw [hsplit]
    exact List.mem_concat_self
  exact ⟨cs, c, hsplit, isDigit_of_mem_toString hmem⟩

/-! ## Tries -/

namespace NamingRules

/-- What is tried for a converted name after `k` names in use. -/
def candidate (r : NamingRules) (suffix name : String) (k : Nat) : String :=
  if k = 0 then r.escape suffix name else r.escape suffix name ++ suffix ++ toString k

variable (r : NamingRules) (suffix name : String)

theorem candidate_zero : r.candidate suffix name 0 = r.escape suffix name := if_pos rfl

theorem candidate_of_pos {k : Nat} (h : 0 < k) :
    r.candidate suffix name k = r.escape suffix name ++ suffix ++ toString k :=
  if_neg (Nat.pos_iff_ne_zero.mp h)

theorem candidate_ne_zero {k : Nat} (h : 0 < k) :
    r.candidate suffix name k ≠ r.candidate suffix name 0 := by
  rw [candidate_zero, r.candidate_of_pos suffix name h]
  intro hsame
  obtain ⟨cs, c, hdigits, -⟩ := exists_lastDigit k
  have hlengths := congrArg (fun s : String => s.toList.length) hsame
  simp only [String.toList_append, List.length_append, hdigits, List.length_singleton] at hlengths
  omega

theorem candidate_injective : Function.Injective (r.candidate suffix name) := by
  intro a b h
  rcases Nat.eq_zero_or_pos a with rfl | ha
  · rcases Nat.eq_zero_or_pos b with rfl | hb
    · rfl
    · exact absurd h.symm (r.candidate_ne_zero suffix name hb)
  · rcases Nat.eq_zero_or_pos b with rfl | hb
    · exact absurd h (r.candidate_ne_zero suffix name ha)
    · rw [r.candidate_of_pos suffix name ha, r.candidate_of_pos suffix name hb] at h
      exact numbered_injective _ h

/-- The tries before a number are in use. -/
def Passes (used : List String) (k : Nat) : Prop := ∀ j < k, r.candidate suffix name j ∈ used

end NamingRules

/-! ## Answers -/

namespace Sanitizer
variable (s : Sanitizer) (name suffix : String)

/-- An answer is a try, and all tries before it are in use. -/
theorem exists_candidate : ∃ k, s.resolveConflict name suffix = s.rules.candidate suffix name k ∧
    s.rules.Passes suffix name s.used k := by
  unfold resolveConflict
  dsimp only
  split
  · rename_i hescaped
    obtain ⟨k, hk, hfirst, hpassed⟩ := exists_firstFree (s.rules.escape suffix name ++ suffix) s.used 1
    refine ⟨k, hfirst.trans (s.rules.candidate_of_pos suffix name hk).symm, ?_⟩
    intro j hj
    rcases Nat.eq_zero_or_pos j with rfl | hpos
    · rwa [NamingRules.candidate_zero]
    · rw [s.rules.candidate_of_pos suffix name hpos]
      exact hpassed j hpos hj
  · refine ⟨0, (s.rules.candidate_zero suffix name).symm, ?_⟩
    intro j hj
    omega

theorem resolveConflict_eq {bound : Nat}
    (hused : ∀ k, s.rules.candidate suffix name k ∈ s.used ↔ k < bound) :
    s.resolveConflict name suffix = s.rules.candidate suffix name bound := by
  obtain ⟨k, hanswer, hpasses⟩ := s.exists_candidate name suffix
  have hfree : s.rules.candidate suffix name k ∉ s.used := by
    rw [← hanswer]
    exact s.resolveConflict_not_mem name suffix
  have habove : ¬k < bound := fun h => hfree ((hused k).mpr h)
  have hbelow : ¬bound < k := fun h => Nat.lt_irrefl bound ((hused bound).mp (hpasses bound h))
  have hend : k = bound := by omega
  rw [hanswer, hend]

end Sanitizer
end TypedVocabulary
