import Mathlib.Data.Finset.Card
import Mathlib.Logic.Function.Iterate
import Mathlib.Order.Bounds.Defs
import TypedVocabulary.Proofs.Naming.Candidates

/-! # The first free number

The search for a name goes on to the next number as long as the name that it has is in use. All of its
tries are different, so each one that is passed over is another name in use: there are no more rounds
than such names, and what the search stops at has the least number that is free.
-/
namespace TypedVocabulary

/-! ## Tries in use -/

namespace NamingRules
variable (r : NamingRules) (suffix name : String) {used : List String} {k : Nat}

theorem Passes.le_card (h : r.Passes suffix name used k) : k ≤ used.toFinset.card := by
  have hmaps : Set.MapsTo (r.candidate suffix name) (Finset.range k) used.toFinset := by
    intro j hj
    simpa using h j (by simpa using hj)
  have hcard := Finset.card_le_card_of_injOn _ hmaps (r.candidate_injective suffix name).injOn
  rwa [Finset.card_range] at hcard

/-- A free try behind the escaped name has the least number that is free. -/
theorem Passes.isLeast (h : r.Passes suffix name used k) (hpos : 1 ≤ k)
    (hfree : r.candidate suffix name k ∉ used) :
    IsLeast {k : Nat | 1 ≤ k ∧ r.escape suffix name ++ suffix ++ toString k ∉ used} k := by
  rw [r.candidate_of_pos suffix name hpos] at hfree
  refine ⟨⟨hpos, hfree⟩, ?_⟩
  rintro j ⟨hj, hjfree⟩
  by_contra hlt
  have hused := h j (by omega)
  rw [r.candidate_of_pos suffix name hj] at hused
  exact hjfree hused

end NamingRules

/-! ## Rounds -/

/-- One round of the search. A name in use gives way to the stem with the next number behind it, and
a free name stays. -/
def tryRound (used : List String) (stem : String) (s : String × Nat) : String × Nat :=
  if s.1 ∈ used then (stem ++ toString s.2, s.2 + 1) else s

section
variable {used : List String} {stem : String} {s : String × Nat}

theorem tryRound_of_used (h : s.1 ∈ used) : tryRound used stem s = (stem ++ toString s.2, s.2 + 1) :=
  if_pos h

theorem iterate_tryRound_of_free (h : s.1 ∉ used) (n : Nat) : (tryRound used stem)^[n] s = s :=
  Function.iterate_fixed (show tryRound used stem s = s from if_neg h) n

end

namespace Sanitizer
variable (s : Sanitizer) (name suffix : String)

/-- The search starts with the escaped name, and one is the first number behind it. -/
def rounds (n : Nat) : String × Nat :=
  (tryRound s.used (s.rules.escape suffix name ++ suffix))^[n] (s.rules.escape suffix name, 1)

variable {n k : Nat}

theorem rounds_of_passes (h : s.rules.Passes suffix name s.used n) :
    s.rounds name suffix n = (s.rules.candidate suffix name n, n + 1) := by
  induction n with
  | zero => rw [NamingRules.candidate_zero]; rfl
  | succ n ih =>
    have hbefore : s.rules.Passes suffix name s.used n := by
      intro j hj
      exact h j (by omega)
    have hround : s.rounds name suffix (n + 1) =
        tryRound s.used (s.rules.escape suffix name ++ suffix) (s.rounds name suffix n) :=
      Function.iterate_succ_apply' _ _ _
    rw [hround, ih hbefore, tryRound_of_used (h n (by omega)),
      s.rules.candidate_of_pos suffix name (Nat.succ_pos n)]

theorem rounds_of_free (h : s.rules.Passes suffix name s.used k)
    (hfree : s.rules.candidate suffix name k ∉ s.used) (hn : k ≤ n) :
    s.rounds name suffix n = (s.rules.candidate suffix name k, k + 1) := by
  obtain ⟨more, rfl⟩ := Nat.exists_eq_add_of_le' hn
  have hsplit : s.rounds name suffix (more + k) =
      (tryRound s.used (s.rules.escape suffix name ++ suffix))^[more] (s.rounds name suffix k) :=
    Function.iterate_add_apply _ _ _ _
  rw [hsplit, s.rounds_of_passes name suffix h]
  exact iterate_tryRound_of_free hfree more

theorem rounds_free_iff (h : s.rules.Passes suffix name s.used k)
    (hfree : s.rules.candidate suffix name k ∉ s.used) :
    (s.rounds name suffix n).1 ∉ s.used ↔ k ≤ n := by
  constructor
  · intro hstopped
    by_contra hlt
    have hbefore : s.rules.Passes suffix name s.used n := by
      intro j hj
      exact h j (by omega)
    rw [s.rounds_of_passes name suffix hbefore] at hstopped
    exact hstopped (h n (by omega))
  · intro hn
    rwa [s.rounds_of_free name suffix h hfree hn]

/-! ## The answer -/

/-- A conflict is resolved in no more rounds than there are names in use: the search has stopped at the
answer after some round, and at no round before it. The answer is the escaped name if that is free, and
else the escaped name with the suffix and the least number for which it is free. -/
theorem conflict_resolved_by_least_number :
    (∃ last ≤ s.used.toFinset.card,
      (∀ n, (s.rounds name suffix n).1 ∉ s.used ↔ last ≤ n) ∧
      ∀ n, last ≤ n → (s.rounds name suffix n).1 = s.resolveConflict name suffix) ∧
    (s.rules.escape suffix name ∉ s.used →
      s.resolveConflict name suffix = s.rules.escape suffix name) ∧
    (s.rules.escape suffix name ∈ s.used → ∃ k ≤ s.used.toFinset.card,
      IsLeast {k : Nat | 1 ≤ k ∧ s.rules.escape suffix name ++ suffix ++ toString k ∉ s.used} k ∧
      s.resolveConflict name suffix = s.rules.escape suffix name ++ suffix ++ toString k) := by
  obtain ⟨k, hanswer, hpasses⟩ := s.exists_candidate name suffix
  have hfree : s.rules.candidate suffix name k ∉ s.used := by
    rw [← hanswer]
    exact s.resolveConflict_not_mem name suffix
  have hcard : k ≤ s.used.toFinset.card := hpasses.le_card
  refine ⟨⟨k, hcard, ?_, ?_⟩, ?_, ?_⟩
  · intro n
    exact s.rounds_free_iff name suffix hpasses hfree
  · intro n hn
    rw [s.rounds_of_free name suffix hpasses hfree hn, hanswer]
  · intro hescaped
    exact if_neg hescaped
  · intro hescaped
    have hpos : 1 ≤ k := by
      rcases Nat.eq_zero_or_pos k with rfl | hpos
      · rw [NamingRules.candidate_zero] at hfree
        exact absurd hescaped hfree
      · exact hpos
    refine ⟨k, hcard, hpasses.isLeast s.rules suffix name hpos hfree, ?_⟩
    rw [hanswer, s.rules.candidate_of_pos suffix name hpos]

end Sanitizer
end TypedVocabulary
