import TypedVocabulary.Proofs.Naming.Candidates
import TypedVocabulary.Proofs.Naming.PlainName

/-! # Numbered names

A name that is in use gets a low line and a number. Plain names have a low line in front at most, so
a numbered name is no plain one and tells its stem and its number: names with different stems never
meet, and a scope in which the numbers of a stem are taken from zero on gives the next one.
-/
namespace TypedVocabulary

/-- The name of the `k`th use of a stem, counted from zero; only the first use has no number. -/
def numbered (stem : String) (k : Nat) : String := if k = 0 then stem else stem ++ "_" ++ toString k

theorem numbered_zero (stem : String) : numbered stem 0 = stem := if_pos rfl

theorem numbered_of_pos (stem : String) {k : Nat} (h : 0 < k) :
    numbered stem k = stem ++ "_" ++ toString k := if_neg (Nat.pos_iff_ne_zero.mp h)

/-! ## Stems -/

/-- No low line stands behind the first character. -/
def IsStem (s : String) : Prop := ∃ c cs, s.toList = c :: cs ∧ '_' ∉ cs

theorem isStem_typeName (name : String) : IsStem (typeName name) := by
  have halnum : ∀ c ∈ Identifier.joinWords true (Identifier.clean name.toList),
      c.isAlphanum = true := fun c hc =>
    Identifier.isAlphanum_of_mem_joinWords (fun b hb => Identifier.mem_clean hb) hc
  have hchars : (typeName name).toList =
      Identifier.guardDigit (Identifier.joinWords true (Identifier.clean name.toList)) := by
    rw [typeName_eq]
    exact String.toList_ofList
  have hne :
      Identifier.guardDigit (Identifier.joinWords true (Identifier.clean name.toList)) ≠ [] :=
    Identifier.upperCamel_ne_nil name.toList
  unfold IsStem
  rw [hchars]
  generalize Identifier.joinWords true (Identifier.clean name.toList) = word at halnum hne
  have hlow : '_' ∉ word := fun hmem => by simpa using halnum '_' hmem
  cases word with
  | nil => exact absurd rfl hne
  | cons c cs =>
    by_cases hdigit : c.isDigit = true
    · exact ⟨'_', c :: cs, by rw [Identifier.guardDigit, if_pos hdigit], hlow⟩
    · exact ⟨c, cs, by rw [Identifier.guardDigit, if_neg hdigit],
        fun hmem => hlow (List.mem_cons_of_mem c hmem)⟩

theorem isPlain_number (k : Nat) : IsPlain (toString k) := fun _ hc =>
  .inl (Identifier.isAlphanum_iff.mpr (.inr (.inr (isDigit_of_mem_toString hc))))

theorem low_not_mem_toString (k : Nat) : '_' ∉ (toString k).toList :=
  fun hmem => absurd (isDigit_of_mem_toString hmem) (by decide)

theorem toList_numbered {stem : String} {k : Nat} (h : 0 < k) :
    (numbered stem k).toList = stem.toList ++ '_' :: (toString k).toList := by
  rw [numbered_of_pos stem h, String.toList_append, String.toList_append, List.append_assoc]
  rfl

theorem numbered_ne_stem {stem other : String} {k : Nat} (hstem : IsStem stem)
    (hother : IsStem other) (h : 0 < k) : numbered stem k ≠ other := by
  obtain ⟨c, cs, hc, -⟩ := hstem
  obtain ⟨b, bs, hb, hlow⟩ := hother
  intro hsame
  have hlists := congrArg String.toList hsame
  rw [toList_numbered h, hc, hb, List.cons_append, List.cons.injEq] at hlists
  exact hlow (hlists.2 ▸ by simp)

/-- A numbered name tells its stem and its number. -/
theorem numbered_inj {stem stem' : String} {k k' : Nat} (hstem : IsStem stem)
    (hstem' : IsStem stem') : numbered stem k = numbered stem' k' ↔ stem = stem' ∧ k = k' := by
  refine ⟨fun h => ?_, fun ⟨hs, hk⟩ => by rw [hs, hk]⟩
  rcases Nat.eq_zero_or_pos k with rfl | hk
  · rcases Nat.eq_zero_or_pos k' with rfl | hk'
    · rw [numbered_zero, numbered_zero] at h
      exact ⟨h, rfl⟩
    · rw [numbered_zero] at h
      exact absurd h.symm (numbered_ne_stem hstem' hstem hk')
  · rcases Nat.eq_zero_or_pos k' with rfl | hk'
    · rw [numbered_zero] at h
      exact absurd h (numbered_ne_stem hstem hstem' hk)
    · have hlists := congrArg String.toList h
      rw [toList_numbered hk, toList_numbered hk'] at hlists
      have hstems : stem = stem' := by
        obtain ⟨c, cs, hc, hlow⟩ := hstem
        obtain ⟨c', cs', hc', -⟩ := hstem'
        rw [hc, hc', List.cons_append, List.cons_append, List.cons.injEq,
          List.append_cons_inj_of_notMem hlow (low_not_mem_toString k)] at hlists
        exact String.toList_inj.mp (by rw [hc, hc', hlists.1, hlists.2.1])
      subst hstems
      rw [numbered_of_pos stem hk, numbered_of_pos stem hk'] at h
      exact ⟨rfl, numbered_injective _ h⟩

/-! ## The next number -/

/-- No class name is escaped, so what is tried for it are its numbered names. -/
theorem candidate_upperCamel (name : String) (k : Nat) :
    Keyword.rules.candidate "_" (Identifier.convert .upperCamel name) k =
      numbered (typeName name) k := by
  have hescape : Keyword.rules.escape "_" (Identifier.convert .upperCamel name) = typeName name := by
    rw [typeName_eq]
    exact if_neg (Bool.eq_false_iff.mp (isReserved_upperCamel name))
  unfold NamingRules.candidate numbered
  rw [hescape]

theorem Sanitizer.resolveConflict_upperCamel {s : Sanitizer} (hrules : s.rules = Keyword.rules)
    {name : String} {bound : Nat}
    (hused : ∀ k, numbered (typeName name) k ∈ s.used ↔ k < bound) :
    s.resolveConflict (Identifier.convert .upperCamel name) "_" =
      numbered (typeName name) bound := by
  rw [s.resolveConflict_eq, hrules, candidate_upperCamel]
  intro k
  rw [hrules, candidate_upperCamel]
  exact hused k

end TypedVocabulary
