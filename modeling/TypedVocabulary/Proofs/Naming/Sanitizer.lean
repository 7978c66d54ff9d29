import TypedVocabulary.Naming.Sanitizer
import TypedVocabulary.Proofs.KeyedList
import TypedVocabulary.Proofs.Outcomes

/-! # Fresh identifiers

A sanitizer answers a new request with a name that is not in use, and takes it. So what it answers
is never empty, it never answers two requests alike, and it avoids the names that were reserved
before the first request. An answer once given stays.
-/
namespace TypedVocabulary

/-! ## Numbered names -/

theorem numbered_injective (stem : String) :
    Function.Injective fun number : Nat => stem ++ toString number := by
  intro a b h
  have hdigits : toString a = toString b := (String.append_right_inj stem).mp h
  have hnumber := congrArg (fun s : String => Nat.ofDigitChars 10 s.toList 0) hdigits
  simpa [Nat.toString_eq_ofList_toDigits] using hnumber

/-- The search goes up from where it starts, and passes over names in use only. -/
theorem exists_firstFree (stem : String) (used : List String) (number : Nat) :
    ∃ k, number ≤ k ∧ firstFree stem used number = stem ++ toString k ∧
      ∀ j, number ≤ j → j < k → stem ++ toString j ∈ used := by
  fun_induction firstFree stem used number with
  | case1 used number candidate hused ih =>
    obtain ⟨k, hk, hfirst, hpassed⟩ := ih
    refine ⟨k, by omega, hfirst, ?_⟩
    intro j hj hjk
    rcases Nat.eq_or_lt_of_le hj with rfl | hlt
    · exact hused
    · exact List.mem_of_mem_erase (hpassed j hlt hjk)
  | case2 used number candidate hfree =>
    refine ⟨number, Nat.le_refl number, rfl, ?_⟩
    intro j hj hjk
    omega

theorem firstFree_not_mem (stem : String) (used : List String) (number : Nat) :
    firstFree stem used number ∉ used := by
  fun_induction firstFree stem used number with
  | case1 used number candidate hused ih =>
    -- Only the candidate is struck from the list, and the search never comes back to it.
    obtain ⟨k, hk, hfirst, -⟩ := exists_firstFree stem (used.erase candidate) (number + 1)
    have hother : firstFree stem (used.erase candidate) (number + 1) ≠ candidate := by
      intro hsame
      have hnumber : k = number := numbered_injective stem (hfirst.symm.trans hsame)
      omega
    intro hmem
    exact ih ((List.mem_erase_of_ne hother).mpr hmem)
  | case2 used number candidate hfree => exact hfree

/-! ## Converted names -/

namespace Identifier

theorem clean_cons (cs : List Char) : ∃ c rest, clean cs = c :: rest ∧ isSeparator c = false := by
  unfold clean
  cases htrim : Text.trim isSeparator (cs.map keep) with
  | nil => exact ⟨'f', ['i', 'e', 'l', 'd'], rfl, rfl⟩
  | cons c rest =>
    refine ⟨c, rest, rfl, ?_⟩
    -- What is trimmed begins with what is left after the separators in front.
    have hprefix : (c :: rest) <+: (cs.map keep).dropWhile isSeparator := by
      rw [← htrim]
      unfold Text.trim Text.trimRight Text.trimLeft
      rw [← List.reverse_suffix, List.reverse_reverse]
      exact List.dropWhile_suffix _
    obtain ⟨more, hmore⟩ := hprefix
    have hhead := List.head?_dropWhile_not isSeparator (cs.map keep)
    rw [← hmore, List.cons_append, List.head?_cons] at hhead
    simpa using hhead

theorem guardDigit_ne_nil {cs : List Char} (h : cs ≠ []) : guardDigit cs ≠ [] := by
  cases cs with
  | nil => exact absurd rfl h
  | cons c rest =>
    by_cases hc : c.isDigit = true
    · simp [guardDigit, hc]
    · simp [guardDigit, hc]

theorem upperCamel_ne_nil (cs : List Char) : upperCamel cs ≠ [] := by
  obtain ⟨c, rest, hclean, hc⟩ := clean_cons cs
  unfold upperCamel
  rw [hclean, joinWords, if_neg (by simp [hc])]
  exact guardDigit_ne_nil (List.cons_ne_nil _ _)

theorem convert_ne_empty (style : NamingCase) (name : String) : convert style name ≠ "" := by
  have hchars : convertChars style name.toList ≠ [] := by
    cases style with
    | upperCamel => exact upperCamel_ne_nil _
    | camel =>
      unfold convertChars
      cases h : upperCamel name.toList with
      | nil => exact absurd h (upperCamel_ne_nil _)
      | cons c rest => exact List.cons_ne_nil _ _
  intro h
  exact hchars (by simpa [convert] using congrArg String.toList h)

end Identifier

theorem typeName_ne_empty (name : String) : typeName name ≠ "" := by
  have hconverted := Identifier.convert_ne_empty .upperCamel name
  unfold typeName
  dsimp only
  split
  · simp [hconverted]
  · exact hconverted

theorem NamingRules.escape_ne_empty (r : NamingRules) (suffix : String) {name : String}
    (h : name ≠ "") : r.escape suffix name ≠ "" := by
  unfold escape
  split
  · split <;> simp [h]
  · exact h

/-! ## Requests -/

namespace Sanitizer
variable {s scope : Sanitizer} {name : Json} {style : NamingCase} {suffix answer : String}

theorem requestKey_injective (style : NamingCase) (suffix : String) :
    Function.Injective (requestKey · style suffix) := by
  intro name name' h
  unfold requestKey at h
  simpa only [String.append_left_inj] using h

theorem resolveConflict_not_mem (s : Sanitizer) (name suffix : String) :
    s.resolveConflict name suffix ∉ s.used := by
  unfold resolveConflict
  dsimp only
  split
  · exact firstFree_not_mem _ _ _
  · assumption

theorem resolveConflict_ne_empty (s : Sanitizer) {name : String} (h : name ≠ "")
    (suffix : String) : s.resolveConflict name suffix ≠ "" := by
  have hescaped := s.rules.escape_ne_empty suffix h
  unfold resolveConflict
  dsimp only
  split
  · obtain ⟨k, -, hfirst, -⟩ := exists_firstFree (s.rules.escape suffix name ++ suffix) s.used 1
    rw [hfirst]
    simp [hescaped]
  · exact hescaped

theorem mem_use {name taken : String} : taken ∈ (s.use name).used ↔ taken = name ∨ taken ∈ s.used := by
  unfold use
  split
  · rename_i hname
    constructor
    · exact .inr
    · rintro (rfl | h)
      · exact hname
      · exact h
  · exact List.mem_cons

theorem answers_use (s : Sanitizer) (name : String) : (s.use name).answers = s.answers := by
  unfold use
  split <;> rfl

theorem answer?_use (s : Sanitizer) (name key : String) :
    (s.use name).answer? key = s.answer? key := by
  unfold answer?
  rw [answers_use]

theorem rules_use (s : Sanitizer) (name : String) : (s.use name).rules = s.rules := by
  unfold use
  split <;> rfl

/-- A request has its old answer, or the name that is left for it, which is taken from then on. -/
theorem sanitize_cases (h : s.sanitize name style suffix = .ok (answer, scope)) :
    (s.answer? (requestKey name.display style suffix) = some answer ∧ scope = s) ∨
    (s.answer? (requestKey name.display style suffix) = none ∧ ∃ given, name = .str given ∧
      answer = s.resolveConflict (Identifier.convert style given) suffix ∧
      scope = ⟨s.rules, (s.use answer).used,
        (requestKey name.display style suffix, answer) :: s.answers⟩) := by
  unfold sanitize at h
  dsimp only at h
  cases hold : s.answer? (requestKey name.display style suffix) with
  | some old =>
    rw [hold] at h
    cases h
    exact .inl ⟨rfl, rfl⟩
  | none =>
    rw [hold] at h
    obtain ⟨given, hgiven, h⟩ := Attempt.bind_ok_iff.mp h
    rw [Attempt.pure_ok_iff, Prod.mk.injEq, rules_use, answers_use] at h
    obtain ⟨rfl, rfl⟩ := h
    exact .inr ⟨rfl, given, Json.asOperand_ok_iff.mp hgiven, rfl, rfl⟩

theorem rules_sanitize (h : s.sanitize name style suffix = .ok (answer, scope)) :
    scope.rules = s.rules := by
  rcases sanitize_cases h with ⟨-, rfl⟩ | ⟨-, _, -, -, rfl⟩
  · rfl
  · rfl

theorem sanitize_ok (h : s.sanitize name style suffix = .ok (answer, scope)) :
    (s.answer? (requestKey name.display style suffix) = some answer ∧ scope = s) ∨
    (s.answer? (requestKey name.display style suffix) = none ∧ (∃ text, name = .str text) ∧
      answer ∉ s.used ∧ answer ≠ "" ∧ (∀ taken, taken ∈ scope.used ↔ taken = answer ∨ taken ∈ s.used) ∧
      scope.answers = (requestKey name.display style suffix, answer) :: s.answers) := by
  refine (sanitize_cases h).imp_right ?_
  rintro ⟨hnone, given, hname, rfl, rfl⟩
  exact ⟨hnone, ⟨given, hname⟩, resolveConflict_not_mem _ _ _,
    resolveConflict_ne_empty s (Identifier.convert_ne_empty style given) suffix,
    fun taken => mem_use, rfl⟩

theorem answer?_sanitize (h : s.sanitize name style suffix = .ok (answer, scope)) (key : String) :
    scope.answer? key =
      if requestKey name.display style suffix = key then some answer else s.answer? key := by
  rcases sanitize_ok h with ⟨hold, rfl⟩ | ⟨-, -, -, -, -, hanswers⟩
  · split
    · rename_i hkey
      rw [← hkey, hold]
    · rfl
  · unfold answer?
    rw [hanswers]
    exact KeyedList.value?_cons _

theorem answer?_sanitize_of_some (h : s.sanitize name style suffix = .ok (answer, scope))
    {key old : String} (hold : s.answer? key = some old) : scope.answer? key = some old := by
  rcases sanitize_ok h with ⟨-, rfl⟩ | ⟨hnone, -⟩
  · exact hold
  · have hne : requestKey name.display style suffix ≠ key := by
      rintro rfl
      cases hnone.symm.trans hold
    rw [answer?_sanitize h, if_neg hne, hold]

/-! ## Runs of requests -/

/-- What holds of a scope in which some names are reserved, after any requests. -/
structure Sound (reserved : List String) (s : Sanitizer) : Prop where
  kept : ∀ name ∈ reserved, name ∈ s.used
  taken : ∀ key answer, s.answer? key = some answer → answer ∈ s.used
  fresh : ∀ key answer, s.answer? key = some answer → answer ∉ reserved
  nonempty : ∀ key answer, s.answer? key = some answer → answer ≠ ""
  injective : ∀ key key' answer, s.answer? key = some answer → s.answer? key' = some answer →
    key = key'

theorem sound_of_noAnswers (h : s.answers = []) : s.Sound s.used := by
  have hnone (key answer : String) : s.answer? key ≠ some answer := by
    unfold answer?
    rw [h]
    exact fun hsome => nomatch hsome
  exact ⟨fun _ hname => hname, fun key a ha => absurd ha (hnone key a),
    fun key a ha => absurd ha (hnone key a), fun key a ha => absurd ha (hnone key a),
    fun key _ a ha => absurd ha (hnone key a)⟩

/-- A name that is taken later need not be new to the scope, so it is not reserved. -/
theorem Sound.use {reserved : List String} (hs : s.Sound reserved) (name : String) :
    (s.use name).Sound reserved := by
  constructor
  · intro taken htaken
    exact mem_use.mpr (.inr (hs.kept taken htaken))
  · intro key answer h
    rw [answer?_use] at h
    exact mem_use.mpr (.inr (hs.taken key answer h))
  · intro key answer h
    rw [answer?_use] at h
    exact hs.fresh key answer h
  · intro key answer h
    rw [answer?_use] at h
    exact hs.nonempty key answer h
  · intro key key' answer h h'
    rw [answer?_use] at h h'
    exact hs.injective key key' answer h h'

theorem Sound.sanitize {reserved : List String} (hs : s.Sound reserved)
    (h : s.sanitize name style suffix = .ok (answer, scope)) : scope.Sound reserved := by
  rcases sanitize_ok h with ⟨-, rfl⟩ | ⟨-, -, hnew, hne, hused, -⟩
  · exact hs
  · have hcases (key a : String) (ha : scope.answer? key = some a) :
        (requestKey name.display style suffix = key ∧ a = answer) ∨ s.answer? key = some a := by
      rw [answer?_sanitize h] at ha
      split at ha
      · rename_i hkey
        exact .inl ⟨hkey, (Option.some.inj ha).symm⟩
      · exact .inr ha
    constructor
    · intro taken htaken
      exact (hused taken).mpr (.inr (hs.kept taken htaken))
    · intro key a ha
      rcases hcases key a ha with ⟨-, rfl⟩ | ha
      · exact (hused a).mpr (.inl rfl)
      · exact (hused a).mpr (.inr (hs.taken key a ha))
    · intro key a ha
      rcases hcases key a ha with ⟨-, rfl⟩ | ha
      · exact fun hreserved => hnew (hs.kept a hreserved)
      · exact hs.fresh key a ha
    · intro key a ha
      rcases hcases key a ha with ⟨-, rfl⟩ | ha
      · exact hne
      · exact hs.nonempty key a ha
    · intro key key' a ha ha'
      rcases hcases key a ha with ⟨hkey, rfl⟩ | ha <;>
        rcases hcases key' _ ha' with ⟨hkey', hsame⟩ | ha'
      · rw [← hkey, ← hkey']
      · exact absurd (hs.taken key' _ ha') hnew
      · exact absurd (hsame ▸ hs.taken key a ha) hnew
      · exact hs.injective key key' a ha ha'

end Sanitizer
end TypedVocabulary
