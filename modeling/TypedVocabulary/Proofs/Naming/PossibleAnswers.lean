import TypedVocabulary.Proofs.Naming.Candidates
import TypedVocabulary.Proofs.Naming.History

/-! # Possible answers

Where only some requests are made, the answer to one of them is a candidate of a request that is made
and has its key: its own, or one that was given before and is remembered. All of these are possible,
since the names of the candidates before can be taken from outside.
-/
namespace TypedVocabulary.Sanitizer

namespace Request
variable (q : Request) (rules : NamingRules)

/-- What is tried for a request after `k` names in use. -/
def candidate (k : Nat) : String := rules.candidate q.suffix (Identifier.convert q.style q.name) k

/-- A request is answered by its candidate `k` where just those before are in use. -/
theorem sanitize_eq_candidate {s : Sanitizer} (hrules : s.rules = rules) {k : Nat} {answer : String}
    {scope : Sanitizer} (hnew : s.answer? q.key = none)
    (hused : ∀ taken, taken ∈ s.used ↔ ∃ j < k, taken = q.candidate rules j)
    (hs : s.sanitize (.str q.name) q.style q.suffix = .ok (answer, scope)) :
    answer = q.candidate rules k := by
  rcases sanitize_cases hs with ⟨hold, -⟩ | ⟨-, given, hgiven, rfl, -⟩
  · cases hnew.symm.trans hold
  · obtain rfl := Json.str.inj hgiven
    subst hrules
    refine s.resolveConflict_eq _ _ fun j => ?_
    rw [hused]
    constructor
    · rintro ⟨i, hi, hsame⟩
      rwa [s.rules.candidate_injective _ _ hsame]
    · intro hj
      exact ⟨j, hj, rfl⟩

end Request

namespace History
variable {rules : NamingRules} {Asked : Request → Prop} {h h' : History} {s scope : Sanitizer}
variable {q q' : Request} {name : String}

/-- No other requests are made. -/
def Asks (Asked : Request → Prop) (steps : List Step) : Prop := ∀ q, Step.sanitize q ∈ steps → Asked q

/-- A candidate of a request that is made and has this key. -/
def Draws (rules : NamingRules) (Asked : Request → Prop) (key name : String) : Prop :=
  ∃ q, Asked q ∧ q.key = key ∧ ∃ k, name = q.candidate rules k

/-- All that a scope remembers are candidates. -/
structure Drawn (rules : NamingRules) (Asked : Request → Prop) (s : Sanitizer) : Prop where
  sameRules : s.rules = rules
  answers : ∀ key name, s.answer? key = some name → Draws rules Asked key name

/-! ## Answers are candidates -/

theorem drawn_ofRules : Drawn rules Asked (.ofRules rules) where
  sameRules := rfl
  answers := fun _ _ hanswer => nomatch hanswer

theorem Drawn.answer (hd : Drawn rules Asked s) (hq : Asked q)
    (hs : s.sanitize (.str q.name) q.style q.suffix = .ok (name, scope)) :
    Draws rules Asked q.key name := by
  rcases sanitize_cases hs with ⟨hold, -⟩ | ⟨-, given, hgiven, rfl, -⟩
  · exact hd.answers _ _ hold
  · obtain rfl := Json.str.inj hgiven
    obtain ⟨k, hk, -⟩ := s.exists_candidate (Identifier.convert q.style q.name) q.suffix
    rw [hd.sameRules] at hk
    exact ⟨q, hq, rfl, k, hk⟩

theorem Drawn.sanitize (hd : Drawn rules Asked s) (hq : Asked q)
    (hs : s.sanitize (.str q.name) q.style q.suffix = .ok (name, scope)) :
    Drawn rules Asked scope where
  sameRules := (rules_sanitize hs).trans hd.sameRules
  answers := by
    intro key answer hanswer
    rw [answer?_sanitize hs] at hanswer
    split at hanswer
    · rename_i hkey
      cases hanswer
      subst hkey
      exact hd.answer hq hs
    · exact hd.answers key answer hanswer

theorem Drawn.step {x : Step} (hd : Drawn rules Asked h.scope) (hx : ∀ q, x = .sanitize q → Asked q)
    (hstep : h.step x = .ok h') : Drawn rules Asked h'.scope := by
  cases x with
  | sanitize q =>
    obtain ⟨⟨name, scope⟩, hs, hnext⟩ := Attempt.bind_ok_iff.mp hstep
    obtain rfl := Attempt.pure_ok_iff.mp hnext
    exact hd.sanitize (hx q rfl) hs
  | add name =>
    obtain rfl := Attempt.pure_ok_iff.mp hstep
    refine ⟨(rules_use _ _).trans hd.sameRules, fun key answer hanswer => ?_⟩
    rw [answer?_use] at hanswer
    exact hd.answers key answer hanswer
  | reset =>
    obtain rfl := Attempt.pure_ok_iff.mp hstep
    exact ⟨hd.sameRules, fun _ _ hanswer => nomatch hanswer⟩

theorem drawn_run {steps : List Step} (hasks : Asks Asked steps) (hrun : run rules steps = .ok h) :
    Drawn rules Asked h.scope := by
  have hinvariant := @Attempt.foldlM_invariant _ _ step
    (fun done h => Asks Asked done → Drawn rules Asked h.scope)
    (fun {done x b b'} hd hstep hmade => (hd fun q hq => hmade q (List.mem_append_left _ hq)).step
      (fun q hx => hmade q (by simp [hx])) hstep)
    steps [] (ofRules rules) h (fun _ => drawn_ofRules) hrun
  exact hinvariant hasks

theorem exists_drawn_answer {steps : List Step} (hasks : Asks Asked steps) :
    ∃ h, run rules steps = .ok h ∧ ∀ q, Asked q → ∃ name scope,
      h.scope.sanitize (.str q.name) q.style q.suffix = .ok (name, scope) ∧
        Draws rules Asked q.key name := by
  obtain ⟨h, hrun, -⟩ := (kept_reset rules).foldlM steps
  refine ⟨h, hrun, fun q hq => ?_⟩
  obtain ⟨name, scope, hs⟩ := exists_sanitize h.scope q
  exact ⟨name, scope, hs, (drawn_run hasks hrun).answer hq hs⟩

/-! ## Candidates are answers -/

theorem foldlM_add (names : List String) (h : History) :
    ∃ h', (names.map Step.add).foldlM step h = .ok h' ∧ h'.scope.rules = h.scope.rules ∧
      h'.scope.answers = h.scope.answers ∧
      ∀ taken, taken ∈ h'.scope.used ↔ taken ∈ names ∨ taken ∈ h.scope.used := by
  induction names generalizing h with
  | nil => exact ⟨h, rfl, rfl, rfl, by simp⟩
  | cons name names ih =>
    obtain ⟨h', hrun, hrules, hanswers, hused⟩ :=
      ih ⟨h.scope.use name, h.answered, name :: h.added⟩
    refine ⟨h', hrun, hrules.trans (rules_use _ _), hanswers.trans (answers_use _ _), fun taken => ?_⟩
    rw [hused, mem_use, List.mem_cons, ← or_assoc, @or_comm (taken ∈ names)]

/-- The candidates before one are taken from outside. -/
def takeBefore (rules : NamingRules) (q : Request) (k : Nat) : List Step :=
  ((List.range k).map (q.candidate rules)).map .add

theorem exists_takeBefore (rules : NamingRules) (q : Request) (k : Nat) :
    ∃ h scope, run rules (takeBefore rules q k) = .ok h ∧
      h.scope.sanitize (.str q.name) q.style q.suffix = .ok (q.candidate rules k, scope) := by
  obtain ⟨h, hrun, hrules, hanswers, hused⟩ :=
    foldlM_add ((List.range k).map (q.candidate rules)) (ofRules rules)
  obtain ⟨name, scope, hs⟩ := exists_sanitize h.scope q
  have hnew : h.scope.answer? q.key = none := by
    unfold answer?
    rw [hanswers]
    rfl
  have htaken (taken : String) : taken ∈ h.scope.used ↔ ∃ j < k, taken = q.candidate rules j := by
    rw [hused]
    simp [ofRules, Sanitizer.ofRules, eq_comm]
  obtain rfl := q.sanitize_eq_candidate rules hrules hnew htaken hs
  exact ⟨h, scope, hrun, hs⟩

/-- An answer is possible if and only if it is drawn: the request that it is drawn from is made first,
and another one with its key is then answered alike. -/
theorem possible_answer_iff (hq : Asked q) :
    (∃ steps h scope, Asks Asked steps ∧ run rules steps = .ok h ∧
      h.scope.sanitize (.str q.name) q.style q.suffix = .ok (name, scope)) ↔
    Draws rules Asked q.key name := by
  constructor
  · rintro ⟨steps, h, scope, hasks, hrun, hs⟩
    exact (drawn_run hasks hrun).answer hq hs
  · rintro ⟨q', hq', hkey, k, rfl⟩
    obtain ⟨h, scope, hrun, hs⟩ := exists_takeBefore rules q' k
    obtain ⟨name, scope', hs'⟩ := exists_sanitize scope q
    have hremembered : scope.answer? q.key = some (q'.candidate rules k) := by
      rw [answer?_sanitize hs]
      exact if_pos hkey
    have hname : name = q'.candidate rules k := by
      rcases sanitize_cases hs' with ⟨hold, -⟩ | ⟨hnone, -⟩
      · exact Option.some.inj (hold.symm.trans hremembered)
      · cases hnone.symm.trans hremembered
    subst hname
    have hasks : Asks Asked (takeBefore rules q' k ++ [.sanitize q']) := by
      intro asked hmem
      rw [List.mem_append, List.mem_singleton] at hmem
      rcases hmem with hadd | hlast
      · simp [takeBefore] at hadd
      · cases hlast
        exact hq'
    have hboth : run rules (takeBefore rules q' k ++ [.sanitize q']) =
        .ok ⟨scope, (q', q'.candidate rules k) :: h.answered, h.added⟩ := by
      unfold run at hrun ⊢
      rw [List.foldlM_append]
      exact Attempt.bind_ok_iff.mpr ⟨h, hrun, Attempt.bind_ok_iff.mpr
        ⟨_, Attempt.bind_ok_iff.mpr ⟨_, hs, rfl⟩, rfl⟩⟩
    exact ⟨_, _, scope', hasks, hboth, hs'⟩

end History
end TypedVocabulary.Sanitizer
