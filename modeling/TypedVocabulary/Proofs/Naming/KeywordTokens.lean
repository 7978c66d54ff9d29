import TypedVocabulary.Proofs.Naming.NumberedName
import TypedVocabulary.Proofs.Naming.ReservedWords

/-! # Tokens of the generated language

A keyword is escaped before it is numbered, and what is put behind a name is the suffix and a number. So
as long as the suffixes are made of letters, digits and low lines, the scope of the keywords hands out
identifiers of the generated language, whatever names have been taken from outside.
-/
namespace TypedVocabulary

/-- A plain name that is no keyword, or any plain name with an at sign in front. -/
structure IsToken (name : String) : Prop where
  marked : ∃ mark plain, (mark = "" ∨ mark = "@") ∧ PlainName plain ∧ name = mark ++ plain
  noKeyword : name ∉ Keyword.all

namespace Keyword
variable {suffix name : String}

theorem exists_mark (suffix name : String) :
    ∃ mark, (mark = "" ∨ mark = "@") ∧ rules.escape suffix name = mark ++ name := by
  unfold NamingRules.escape
  split
  · exact ⟨"@", .inr rfl, rfl⟩
  · exact ⟨"", .inl rfl, rfl⟩

theorem isToken_candidate (hsuffix : IsPlain suffix) (hname : PlainName name) (k : Nat) :
    IsToken (rules.candidate suffix name k) where
  marked := by
    obtain ⟨mark, hmark, hescape⟩ := exists_mark suffix name
    rcases Nat.eq_zero_or_pos k with rfl | hk
    · exact ⟨mark, name, hmark, hname, by rw [rules.candidate_zero, hescape]⟩
    · refine ⟨mark, name ++ suffix ++ toString k, hmark,
        (hname.append hsuffix).append (isPlain_number k), ?_⟩
      rw [rules.candidate_of_pos suffix name hk, hescape]
      simp only [String.append_assoc]
  noKeyword := fun hkeyword => (guards suffix).not_forbids name k ⟨_, hkeyword, rfl⟩

end Keyword

namespace Sanitizer.History

/-- After any requests with plain suffixes, any names taken from outside and any resets, each further
request with a plain suffix is answered with a token. -/
theorem keyword_answers_are_tokens (steps : List Step) (hasks : Asks (IsPlain ·.suffix) steps) :
    ∃ h, run Keyword.rules steps = .ok h ∧ ∀ q : Request, IsPlain q.suffix → ∃ name scope,
      h.scope.sanitize (.str q.name) q.style q.suffix = .ok (name, scope) ∧ IsToken name := by
  obtain ⟨h, hrun, hanswers⟩ := exists_drawn_answer hasks
  refine ⟨h, hrun, fun q hq => ?_⟩
  obtain ⟨_, scope, hs, q', hq', -, k, rfl⟩ := hanswers q hq
  exact ⟨_, scope, hs, Keyword.isToken_candidate hq' (Identifier.plainName_convert q'.style q'.name) k⟩

/-- The keyword is escaped, and its escaped form is numbered as it has been taken from outside. -/
theorem keyword_answers_are_tokens_class :
    Asks (IsPlain ·.suffix) [.sanitize ⟨"type", .upperCamel, ""⟩, .add "@class"] ∧
    ∃ h scope, run Keyword.rules [.sanitize ⟨"type", .upperCamel, ""⟩, .add "@class"] = .ok h ∧
      h.scope.sanitize (.str "class") .camel "_" = .ok ("@class_1", scope) ∧ IsToken "@class_1" := by
  have hasks : Asks (IsPlain ·.suffix) [.sanitize ⟨"type", .upperCamel, ""⟩, .add "@class"] := by
    intro q hq
    obtain rfl : q = ⟨"type", .upperCamel, ""⟩ := by simpa using hq
    decide
  obtain ⟨h, hrun, hanswers⟩ := keyword_answers_are_tokens _ hasks
  obtain ⟨name, scope, hs, htoken⟩ := hanswers ⟨"class", .camel, "_"⟩ (by decide)
  have hname : ((run Keyword.rules [.sanitize ⟨"type", .upperCamel, ""⟩, .add "@class"]).bind
      fun h => (h.scope.sanitize (.str "class") .camel "_").map Prod.fst) = .ok "@class_1" := by
    decide +kernel
  rw [hrun] at hname
  change (h.scope.sanitize (.str "class") .camel "_").map Prod.fst = .ok "@class_1" at hname
  rw [hs] at hname
  obtain rfl : name = "@class_1" := Except.ok.inj hname
  exact ⟨hasks, h, scope, hrun, hs, htoken⟩

end Sanitizer.History
end TypedVocabulary
