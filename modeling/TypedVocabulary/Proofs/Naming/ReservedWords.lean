import TypedVocabulary.Proofs.Naming.ConvertedName
import TypedVocabulary.Proofs.Naming.PossibleAnswers

/-! # Reserved words

An answer is compared with the reserved words once, before it is escaped and numbered, and only the
answer is put in small letters for it. So a scope hands out a reserved word if and only if one of the
candidates of its requests is one. None is if each word is also reserved in small letters, no escaped
name is reserved and no word ends in a digit, as it is with the keywords.
-/
namespace TypedVocabulary

/-! ## Words that end in a digit -/

theorem Text.exists_lowerFrom_digit {c : Char} (hc : c.isDigit = true) (cs before : List Char) :
    ∃ lowered, lowerFrom before (cs ++ [c]) = lowered ++ [c] := by
  induction cs generalizing before with
  | nil =>
    have hsame : c.toLower = c :=
      Char.toLower_eq_of_not_isUpper (Identifier.not_isUpper_of_isDigit hc)
    have hcode : c.toNat ≤ 57 := (Char.isDigit_iff_toNat.mp hc).2
    refine ⟨[], ?_⟩
    rw [List.nil_append, lowerFrom, if_neg (by omega), if_neg (by omega), lowerOne,
      if_pos (by omega), hsame, lowerFrom, List.append_nil]
  | cons d cs ih =>
    obtain ⟨lowered, hlowered⟩ := ih (d :: before)
    rw [List.cons_append, lowerFrom, hlowered, ← List.append_assoc]
    exact ⟨_, rfl⟩

def EndsInDigit (name : String) : Prop := name.toList.getLast?.any Char.isDigit = true

instance (name : String) : Decidable (EndsInDigit name) :=
  inferInstanceAs (Decidable (name.toList.getLast?.any Char.isDigit = true))

theorem endsInDigit_iff {name : String} :
    EndsInDigit name ↔ ∃ cs c, name.toList = cs ++ [c] ∧ c.isDigit = true := by
  unfold EndsInDigit
  rw [Option.any_eq_true]
  simp only [List.getLast?_eq_some_iff]
  grind

theorem EndsInDigit.lower {name : String} (h : EndsInDigit name) : EndsInDigit (Text.lower name) := by
  obtain ⟨cs, c, hname, hc⟩ := endsInDigit_iff.mp h
  obtain ⟨lowered, hlowered⟩ := Text.exists_lowerFrom_digit hc cs []
  refine endsInDigit_iff.mpr ⟨lowered, c, ?_, hc⟩
  rw [Text.lower, String.toList_ofList, hname, hlowered]

theorem endsInDigit_number (stem : String) (k : Nat) : EndsInDigit (stem ++ toString k) := by
  obtain ⟨cs, c, hdigits, hc⟩ := exists_lastDigit k
  refine endsInDigit_iff.mpr ⟨stem.toList ++ cs, c, ?_, hc⟩
  rw [String.toList_append, hdigits, List.append_assoc]

/-! ## Forbidden names -/

namespace NamingRules
variable {r : NamingRules} {suffix name : String}

def folded (r : NamingRules) (name : String) : String :=
  if r.caseSensitive then name else Text.lower name

/-- A reserved word, in other letter cases as well where these are not told apart. -/
def Forbids (r : NamingRules) (name : String) : Prop :=
  ∃ word ∈ r.reserved, r.folded word = r.folded name

instance (r : NamingRules) (name : String) : Decidable (r.Forbids name) :=
  List.decidableBEx (fun word => r.folded word = r.folded name) r.reserved

theorem isReserved_iff : r.isReserved name = true ↔ r.folded name ∈ r.reserved :=
  List.contains_iff_mem

/-- What the words have to be like so that no name is forbidden that is escaped with this suffix. -/
structure Guards (r : NamingRules) (suffix : String) : Prop where
  listed : ∀ word ∈ r.reserved, r.folded word ∈ r.reserved
  escaped : ∀ name, r.isReserved name = true → r.isReserved (r.escape suffix name) = false
  unnumbered : ∀ word ∈ r.reserved, ¬EndsInDigit word

theorem Guards.isReserved (hg : r.Guards suffix) (h : r.Forbids name) : r.isReserved name = true := by
  obtain ⟨word, hword, hsame⟩ := h
  exact isReserved_iff.mpr (hsame ▸ hg.listed word hword)

theorem Guards.not_forbids (hg : r.Guards suffix) (name : String) (k : Nat) :
    ¬r.Forbids (r.candidate suffix name k) := by
  intro hforbids
  have hreserved := hg.isReserved hforbids
  rcases Nat.eq_zero_or_pos k with rfl | hk
  · rw [candidate_zero] at hreserved
    cases hname : r.isReserved name with
    | true => cases (hg.escaped name hname).symm.trans hreserved
    | false =>
      have hescape : r.escape suffix name = name := if_neg (Bool.eq_false_iff.mp hname)
      rw [hescape, hname] at hreserved
      cases hreserved
  · rw [r.candidate_of_pos suffix name hk] at hreserved
    have hdigit := endsInDigit_number (r.escape suffix name ++ suffix) k
    refine hg.unnumbered _ (isReserved_iff.mp hreserved) ?_
    unfold NamingRules.folded
    split
    · exact hdigit
    · exact hdigit.lower

end NamingRules

/-- No keyword has an at sign in front or a digit at its end. -/
theorem Keyword.guards (suffix : String) : Keyword.rules.Guards suffix where
  listed := fun _ hword => hword
  escaped := by
    intro name hname
    have hmarked : Keyword.rules.escape suffix name = "@" ++ name := by
      unfold NamingRules.escape
      rw [if_pos hname]
      rfl
    have hwords : ∀ word ∈ Keyword.all, word.toList.head? ≠ some '@' := by decide
    rw [hmarked]
    refine Bool.eq_false_iff.mpr fun hreserved => hwords _ (NamingRules.isReserved_iff.mp hreserved) ?_
    change ("@" ++ name).toList.head? = some '@'
    rw [String.toList_append]
    rfl
  unnumbered := by decide

/-! ## Histories -/

namespace Sanitizer.History
variable {rules : NamingRules} {Asked : Request → Prop}

/-- No reserved word is the answer to a request, in any history in which no other requests are made. -/
def KeepsWords (rules : NamingRules) (Asked : Request → Prop) : Prop :=
  ∀ steps, Asks Asked steps → ∃ h, run rules steps = .ok h ∧ ∀ q, Asked q → ∃ name scope,
    h.scope.sanitize (.str q.name) q.style q.suffix = .ok (name, scope) ∧ ¬rules.Forbids name

theorem keepsWords_of_candidates
    (hsafe : ∀ q, Asked q → ∀ k, ¬rules.Forbids (q.candidate rules k)) : KeepsWords rules Asked := by
  intro steps hasks
  obtain ⟨h, hrun, hanswers⟩ := exists_drawn_answer hasks
  refine ⟨h, hrun, fun q hq => ?_⟩
  obtain ⟨_, scope, hs, q', hq', -, k, rfl⟩ := hanswers q hq
  exact ⟨_, scope, hs, hsafe q' hq' k⟩

theorem KeepsWords.not_forbids (hkeeps : KeepsWords rules Asked) {q : Request} (hq : Asked q) (k : Nat) :
    ¬rules.Forbids (q.candidate rules k) := by
  obtain ⟨steps, h, scope, hasks, hrun, hs⟩ := (possible_answer_iff hq).mpr ⟨q, hq, rfl, k, rfl⟩
  obtain ⟨h', hrun', hanswers⟩ := hkeeps steps hasks
  obtain rfl : h = h' := Except.ok.inj (hrun.symm.trans hrun')
  obtain ⟨name, scope', hs', hforbids⟩ := hanswers q hq
  cases hs.symm.trans hs'
  exact hforbids

/-- Where only some requests are made, no reserved word is answered if and only if no candidate of theirs
is one, and none is if the words guard against the suffixes that are asked for. -/
theorem keepsWords_iff (rules : NamingRules) (Asked : Request → Prop) :
    (KeepsWords rules Asked ↔ ∀ q, Asked q → ∀ k, ¬rules.Forbids (q.candidate rules k)) ∧
    ((∀ q, Asked q → rules.Guards q.suffix) → KeepsWords rules Asked) := by
  refine ⟨⟨fun hkeeps q hq => hkeeps.not_forbids hq, keepsWords_of_candidates⟩, fun hguards => ?_⟩
  exact keepsWords_of_candidates fun q hq k => (hguards q hq).not_forbids _ k

def typeRules : NamingRules := ⟨["Type"], false, ""⟩

def typeRequest : Request := ⟨"type", .upperCamel, "_"⟩

/-- Letter cases are not told apart here, but a word with a capital is never found: it is handed out.
The scope of the keywords keeps all of them. -/
theorem keepsWords_iff_type :
    ((Sanitizer.ofRules typeRules).sanitize (.str "type") .upperCamel "_").map Prod.fst = .ok "Type" ∧
    typeRules.Forbids "Type" ∧ ¬KeepsWords typeRules (· = typeRequest) ∧
    KeepsWords Keyword.rules fun _ => True := by
  have hcandidate : typeRequest.candidate typeRules 0 = "Type" := by decide +kernel
  have hforbids : typeRules.Forbids "Type" := by decide +kernel
  refine ⟨by decide +kernel, hforbids, fun hkeeps => ?_,
    (keepsWords_iff Keyword.rules fun _ => True).2 fun q _ => Keyword.guards q.suffix⟩
  have hsafe := (keepsWords_iff typeRules (· = typeRequest)).1.mp hkeeps typeRequest rfl 0
  rw [hcandidate] at hsafe
  exact hsafe hforbids

end Sanitizer.History
end TypedVocabulary
