import TypedVocabulary.Proofs.Classes.NumberedProperties

/-! # Plain names of properties

Both passes over the fields of a model come to plain names: that of a class name is one, and so is a
plain name with a low line and a number behind it. Fields may well be written alike here.
-/
namespace TypedVocabulary

theorem plainName_numbered {name : String} (h : PlainName name) (k : Nat) :
    PlainName (numbered name k) := by
  unfold numbered
  split
  · exact h
  · exact (h.append (by decide)).append (isPlain_number k)

theorem Sanitizer.plainName_resolveConflict {s : Sanitizer} (hrules : s.rules = Keyword.rules)
    (name : String) : PlainName (s.resolveConflict (Identifier.convert .upperCamel name) "_") := by
  obtain ⟨k, hk, -⟩ := s.exists_candidate (Identifier.convert .upperCamel name) "_"
  rw [hk, hrules, candidate_upperCamel]
  exact plainName_numbered (plainName_typeName name) k

namespace MemberNames
open Attempt Sanitizer
variable {f : Field} {state state' : Sanitizer × Table}

/-- All names that have been given are plain. -/
structure PlainNames (state : Sanitizer × Table) : Prop where
  rules : state.1.rules = Keyword.rules
  answers : ∀ key a, state.1.answer? key = some a → PlainName a
  names : ∀ (field : Json) a, name? state.2 field = some a → PlainName a

theorem PlainNames.fixOne (h : PlainNames state) (hf : fixOne state f = .ok state') :
    PlainNames state' := by
  rcases fixOne_ok hf with ⟨-, rfl⟩ | ⟨-, s, -, rfl⟩
  · exact h
  · refine ⟨(rules_use _ _).trans h.rules, fun key a ha => ?_, fun field a ha => ?_⟩
    · rw [answer?_use] at ha
      exact h.answers key a ha
    · rcases KeyedList.value?_put_or ha with hnew | ha
      · rw [hnew]
        exact plainName_typeName s
      · exact h.names field a ha

theorem PlainNames.answer (h : PlainNames state) {name : Json} {a : String} {scope : Sanitizer}
    (hscope : state.1.sanitize name .upperCamel "_" = .ok (a, scope)) :
    PlainName a ∧ scope.rules = Keyword.rules := by
  refine ⟨?_, (rules_sanitize hscope).trans h.rules⟩
  rcases sanitize_cases hscope with ⟨hold, -⟩ | ⟨-, given, -, rfl, -⟩
  · exact h.answers _ _ hold
  · exact plainName_resolveConflict h.rules given

theorem PlainNames.assignOne (h : PlainNames state) (hf : assignOne state f = .ok state') :
    PlainNames state' := by
  rcases assignOne_ok hf with ⟨-, rfl⟩ | ⟨-, a, hscope, htable⟩
  · exact h
  · obtain ⟨hplain, hrules⟩ := h.answer hscope
    refine ⟨hrules, fun key b hb => ?_, fun field b hb => ?_⟩
    · rw [answer?_sanitize hscope] at hb
      split at hb
      · cases hb
        exact hplain
      · exact h.answers key b hb
    · rw [htable] at hb
      rcases KeyedList.value?_put_or hb with rfl | hb
      · exact hplain
      · exact h.names field b hb

theorem plainNames_of_assign {m : Model} {className : String} {t : Table}
    (h : assign m className = .ok t) {field : Json} {a : String} (ha : name? t field = some a) :
    PlainName a := by
  obtain ⟨fixed, assigned, hfixed, hassigned, rfl, -⟩ := assign_passes h
  have hstart : PlainNames ((Sanitizer.ofRules Keyword.rules).use className, []) := by
    refine ⟨rules_use _ _, fun key a ha => ?_, fun field a ha => nomatch ha⟩
    rw [answer?_use] at ha
    cases ha
  have hfixed : PlainNames fixed :=
    @foldlM_invariant _ _ _ (fun _ => PlainNames) (fun h hf => h.fixOne hf) _ [] _ _ hstart hfixed
  have hassigned : PlainNames assigned :=
    @foldlM_invariant _ _ _ (fun _ => PlainNames) (fun h hf => h.assignOne hf) _ [] _ _ hfixed
      hassigned
  exact hassigned.names field a ha

end MemberNames

namespace Resolver
open MemberNames Attempt
variable {r : Resolver}

theorem plainName_of_compileField {f : Field} {hasBase : Bool} {chosen : String} {p : Property}
    (hchosen : chosen ≠ "" → PlainName chosen)
    (h : (r.compileField f hasBase chosen).outcome = .ok p) : PlainName p.name := by
  obtain ⟨type, name, converter, -, hname, -, rfl⟩ := compileField_ok_iff.mp h
  dsimp only
  split at hname
  · cases hfield : f.fieldName.asOperand with
    | error e =>
      rw [hfield] at hname
      cases hname
    | ok s =>
      rw [hfield] at hname
      rw [← Except.ok.inj hname]
      exact plainName_typeName s
  · rename_i hne
    cases hname
    exact hchosen fun h => hne (String.isEmpty_iff.mpr h)

/-- The names of a class and of its properties are identifiers without an escape. -/
theorem plainNames_of_compileClass {m : Model} {c : ClassDefinition}
    (h : (r.compileClass m).outcome = .ok c) :
    PlainName c.name ∧ ∀ p ∈ c.properties, PlainName p.name := by
  obtain ⟨base, shortName, names, -, -, hnames, hproperties, hc⟩ := compileClass_ok_iff.mp h
  constructor
  · rw [hc]
    dsimp only
    exact plainName_typeName shortName
  · intro p hp
    obtain ⟨f, -, hf⟩ := exists_left_of_forall₂ hproperties hp
    refine plainName_of_compileField (fun hne => ?_) hf
    cases hname : name? names f.fieldName with
    | none =>
      rw [hname] at hne
      exact absurd rfl hne
    | some a => exact plainNames_of_assign hnames hname

end Resolver
end TypedVocabulary
