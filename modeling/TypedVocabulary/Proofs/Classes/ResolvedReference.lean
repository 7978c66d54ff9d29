import TypedVocabulary.Classes.Resolution
import TypedVocabulary.Proofs.Outcomes

/-! # Resolved references

What a reference resolves to is a matter of its short name and its compact key alone. The relation
below has one rule for each of the tables that may know them, in the order in which they are asked,
and one for a reference of an extension that none of them knows.
-/
namespace TypedVocabulary.Resolver

/-- Whether a scalar, an enumeration, a model or the foundation vocabulary has the type. -/
def knows (r : Resolver) (name key : String) : Bool :=
  (ScalarKind.ofShortName? name).isSome || (r.tables.enum? key).isSome ||
    r.tables.hasModel name || decide (r.tables.vocabulary.isFoundation (.str key) = .ok true)

inductive Resolves (r : Resolver) (name key : String) (isExtension : Bool) : TypeExpr → Prop
  | scalar {kind : ScalarKind} (hs : ScalarKind.ofShortName? name = some kind) :
      Resolves r name key isExtension kind.typeExpr
  | foundationEnum {entry : EnumEntry} (hs : ScalarKind.ofShortName? name = none)
      (he : r.tables.enum? key = some entry) (hx : entry.isExternal = true) :
      Resolves r name key isExtension (r.foundationType name true .enumeration)
  | localEnum {entry : EnumEntry} (hs : ScalarKind.ofShortName? name = none)
      (he : r.tables.enum? key = some entry) (hx : entry.isExternal = false) :
      Resolves r name key isExtension (.plain (typeName name) true .enumeration)
  | model (hs : ScalarKind.ofShortName? name = none) (he : r.tables.enum? key = none)
      (hm : r.tables.hasModel name = true) :
      Resolves r name key isExtension (.plain (typeName name) false .model)
  | foundation (hs : ScalarKind.ofShortName? name = none) (he : r.tables.enum? key = none)
      (hm : r.tables.hasModel name = false)
      (hf : r.tables.vocabulary.isFoundation (.str key) = .ok true) :
      Resolves r name key isExtension (r.foundationType name true .foundation)
  | unverified (hs : ScalarKind.ofShortName? name = none) (he : r.tables.enum? key = none)
      (hm : r.tables.hasModel name = false)
      (hf : r.tables.vocabulary.isFoundation (.str key) = .ok false)
      (hx : isExtension = true) :
      Resolves r name key isExtension
        ((r.foundationType name false .foundation).withNotice (r.unverifiedNotice name key))

variable {r : Resolver} {ref : TypeReference} {isExtension : Bool}

section
variable {key : String} {t : TypeExpr} (hkey : r.tables.vocabulary.compact ref.uri = .ok key)
include hkey

/-- The tables are asked in the order of the rules: one that knows the reference decides. -/
theorem resolves_of_resolveBase (h : r.resolveBase ref isExtension = .ok t) :
    r.Resolves ref.shortName key isExtension t := by
  unfold resolveBase at h
  rw [hkey, Attempt.ok_bind] at h
  cases hs : ScalarKind.ofShortName? ref.shortName with
  | some kind =>
    simp only [hs, Attempt.pure_ok_iff] at h
    subst h
    exact .scalar hs
  | none =>
    simp only [hs] at h
    cases he : r.tables.enum? key with
    | some entry =>
      simp only [he] at h
      cases hx : entry.isExternal with
      | true =>
        simp only [hx, if_true, Attempt.pure_ok_iff] at h
        subst h
        exact .foundationEnum hs he hx
      | false =>
        simp only [hx, Bool.false_eq_true, if_false, Attempt.pure_ok_iff] at h
        subst h
        exact .localEnum hs he hx
    | none =>
      simp only [he] at h
      cases hm : r.tables.hasModel ref.shortName with
      | true =>
        simp only [hm, if_true, Attempt.pure_ok_iff] at h
        subst h
        exact .model hs he hm
      | false =>
        simp only [hm, Bool.false_eq_true, if_false] at h
        obtain ⟨found, hf, h⟩ := Attempt.bind_ok_iff.mp h
        cases found with
        | true =>
          simp only [if_true, Attempt.pure_ok_iff] at h
          subst h
          exact .foundation hs he hm hf
        | false =>
          cases isExtension with
          | true =>
            simp only [Bool.false_eq_true, if_false, if_true, Attempt.pure_ok_iff] at h
            subst h
            exact .unverified hs he hm hf rfl
          | false => simp at h

theorem Resolves.resolveBase (h : r.Resolves ref.shortName key isExtension t) :
    r.resolveBase ref isExtension = .ok t := by
  unfold Resolver.resolveBase
  rw [hkey, Attempt.ok_bind]
  cases h with
  | scalar hs => simp [hs]
  | foundationEnum hs he hx => simp [hs, he, hx]
  | localEnum hs he hx => simp [hs, he, hx]
  | model hs he hm => simp [hs, he, hm]
  | foundation hs he hm hf => simp [hs, he, hm, hf]
  | unverified hs he hm hf hx => simp [hs, he, hm, hf, hx]

end

theorem resolveBase_ok_iff {t : TypeExpr} :
    r.resolveBase ref isExtension = .ok t ↔
      ∃ key, r.tables.vocabulary.compact ref.uri = .ok key ∧
        r.Resolves ref.shortName key isExtension t := by
  constructor
  · intro h
    obtain ⟨key, hkey, -⟩ := Attempt.bind_ok_iff.mp h
    exact ⟨key, hkey, resolves_of_resolveBase hkey h⟩
  · rintro ⟨key, hkey, h⟩
    exact h.resolveBase hkey

/-- Where the key can be looked up, a reference resolves or is a fault that names it. -/
theorem resolveBase_total {key : String} {found : Bool}
    (hkey : r.tables.vocabulary.compact ref.uri = .ok key)
    (hfound : r.tables.vocabulary.isFoundation (.str key) = .ok found) :
    (∃ t, r.resolveBase ref isExtension = .ok t) ∨
      r.resolveBase ref isExtension =
        .error (.resolution (.unresolvedType ref.shortName key)) := by
  unfold resolveBase
  rw [hkey, Attempt.ok_bind]
  cases ScalarKind.ofShortName? ref.shortName with
  | some kind => exact .inl ⟨_, rfl⟩
  | none =>
    cases r.tables.enum? key with
    | some entry =>
      left
      cases hx : entry.isExternal with
      | true => exact ⟨r.foundationType ref.shortName true .enumeration, by simp [hx]⟩
      | false => exact ⟨.plain (typeName ref.shortName) true .enumeration, by simp [hx]⟩
    | none =>
      cases r.tables.hasModel ref.shortName with
      | true => exact .inl ⟨_, rfl⟩
      | false =>
        simp only [hfound, Attempt.ok_bind]
        cases found <;> cases isExtension
        · exact .inr rfl
        all_goals exact .inl ⟨_, rfl⟩

theorem resolveBase_congr {ref' : TypeReference} (hname : ref.shortName = ref'.shortName)
    (hkey : r.tables.vocabulary.compact ref.uri = r.tables.vocabulary.compact ref'.uri) :
    r.resolveBase ref isExtension = r.resolveBase ref' isExtension := by
  unfold resolveBase
  rw [hname, hkey]

/-! ## Lists and fields -/

@[simp] theorem outcome_resolve :
    (r.resolve ref isExtension).outcome = r.resolvePure ref isExtension := by
  unfold resolve
  rw [Logged.outcome_bind, Logged.outcome_lift]
  cases r.resolvePure ref isExtension with
  | error e => rfl
  | ok t =>
    rw [Attempt.ok_bind, Logged.outcome_bind, Logged.outcome_forM _ fun _ _ => rfl]
    rfl

theorem resolvePure_ok_iff {t : TypeExpr} :
    r.resolvePure ref isExtension = .ok t ↔
      ∃ base, r.resolveBase ref isExtension = .ok base ∧
        t = if ref.isArray then r.listOf base else base := by
  unfold resolvePure
  rw [Attempt.bind_ok_iff]
  refine exists_congr fun base => and_congr_right fun _ => ?_
  rw [Attempt.pure_ok_iff]
  exact eq_comm

theorem outcome_compose {f : Field} {t : TypeExpr} :
    (r.compose f isExtension).outcome = .ok t ↔
      f.references ≠ [] ∧ ∃ types, f.references.mapM (r.resolvePure · isExtension) = .ok types ∧
        t = r.combine types := by
  unfold compose
  cases hrefs : f.references with
  | nil =>
    simp only [List.isEmpty_nil, if_true, Logged.outcome_bind, Logged.outcome_throw]
    constructor
    · intro h
      cases h
    · rintro ⟨h, -⟩
      exact absurd rfl h
  | cons ref refs =>
    simp only [List.isEmpty_cons, Bool.false_eq_true, if_false, Logged.outcome_bind,
      Logged.outcome_mapM, outcome_resolve, Logged.outcome_pure, Attempt.bind_ok_iff]
    simp [eq_comm]

end TypedVocabulary.Resolver
