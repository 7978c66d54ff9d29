import TypedVocabulary.Proofs.Classes.CompiledClass
import TypedVocabulary.Proofs.Classes.ResolvedReference

/-! # Notices

A type that nothing knows is taken on trust in an extension, and the notice about it sits in the
type. Lists and unions keep what their elements say and add nothing, so a property has one notice
for each such reference, in the order of its references. From the properties the notices go to their
class, and from the classes to the results of a schema.
-/
namespace TypedVocabulary

namespace TypeExpr

theorem argumentNotices_eq_flatMap (ts : List TypeExpr) :
    argumentNotices ts = ts.flatMap allNotices := by
  induction ts with
  | nil => rfl
  | cons t ts ih => rw [argumentNotices, ih, List.flatMap_cons]

theorem allNotices_asNonNullable (t : TypeExpr) : t.asNonNullable.allNotices = t.allNotices := by
  obtain ⟨name, space, nullable, kind, arguments, notices⟩ := t
  rfl

end TypeExpr

namespace Resolver
variable {r : Resolver} {ref : TypeReference} {isExtension : Bool}

theorem allNotices_listOf (element : TypeExpr) :
    (r.listOf element).allNotices = element.allNotices := by
  simp only [listOf, TypeExpr.allNotices, TypeExpr.argumentNotices_eq_flatMap,
    List.flatMap_singleton, List.nil_append, TypeExpr.allNotices_asNonNullable]

theorem allNotices_combine (types : List TypeExpr) :
    (r.combine types).allNotices = types.flatMap TypeExpr.allNotices := by
  match types with
  | [] => rfl
  | [t] => rw [combine, List.flatMap_singleton]
  | t :: u :: rest =>
    simp only [combine, unionOf, TypeExpr.allNotices, TypeExpr.argumentNotices_eq_flatMap,
      List.nil_append]

/-- The notice that a reference gives rise to where it is taken on trust. -/
def notice? (r : Resolver) (ref : TypeReference) : Option String :=
  match r.tables.vocabulary.compact ref.uri with
  | .ok key =>
    if r.knows ref.shortName key then none else some (r.unverifiedNotice ref.shortName key)
  | .error _ => none

/-- Only the last rule of resolution leaves a notice, and only an extension comes to it. -/
theorem Resolves.known_or_unverified {name key : String} {t : TypeExpr}
    (h : r.Resolves name key isExtension t) :
    (r.knows name key = true ∧ t.allNotices = []) ∨
      (r.knows name key = false ∧ isExtension = true ∧
        t.allNotices = [r.unverifiedNotice name key]) := by
  cases h with
  | @scalar kind hs => exact .inl ⟨by simp [knows, hs], by cases kind <;> rfl⟩
  | foundationEnum _ he _ => exact .inl ⟨by simp [knows, he], rfl⟩
  | localEnum _ he _ => exact .inl ⟨by simp [knows, he], rfl⟩
  | model _ _ hm => exact .inl ⟨by simp [knows, hm], rfl⟩
  | foundation _ _ _ hf => exact .inl ⟨by simp [knows, hf], rfl⟩
  | unverified hs he hm hf hx => exact .inr ⟨by simp [knows, hs, he, hm, hf], hx, rfl⟩

theorem allNotices_resolvePure {t : TypeExpr} (h : r.resolvePure ref isExtension = .ok t) :
    t.allNotices = (r.notice? ref).toList := by
  obtain ⟨base, hbase, rfl⟩ := resolvePure_ok_iff.mp h
  obtain ⟨key, hkey, hresolves⟩ := resolveBase_ok_iff.mp hbase
  have hnotices : base.allNotices = (r.notice? ref).toList := by
    rw [notice?, hkey]
    rcases hresolves.known_or_unverified with ⟨hk, hn⟩ | ⟨hk, -, hn⟩
    · simp [hk, hn]
    · simp [hk, hn]
  cases ref.isArray with
  | true => exact (allNotices_listOf base).trans hnotices
  | false => exact hnotices

theorem notice?_of_not_extension {t : TypeExpr} (h : r.resolvePure ref false = .ok t) :
    r.notice? ref = none := by
  obtain ⟨base, hbase, -⟩ := resolvePure_ok_iff.mp h
  obtain ⟨key, hkey, hresolves⟩ := resolveBase_ok_iff.mp hbase
  rcases hresolves.known_or_unverified with ⟨hk, -⟩ | ⟨-, hx, -⟩
  · simp only [notice?, hkey, hk, if_true]
  · cases hx

theorem flatMap_allNotices {refs : List TypeReference} {types : List TypeExpr}
    (h : List.Forall₂ (fun ref t => r.resolvePure ref isExtension = .ok t) refs types) :
    types.flatMap TypeExpr.allNotices = refs.filterMap r.notice? := by
  induction h with
  | nil => rfl
  | @cons ref t refs types ht _ ih =>
    rw [List.flatMap_cons, ih, allNotices_resolvePure ht]
    cases hn : r.notice? ref <;> simp [hn]

/-- A property has one notice for each reference that nothing knows, in their order. -/
theorem notices_of_compileField {f : Field} {hasBase : Bool} {chosen : String} {p : Property}
    (h : (r.compileField f hasBase chosen).outcome = .ok p) :
    p.notices = f.references.filterMap r.notice? := by
  obtain ⟨type, name, converter, htype, -, -, rfl⟩ := compileField_ok_iff.mp h
  obtain ⟨-, types, htypes, rfl⟩ := outcome_compose.mp htype
  rw [allNotices_combine, flatMap_allNotices (Attempt.mapM_ok_iff.mp htypes)]

theorem known_of_compileField {f : Field} {hasBase : Bool} {chosen : String} {p : Property}
    (h : (r.compileField f hasBase chosen).outcome = .ok p) (hf : f.isExtension = false)
    {ref : TypeReference} (href : ref ∈ f.references) : r.notice? ref = none := by
  obtain ⟨type, name, converter, htype, -, -, rfl⟩ := compileField_ok_iff.mp h
  obtain ⟨-, types, htypes, -⟩ := outcome_compose.mp htype
  obtain ⟨t, -, ht⟩ := Attempt.exists_of_mem_mapM htypes href
  rw [hf] at ht
  exact notice?_of_not_extension ht

/-! ## From the properties to the results -/

variable {m : Model} {c : ClassDefinition}

def noticesOf (r : Resolver) (m : Model) : List String :=
  m.fields.flatMap fun f => f.references.filterMap r.notice?

def hasClass (r : Resolver) (m : Model) : Bool :=
  match (r.compileClass m).outcome with
  | .ok _ => true
  | .error _ => false

theorem properties_of_compileClass (h : (r.compileClass m).outcome = .ok c) :
    List.Forall₂ (fun f p => p.notices = f.references.filterMap r.notice?)
      m.fields c.properties := by
  obtain ⟨_, _, _, -, -, -, hproperties, -⟩ := compileClass_ok_iff.mp h
  exact hproperties.imp fun _ _ hp => notices_of_compileField hp

theorem notices_of_compileClass (h : (r.compileClass m).outcome = .ok c) :
    c.notices = r.noticesOf m := by
  have hmap : c.properties.map Property.notices =
      m.fields.map fun f => f.references.filterMap r.notice? :=
    map_eq_map_of_forall₂ (properties_of_compileClass h) fun _ _ hp => hp
  rw [ClassDefinition.notices, noticesOf, List.flatMap_def, List.flatMap_def, hmap]

theorem notices_of_compileModel {result : Compilation}
    (h : (r.compileModel m).outcome = .ok result) :
    result.succeeded = r.hasClass m ∧
      result.notices = if r.hasClass m then r.noticesOf m else [] := by
  unfold hasClass
  rcases compileModel_ok_iff.mp h with ⟨d, hd, rfl⟩ | ⟨e, he, rfl⟩
  · rw [hd]
    exact ⟨rfl, notices_of_compileClass hd⟩
  · rw [he]
    exact ⟨rfl, rfl⟩

theorem flatMap_notices_of_models {models : List Model} {results : List Compilation}
    (h : List.Forall₂ (fun m result => (r.compileModel m).outcome = .ok result) models results) :
    results.flatMap Compilation.notices = (models.filter r.hasClass).flatMap r.noticesOf := by
  induction h with
  | nil => rfl
  | @cons m result models results hm _ ih =>
    rw [List.flatMap_cons, ih, (notices_of_compileModel hm).2, List.filter_cons]
    cases r.hasClass m with
    | true => rw [if_pos rfl, if_pos rfl, List.flatMap_cons]
    | false => rw [if_neg Bool.false_ne_true, if_neg Bool.false_ne_true, List.nil_append]

/-- Enumerations refer to nothing, so all notices are those of the models that have a class. -/
theorem flatMap_notices_of_compileSchema {s : SchemaSet} {workers : Json}
    {results : List Compilation} (h : (r.compileSchema s workers).outcome = .ok results) :
    results.flatMap Compilation.notices = (s.models.filter r.hasClass).flatMap r.noticesOf := by
  obtain ⟨enums, models, henums, hmodels, rfl⟩ := compileSchema_ok h
  have hnone : enums.flatMap Compilation.notices = [] := by
    refine List.flatMap_eq_nil_iff.mpr fun result hresult => ?_
    obtain ⟨e, -, d, -, rfl⟩ := exists_left_of_forall₂ henums hresult
    rfl
  rw [List.flatMap_append, hnone, List.nil_append, flatMap_notices_of_models hmodels]

end Resolver
end TypedVocabulary
