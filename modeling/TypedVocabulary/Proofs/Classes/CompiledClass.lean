import TypedVocabulary.Classes.Compile
import TypedVocabulary.Proofs.Outcomes
import TypedVocabulary.Proofs.Vocabulary.CompactKey

/-! # Compiled classes

What compilation computes, step by step: a property from a field, a class from a model, an outcome
for each declaration of a schema. A fault of resolution is an outcome, so a model that has one takes
no other model with it.
-/
namespace TypedVocabulary

/-- A field of one type, of which nothing else is declared. -/
def Field.ofType (name uri : String) : Field where
  fieldName := .str name
  order := 0
  requiredType := some (TypeReference.ofText uri)
  alternativeTypes := []
  model := none
  alternativeModels := []
  memberName := .null
  extensionPrefix := .null
  obsolete := false
  override := false
  derivedFromSchema := false
  description := []
  sample := .null

namespace Resolver
variable {r : Resolver}

theorem composeLocated_ok_iff {f : Field} {t : TypeExpr} :
    (r.composeLocated f).outcome = .ok t ↔ (r.compose f f.isExtension).outcome = .ok t := by
  unfold composeLocated
  cases h : (r.compose f f.isExtension).outcome with
  | ok t' => simp [h]
  | error e => cases e <;> simp [h]

/-- The type of a property, its name and its converter, from which all else follows. -/
theorem compileField_ok_iff {f : Field} {hasBase : Bool} {chosen : String} {p : Property} :
    (r.compileField f hasBase chosen).outcome = .ok p ↔
      ∃ type name converter,
        (r.compose f f.isExtension).outcome = .ok type ∧
        (if chosen.isEmpty then f.fieldName.asOperand.map typeName else .ok chosen) = .ok name ∧
        (if f.obsolete then .ok .none else r.converterFor f type) = .ok converter ∧
        p = {
          fieldName := f.fieldName
          name
          type
          wireName := if f.obsolete then .null else f.wireName
          order := if f.obsolete then none else some f.compiledOrder
          shadowing := if f.obsolete then .override else shadowingFor f hasBase
          disinherited := f.obsolete
          converter
          isExtension := f.isExtension
          description := f.description
          sample := f.sample
          requiredType := f.requiredType.map TypeReference.text
          notices := type.allNotices } := by
  unfold compileField
  simp only [Logged.outcome_bind, Attempt.bind_ok_iff, composeLocated_ok_iff, @eq_comm _ p]
  refine exists_congr fun type => ?_
  cases chosen.isEmpty <;> cases f.obsolete <;>
    simp only [if_true, if_false, Bool.false_eq_true, Logged.outcome_bind, Logged.outcome_pure,
      Logged.outcome_lift, Attempt.bind_ok_iff, Attempt.ok_bind, Except.ok.injEq,
      exists_and_left, exists_eq_left']

/-- What a property takes over from its field, whatever type, name and converter it has. -/
structure Carries (f : Field) (p : Property) : Prop where
  fieldName : p.fieldName = f.fieldName
  disinherited : p.disinherited = f.obsolete
  wireName : p.wireName = if f.obsolete then .null else f.wireName
  order : p.order = if f.obsolete then none else some f.compiledOrder
  isExtension : p.isExtension = f.isExtension

theorem Carries.order_of_serialized {f : Field} {p : Property} (h : Carries f p)
    (hf : f.obsolete = false) : p.order = some f.compiledOrder :=
  h.order.trans (if_neg (Bool.eq_false_iff.mp hf))

theorem carries_of_compileField {f : Field} {hasBase : Bool} {chosen : String} {p : Property}
    (h : (r.compileField f hasBase chosen).outcome = .ok p) : Carries f p := by
  obtain ⟨type, name, converter, -, -, -, rfl⟩ := compileField_ok_iff.mp h
  exact ⟨rfl, rfl, rfl, rfl, rfl⟩

theorem exists_converterFor_of_required {f : Field} (type : TypeExpr)
    (hrequired : ∀ ref, f.requiredType = some ref →
      ∃ key, r.tables.vocabulary.compact ref.uri = .ok key) :
    ∃ converter, r.converterFor f type = .ok converter := by
  have htime : ∃ time, r.requiresTime f = .ok time := by
    unfold requiresTime
    cases href : f.requiredType with
    | none => exact ⟨false, rfl⟩
    | some ref =>
      obtain ⟨key, hkey⟩ := hrequired ref href
      dsimp only
      split
      · exact Vocabulary.exists_isFoundationNamespace_of_compact hkey
      · exact ⟨false, rfl⟩
  obtain ⟨time, htime⟩ := htime
  unfold converterFor
  rw [htime, Attempt.ok_bind]
  split
  · exact ⟨_, rfl⟩
  · cases time with
    | true => exact ⟨_, rfl⟩
    | false => cases type.isUnion <;> exact ⟨_, rfl⟩

/-- A class has the base and the name of its model, and one property per field in their order. -/
theorem compileClass_ok_iff {m : Model} {c : ClassDefinition} :
    (r.compileClass m).outcome = .ok c ↔
      ∃ base shortName names,
        BaseClass.resolve r.tables.vocabulary r.settings m.type m.subclassOf m.derivedFrom =
          .ok base ∧
        m.shortName = .ok shortName ∧
        MemberNames.assign m (typeName shortName) = .ok names ∧
        List.Forall₂ (fun f p =>
          (r.compileField f (BaseClass.hasMembers r.settings base)
            ((MemberNames.name? names f.fieldName).getD "")).outcome = .ok p) m.fields c.properties ∧
        c = {
          type := m.type
          name := typeName shortName
          base
          properties := c.properties
          hasBaseClass := BaseClass.hasMembers r.settings base
          description := m.description } := by
  unfold compileClass
  simp only [Logged.outcome_bind, Logged.outcome_lift, Logged.outcome_mapM, Logged.outcome_pure,
    Attempt.bind_ok_iff, Except.ok.injEq]
  constructor
  · rintro ⟨base, hbase, shortName, hname, names, hnames, properties, hproperties, rfl⟩
    exact ⟨base, shortName, names, hbase, hname, hnames, Attempt.mapM_ok_iff.mp hproperties, rfl⟩
  · rintro ⟨base, shortName, names, hbase, hname, hnames, hproperties, hc⟩
    exact ⟨base, hbase, shortName, hname, names, hnames, c.properties,
      Attempt.mapM_ok_iff.mpr hproperties, hc.symm⟩

theorem carries_of_compileClass {m : Model} {c : ClassDefinition}
    (h : (r.compileClass m).outcome = .ok c) : List.Forall₂ Carries m.fields c.properties := by
  obtain ⟨_, _, _, -, -, -, hproperties, -⟩ := compileClass_ok_iff.mp h
  exact hproperties.imp fun _ _ hp => carries_of_compileField hp

theorem compileModel_ok_iff {m : Model} {c : Compilation} :
    (r.compileModel m).outcome = .ok c ↔
      (∃ d, (r.compileClass m).outcome = .ok d ∧
        c = ⟨m.type, d.notices, .ok (some (.ofClass d))⟩) ∨
      ∃ e, (r.compileClass m).outcome = .error (.resolution e) ∧
        c = ⟨m.type, [], .error (e.located m.type .null)⟩ := by
  unfold compileModel
  rw [Logged.outcome_bind, Logged.settled, Attempt.ok_bind]
  cases h : (r.compileClass m).outcome with
  | ok d =>
    simp only [Logged.outcome_bind, announceClass, Logged.outcome_writeLazily, Attempt.ok_bind]
    simp [eq_comm]
  | error e => cases e <;> simp [eq_comm]

theorem name_of_compileModel {m : Model} {c : Compilation}
    (h : (r.compileModel m).outcome = .ok c) : c.name = m.type := by
  rcases compileModel_ok_iff.mp h with ⟨d, -, rfl⟩ | ⟨e, -, rfl⟩
  · rfl
  · rfl

theorem compileModel_class_iff {m : Model} {c : ClassDefinition} :
    (r.compileModel m).outcome = .ok ⟨m.type, c.notices, .ok (some (.ofClass c))⟩ ↔
      (r.compileClass m).outcome = .ok c := by
  rw [compileModel_ok_iff]
  constructor
  · rintro (⟨d, hd, hsame⟩ | ⟨e, -, hsame⟩)
    · cases (Compilation.mk.inj hsame).2.2
      exact hd
    · cases (Compilation.mk.inj hsame).2.2
  · exact fun h => .inl ⟨c, h, rfl⟩

theorem compileEnum_ok_iff {e : Enumeration} {d : EnumDefinition} :
    r.compileEnum e = .ok d ↔
      ∃ members shortName isExternal, e.values.mapM compileMember = .ok members ∧
        e.shortName = .ok shortName ∧
        r.tables.vocabulary.isFoundationNamespace e.namespace = .ok isExternal ∧
        d = ⟨e.type, typeName shortName, e.namespace, members, e.comment, isExternal⟩ := by
  unfold compileEnum
  simp only [Attempt.bind_ok_iff, Attempt.pure_ok_iff, exists_and_left, @eq_comm _ d]

/-- The outcome of an enumeration, which cannot be a fault of resolution. -/
def compileEnumOutcome (r : Resolver) (e : Enumeration) : Attempt Compilation := do
  let d ← r.compileEnum e
  return ⟨e.type, [], .ok (some (.ofEnum d))⟩

theorem outcome_compileSchema (r : Resolver) (s : SchemaSet) (workers : Json) :
    (r.compileSchema s workers).outcome = (do
      let enums ← s.enums.mapM r.compileEnumOutcome
      checkWorkers workers
      let models ← s.models.mapM fun m => (r.compileModel m).outcome
      return enums ++ models) := by
  unfold compileSchema
  simp only [Logged.outcome_bind, Logged.outcome_lift, Logged.outcome_mapM, Logged.outcome_pure,
    Logged.outcome_write, Attempt.ok_bind]
  rfl

theorem compileSchema_ok_iff {s : SchemaSet} {workers : Json} {results : List Compilation} :
    (r.compileSchema s workers).outcome = .ok results ↔
      ∃ enums models, s.enums.mapM r.compileEnumOutcome = .ok enums ∧
        (∃ u, checkWorkers workers = .ok u) ∧
        s.models.mapM (fun m => (r.compileModel m).outcome) = .ok models ∧
        results = enums ++ models := by
  rw [outcome_compileSchema]
  simp only [Attempt.bind_ok_iff, Attempt.pure_ok_iff]
  constructor
  · rintro ⟨enums, henums, u, hu, models, hmodels, rfl⟩
    exact ⟨enums, models, henums, ⟨u, hu⟩, hmodels, rfl⟩
  · rintro ⟨enums, models, henums, ⟨u, hu⟩, hmodels, rfl⟩
    exact ⟨enums, henums, u, hu, models, hmodels, rfl⟩

theorem compileSchema_ok {s : SchemaSet} {workers : Json} {results : List Compilation}
    (h : (r.compileSchema s workers).outcome = .ok results) :
    ∃ enums models,
      List.Forall₂ (fun e c => ∃ d, r.compileEnum e = .ok d ∧
        c = ⟨e.type, [], .ok (some (.ofEnum d))⟩) s.enums enums ∧
      List.Forall₂ (fun m c => (r.compileModel m).outcome = .ok c) s.models models ∧
      results = enums ++ models := by
  obtain ⟨enums, models, henums, -, hmodels, rfl⟩ := compileSchema_ok_iff.mp h
  refine ⟨enums, models, (Attempt.mapM_ok_iff.mp henums).imp fun e c hc => ?_,
    Attempt.mapM_ok_iff.mp hmodels, rfl⟩
  obtain ⟨d, hd, hc⟩ := Attempt.bind_ok_iff.mp hc
  cases hc
  exact ⟨d, hd, rfl⟩

theorem mem_compileSchema {s : SchemaSet} {workers : Json} {results : List Compilation}
    (h : (r.compileSchema s workers).outcome = .ok results) {c : Compilation} (hc : c ∈ results) :
    (∃ e ∈ s.enums, ∃ d, r.compileEnum e = .ok d ∧ c = ⟨e.type, [], .ok (some (.ofEnum d))⟩) ∨
      ∃ m ∈ s.models, (r.compileModel m).outcome = .ok c := by
  obtain ⟨enums, models, henums, hmodels, rfl⟩ := compileSchema_ok h
  rcases List.mem_append.mp hc with hc | hc
  · obtain ⟨e, he, d, hd⟩ := exists_left_of_forall₂ henums hc
    exact .inl ⟨e, he, d, hd⟩
  · exact .inr (exists_left_of_forall₂ hmodels hc)

end Resolver
end TypedVocabulary
