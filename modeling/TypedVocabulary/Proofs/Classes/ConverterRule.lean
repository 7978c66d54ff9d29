import TypedVocabulary.Proofs.Classes.TypeShape

/-! # Converters of properties

The converter for durations is found by comparing the type of a property with that of the built-in
duration. No other type equals it, whatever names the settings choose: enumerations, models,
foundation types and containers are of other kinds, and the built-in types are asked first. The
converter for unions is found by the kind, which only a field of several references has. So a
converter follows from the references of a field and from the vocabulary that they are written in.
-/
namespace TypedVocabulary

namespace ScalarKind

def shortName : ScalarKind → String
  | boolean => "Boolean"
  | dateTime => "DateTime"
  | time => "Time"
  | integer => "Integer"
  | float => "Float"
  | number => "Number"
  | date => "Date"
  | text => "Text"
  | duration => "Duration"
  | url => "URL"
  | property => "Property"

theorem ofShortName?_eq_some_iff {name : String} {kind : ScalarKind} :
    ofShortName? name = some kind ↔ name = kind.shortName := by
  constructor
  · intro h
    unfold ofShortName? at h
    split at h <;> cases h <;> rfl
  · rintro rfl
    cases kind <;> rfl

theorem same_duration_iff (kind : ScalarKind) :
    kind.typeExpr.same duration.typeExpr = true ↔ kind = duration := by
  cases kind <;> decide

end ScalarKind

theorem TypeExpr.kind_of_same {t u : TypeExpr} (h : t.same u = true) : t.kind = u.kind := by
  obtain ⟨name, space, nullable, kind, arguments, notices⟩ := t
  obtain ⟨name', space', nullable', kind', arguments', notices'⟩ := u
  simp only [same, Bool.and_eq_true, beq_iff_eq] at h
  exact h.1.2

/-! ## Rules -/

/-- The only reference of the field is a plain one to the built-in duration. -/
def Field.IsDuration (f : Field) : Prop :=
  ∃ ref : TypeReference, f.references = [ref] ∧ ref.isArray = false ∧ ref.shortName = "Duration"

/-- The required type is a plain reference to the time of the foundation vocabulary. -/
def Field.RequiresTime (v : Vocabulary) (f : Field) : Prop :=
  ∃ ref : TypeReference, f.requiredType = some ref ∧ ref.isArray = false ∧
    ref.shortName = "Time" ∧ v.isFoundationNamespace (.str ref.uri) = .ok true

/-- The converter of a field by its references, each rule after those before it have failed. -/
inductive Field.ConvertedBy (v : Vocabulary) (f : Field) : Converter → Prop
  | disinherited (hx : f.obsolete = true) : ConvertedBy v f .none
  | duration (hx : f.obsolete = false) (hd : f.IsDuration) : ConvertedBy v f .duration
  | time (hx : f.obsolete = false) (hd : ¬f.IsDuration) (ht : f.RequiresTime v) :
      ConvertedBy v f .time
  | taggedUnion (hx : f.obsolete = false) (hd : ¬f.IsDuration) (ht : ¬f.RequiresTime v)
      (hn : 2 ≤ f.references.length) : ConvertedBy v f .taggedUnion
  | plain (hx : f.obsolete = false) (hd : ¬f.IsDuration) (ht : ¬f.RequiresTime v)
      (hn : f.references.length < 2) : ConvertedBy v f .none

theorem Field.ConvertedBy.unique {v : Vocabulary} {f : Field} {c c' : Converter}
    (h : f.ConvertedBy v c) (h' : f.ConvertedBy v c') : c = c' := by
  cases h <;> cases h' <;> grind

theorem Field.ConvertedBy.congr {v v' : Vocabulary} {f : Field} {c : Converter}
    (ht : f.RequiresTime v ↔ f.RequiresTime v') (h : f.ConvertedBy v c) : f.ConvertedBy v' c := by
  cases h with
  | disinherited hx => exact .disinherited hx
  | duration hx hd => exact .duration hx hd
  | time hx hd htime => exact .time hx hd (ht.mp htime)
  | taggedUnion hx hd htime hn => exact .taggedUnion hx hd (mt ht.mpr htime) hn
  | plain hx hd htime hn => exact .plain hx hd (mt ht.mpr htime) hn

namespace Resolver
variable {r : Resolver} {ref : TypeReference} {f : Field} {isExtension : Bool} {t : TypeExpr}

theorem requiresTime_iff : r.requiresTime f = .ok true ↔ f.RequiresTime r.tables.vocabulary := by
  unfold requiresTime Field.RequiresTime
  cases f.requiredType with
  | none => simp
  | some ref =>
    simp only [Option.some.injEq, exists_eq_left']
    cases ref.isArray with
    | true => simp
    | false =>
      simp only [Bool.not_false, Bool.true_and, decide_eq_true_eq,
        ScalarKind.ofShortName?_eq_some_iff, ScalarKind.shortName, true_and]
      by_cases htime : ref.shortName = "Time"
      · rw [if_pos htime, and_iff_right htime]
      · rw [if_neg htime]
        simp [htime]

theorem Resolves.same_duration_iff {name key : String} (h : r.Resolves name key isExtension t) :
    t.same ScalarKind.duration.typeExpr = true ↔ name = "Duration" := by
  cases h with
  | @scalar kind hs =>
    rw [ScalarKind.ofShortName?_eq_some_iff] at hs
    subst hs
    rw [ScalarKind.same_duration_iff]
    cases kind <;> decide
  | foundationEnum hs | localEnum hs | model hs | foundation hs | unverified hs =>
    have hname : name ≠ "Duration" := by
      rintro rfl
      cases hs
    exact iff_of_false (fun hsame => TypeKind.noConfusion (TypeExpr.kind_of_same hsame)) hname

theorem same_duration_resolvePure_iff (h : r.resolvePure ref isExtension = .ok t) :
    t.same ScalarKind.duration.typeExpr = true ↔
      ref.isArray = false ∧ ref.shortName = "Duration" := by
  obtain ⟨base, hbase, rfl⟩ := resolvePure_ok_iff.mp h
  cases ref.isArray with
  | true =>
    exact iff_of_false (fun hsame => TypeKind.noConfusion (TypeExpr.kind_of_same hsame)) (by simp)
  | false =>
    obtain ⟨key, -, hresolves⟩ := resolveBase_ok_iff.mp hbase
    rw [if_neg Bool.false_ne_true, hresolves.same_duration_iff, and_iff_right rfl]

section
variable (h : (r.compose f isExtension).outcome = .ok t)
include h

theorem same_duration_compose_iff :
    t.same ScalarKind.duration.typeExpr = true ↔ f.IsDuration := by
  unfold Field.IsDuration
  rcases compose_cases h with ⟨ref, hrefs, href⟩ | ⟨htwo, types, rfl, -⟩
  · simp [same_duration_resolvePure_iff href, hrefs]
  · refine iff_of_false (fun hsame => TypeKind.noConfusion (TypeExpr.kind_of_same hsame)) ?_
    rintro ⟨ref, hrefs, -⟩
    rw [hrefs, List.length_singleton] at htwo
    omega

theorem isUnion_compose_iff : t.isUnion = true ↔ 2 ≤ f.references.length := by
  rcases compose_cases h with ⟨ref, hrefs, href⟩ | ⟨htwo, types, rfl, -⟩
  · have hkind := (shapedBy_resolvePure href).kind_ne_union
    simp [TypeExpr.isUnion, hkind, hrefs]
  · exact iff_of_true rfl htwo

theorem convertedBy_converterFor (hx : f.obsolete = false) {c : Converter}
    (hc : r.converterFor f t = .ok c) : f.ConvertedBy r.tables.vocabulary c := by
  have hduration := same_duration_compose_iff h
  unfold converterFor at hc
  split at hc
  · rename_i hsame
    cases hc
    exact .duration hx (hduration.mp hsame)
  · rename_i hsame
    have hd : ¬f.IsDuration := fun hd => hsame (hduration.mpr hd)
    obtain ⟨requires, hrequires, hc⟩ := Attempt.bind_ok_iff.mp hc
    cases requires with
    | true =>
      cases hc
      exact .time hx hd (requiresTime_iff.mp hrequires)
    | false =>
      have ht : ¬f.RequiresTime r.tables.vocabulary := fun ht =>
        nomatch hrequires.symm.trans (requiresTime_iff.mpr ht)
      cases hunion : t.isUnion with
      | true =>
        rw [hunion] at hc
        cases hc
        exact .taggedUnion hx hd ht ((isUnion_compose_iff h).mp hunion)
      | false =>
        rw [hunion] at hc
        cases hc
        have hn : ¬2 ≤ f.references.length := fun hn =>
          nomatch hunion.symm.trans ((isUnion_compose_iff h).mpr hn)
        exact .plain hx hd ht (Nat.lt_of_not_le hn)

end

theorem convertedBy_of_compileField {hasBase : Bool} {chosen : String} {p : Property}
    (h : (r.compileField f hasBase chosen).outcome = .ok p) :
    f.ConvertedBy r.tables.vocabulary p.converter := by
  obtain ⟨type, name, converter, htype, -, hconverter, rfl⟩ := compileField_ok_iff.mp h
  cases hx : f.obsolete with
  | true =>
    rw [hx, if_pos rfl] at hconverter
    cases hconverter
    exact .disinherited hx
  | false =>
    rw [hx, if_neg Bool.false_ne_true] at hconverter
    exact convertedBy_converterFor htype hx hconverter

/-- The converter of a property is the one that the rules give for the references of its field. So
it is the same under all tables and settings that the field compiles with, whatever they declare, as
long as the required type is a time of the foundation vocabulary under both or under neither. -/
theorem converter_by_rule {hasBase : Bool} {chosen : String} {p : Property}
    (h : (r.compileField f hasBase chosen).outcome = .ok p) :
    (∀ c, p.converter = c ↔ f.ConvertedBy r.tables.vocabulary c) ∧
      ∀ (r' : Resolver) (hasBase' : Bool) (chosen' : String) (p' : Property),
        (f.RequiresTime r'.tables.vocabulary ↔ f.RequiresTime r.tables.vocabulary) →
        (r'.compileField f hasBase' chosen').outcome = .ok p' → p'.converter = p.converter := by
  have hrule := convertedBy_of_compileField h
  refine ⟨fun c => ⟨?_, fun hc => hrule.unique hc⟩, fun r' _ _ p' ht h' => ?_⟩
  · rintro rfl
    exact hrule
  · exact ((convertedBy_of_compileField h').congr ht).unique hrule

/-- An enumeration and a model with the name of a duration do not take over its reference, and a model
whose class is named like the type of a duration is none. -/
theorem converter_by_rule_duration :
    let r : Resolver := ⟨⟨[("schema:Duration", ⟨.null, true⟩)], ["Duration", "TimeSpan"],
      Vocabulary.standard⟩, Settings.default⟩
    let plain : Resolver := ⟨⟨[], [], Vocabulary.standard⟩, Settings.default⟩
    let length := Field.ofType "length" "https://schema.org/Duration"
    let span := Field.ofType "span" "#TimeSpan"
    ∃ p p' q, (r.compileField length true "").outcome = .ok p ∧
      (plain.compileField length true "").outcome = .ok p' ∧
      (r.compileField span true "").outcome = .ok q ∧ q.type.name.text? = some "TimeSpan" ∧
      p.converter = .duration ∧ p'.converter = p.converter ∧ q.converter = .none := by
  intro r plain length span
  obtain ⟨p, hp⟩ : ∃ p, (r.compileField length true "").outcome = .ok p :=
    Attempt.exists_ok_of_isSome (by decide +kernel)
  obtain ⟨p', hp'⟩ : ∃ p', (plain.compileField length true "").outcome = .ok p' :=
    Attempt.exists_ok_of_isSome (by decide +kernel)
  obtain ⟨q, hq, hname⟩ : ∃ q, (r.compileField span true "").outcome = .ok q ∧
      q.type.name.text? = some "TimeSpan" := Attempt.exists_ok_of_decide (by decide +kernel)
  have hlength : length.IsDuration := ⟨_, rfl, by decide +kernel, by decide +kernel⟩
  have hspan : ¬span.IsDuration := by
    rintro ⟨ref, hrefs, -, hshort⟩
    obtain rfl : TypeReference.ofText "#TimeSpan" = ref := (List.cons.inj hrefs).1
    exact absurd hshort (by decide +kernel)
  have htime : ¬span.RequiresTime Vocabulary.standard := by
    rintro ⟨ref, href, -, hshort, -⟩
    obtain rfl : TypeReference.ofText "#TimeSpan" = ref := Option.some.inj href
    exact absurd hshort (by decide +kernel)
  obtain ⟨hrule, hsame⟩ := converter_by_rule hp
  have hplain : span.references.length < 2 := by decide
  exact ⟨p, p', q, hp, hp', hq, hname, (hrule .duration).mpr (.duration rfl hlength),
    hsame plain true "" p' .rfl hp',
    ((converter_by_rule hq).1 .none).mpr (.plain rfl hspan htime hplain)⟩

end Resolver
end TypedVocabulary
