import TypedVocabulary.Proofs.Classes.CompiledClass
import TypedVocabulary.Proofs.Classes.ResolvedReference
import TypedVocabulary.Proofs.Schema.Lookup
import TypedVocabulary.Proofs.Settings.Typed
import TypedVocabulary.Proofs.Vocabulary.Misuse

/-! # Faults that can be told

A fault of resolution has a text as long as its place is given by texts. Where the names of a model
and of its fields are texts, compiling it needs only that its parent is a text as well: then all
that can go wrong are such faults, and otherwise it is a misuse.
-/
namespace TypedVocabulary
open Attempt

namespace ResolutionError

structure Tellable (e : ResolutionError) : Prop where
  modelType : e.modelType.AbsentOrText
  fieldName : e.fieldName.AbsentOrText
  cause : e.cause.message.IsText

variable {e : ResolutionError} {modelType fieldName : Json}

theorem Tellable.exists_location (h : e.Tellable) : ∃ place, e.location = .ok place := by
  unfold location
  cases hm : e.modelType.truthy with
  | false =>
    cases hf : e.fieldName.truthy with
    | false => exact ⟨"", rfl⟩
    | true =>
      obtain ⟨name, hname⟩ := h.fieldName hf
      rw [hname]
      exact ⟨name, rfl⟩
  | true =>
    obtain ⟨type, htype⟩ := h.modelType hm
    rw [htype]
    cases hf : e.fieldName.truthy with
    | false => exact ⟨type, rfl⟩
    | true =>
      obtain ⟨name, hname⟩ := h.fieldName hf
      rw [hname]
      exact ⟨_, rfl⟩

theorem Tellable.exists_message (h : e.Tellable) : ∃ text, e.message = .ok text := by
  obtain ⟨place, hplace⟩ := h.exists_location
  obtain ⟨cause, hcause⟩ := h.cause
  unfold message
  rw [hplace, hcause]
  by_cases hempty : place = ""
  · exact ⟨cause, if_pos hempty⟩
  · exact ⟨_, if_neg hempty⟩

theorem absentOrText_refine {known told : Json} (hk : known.AbsentOrText)
    (ht : told.AbsentOrText) : (refine known told).AbsentOrText := by
  unfold refine
  split
  · exact ht
  · exact hk

theorem Tellable.located (h : e.Tellable) (hm : modelType.AbsentOrText)
    (hf : fieldName.AbsentOrText) : (e.located modelType fieldName).Tellable :=
  ⟨absentOrText_refine h.modelType hm, absentOrText_refine h.fieldName hf, h.cause⟩

theorem tellable_unresolvedType (shortName compactKey : String) :
    (unresolvedType shortName compactKey).Tellable :=
  ⟨Json.absentOrText_null, Json.absentOrText_null, ⟨_, rfl⟩⟩

theorem tellable_emptyUnion (hf : fieldName.AbsentOrText) : (emptyUnion fieldName).Tellable :=
  ⟨Json.absentOrText_null, hf, ⟨_, rfl⟩⟩

theorem tellable_missingBase (hm : modelType.AbsentOrText) : (missingBase modelType).Tellable :=
  ⟨hm, Json.absentOrText_null, ⟨_, rfl⟩⟩

end ResolutionError

def IsTellable (f : Failure) : Prop := ∃ e, f = .resolution e ∧ e.Tellable

/-- Told if it is a fault of resolution at all. -/
def Telling (f : Failure) : Prop := ∀ e, f = .resolution e → e.Tellable

theorem telling_of_isMisuse {f : Failure} (h : IsMisuse f) : Telling f := by
  obtain ⟨m, rfl⟩ := h
  intro e he
  cases he

/-- A condition on faults that holds for the faults of resolution that can be told and for whatever
comes out of a vocabulary. -/
structure Covers (P : Failure → Prop) (v : Vocabulary) : Prop where
  resolution : ∀ e, P (.resolution e) ↔ e.Tellable
  compact : ∀ s, FailsBy P (v.compact s)
  isFoundation : ∀ s, FailsBy P (v.isFoundation (.str s))
  isFoundationNamespace : ∀ s, FailsBy P (v.isFoundationNamespace (.str s))

/-- Over texts nothing but a fault of resolution comes up. -/
theorem covers_isTellable {v : Vocabulary} (hv : v.HasTexts) : Covers IsTellable v where
  resolution e := by simp [IsTellable]
  compact s := by
    obtain ⟨key, hkey⟩ := Vocabulary.exists_compact hv s
    exact failsBy_ok hkey
  isFoundation s := by
    obtain ⟨found, hfound⟩ := Vocabulary.exists_isFoundation hv s
    exact failsBy_ok hfound
  isFoundationNamespace s := by
    obtain ⟨found, hfound⟩ := Vocabulary.exists_isFoundationNamespace hv s
    exact failsBy_ok hfound

theorem covers_telling (v : Vocabulary) : Covers Telling v where
  resolution e := by simp [Telling]
  compact s := (v.failsBy_compact s).imp fun _ => telling_of_isMisuse
  isFoundation s := (v.failsBy_isFoundation (.str s)).imp fun _ => telling_of_isMisuse
  isFoundationNamespace s :=
    (v.failsBy_isFoundationNamespace (.str s)).imp fun _ => telling_of_isMisuse

/-! ## Fields -/

namespace Resolver
variable {r : Resolver} {f : Field} {P : Failure → Prop} (hP : Covers P r.tables.vocabulary)
include hP

theorem failsBy_resolveBase (ref : TypeReference) (isExtension : Bool) :
    FailsBy P (r.resolveBase ref isExtension) := by
  unfold resolveBase
  refine (hP.compact ref.uri).bind fun key _ => ?_
  split
  · exact failsBy_pure _
  · split
    · split <;> exact failsBy_pure _
    · split
      · exact failsBy_pure _
      · refine (hP.isFoundation key).bind fun found _ => ?_
        split
        · exact failsBy_pure _
        · split
          · exact failsBy_pure _
          · intro e he
            obtain rfl := throw_error_iff.mp he
            exact (hP.resolution _).mpr (ResolutionError.tellable_unresolvedType _ _)

theorem failsBy_resolvePure (ref : TypeReference) (isExtension : Bool) :
    FailsBy P (r.resolvePure ref isExtension) :=
  (failsBy_resolveBase hP ref isExtension).bind fun _ _ => failsBy_pure _

theorem failsBy_compose (hf : f.fieldName.AbsentOrText) (isExtension : Bool) :
    FailsBy P (r.compose f isExtension).outcome := by
  unfold compose
  cases hrefs : f.references.isEmpty with
  | true =>
    intro e he
    simp only [if_true, Logged.outcome_bind, Logged.outcome_throw] at he
    obtain rfl := Except.error.inj he
    exact (hP.resolution _).mpr (ResolutionError.tellable_emptyUnion hf)
  | false =>
    simp only [Bool.false_eq_true, if_false, Logged.outcome_bind, Logged.outcome_mapM,
      outcome_resolve, Logged.outcome_pure]
    refine FailsBy.bind (failsBy_mapM ?_) fun types _ => failsBy_ok rfl
    intro ref _
    exact failsBy_resolvePure hP ref isExtension

theorem failsBy_composeLocated (hf : f.fieldName.AbsentOrText) :
    FailsBy P (r.composeLocated f).outcome := by
  have hcompose := failsBy_compose hP hf f.isExtension
  intro e he
  unfold composeLocated at he
  cases h : (r.compose f f.isExtension).outcome with
  | ok t => simp [h] at he
  | error cause =>
    have hcause : P cause := hcompose cause h
    -- A fault of resolution is located at the field; any other is passed on as it is.
    cases cause with
    | resolution fault =>
      simp only [h] at he
      obtain rfl := Except.error.inj he
      have htellable := (hP.resolution fault).mp hcause
      exact (hP.resolution _).mpr (htellable.located Json.absentOrText_null hf)
    | misuse | schema | config | generator | template | registry | load | command | fileNotFound
    | access | markup =>
      simp only [h] at he
      obtain rfl := Except.error.inj he
      exact hcause

theorem failsBy_converterFor (f : Field) (type : TypeExpr) :
    FailsBy P (r.converterFor f type) := by
  have htime : FailsBy P (r.requiresTime f) := by
    unfold requiresTime
    split
    · exact failsBy_ok rfl
    · split
      · exact hP.isFoundationNamespace _
      · exact failsBy_ok rfl
  unfold converterFor
  split
  · exact failsBy_pure _
  · refine htime.bind fun time _ => ?_
    split
    · exact failsBy_pure _
    · split <;> exact failsBy_pure _

theorem failsBy_compileField (hf : f.fieldName.IsText) (hasBase : Bool) (chosen : String) :
    FailsBy P (r.compileField f hasBase chosen).outcome := by
  obtain ⟨given, hgiven⟩ := hf
  have hplace : f.fieldName.AbsentOrText := fun _ => ⟨given, hgiven⟩
  have hconverter := failsBy_converterFor hP f
  unfold compileField
  rw [Logged.outcome_bind]
  refine (failsBy_composeLocated hP hplace).bind fun type _ => ?_
  rw [hgiven]
  cases f.obsolete with
  | true =>
    cases chosen.isEmpty <;>
      simp only [if_true, if_false, Bool.false_eq_true, Logged.outcome_bind, Logged.outcome_pure,
        Logged.outcome_lift, Json.asOperand_str, Except.map, ok_bind] <;>
      exact failsBy_ok rfl
  | false =>
    cases chosen.isEmpty <;>
      simp only [if_true, if_false, Bool.false_eq_true, Logged.outcome_bind, Logged.outcome_pure,
        Logged.outcome_lift, Json.asOperand_str, Except.map, ok_bind] <;>
      exact (hconverter type).bind fun _ _ => failsBy_ok rfl

end Resolver

/-! ## Models -/

def Model.parent (m : Model) : Json := m.subclassOf.orElse m.derivedFrom

namespace BaseClass
variable {v : Vocabulary} {s : Settings} {m : Model}

theorem requires_named (hv : v.HasTexts) (value : Json) : Requires (named v s value) value.IsText := by
  unfold named
  refine (Json.requires_asText value).bind_ok fun hp text _ => ?_
  obtain ⟨found, hfound⟩ := (Vocabulary.requires_isFoundation hv value).met hp.absentOrText
  rw [hfound, ok_bind]
  cases found <;> exact ⟨_, rfl⟩

theorem requires_resolve (hv : v.HasTexts) (hp : m.parent.truthy = true) :
    Requires (resolve v s m.type m.subclassOf m.derivedFrom) m.parent.IsText := by
  unfold resolve
  unfold Model.parent Json.orElse at hp ⊢
  cases hs : m.subclassOf.truthy with
  | true => exact requires_named hv _
  | false =>
    simp only [hs, Bool.false_eq_true, if_false] at hp ⊢
    rw [if_pos hp]
    have htext : m.derivedFrom.AbsentOrText ↔ m.derivedFrom.IsText :=
      ⟨fun h => h hp, Json.IsText.absentOrText⟩
    refine ((Vocabulary.requires_isFoundation hv m.derivedFrom).bind_ok ?_).congr htext
    intro htext found _
    cases found with
    | true => exact (requires_named hv _).met (htext hp)
    | false => exact ⟨_, rfl⟩

theorem resolve_of_absent (hp : m.parent.truthy = false) :
    resolve v s m.type m.subclassOf m.derivedFrom =
      .error (.resolution (.missingBase m.type)) := by
  unfold resolve
  unfold Model.parent Json.orElse at hp
  cases hs : m.subclassOf.truthy with
  | true => simp [hs] at hp
  | false =>
    simp only [hs, Bool.false_eq_true, if_false] at hp ⊢
    rw [hp]
    rfl

theorem failsBy_resolve (hv : v.HasTexts) (ht : m.type.IsText) (hp : m.parent.AbsentOrText) :
    FailsBy IsTellable (resolve v s m.type m.subclassOf m.derivedFrom) := by
  cases hparent : m.parent.truthy with
  | true =>
    obtain ⟨base, hbase⟩ := (requires_resolve hv hparent).met (hp hparent)
    exact failsBy_ok hbase
  | false =>
    intro e he
    rw [resolve_of_absent hparent] at he
    exact ⟨_, (Except.error.inj he).symm, ResolutionError.tellable_missingBase ht.absentOrText⟩

/-- Under any settings a model without a parent is the only fault of resolution in its base. -/
theorem telling_resolve (ht : m.type.IsText) :
    FailsBy Telling (resolve v s m.type m.subclassOf m.derivedFrom) := by
  have hnamed (value : Json) : FailsBy IsMisuse (named v s value) := by
    unfold named
    refine (Json.requires_asText value).failsBy.bind fun text _ => ?_
    refine (v.failsBy_isFoundation value).bind fun found _ => ?_
    split <;> exact failsBy_pure _
  unfold resolve
  split
  · exact (hnamed _).imp fun _ => telling_of_isMisuse
  · split
    · refine FailsBy.imp ?_ fun _ => telling_of_isMisuse
      refine (v.failsBy_isFoundation m.derivedFrom).bind fun found _ => ?_
      split
      · exact hnamed _
      · exact failsBy_pure _
    · intro e he
      obtain rfl := throw_error_iff.mp he
      exact ((covers_telling v).resolution _).mpr
        (ResolutionError.tellable_missingBase ht.absentOrText)

theorem misuse_resolve (hv : v.HasTexts) (hp : ¬m.parent.AbsentOrText) :
    ∃ u, resolve v s m.type m.subclassOf m.derivedFrom = .error (.misuse u) := by
  obtain ⟨hparent, htext⟩ := Classical.not_imp.mp hp
  exact (requires_resolve hv hparent).unmet htext

end BaseClass

namespace MemberNames
variable {f : Field}

theorem exists_fixOne (hf : f.fieldName.IsText) (state : Sanitizer × Table) :
    ∃ state', fixOne state f = .ok state' := by
  obtain ⟨given, hgiven⟩ := hf
  unfold fixOne
  rw [hgiven]
  split
  · exact ⟨_, rfl⟩
  · exact ⟨state, rfl⟩

theorem exists_assignOne (hf : f.fieldName.IsText) (state : Sanitizer × Table) :
    ∃ state', assignOne state f = .ok state' := by
  obtain ⟨given, hgiven⟩ := hf
  have hsanitize : ∃ x, state.1.sanitize f.fieldName .upperCamel "_" = .ok x := by
    unfold Sanitizer.sanitize
    rw [hgiven]
    dsimp only
    split
    · exact ⟨_, rfl⟩
    · exact ⟨_, rfl⟩
  obtain ⟨⟨name, scope⟩, hsanitize⟩ := hsanitize
  unfold assignOne
  split
  · exact ⟨state, rfl⟩
  · rw [hsanitize, ok_bind, hgiven]
    exact ⟨_, rfl⟩

theorem exists_assign {m : Model} (hf : ∀ f ∈ m.fields, f.fieldName.IsText) (className : String) :
    ∃ t, assign m className = .ok t := by
  obtain ⟨fixed, hfixed⟩ :=
    exists_foldlM_ok (f := fixOne) (fun f hmem => exists_fixOne (hf f hmem))
      ((Sanitizer.ofRules Keyword.rules).use className, [])
  obtain ⟨assigned, hassigned⟩ :=
    exists_foldlM_ok (f := assignOne) (fun f hmem => exists_assignOne (hf f hmem)) fixed
  unfold assign
  simp only [hfixed, hassigned, ok_bind]
  exact ⟨_, rfl⟩

end MemberNames

/-! ## Definitions -/

structure Model.Named (m : Model) : Prop where
  type : m.type.IsText
  fields : ∀ f ∈ m.fields, f.fieldName.IsText

structure Enumeration.Textual (e : Enumeration) : Prop where
  type : e.type.IsText
  «namespace» : e.namespace.AbsentOrText
  values : ∀ value ∈ e.values, value.IsText

namespace Resolver
variable {r : Resolver} {m : Model}

theorem compileClass_of_resolve_error {e : Failure}
    (h : BaseClass.resolve r.tables.vocabulary r.settings m.type m.subclassOf m.derivedFrom =
      .error e) : (r.compileClass m).outcome = .error e := by
  unfold compileClass
  rw [Logged.outcome_bind, Logged.outcome_lift, h]
  rfl

theorem failsBy_compileClass {P : Failure → Prop} (hP : Covers P r.tables.vocabulary)
    (hm : m.Named) (hbase : FailsBy P
      (BaseClass.resolve r.tables.vocabulary r.settings m.type m.subclassOf m.derivedFrom)) :
    FailsBy P (r.compileClass m).outcome := by
  obtain ⟨name, hname⟩ := m.requires_shortName.met hm.type
  obtain ⟨names, hnames⟩ := MemberNames.exists_assign hm.fields (typeName name)
  unfold compileClass
  simp only [Logged.outcome_bind, Logged.outcome_lift, Logged.outcome_mapM, Logged.outcome_pure,
    hname, hnames, ok_bind]
  refine hbase.bind fun base _ => ?_
  refine FailsBy.bind (failsBy_mapM ?_) fun properties _ => failsBy_ok rfl
  intro f hf
  exact failsBy_compileField hP (hm.fields f hf) _ _

/-- The fault of a model can be told, located as it is. -/
theorem tellable_of_compileModel (hm : m.Named) {c : Compilation}
    (h : (r.compileModel m).outcome = .ok c) {e : ResolutionError} (he : c.error? = some e) :
    e.Tellable := by
  rcases compileModel_ok_iff.mp h with ⟨d, -, rfl⟩ | ⟨fault, hfault, rfl⟩
  · cases he
  · obtain rfl : fault.located m.type .null = e := Option.some.inj he
    have htelling := failsBy_compileClass (covers_telling r.tables.vocabulary) hm
      (BaseClass.telling_resolve hm.type) _ hfault
    exact (htelling fault rfl).located hm.type.absentOrText Json.absentOrText_null

variable (hv : r.tables.vocabulary.HasTexts)
include hv

theorem requires_compileModel (hm : m.Named) :
    Requires (r.compileModel m).outcome m.parent.AbsentOrText := by
  constructor
  · intro hp
    have hfails := failsBy_compileClass (covers_isTellable hv) hm
      (BaseClass.failsBy_resolve hv hm.type hp)
    cases h : (r.compileClass m).outcome with
    | ok d => exact ⟨_, compileModel_ok_iff.mpr (.inl ⟨d, h, rfl⟩)⟩
    | error e =>
      obtain ⟨fault, rfl, -⟩ := hfails e h
      exact ⟨_, compileModel_ok_iff.mpr (.inr ⟨fault, h, rfl⟩)⟩
  · intro hp
    obtain ⟨u, hu⟩ := BaseClass.misuse_resolve hv hp
    have hclass := compileClass_of_resolve_error hu
    refine ⟨u, ?_⟩
    unfold compileModel
    rw [Logged.outcome_bind, Logged.settled, ok_bind, hclass]
    rfl

theorem requires_compileEnum (e : Enumeration) : Requires (r.compileEnum e) e.Textual := by
  have hmembers : Requires (e.values.mapM compileMember) (∀ value ∈ e.values, value.IsText) := by
    refine requires_mapM fun value _ => ?_
    exact (Json.requires_asText value).bind_ok fun _ _ _ => ⟨_, rfl⟩
  have hparts : (∀ value ∈ e.values, value.IsText) ∧ e.type.IsText ∧ e.namespace.AbsentOrText ↔
      e.Textual :=
    ⟨fun ⟨hvalues, htype, hspace⟩ => ⟨htype, hspace, hvalues⟩,
      fun h => ⟨h.values, h.type, h.namespace⟩⟩
  unfold compileEnum
  refine Requires.congr ?_ hparts
  refine hmembers.bind fun _ members _ => e.requires_shortName.bind fun _ name _ => ?_
  exact (Vocabulary.requires_isFoundationNamespace hv e.namespace).bind_ok fun _ _ _ => ⟨_, rfl⟩

end Resolver
end TypedVocabulary
