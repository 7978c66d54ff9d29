import TypedVocabulary.Proofs.Classes.ExtendedTables
import TypedVocabulary.Proofs.Classes.PropertyNames
import TypedVocabulary.Proofs.Classes.Spelling
import TypedVocabulary.Proofs.Classes.TellableFaults

/-! # Faults of compilation

A model compiles exactly if it has a parent and each of its fields a type. Otherwise it has one
fault, which is that of the first thing to go wrong: the parent, then the fields in their order, and
in a field its references in the order of the union. The rules below say which fault that is and
where it is located.
-/
namespace TypedVocabulary
open Attempt

def Model.HasParent (m : Model) : Prop := m.subclassOf.truthy = true ∨ m.derivedFrom.truthy = true

theorem Model.parent_truthy_iff {m : Model} : m.parent.truthy = true ↔ m.HasParent := by
  unfold parent HasParent Json.orElse
  cases hs : m.subclassOf.truthy with
  | true => simp [hs]
  | false => simp

namespace ResolutionError
variable {cause : ResolutionCause} {modelType fieldName : Json}

theorem located_self (e : ResolutionError) : e.located e.modelType e.fieldName = e := by
  simp [located, refine]

theorem located_field (h : fieldName.truthy = true) :
    (⟨cause, .null, .null⟩ : ResolutionError).located .null fieldName =
      ⟨cause, .null, fieldName⟩ := by
  unfold located refine
  rw [h]
  rfl

theorem located_model (h : modelType.truthy = true) :
    (⟨cause, .null, fieldName⟩ : ResolutionError).located modelType .null =
      ⟨cause, modelType, fieldName⟩ := by
  unfold located refine
  rw [h]
  rfl

end ResolutionError

namespace Resolver

/-! ## Rules -/

/-- A scalar, an enumeration, a model or the foundation vocabulary has the type. -/
def Matches (r : Resolver) (ref : TypeReference) : Prop :=
  ∃ key, r.tables.vocabulary.compact ref.uri = .ok key ∧ r.knows ref.shortName key = true

/-- A field has a type if it has references, and those of the vocabulary itself are all known. -/
structure HasType (r : Resolver) (f : Field) : Prop where
  references : f.references ≠ []
  known : f.isExtension = false → ∀ ref ∈ f.references, r.Matches ref

structure Compiles (r : Resolver) (m : Model) : Prop where
  parent : m.HasParent
  fields : ∀ f ∈ m.fields, r.HasType f

/-- Why a field has no type. -/
inductive FieldFault (r : Resolver) (f : Field) : ResolutionCause → Prop
  | emptyUnion (hrefs : f.references = []) : FieldFault r f (.emptyUnion f.fieldName)
  | unresolvedType {before after : List TypeReference} {ref : TypeReference} {key : String}
      (hx : f.isExtension = false) (hrefs : f.references = before ++ ref :: after)
      (hbefore : ∀ earlier ∈ before, r.Matches earlier)
      (hkey : r.tables.vocabulary.compact ref.uri = .ok key)
      (hunknown : r.knows ref.shortName key = false) :
      FieldFault r f (.unresolvedType (.str ref.shortName) (.str key))

/-- The first field without a type, and why it has none. -/
def FirstFault (r : Resolver) (m : Model) (f : Field) (cause : ResolutionCause) : Prop :=
  ∃ before after, m.fields = before ++ f :: after ∧
    (∀ earlier ∈ before, r.HasType earlier) ∧ r.FieldFault f cause

/-- Why a model has no class, and where. -/
inductive ModelFault (r : Resolver) (m : Model) : ResolutionError → Prop
  | missingBase (hparent : ¬m.HasParent) : ModelFault r m ⟨.missingBase m.type, m.type, .null⟩
  | field {f : Field} {cause : ResolutionCause} (hparent : m.HasParent)
      (hfirst : r.FirstFault m f cause) : ModelFault r m ⟨cause, m.type, f.fieldName⟩

variable {r : Resolver} {ref : TypeReference} {f : Field} {m : Model} {isExtension : Bool}
  {e : Failure}

theorem matches_iff {key : String} (hkey : r.tables.vocabulary.compact ref.uri = .ok key) :
    r.Matches ref ↔ r.knows ref.shortName key = true := by
  simp only [Matches, hkey, Except.ok.injEq, exists_eq_left']

theorem not_hasType_of_fieldFault {cause : ResolutionCause} (h : r.FieldFault f cause) :
    ¬r.HasType f := by
  intro hf
  cases h with
  | emptyUnion hrefs => exact hf.references hrefs
  | @unresolvedType before after ref key hx hsplit _ hkey hunknown =>
    have href : ref ∈ f.references := by simp [hsplit]
    cases hunknown.symm.trans ((matches_iff hkey).mp (hf.known hx ref href))

/-! ## References -/

section
variable (hv : r.tables.vocabulary.HasTexts)
include hv

theorem exists_resolvePure_iff :
    (∃ t, r.resolvePure ref isExtension = .ok t) ↔ isExtension = true ∨ r.Matches ref := by
  obtain ⟨key, hkey⟩ := Vocabulary.exists_compact hv ref.uri
  obtain ⟨found, hfound⟩ := Vocabulary.exists_isFoundation hv key
  have hresolves : (∃ t, r.resolvePure ref isExtension = .ok t) ↔
      ∃ t, r.Resolves ref.shortName key isExtension t := by
    simp [resolvePure_ok_iff, resolveBase_ok_iff, hkey]
  rw [hresolves, exists_resolves_iff, matches_iff hkey, or_comm, hfound]
  cases found with
  | false => simp
  | true =>
    have hknown : r.knows ref.shortName key = true := by simp [knows_iff, hfound]
    simp [hknown]

theorem resolvePure_error_iff :
    r.resolvePure ref isExtension = .error e ↔ isExtension = false ∧
      ∃ key, r.tables.vocabulary.compact ref.uri = .ok key ∧ r.knows ref.shortName key = false ∧
        e = .resolution (.unresolvedType ref.shortName key) := by
  obtain ⟨key, hkey⟩ := Vocabulary.exists_compact hv ref.uri
  obtain ⟨found, hfound⟩ := Vocabulary.exists_isFoundation hv key
  have hexists : (∃ t, r.resolvePure ref isExtension = .ok t) ↔
      isExtension = true ∨ r.knows ref.shortName key = true := by
    rw [exists_resolvePure_iff hv, matches_iff hkey]
  simp only [hkey, Except.ok.injEq, exists_eq_left']
  have htotal : (∃ t, r.resolveBase ref isExtension = .ok t) ∨ r.resolveBase ref isExtension = _ :=
    resolveBase_total hkey hfound
  rcases htotal with ⟨t, ht⟩ | herror
  · have hpure := resolvePure_ok_iff.mpr ⟨t, ht, rfl⟩
    have hknown := hexists.mp ⟨_, hpure⟩
    rw [hpure]
    constructor
    · intro h
      cases h
    · rintro ⟨hx, hunknown, -⟩
      simp [hx, hunknown] at hknown
  · have hpure : r.resolvePure ref isExtension =
        .error (.resolution (.unresolvedType ref.shortName key)) := by
      unfold resolvePure
      rw [herror, error_bind]
    rw [hpure] at hexists ⊢
    have hunknown : ¬(isExtension = true ∨ r.knows ref.shortName key = true) := by
      simpa using hexists
    rw [not_or, Bool.not_eq_true, Bool.not_eq_true] at hunknown
    rw [and_iff_right hunknown.1, and_iff_right hunknown.2, Except.error.injEq]
    exact eq_comm

/-! ## Fields -/

theorem exists_composeLocated_iff : (∃ t, (r.composeLocated f).outcome = .ok t) ↔ r.HasType f := by
  simp only [composeLocated_ok_iff, outcome_compose]
  constructor
  · rintro ⟨-, hrefs, types, htypes, -⟩
    refine ⟨hrefs, fun hx ref href => ?_⟩
    obtain ⟨t, -, ht⟩ := exists_of_mem_mapM htypes href
    exact ((exists_resolvePure_iff hv).mp ⟨t, ht⟩).resolve_left (by simp [hx])
  · intro h
    have hadmitted : ∀ ref ∈ f.references, f.isExtension = true ∨ r.Matches ref := by
      intro ref href
      cases hx : f.isExtension with
      | true => exact .inl rfl
      | false => exact .inr (h.known hx ref href)
    obtain ⟨types, htypes⟩ := exists_mapM_ok fun ref href =>
      (exists_resolvePure_iff hv).mpr (hadmitted ref href)
    exact ⟨_, h.references, types, htypes, rfl⟩

omit hv in
theorem compose_error_iff : (r.compose f isExtension).outcome = .error e ↔
    f.references = [] ∧ e = .resolution (.emptyUnion f.fieldName) ∨
      f.references.mapM (r.resolvePure · isExtension) = .error e := by
  unfold compose
  cases hrefs : f.references with
  | nil =>
    simp only [List.isEmpty_nil, if_true, Logged.outcome_bind, Logged.outcome_throw, error_bind,
      List.mapM_nil, pure_ne_error, or_false, true_and, Except.error.injEq]
    exact eq_comm
  | cons ref refs =>
    simp only [List.isEmpty_cons, Bool.false_eq_true, if_false, Logged.outcome_bind,
      Logged.outcome_mapM, outcome_resolve, Logged.outcome_pure, bind_error_iff]
    simp

omit hv in
theorem composeLocated_of_fault {fault : ResolutionError}
    (h : (r.compose f f.isExtension).outcome = .error (.resolution fault)) :
    (r.composeLocated f).outcome = .error (.resolution (fault.located .null f.fieldName)) := by
  unfold composeLocated
  simp only [h]

theorem composeLocated_error_iff (hf : f.fieldName.truthy = true) :
    (r.composeLocated f).outcome = .error e ↔
      ∃ cause, r.FieldFault f cause ∧ e = .resolution ⟨cause, .null, f.fieldName⟩ := by
  have hempty : (ResolutionError.emptyUnion f.fieldName).located .null f.fieldName =
      ⟨.emptyUnion f.fieldName, .null, f.fieldName⟩ := ResolutionError.located_self _
  have hunresolved (name key : String) :
      (ResolutionError.unresolvedType name key).located .null f.fieldName =
        ⟨.unresolvedType (.str name) (.str key), .null, f.fieldName⟩ :=
    ResolutionError.located_field hf
  constructor
  · intro h
    cases hcompose : (r.compose f f.isExtension).outcome with
    | ok t => cases h.symm.trans (composeLocated_ok_iff.mpr hcompose)
    | error e' =>
      rcases compose_error_iff.mp hcompose with ⟨hrefs, rfl⟩ | hrefs
      · rw [composeLocated_of_fault hcompose, hempty] at h
        exact ⟨_, .emptyUnion hrefs, (Except.error.inj h).symm⟩
      · obtain ⟨before, ref, after, hsplit, hbefore, href⟩ := mapM_error_iff.mp hrefs
        obtain ⟨hx, key, hkey, hunknown, rfl⟩ := (resolvePure_error_iff hv).mp href
        rw [composeLocated_of_fault hcompose, hunresolved] at h
        refine ⟨_, .unresolvedType hx hsplit (fun earlier hearlier => ?_) hkey hunknown,
          (Except.error.inj h).symm⟩
        have hknown := (exists_resolvePure_iff hv).mp (hbefore earlier hearlier)
        exact hknown.resolve_left (by simp [hx])
  · rintro ⟨cause, hcause, rfl⟩
    cases hcause with
    | emptyUnion hrefs => rw [← hempty, composeLocated_of_fault (compose_error_iff.mpr (.inl ⟨hrefs, rfl⟩))]
    | unresolvedType hx hsplit hbefore hkey hunknown =>
      have href := (resolvePure_error_iff hv).mpr ⟨hx, _, hkey, hunknown, rfl⟩
      have hloop := mapM_error_iff.mpr ⟨_, _, _, hsplit, fun earlier hearlier =>
        (exists_resolvePure_iff hv).mpr (.inr (hbefore earlier hearlier)), href⟩
      rw [← hunresolved, composeLocated_of_fault (compose_error_iff.mpr (.inr hloop))]

theorem compileField_error_iff (hf : f.fieldName.IsText) (hasBase : Bool) (chosen : String) :
    (r.compileField f hasBase chosen).outcome = .error e ↔
      (r.composeLocated f).outcome = .error e := by
  obtain ⟨given, hgiven⟩ := hf
  have hconverter (type : TypeExpr) : ∃ converter, r.converterFor f type = .ok converter :=
    exists_converterFor_of_required type fun ref _ => Vocabulary.exists_compact hv ref.uri
  unfold compileField
  rw [Logged.outcome_bind]
  refine bind_error_iff_of_total fun type => ?_
  obtain ⟨converter, hconverter⟩ := hconverter type
  cases chosen.isEmpty <;> cases f.obsolete <;>
    simp only [if_true, if_false, Bool.false_eq_true, Logged.outcome_bind, Logged.outcome_pure,
      Logged.outcome_lift, hgiven, Json.asOperand_str, Except.map, hconverter, ok_bind] <;>
    exact ⟨_, rfl⟩

theorem exists_compileField_iff (hf : f.fieldName.IsText) (hasBase : Bool) (chosen : String) :
    (∃ p, (r.compileField f hasBase chosen).outcome = .ok p) ↔ r.HasType f :=
  (exists_ok_iff_of_error_iff fun _ => compileField_error_iff hv hf hasBase chosen).trans
    (exists_composeLocated_iff hv)

/-! ## Models -/

theorem resolve_error_iff (hp : m.parent.AbsentOrText) :
    BaseClass.resolve r.tables.vocabulary r.settings m.type m.subclassOf m.derivedFrom = .error e ↔
      ¬m.HasParent ∧ e = .resolution (.missingBase m.type) := by
  rw [← Model.parent_truthy_iff]
  cases hparent : m.parent.truthy with
  | true =>
    obtain ⟨base, hbase⟩ :=
      (BaseClass.requires_resolve (s := r.settings) hv hparent).met (hp hparent)
    simp [hbase]
  | false =>
    rw [BaseClass.resolve_of_absent hparent, Except.error.injEq]
    simp [eq_comm]

theorem exists_resolve_iff (hp : m.parent.AbsentOrText) :
    (∃ base, BaseClass.resolve r.tables.vocabulary r.settings m.type m.subclassOf m.derivedFrom =
      .ok base) ↔ m.HasParent := by
  constructor
  · rintro ⟨base, hbase⟩
    by_contra hparent
    cases hbase.symm.trans ((resolve_error_iff hv hp).mpr ⟨hparent, rfl⟩)
  · intro hparent
    cases hbase : BaseClass.resolve r.tables.vocabulary r.settings m.type m.subclassOf
        m.derivedFrom with
    | ok base => exact ⟨base, rfl⟩
    | error e => exact absurd hparent ((resolve_error_iff hv hp).mp hbase).1

theorem compileFields_error_iff (htexts : ∀ f ∈ m.fields, f.fieldName.IsText)
    (hf : ∀ f ∈ m.fields, f.fieldName.truthy = true) (hasBase : Bool) (chosen : Field → String) :
    m.fields.mapM (fun f => (r.compileField f hasBase (chosen f)).outcome) = .error e ↔
      ∃ f cause, r.FirstFault m f cause ∧ e = .resolution ⟨cause, .null, f.fieldName⟩ := by
  rw [mapM_error_iff]
  constructor
  · rintro ⟨before, f, after, hsplit, hbefore, herror⟩
    rw [hsplit] at htexts hf
    have hmem : f ∈ before ++ f :: after := by simp
    rw [compileField_error_iff hv (htexts f hmem)] at herror
    obtain ⟨cause, hcause, rfl⟩ := (composeLocated_error_iff hv (hf f hmem)).mp herror
    refine ⟨f, cause, ⟨before, after, hsplit, fun earlier hearlier => ?_, hcause⟩, rfl⟩
    have htext := htexts earlier (List.mem_append_left _ hearlier)
    exact (exists_compileField_iff hv htext hasBase _).mp (hbefore earlier hearlier)
  · rintro ⟨f, cause, ⟨before, after, hsplit, hbefore, hcause⟩, rfl⟩
    rw [hsplit] at htexts hf
    have hmem : f ∈ before ++ f :: after := by simp
    refine ⟨before, f, after, hsplit, fun earlier hearlier => ?_, ?_⟩
    · have htext := htexts earlier (List.mem_append_left _ hearlier)
      exact (exists_compileField_iff hv htext hasBase _).mpr (hbefore earlier hearlier)
    · rw [compileField_error_iff hv (htexts f hmem)]
      exact (composeLocated_error_iff hv (hf f hmem)).mpr ⟨cause, hcause, rfl⟩

theorem compileClass_error_iff (hm : m.Named) (hp : m.parent.AbsentOrText)
    (hf : ∀ f ∈ m.fields, f.fieldName.truthy = true) :
    (r.compileClass m).outcome = .error e ↔
      ¬m.HasParent ∧ e = .resolution (.missingBase m.type) ∨ m.HasParent ∧
        ∃ f cause, r.FirstFault m f cause ∧ e = .resolution ⟨cause, .null, f.fieldName⟩ := by
  obtain ⟨name, hname⟩ := m.requires_shortName.met hm.type
  obtain ⟨names, hnames⟩ := MemberNames.exists_assign hm.fields (typeName name)
  unfold compileClass
  simp only [Logged.outcome_bind, Logged.outcome_lift, Logged.outcome_mapM, Logged.outcome_pure,
    hname, hnames, ok_bind]
  rw [bind_error_iff, resolve_error_iff hv hp]
  simp only [bind_error_iff_of_total fun properties => ⟨_, rfl⟩,
    compileFields_error_iff hv hm.fields hf, exists_and_right, exists_resolve_iff hv hp]

/-- Of all faults only those of the model are reported, with its type for their place. -/
theorem compileModel_error_iff (hm : m.Named) (hp : m.parent.AbsentOrText)
    (ht : m.type.truthy = true) (hf : ∀ f ∈ m.fields, f.fieldName.truthy = true)
    {fault : ResolutionError} :
    (r.compileModel m).outcome = .ok ⟨m.type, [], .error fault⟩ ↔ r.ModelFault m fault := by
  have hbase : (ResolutionError.missingBase m.type).located m.type .null =
      ⟨.missingBase m.type, m.type, .null⟩ := ResolutionError.located_self _
  have hclass : (r.compileModel m).outcome = .ok ⟨m.type, [], .error fault⟩ ↔
      ∃ e, (r.compileClass m).outcome = .error (.resolution e) ∧
        fault = e.located m.type .null := by
    simp [compileModel_ok_iff]
  rw [hclass]
  simp only [compileClass_error_iff hv hm hp hf]
  constructor
  · rintro ⟨e, ⟨hparent, he⟩ | ⟨hparent, f, cause, hfirst, he⟩, rfl⟩
    · cases he
      rw [hbase]
      exact .missingBase hparent
    · cases he
      rw [ResolutionError.located_model ht]
      exact .field hparent hfirst
  · intro h
    cases h with
    | missingBase hparent => exact ⟨_, .inl ⟨hparent, rfl⟩, hbase.symm⟩
    | field hparent hfirst =>
      exact ⟨_, .inr ⟨hparent, _, _, hfirst, rfl⟩, (ResolutionError.located_model ht).symm⟩

theorem exists_compileClass_iff (hm : m.Named) (hp : m.parent.AbsentOrText)
    (hf : ∀ f ∈ m.fields, f.fieldName.truthy = true) :
    (∃ c, (r.compileClass m).outcome = .ok c) ↔ r.Compiles m := by
  constructor
  · rintro ⟨c, hc⟩
    obtain ⟨base, shortName, names, hbase, -, -, hproperties, -⟩ := compileClass_ok_iff.mp hc
    refine ⟨(exists_resolve_iff hv hp).mp ⟨base, hbase⟩, fun f hmem => ?_⟩
    obtain ⟨p, -, hp⟩ := exists_right_of_forall₂ hproperties hmem
    exact (exists_compileField_iff hv (hm.fields f hmem) _ _).mp ⟨p, hp⟩
  · intro h
    cases hclass : (r.compileClass m).outcome with
    | ok c => exact ⟨c, rfl⟩
    | error e =>
      have herror := (compileClass_error_iff hv hm hp hf).mp hclass
      rcases herror with ⟨hparent, -⟩ | ⟨-, f, cause, ⟨before, after, hsplit, -, hcause⟩, -⟩
      · exact absurd h.parent hparent
      · exact absurd (h.fields f (by simp [hsplit])) (not_hasType_of_fieldFault hcause)

end

theorem fieldNames_of_compileClass {c : ClassDefinition} (h : (r.compileClass m).outcome = .ok c) :
    c.properties.map Property.fieldName = m.fields.map Field.fieldName :=
  map_eq_map_of_forall₂ (carries_of_compileClass h) fun _ _ hp => hp.fieldName

/-! ## Places -/

section
variable {type name : String} (ht : type ≠ "")
include ht

theorem truthy_of_ne_empty : (Json.str type).truthy = true := by
  simpa [Json.truthy] using ht

theorem location_of_type (cause : ResolutionCause) :
    (⟨cause, .str type, .null⟩ : ResolutionError).location = .ok type := by
  unfold ResolutionError.location
  rw [truthy_of_ne_empty ht]
  rfl

theorem location_of_field (cause : ResolutionCause) (hn : name ≠ "") :
    (⟨cause, .str type, .str name⟩ : ResolutionError).location = .ok (type ++ "." ++ name) := by
  unfold ResolutionError.location
  rw [truthy_of_ne_empty ht, truthy_of_ne_empty hn]
  rfl

theorem message_of_field (cause : ResolutionCause) (hn : name ≠ "") :
    (⟨cause, .str type, .str name⟩ : ResolutionError).message =
      .ok (type ++ "." ++ name ++ ": " ++ cause.message.display) := by
  have hplace : type ++ "." ++ name ≠ "" := by
    intro hempty
    have hlength := congrArg String.length hempty
    simp at hlength
  unfold ResolutionError.message
  rw [location_of_field ht cause hn]
  exact if_neg hplace

end

/-- A model compiles, with a property for each field in their order, exactly if it has a parent and
each field a type. Otherwise it has a fault. Which one that is follows the rules, and its text
begins with its place. -/
theorem compileModel_by_rule (r : Resolver) (m : Model) {type : String}
    (hv : r.tables.vocabulary.HasTexts) (ht : m.type = .str type) (hne : type ≠ "")
    (hf : ∀ f ∈ m.fields, ∃ name, name ≠ "" ∧ f.fieldName = .str name)
    (hp : m.parent.AbsentOrText) :
    ((∃ c : ClassDefinition,
        (r.compileModel m).outcome = .ok ⟨m.type, c.notices, .ok (some (.ofClass c))⟩ ∧
        c.properties.map Property.fieldName = m.fields.map Field.fieldName) ↔ r.Compiles m) ∧
      (¬r.Compiles m → ∃ fault, (r.compileModel m).outcome = .ok ⟨m.type, [], .error fault⟩) ∧
      (∀ fault, (r.compileModel m).outcome = .ok ⟨m.type, [], .error fault⟩ ↔
        r.ModelFault m fault) ∧
      ∀ fault, r.ModelFault m fault →
        fault.fieldName = .null ∧ fault.location = .ok type ∨
          ∃ name, fault.fieldName = .str name ∧ fault.location = .ok (type ++ "." ++ name) ∧
            fault.message = .ok (type ++ "." ++ name ++ ": " ++ fault.cause.message.display) := by
  have hm : m.Named := by
    refine ⟨⟨type, ht⟩, fun f hmem => ?_⟩
    obtain ⟨name, -, hname⟩ := hf f hmem
    exact ⟨name, hname⟩
  have htype : m.type.truthy = true := ht ▸ truthy_of_ne_empty hne
  have hfields : ∀ f ∈ m.fields, f.fieldName.truthy = true := by
    intro f hmem
    obtain ⟨name, hn, hname⟩ := hf f hmem
    exact hname ▸ truthy_of_ne_empty hn
  have hclass := exists_compileClass_iff hv hm hp hfields
  refine ⟨?_, fun hnot => ?_, fun fault => compileModel_error_iff hv hm hp htype hfields,
    fun fault hfault => ?_⟩
  · rw [← hclass]
    constructor
    · rintro ⟨c, hc, -⟩
      rcases compileModel_ok_iff.mp hc with ⟨d, hd, -⟩ | ⟨e, -, he⟩
      · exact ⟨d, hd⟩
      · simp at he
    · rintro ⟨c, hc⟩
      exact ⟨c, compileModel_ok_iff.mpr (.inl ⟨c, hc, rfl⟩), fieldNames_of_compileClass hc⟩
  · obtain ⟨c, hc⟩ := (requires_compileModel hv hm).met hp
    rcases compileModel_ok_iff.mp hc with ⟨d, hd, -⟩ | ⟨e, -, rfl⟩
    · exact absurd (hclass.mp ⟨d, hd⟩) hnot
    · exact ⟨_, hc⟩
  · cases hfault with
    | missingBase _ =>
      rw [ht]
      exact .inl ⟨rfl, location_of_type hne _⟩
    | @field f cause _ hfirst =>
      obtain ⟨before, after, hsplit, -, -⟩ := hfirst
      obtain ⟨name, hn, hname⟩ := hf f (by simp [hsplit])
      rw [ht, hname]
      exact .inr ⟨name, rfl, location_of_field hne cause hn, message_of_field hne cause hn⟩

/-- The first field is sound and the third has no type at all, but the fault is that of the second,
at the reference that nothing knows. Without these two fields the model compiles. -/
theorem compileModel_by_rule_place :
    let r : Resolver := ⟨⟨[], [], Vocabulary.standard⟩, Settings.default⟩
    let text := TypeReference.ofText "https://schema.org/Text"
    let level := Field.ofType "level" "https://schema.org/Text"
    let place : Field :=
      { Field.ofType "place" "https://example.org/Nowhere" with alternativeTypes := [text] }
    let gap : Field := { level with fieldName := .str "gap", requiredType := none }
    (∃ c : ClassDefinition, (r.compileModel (eventOf [level])).outcome =
        .ok ⟨.str "Event", c.notices, .ok (some (.ofClass c))⟩ ∧
      c.properties.map Property.fieldName = [.str "level"]) ∧
    ∃ fault, (r.compileModel (eventOf [level, place, gap])).outcome =
        .ok ⟨.str "Event", [], .error fault⟩ ∧
      fault.message = .ok ("Event.place: Unrecognised type or enum referenced: Nowhere, " ++
        "https://example.org/Nowhere") := by
  intro r text level place gap
  have hv : r.tables.vocabulary.HasTexts := Vocabulary.hasTexts_standard
  have hparent (fields : List Field) : (eventOf fields).parent.AbsentOrText := fun _ => ⟨_, rfl⟩
  have htext : r.Matches text := ⟨"schema:Text", by decide +kernel, by decide +kernel⟩
  have hlevel : r.HasType level := by
    refine ⟨by simp [level, Field.ofType, Field.references], fun _ ref href => ?_⟩
    obtain rfl : ref = text := by simpa [level, Field.ofType, Field.references] using href
    exact htext
  constructor
  · refine (compileModel_by_rule r (eventOf [level]) hv rfl (by decide) ?_ (hparent _)).1.mpr
      ⟨.inr rfl, ?_⟩
    · simp [eventOf, level, Field.ofType]
    · simpa [eventOf] using hlevel
  · have hfault : r.ModelFault (eventOf [level, place, gap])
        ⟨.unresolvedType (.str "Nowhere") (.str "https://example.org/Nowhere"), .str "Event",
          .str "place"⟩ := by
      have hplace : r.FieldFault place
          (.unresolvedType (.str "Nowhere") (.str "https://example.org/Nowhere")) :=
        @FieldFault.unresolvedType r place [text] []
          (TypeReference.ofText "https://example.org/Nowhere") _ rfl rfl (by simpa using htext)
          (by decide +kernel) (by decide +kernel)
      have hbefore : ∀ earlier ∈ [level], r.HasType earlier := by simpa using hlevel
      exact .field (.inr rfl) ⟨[level], [gap], rfl, hbefore, hplace⟩
    obtain ⟨-, -, hfaults, -⟩ := compileModel_by_rule r (eventOf [level, place, gap]) hv rfl
      (by decide) (by simp [eventOf, level, place, gap, Field.ofType]) (hparent _)
    exact ⟨_, (hfaults _).mpr hfault, by decide +kernel⟩

end Resolver
end TypedVocabulary
