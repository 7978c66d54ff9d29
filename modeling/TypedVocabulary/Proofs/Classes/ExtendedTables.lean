import TypedVocabulary.Proofs.Classes.CompiledClass
import TypedVocabulary.Proofs.Classes.ResolvedReference
import TypedVocabulary.Proofs.Schema.ExtendedSchema

/-! # Extended tables

References are asked of one table after the other, so a new entry may take over a reference that a
later table used to serve. It then has another type, but it has one: whatever is found in the tables
before is found in the extended ones, and what compiles against the first compiles against the
second, with the same names, into the same classes but for the types of their properties.
-/
namespace TypedVocabulary
open Attempt

/-- The same property but for its type and what depends on that. -/
def Property.Retyped (p p' : Property) : Prop :=
  ∃ type converter, p' = { p with type, converter, notices := type.allNotices }

def ClassDefinition.Retyped (c c' : ClassDefinition) : Prop :=
  ∃ properties, List.Forall₂ Property.Retyped c.properties properties ∧ c' = { c with properties }

def ClassDefinition.kinds (c : ClassDefinition) : List TypeKind :=
  c.properties.map fun p => p.type.kind

namespace Resolver
variable {r : Resolver} {t t' : LookupTables} {settings : Settings} {name key : String}
  {isExtension : Bool}

theorem knows_iff : r.knows name key = true ↔
    (ScalarKind.ofShortName? name).isSome = true ∨ (r.tables.enum? key).isSome = true ∨
      r.tables.hasModel name = true ∨ r.tables.vocabulary.isFoundation (.str key) = .ok true := by
  simp [knows, or_assoc]

theorem exists_resolves_iff :
    (∃ type, r.Resolves name key isExtension type) ↔ r.knows name key = true ∨
      r.tables.vocabulary.isFoundation (.str key) = .ok false ∧ isExtension = true := by
  rw [knows_iff]
  constructor
  · rintro ⟨type, h⟩
    cases h with
    | scalar hs => simp [hs]
    | foundationEnum _ he _ => simp [he]
    | localEnum _ he _ => simp [he]
    | model _ _ hm => simp [hm]
    | foundation _ _ _ hf => simp [hf]
    | unverified _ _ _ hf hx => exact .inr ⟨hf, hx⟩
  · intro h
    cases hs : ScalarKind.ofShortName? name with
    | some kind => exact ⟨_, .scalar hs⟩
    | none =>
      cases he : r.tables.enum? key with
      | some entry =>
        cases hx : entry.isExternal with
        | true => exact ⟨_, .foundationEnum hs he hx⟩
        | false => exact ⟨_, .localEnum hs he hx⟩
      | none =>
        cases hm : r.tables.hasModel name with
        | true => exact ⟨_, .model hs he hm⟩
        | false =>
          simp only [hs, he, hm, Option.isSome_none, Bool.false_eq_true, false_or] at h
          rcases h with hf | ⟨hf, hx⟩
          · exact ⟨_, .foundation hs he hm hf⟩
          · exact ⟨_, .unverified hs he hm hf hx⟩

section
variable (h : t.Extends t')
include h

theorem knows_extends (hknown : (⟨t, settings⟩ : Resolver).knows name key = true) :
    (⟨t', settings⟩ : Resolver).knows name key = true := by
  rw [knows_iff] at hknown ⊢
  refine hknown.imp_right (Or.imp (h.enum? key) (Or.imp (h.hasModel name) fun hf => ?_))
  simpa only [h.vocabulary] using hf

theorem resolveBase_extends {ref : TypeReference} {type : TypeExpr}
    (href : (⟨t, settings⟩ : Resolver).resolveBase ref isExtension = .ok type) :
    ∃ type', (⟨t', settings⟩ : Resolver).resolveBase ref isExtension = .ok type' := by
  obtain ⟨key, hkey, hresolves⟩ := resolveBase_ok_iff.mp href
  have hexists : ∃ type', (⟨t', settings⟩ : Resolver).Resolves ref.shortName key isExtension
      type' := by
    rw [exists_resolves_iff]
    refine (exists_resolves_iff.mp ⟨type, hresolves⟩).imp (knows_extends h) fun hunknown => ?_
    simpa only [h.vocabulary] using hunknown
  obtain ⟨type', hresolves'⟩ := hexists
  have hkey' : t'.vocabulary.compact ref.uri = .ok key := by
    rw [h.vocabulary]
    exact hkey
  exact ⟨type', resolveBase_ok_iff.mpr ⟨key, hkey', hresolves'⟩⟩

theorem resolvePure_extends {ref : TypeReference} {type : TypeExpr}
    (href : (⟨t, settings⟩ : Resolver).resolvePure ref isExtension = .ok type) :
    ∃ type', (⟨t', settings⟩ : Resolver).resolvePure ref isExtension = .ok type' := by
  obtain ⟨base, hbase, -⟩ := resolvePure_ok_iff.mp href
  obtain ⟨base', hbase'⟩ := resolveBase_extends h hbase
  exact ⟨_, resolvePure_ok_iff.mpr ⟨base', hbase', rfl⟩⟩

theorem compose_extends {f : Field} {type : TypeExpr}
    (hf : ((⟨t, settings⟩ : Resolver).compose f isExtension).outcome = .ok type) :
    ∃ type', ((⟨t', settings⟩ : Resolver).compose f isExtension).outcome = .ok type' := by
  obtain ⟨hsome, types, htypes, -⟩ := outcome_compose.mp hf
  have htypes' : ∃ types', f.references.mapM
      ((⟨t', settings⟩ : Resolver).resolvePure · isExtension) = .ok types' := by
    refine exists_mapM_ok fun ref href => ?_
    obtain ⟨type, -, htype⟩ := exists_of_mem_mapM htypes href
    exact resolvePure_extends h htype
  obtain ⟨types', htypes'⟩ := htypes'
  exact ⟨_, outcome_compose.mpr ⟨hsome, types', htypes', rfl⟩⟩

omit h in
theorem exists_key_of_compose {f : Field} {type : TypeExpr}
    (hf : (r.compose f isExtension).outcome = .ok type) {ref : TypeReference}
    (href : f.requiredType = some ref) :
    ∃ key, r.tables.vocabulary.compact ref.uri = .ok key := by
  obtain ⟨-, types, htypes, -⟩ := outcome_compose.mp hf
  have hmem : ref ∈ f.references := by
    unfold Field.references
    simp [href]
  obtain ⟨type, -, htype⟩ := exists_of_mem_mapM htypes hmem
  obtain ⟨base, hbase, -⟩ := resolvePure_ok_iff.mp htype
  obtain ⟨key, hkey, -⟩ := resolveBase_ok_iff.mp hbase
  exact ⟨key, hkey⟩

theorem compileField_extends {f : Field} {hasBase : Bool} {chosen : String} {p : Property}
    (hp : ((⟨t, settings⟩ : Resolver).compileField f hasBase chosen).outcome = .ok p) :
    ∃ p', ((⟨t', settings⟩ : Resolver).compileField f hasBase chosen).outcome = .ok p' ∧
      p.Retyped p' := by
  obtain ⟨type, name, converter, htype, hname, -, rfl⟩ := compileField_ok_iff.mp hp
  obtain ⟨type', htype'⟩ := compose_extends h htype
  have hconverter : ∃ converter', (if f.obsolete then .ok .none
      else (⟨t', settings⟩ : Resolver).converterFor f type') = .ok converter' := by
    split
    · exact ⟨_, rfl⟩
    · exact exists_converterFor_of_required type' fun ref => exists_key_of_compose htype'
  obtain ⟨converter', hconverter'⟩ := hconverter
  exact ⟨_, compileField_ok_iff.mpr ⟨type', name, converter', htype', hname, hconverter', rfl⟩,
    type', converter', rfl⟩

/-- Bases and names are no matter of the tables, so only the types of properties can change. -/
theorem compileClass_extends {m : Model} {c : ClassDefinition}
    (hc : ((⟨t, settings⟩ : Resolver).compileClass m).outcome = .ok c) :
    ∃ c', ((⟨t', settings⟩ : Resolver).compileClass m).outcome = .ok c' ∧ c.Retyped c' := by
  obtain ⟨base, shortName, names, hbase, hname, hnames, hproperties, hparts⟩ :=
    compileClass_ok_iff.mp hc
  dsimp only at hbase hproperties hparts
  obtain ⟨properties', hcompiled, hretyped⟩ := exists_forall₂_of_forall₂ hproperties
    fun f p hp => compileField_extends h hp
  refine ⟨{ c with properties := properties' }, ?_, properties', hretyped, rfl⟩
  have hbase' : BaseClass.resolve t'.vocabulary settings m.type m.subclassOf m.derivedFrom =
      .ok base := by
    rw [h.vocabulary]
    exact hbase
  exact compileClass_ok_iff.mpr
    ⟨base, shortName, names, hbase', hname, hnames, hcompiled, by rw [hparts]⟩

/-- Tables that answer alike for its key and its short name give a reference the same type, or the
same fault. -/
theorem resolve_of_sameAnswers {ref : TypeReference}
    (hkey : ∀ key, t.vocabulary.compact ref.uri = .ok key → t'.enum? key = t.enum? key)
    (hname : t'.hasModel ref.shortName = t.hasModel ref.shortName) :
    (⟨t', settings⟩ : Resolver).resolve ref isExtension =
      (⟨t, settings⟩ : Resolver).resolve ref isExtension := by
  have hbase : (⟨t', settings⟩ : Resolver).resolveBase ref isExtension =
      (⟨t, settings⟩ : Resolver).resolveBase ref isExtension := by
    unfold resolveBase foundationType unverifiedNotice
    cases hcompact : t.vocabulary.compact ref.uri with
    | error e => simp only [h.vocabulary, hcompact, error_bind]
    | ok key => simp only [h.vocabulary, hcompact, ok_bind, hkey key hcompact, hname]
  unfold resolve resolvePure
  rw [hbase]
  rfl

end

open LookupTables

/-- A schema that grows keeps what it had. It has tables if both of its parts have; a model that
compiles against the tables before compiles against those of the whole, as the same class but for
the types of its properties; and a reference that no added model shares its short name with, and no
added enumeration its key, resolves as it did. -/
theorem compiles_extended (settings : Settings) (v : Vocabulary) (s added s' : SchemaSet)
    (h : s.ExtendedBy added s') :
    ((∃ tables', readTables s' v = .ok tables') ↔
      (∃ tables, readTables s v = .ok tables) ∧ ∃ tables, readTables added v = .ok tables) ∧
    ∀ tables tables', readTables s v = .ok tables → readTables s' v = .ok tables' →
      let r : Resolver := ⟨tables, settings⟩
      let r' : Resolver := ⟨tables', settings⟩
      (∀ m c, (r.compileClass m).outcome = .ok c →
        ∃ c', (r'.compileClass m).outcome = .ok c' ∧ c.Retyped c') ∧
      (∀ m c, (r.compileModel m).outcome = .ok c → c.succeeded = true →
        ∃ c', (r'.compileModel m).outcome = .ok c' ∧ c'.succeeded = true) ∧
      ∀ ref isExtension, (∀ m ∈ added.models, m.shortName ≠ .ok ref.shortName) →
        (∀ e ∈ added.enums, ∀ key, v.compact ref.uri = .ok key → e.key v ≠ .ok key) →
        r'.resolve ref isExtension = r.resolve ref isExtension := by
  refine ⟨exists_readTables_extended h, ?_⟩
  intro tables tables' htables htables' r r'
  have hextends : tables.Extends tables' := extends_of_extendedBy h htables htables'
  refine ⟨fun m c hc => compileClass_extends hextends hc, ?_, ?_⟩
  · intro m c hc hsucceeded
    rcases compileModel_ok_iff.mp hc with ⟨d, hd, rfl⟩ | ⟨e, -, rfl⟩
    · obtain ⟨d', hd', -⟩ := compileClass_extends hextends hd
      exact ⟨_, compileModel_ok_iff.mpr (.inl ⟨d', hd', rfl⟩), rfl⟩
    · cases hsucceeded
  · intro ref isExtension hmodels henums
    apply resolve_of_sameAnswers hextends
    · intro key hkey
      rw [vocabulary_readTables htables] at hkey
      exact enum?_extended h htables htables' fun e he => henums e he key hkey
    · exact hasModel_extended h htables htables' hmodels

/-- An event of two types that the foundation vocabulary has. -/
def placedEvent : Model :=
  ⟨.str "Event", [.ofType "location" "https://schema.org/Place",
    .ofType "about" "https://schema.org/Thing"], .null, .str "https://schema.org/Event", []⟩

/-- A place that is put in front of the event takes over the reference to a place. The event still
compiles, and what it is about is what it was. -/
theorem compiles_extended_event :
    let settings := Settings.default
    let v := Vocabulary.standard
    let s : SchemaSet := ⟨[placedEvent], []⟩
    let place : Model := ⟨.str "Place", [], .null, .str "https://schema.org/Place", []⟩
    let status : Enumeration :=
      ⟨.str "Status", .str "https://openactive.io/", [.str "Open"], [], .null⟩
    let s' : SchemaSet := ⟨[place, placedEvent], [status]⟩
    s.ExtendedBy ⟨[place], [status]⟩ s' ∧
    ∃ tables tables' c c', readTables s v = .ok tables ∧ readTables s' v = .ok tables' ∧
      ((⟨tables, settings⟩ : Resolver).compileClass placedEvent).outcome = .ok c ∧
      ((⟨tables', settings⟩ : Resolver).compileClass placedEvent).outcome = .ok c' ∧
      c.Retyped c' ∧
      c.kinds = [.foundation, .foundation] ∧
      c'.kinds = [.model, .foundation] ∧
      (⟨tables', settings⟩ : Resolver).resolve (.ofText "https://schema.org/Thing") false =
        (⟨tables, settings⟩ : Resolver).resolve (.ofText "https://schema.org/Thing") false := by
  intro settings v s place status s'
  have hextended : s.ExtendedBy ⟨[place], [status]⟩ s' :=
    ⟨.right place (.left placedEvent .nil), .right status .nil⟩
  obtain ⟨c, hrun, hkinds⟩ : ∃ c, (do
      let tables ← readTables s v
      ((⟨tables, settings⟩ : Resolver).compileClass placedEvent).outcome) = .ok c ∧
        ClassDefinition.kinds c = [.foundation, .foundation] :=
    exists_ok_of_decide (by decide +kernel)
  obtain ⟨tables, htables, hc⟩ := bind_ok_iff.mp hrun
  obtain ⟨c', hrun', hkinds'⟩ : ∃ c', (do
      let tables ← readTables s' v
      ((⟨tables, settings⟩ : Resolver).compileClass placedEvent).outcome) = .ok c' ∧
        ClassDefinition.kinds c' = [.model, .foundation] :=
    exists_ok_of_decide (by decide +kernel)
  obtain ⟨tables', htables', hc'⟩ := bind_ok_iff.mp hrun'
  obtain ⟨hclass, -, hresolve⟩ :=
    (compiles_extended settings v s _ s' hextended).2 tables tables' htables htables'
  obtain ⟨c'', hc'', hretyped⟩ := hclass placedEvent c hc
  obtain rfl : c'' = c' := Except.ok.inj (hc''.symm.trans hc')
  refine ⟨hextended, tables, tables', c, c'', htables, htables', hc, hc'', hretyped, hkinds,
    hkinds', hresolve _ _ ?_ ?_⟩
  · intro m hm
    obtain rfl := List.mem_singleton.mp hm
    decide +kernel
  · intro e he key hkey hsame
    obtain rfl := List.mem_singleton.mp he
    have hthing : v.compact "https://schema.org/Thing" = .ok "schema:Thing" := by decide +kernel
    have hstatus : status.key v = .ok "oa:Status" := by decide +kernel
    obtain rfl : "schema:Thing" = key := Except.ok.inj (hthing.symm.trans hkey)
    exact absurd (Except.ok.inj (hstatus.symm.trans hsame)) (by decide)

end Resolver
end TypedVocabulary
