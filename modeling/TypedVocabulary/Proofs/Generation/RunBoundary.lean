import TypedVocabulary.Proofs.Classes.TellableFaults
import TypedVocabulary.Proofs.Classes.WordedType
import TypedVocabulary.Proofs.Generation.Files
import TypedVocabulary.Proofs.Generation.Runs
import TypedVocabulary.Proofs.Schema.Lookup
import TypedVocabulary.Schema.Document

/-! # The boundary of a run

A run under typed settings ends in a report if the schema is textual: all names in it are texts, and
so are its namespaces, its values and the parents of its models, as far as they are given. Documents
are not asked for this when they are read, and a run that comes upon a value of another kind is a
misuse, which it passes on. Each stage is gone through for what it requires of the schema.
-/
namespace TypedVocabulary
open Attempt

structure Model.Textual (m : Model) : Prop where
  named : m.Named
  parent : m.parent.AbsentOrText

structure SchemaSet.Textual (s : SchemaSet) : Prop where
  models : ∀ m ∈ s.models, m.Textual
  enums : ∀ e ∈ s.enums, e.Textual

theorem LookupTables.isText_of_readTables {s : SchemaSet} {v : Vocabulary} {tables : LookupTables}
    (h : readTables s v = .ok tables) {m : Model} (hm : m ∈ s.models) : m.type.IsText := by
  unfold readTables at h
  obtain ⟨_, -, h⟩ := bind_ok_iff.mp h
  obtain ⟨names, hnames, -⟩ := bind_ok_iff.mp h
  obtain ⟨name, -, hname⟩ := exists_right_of_forall₂ (mapM_ok_iff.mp hnames) hm
  exact m.requires_shortName.ok_iff.mp ⟨name, hname⟩

namespace Resolver
variable {r : Resolver} {s : SchemaSet} {workers : Json}

theorem requires_compileSchema (hv : r.tables.vocabulary.HasTexts)
    (hworkers : ∃ u, checkWorkers workers = .ok u) (hm : ∀ m ∈ s.models, m.Named) :
    Requires (r.compileSchema s workers).outcome
      ((∀ e ∈ s.enums, e.Textual) ∧ ∀ m ∈ s.models, m.parent.AbsentOrText) := by
  have henum (e : Enumeration) : Requires (r.compileEnumOutcome e) e.Textual :=
    (requires_compileEnum hv e).bind_ok fun _ _ _ => ⟨_, rfl⟩
  obtain ⟨u, hu⟩ := hworkers
  unfold compileSchema
  simp only [Logged.outcome_bind, Logged.outcome_lift, Logged.outcome_mapM, Logged.outcome_pure,
    Logged.outcome_write, hu, ok_bind]
  refine (requires_mapM fun e _ => henum e).bind fun _ enums _ => ?_
  exact (requires_mapM fun m hmem => requires_compileModel hv (hm m hmem)).bind_ok
    fun _ _ _ => ⟨_, rfl⟩

end Resolver

namespace DotNet
variable {settings : Settings} {templates : TemplateStore} {s : SchemaSet}

def FieldsNamed (s : SchemaSet) : Prop := ∀ m ∈ s.models, ∀ f ∈ m.fields, f.fieldName.IsText

theorem failsBy_decodeContent (content : FileContent) :
    FailsBy IsMisuse (FileTree.decodeContent content) := by
  unfold FileTree.decodeContent
  split
  · exact failsBy_ok rfl
  · split
    · exact failsBy_ok rfl
    · intro e he
      exact ⟨_, (Except.error.inj he).symm⟩

theorem failsBy_text? (templates : TemplateStore) (name : String) :
    FailsBy IsMisuse (templates.text? name) := by
  unfold TemplateStore.text?
  split
  · exact ((Json.requires_asOperand _).map some).failsBy
  · split
    · exact failsBy_ok rfl
    · split
      · split
        · exact (failsBy_decodeContent _).map some
        · exact failsBy_ok rfl
      · exact failsBy_ok rfl

theorem requires_checkTemplates (templates : TemplateStore) :
    Requires (checkTemplates templates) (∃ u, checkTemplates templates = .ok u) := by
  refine FailsBy.requires ?_
  unfold checkTemplates
  refine (failsBy_text? templates _).bind fun _ _ => ?_
  exact (failsBy_text? templates _).bind fun _ _ => failsBy_pure _

/-- What a run looks at before it compiles: the names of fields and the templates. -/
structure Checked (templates : TemplateStore) (s : SchemaSet) : Prop where
  fields : FieldsNamed s
  templates : ∃ u, checkTemplates templates = .ok u

theorem requires_validate (templates : TemplateStore) (s : SchemaSet) :
    Requires (validate templates s) (Checked templates s) := by
  have hmodel (m : Model) : Requires (modelWarnings m) (∀ f ∈ m.fields, f.fieldName.IsText) := by
    have hnames : Requires (m.fields.mapM fun f => f.fieldName.asOperand.map typeName)
        (∀ f ∈ m.fields, f.fieldName.IsText) :=
      requires_mapM fun f _ => (Json.requires_asOperand f.fieldName).map typeName
    unfold modelWarnings
    exact hnames.bind_ok fun _ _ _ => ⟨_, rfl⟩
  have hchecked : FieldsNamed s ∧ (∃ u, checkTemplates templates = .ok u) ↔ Checked templates s :=
    ⟨fun h => ⟨h.1, h.2⟩, fun h => ⟨h.fields, h.templates⟩⟩
  unfold validate
  refine Requires.congr ?_ hchecked
  refine (requires_mapM fun m _ => hmodel m).bind fun _ warnings _ => ?_
  exact (requires_checkTemplates templates).bind_ok fun _ _ _ => ⟨_, rfl⟩

theorem exists_checkWorkers (hs : settings.Typed) :
    ∃ u, Resolver.checkWorkers settings.maxWorkers = .ok u := by
  rcases hs.maxWorkers with hnull | ⟨n, hn⟩
  · rw [hnull]
    exact ⟨(), rfl⟩
  · rw [hn]
    unfold Resolver.checkWorkers
    split
    · exact ⟨(), rfl⟩
    · exact ⟨(), rfl⟩

theorem hasTexts_readTables (hs : settings.Typed) {v : Vocabulary}
    (hvocabulary : settings.vocabulary = .ok v) {tables : LookupTables}
    (h : LookupTables.readTables s v = .ok tables) : tables.vocabulary.HasTexts := by
  obtain ⟨v', hvocabulary', hv⟩ := hs.exists_vocabulary
  obtain rfl : v' = v := Except.ok.inj (hvocabulary'.symm.trans hvocabulary)
  rw [LookupTables.vocabulary_readTables h]
  exact hv

theorem textual_iff (hf : FieldsNamed s) :
    ((∀ e ∈ s.enums, e.type.IsText ∧ e.namespace.AbsentOrText) ∧
        ∀ m ∈ s.models, m.type.IsText) ∧
      (∀ e ∈ s.enums, e.Textual) ∧ (∀ m ∈ s.models, m.parent.AbsentOrText) ↔ s.Textual := by
  constructor
  · rintro ⟨⟨-, htypes⟩, henums, hparents⟩
    exact ⟨fun m hm => ⟨⟨htypes m hm, hf m hm⟩, hparents m hm⟩, henums⟩
  · intro h
    exact ⟨⟨fun e he => ⟨(h.enums e he).type, (h.enums e he).namespace⟩,
        fun m hm => (h.models m hm).named.type⟩,
      h.enums, fun m hm => (h.models m hm).parent⟩

theorem requires_compile (hs : settings.Typed) (hf : FieldsNamed s) :
    Requires (compile settings s).outcome s.Textual := by
  obtain ⟨v, hvocabulary, hv⟩ := hs.exists_vocabulary
  unfold compile
  simp only [Logged.outcome_bind, Logged.outcome_lift, LookupTables.outcome_build, hvocabulary,
    ok_bind]
  refine Requires.congr ?_ (textual_iff hf)
  refine (LookupTables.requires_readTables hv s).bind fun hnames tables htables => ?_
  exact Resolver.requires_compileSchema (hasTexts_readTables hs hvocabulary htables)
    (exists_checkWorkers hs) fun m hm => ⟨hnames.2 m hm, hf m hm⟩

/-! ## Reports -/

variable {results : List Compilation}

theorem tellable_of_compile (hf : FieldsNamed s) (h : (compile settings s).outcome = .ok results) :
    ∀ e ∈ results.filterMap Compilation.error?, e.Tellable := by
  obtain ⟨v, tables, -, htables, hresults⟩ := compile_ok_iff.mp h
  intro e he
  obtain ⟨c, hc, hce⟩ := List.mem_filterMap.mp he
  rcases Resolver.mem_compileSchema hresults hc with ⟨_, -, d, -, rfl⟩ | ⟨m, hm, hmodel⟩
  · cases hce
  · have htype : m.type.IsText := LookupTables.isText_of_readTables htables hm
    exact Resolver.tellable_of_compileModel ⟨htype, hf m hm⟩ hmodel hce

theorem worded_of_compile (hs : settings.Typed) (h : (compile settings s).outcome = .ok results)
    {c : Compilation} (hc : c ∈ results) {d : ClassDefinition}
    (hd : c.outcome = .ok (some (.ofClass d))) : d.Worded := by
  obtain ⟨v, tables, -, -, hresults⟩ := compile_ok_iff.mp h
  rcases Resolver.mem_compileSchema hresults hc with ⟨_, -, e, -, rfl⟩ | ⟨m, -, hmodel⟩
  · cases hd
  · rcases Resolver.compileModel_ok_iff.mp hmodel with ⟨d', hclass, rfl⟩ | ⟨fault, -, rfl⟩
    · obtain rfl : d' = d := Definition.ofClass.inj (Option.some.inj (Except.ok.inj hd))
      exact Resolver.worded_compileClass hs hclass
    · cases hd

def IsTemplateFault (f : Failure) : Prop := ∃ e, f = .template e

theorem failsBy_renderTemplate {name : String} {context : Template.Context}
    (ht : ∃ text, templates.text? name = .ok text)
    (hself : context.find? Template.selfName = none) :
    FailsBy IsTemplateFault (templates.render name context) := by
  obtain ⟨text, htext⟩ := ht
  unfold TemplateStore.render TemplateStore.get
  rw [htext, ok_bind]
  cases text with
  | none =>
    intro e he
    exact ⟨_, (Except.error.inj he).symm⟩
  | some text =>
    intro e he
    have hrender : (Template.ofText text).render (some name) context = .error e := he
    unfold Template.render at hrender
    rw [hself, Option.isSome_none, if_neg Bool.false_ne_true] at hrender
    cases hfill : (Template.ofText text).fill (some name) context with
    | ok filled =>
      rw [hfill] at hrender
      cases hrender
    | error cause =>
      rw [hfill] at hrender
      exact ⟨_, (Except.error.inj hrender).symm⟩

theorem failsBy_source (hs : settings.Typed) (ht : ∃ u, checkTemplates templates = .ok u)
    {d : Definition} (hd : ∀ c, d = .ofClass c → c.Worded) :
    FailsBy IsTemplateFault (source settings templates d) := by
  obtain ⟨u, hu⟩ := ht
  unfold checkTemplates at hu
  obtain ⟨classText, hclassText, hu⟩ := bind_ok_iff.mp hu
  obtain ⟨enumText, henumText, -⟩ := bind_ok_iff.mp hu
  cases d with
  | ofClass c =>
    obtain ⟨view, hview⟩ := SourceText.exists_classView hs (hd c rfl)
    unfold source SourceText.ofClass
    simp only [hview, ok_bind]
    split
    · exact (failsBy_renderTemplate ⟨classText, hclassText⟩ rfl).bind fun _ _ => failsBy_pure _
    · exact failsBy_pure _
  | ofEnum e =>
    unfold source SourceText.ofEnum
    dsimp only
    split
    · exact (failsBy_renderTemplate ⟨enumText, henumText⟩ rfl).bind fun _ _ => failsBy_pure _
    · exact failsBy_pure _

theorem failsBy_render (hs : settings.Typed) (ht : ∃ u, checkTemplates templates = .ok u)
    (h : (compile settings s).outcome = .ok results) :
    FailsBy IsTemplateFault (render settings templates results).outcome := by
  unfold render
  rw [outcome_renderAll]
  refine FailsBy.bind (failsBy_mapM ?_) fun texts _ => failsBy_pure _
  rintro ⟨path, d⟩ hplan
  obtain ⟨c, hc, hd, -⟩ := mem_plan_iff.mp hplan
  have hworded (k : ClassDefinition) (hk : d = .ofClass k) : k.Worded :=
    worded_of_compile hs h hc (hk ▸ hd)
  exact (failsBy_source hs ht hworded).bind fun _ _ => failsBy_pure _

end DotNet

namespace Generator
variable {settings : Settings} {templates : TemplateStore} {s : SchemaSet}

theorem exists_faultText {e : ResolutionError} (h : e.Tellable) : ∃ text, faultText e = .ok text := by
  obtain ⟨text, htext⟩ := h.exists_message
  unfold faultText Attempt.ofMisuse
  rw [htext]
  exact ⟨text, rfl⟩

theorem outcome_recordFaults {errors : List ResolutionError} (h : ∀ e ∈ errors, e.Tellable) :
    (recordFaults errors).outcome = .ok () := by
  refine Logged.outcome_forM _ ?_
  intro e he
  obtain ⟨text, htext⟩ := exists_faultText (h e he)
  rw [Logged.outcome_bind, Logged.outcome_lift, htext]
  rfl

section
variable {g : Generator} {results : List Compilation} {validation : List String}
  (hvalidate : g.validate s = .ok validation) (hcompile : (g.compile s).outcome = .ok results)
include hvalidate hcompile

theorem attempt_of_no_fault (hfaults : results.filterMap Compilation.error? = []) :
    ∃ warnings, (g.attemptRun s).outcome = (g.renderReport s results [] warnings).outcome := by
  refine ⟨validation ++ results.flatMap Compilation.notices, ?_⟩
  unfold attemptRun
  simp only [Logged.outcome_bind, Logged.outcome_lift, hvalidate, hcompile, ok_bind, hfaults]
  rfl

variable {first : ResolutionError} {others : List ResolutionError}
  (hfaults : results.filterMap Compilation.error? = first :: others)
  (htellable : ∀ e ∈ first :: others, e.Tellable)
include hfaults htellable

theorem attempt_stopped (hp : g.settings.allowPartial.truthy = false) :
    ∃ warnings message, (g.attemptRun s).outcome =
      .ok ⟨warnings, first :: others, .failed message (.resolution first)⟩ := by
  obtain ⟨texts, htexts⟩ := exists_mapM_ok fun e he => exists_faultText (htellable e he)
  unfold attemptRun stoppedReport
  simp only [Logged.outcome_bind, Logged.outcome_lift, hvalidate, hcompile, ok_bind, hfaults,
    outcome_recordFaults htellable, hp, Bool.false_eq_true, if_false, htexts]
  exact ⟨_, _, rfl⟩

theorem attempt_partial (hp : g.settings.allowPartial.truthy = true) :
    ∃ warnings, (g.attemptRun s).outcome =
      (g.renderReport s results (first :: others) warnings).outcome := by
  obtain ⟨texts, htexts⟩ := exists_mapM_ok fun e he => exists_faultText (htellable e he)
  unfold attemptRun partialReport
  simp only [Logged.outcome_bind, Logged.outcome_lift, hvalidate, hcompile, ok_bind, hfaults,
    outcome_recordFaults htellable, hp, if_true, htexts, Logged.outcome_write]
  exact ⟨_, rfl⟩

end

theorem failsBy_renderReport {g : Generator} {results : List Compilation}
    {errors : List ResolutionError} {warnings : List String}
    (h : FailsBy DotNet.IsTemplateFault (g.render results).outcome) :
    FailsBy DotNet.IsTemplateFault (g.renderReport s results errors warnings).outcome := by
  rw [outcome_renderReport]
  exact h.bind fun files _ => failsBy_pure _

theorem failsBy_attemptRun (hs : settings.Typed)
    (ht : ∃ u, DotNet.checkTemplates templates = .ok u) (h : s.Textual) :
    FailsBy DotNet.IsTemplateFault
      ((⟨DotNet.backend, settings, templates⟩ : Generator).attemptRun s).outcome := by
  have hfields : DotNet.FieldsNamed s := fun m hm => (h.models m hm).named.fields
  obtain ⟨validation, hvalidation⟩ := (DotNet.requires_validate templates s).met ⟨hfields, ht⟩
  obtain ⟨results, hresults⟩ := (DotNet.requires_compile hs hfields).met h
  have htellable := DotNet.tellable_of_compile hfields hresults
  have hrender := DotNet.failsBy_render hs ht hresults
  have hvalidate :
      (⟨DotNet.backend, settings, templates⟩ : Generator).validate s = .ok validation := hvalidation
  have hcompile : ((⟨DotNet.backend, settings, templates⟩ : Generator).compile s).outcome =
      .ok results := hresults
  cases hfaults : results.filterMap Compilation.error? with
  | nil =>
    obtain ⟨warnings, hattempt⟩ := attempt_of_no_fault hvalidate hcompile hfaults
    rw [hattempt]
    exact failsBy_renderReport hrender
  | cons first others =>
    have htell : ∀ e ∈ first :: others, e.Tellable := hfaults ▸ htellable
    cases hp : settings.allowPartial.truthy with
    | true =>
      obtain ⟨warnings, hattempt⟩ := attempt_partial hvalidate hcompile hfaults htell hp
      rw [hattempt]
      exact failsBy_renderReport hrender
    | false =>
      obtain ⟨_, _, hattempt⟩ := attempt_stopped hvalidate hcompile hfaults htell hp
      exact failsBy_ok hattempt

theorem misuse_attemptRun (hs : settings.Typed)
    (ht : ∃ u, DotNet.checkTemplates templates = .ok u) (h : ¬s.Textual) :
    ∃ m, ((⟨DotNet.backend, settings, templates⟩ : Generator).attemptRun s).outcome =
      .error (.misuse m) := by
  unfold attemptRun
  simp only [Logged.outcome_bind, Logged.outcome_lift]
  by_cases hfields : DotNet.FieldsNamed s
  · obtain ⟨validation, hvalidation⟩ := (DotNet.requires_validate templates s).met ⟨hfields, ht⟩
    obtain ⟨m, hm⟩ := (DotNet.requires_compile hs hfields).unmet h
    exact ⟨m, bind_error_iff.mpr (.inr ⟨validation, hvalidation, bind_error_iff.mpr (.inl hm)⟩)⟩
  · have hchecked : ¬DotNet.Checked templates s := fun hc => hfields hc.fields
    obtain ⟨m, hm⟩ := (DotNet.requires_validate templates s).unmet hchecked
    exact ⟨m, bind_error_iff.mpr (.inl hm)⟩

theorem requires_run (hs : settings.Typed) (ht : ∃ u, DotNet.checkTemplates templates = .ok u)
    (s : SchemaSet) :
    Requires ((⟨DotNet.backend, settings, templates⟩ : Generator).run s).outcome s.Textual := by
  constructor
  · intro h
    have hfails := failsBy_attemptRun hs ht h
    cases hrun : ((⟨DotNet.backend, settings, templates⟩ : Generator).attemptRun s).outcome with
    | ok report => exact ⟨report, run_of_attempt hrun⟩
    | error e =>
      obtain ⟨fault, rfl⟩ := hfails e hrun
      exact ⟨_, run_of_template_fault hrun⟩
  · intro h
    obtain ⟨m, hm⟩ := misuse_attemptRun hs ht h
    exact ⟨m, run_of_misuse hm⟩

/-- Under typed settings, and with templates that are texts, a run ends in a report exactly if the
schema is textual; on any other schema a misuse comes out of it. -/
theorem run_reported_iff_textual (hs : settings.Typed)
    (ht : ∃ u, DotNet.checkTemplates templates = .ok u) (s : SchemaSet) :
    ((∃ report, ((⟨DotNet.backend, settings, templates⟩ : Generator).run s).outcome =
        .ok report) ↔ s.Textual) ∧
      (¬s.Textual → ∃ m, ((⟨DotNet.backend, settings, templates⟩ : Generator).run s).outcome =
        .error (.misuse m)) :=
  ⟨(requires_run hs ht s).ok_iff, (requires_run hs ht s).unmet⟩

/-- A document with one model whose parents are a list. -/
def parentsDocument (parent : Json) : Json :=
  .obj [("models", .obj [("Event", .obj [("subClassOf", parent), ("fields", .obj [])])])]

/-- The document is read, and its run is reported with one parent and is a misuse with a list. -/
theorem run_reported_iff_textual_parents :
    let g : Generator := ⟨DotNet.backend, Settings.default, .empty⟩
    let parent : Json := .str "https://schema.org/Event"
    Settings.default.Typed ∧ (∃ u, DotNet.checkTemplates .empty = .ok u) ∧
    (∃ s, (Document.parse (parentsDocument parent)).outcome = .ok s ∧ s.Textual ∧
      ∃ report, (g.run s).outcome = .ok report) ∧
    ∃ s, (Document.parse (parentsDocument (.arr [parent]))).outcome = .ok s ∧ ¬s.Textual ∧
      ∃ m, (g.run s).outcome = .error (.misuse m) := by
  intro g parent
  have ht : ∃ u, DotNet.checkTemplates .empty = .ok u := ⟨(), rfl⟩
  refine ⟨Settings.typed_default, ht, ?_, ?_⟩
  · let s : SchemaSet := ⟨[⟨.str "Event", [], parent, .null, []⟩], []⟩
    have htextual : s.Textual := by
      constructor
      · intro m hm
        obtain rfl := List.mem_singleton.mp hm
        exact ⟨⟨⟨_, rfl⟩, fun f hf => nomatch hf⟩, fun _ => ⟨_, rfl⟩⟩
      · intro e he
        cases he
    exact ⟨s, rfl, htextual,
      (run_reported_iff_textual Settings.typed_default ht s).1.mpr htextual⟩
  · let s : SchemaSet := ⟨[⟨.str "Event", [], .arr [parent], .null, []⟩], []⟩
    have htextual : ¬s.Textual := by
      intro h
      obtain ⟨text, htext⟩ := (h.models _ List.mem_cons_self).parent rfl
      cases htext
    exact ⟨s, rfl, htextual,
      (run_reported_iff_textual Settings.typed_default ht s).2 htextual⟩

end Generator
end TypedVocabulary
