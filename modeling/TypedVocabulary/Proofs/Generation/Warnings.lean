import TypedVocabulary.Proofs.Classes.Notices
import TypedVocabulary.Proofs.Generation.Results
import TypedVocabulary.Proofs.Generation.Runs
import TypedVocabulary.Proofs.Vocabulary.CompactKey

/-! # Warnings of a run

A run that renders its files hands on what validation found, then the notices of its results in
their order, then a line for each definition that it skipped. No notice of a property is lost on the
way from its class to the report.
-/
namespace TypedVocabulary

/-- The notices of a definition are those of its properties. -/
def Definition.notices : Definition → List String
  | .ofClass c => c.notices
  | .ofEnum _ => []

namespace Generator
variable {g : Generator} {schema : SchemaSet} {results : List Compilation} {report : RunReport}

theorem renderReport_ok {errors : List ResolutionError} {warnings : List String}
    (h : (g.renderReport schema results errors warnings).outcome = .ok report) :
    report.warnings = warnings ∧ (g.render results).outcome = .ok report.files := by
  rw [outcome_renderReport] at h
  simp only [Attempt.bind_ok_iff, Attempt.pure_ok_iff] at h
  obtain ⟨files, hfiles, rfl⟩ := h
  exact ⟨rfl, hfiles⟩

theorem partialReport_ok {errors : List ResolutionError} {warnings : List String}
    (h : (g.partialReport schema results errors warnings).outcome = .ok report) :
    ∃ skipped, errors.mapM faultText = .ok skipped ∧
      report.warnings = warnings ++ skipped.map ("Skipped " ++ ·) ∧
      (g.render results).outcome = .ok report.files := by
  unfold partialReport at h
  simp only [Logged.outcome_bind, Logged.outcome_write, Logged.outcome_lift, Attempt.ok_bind,
    Attempt.bind_ok_iff] at h
  obtain ⟨skipped, hskipped, h⟩ := h
  exact ⟨skipped, hskipped, renderReport_ok h⟩

theorem not_succeeded_of_stoppedReport {first : ResolutionError} {others : List ResolutionError}
    {warnings : List String} (h : stoppedReport first others warnings = .ok report) :
    report.succeeded = false := by
  unfold stoppedReport at h
  simp only [Attempt.bind_ok_iff, Attempt.pure_ok_iff] at h
  obtain ⟨faults, -, rfl⟩ := h
  rfl

theorem attemptRun_of_run (h : (g.run schema).outcome = .ok report)
    (hs : report.succeeded = true) : (g.attemptRun schema).outcome = .ok report := by
  cases ha : (g.attemptRun schema).outcome with
  | ok a => exact (run_of_attempt ha).symm.trans h
  | error e =>
    obtain ⟨message, hfailed⟩ := failed_of_attempt_error ha h
    simp [RunReport.succeeded, hfailed] at hs

/-- What a run with files went through: validation, compilation of all, rendering of what there is,
and a line for each fault. -/
theorem attemptRun_ok (h : (g.attemptRun schema).outcome = .ok report)
    (hs : report.succeeded = true) :
    ∃ validation results skipped, g.validate schema = .ok validation ∧
      (g.compile schema).outcome = .ok results ∧
      (g.render results).outcome = .ok report.files ∧
      (results.filterMap Compilation.error?).mapM faultText = .ok skipped ∧
      report.warnings = validation ++ results.flatMap Compilation.notices ++
        skipped.map ("Skipped " ++ ·) ∧
      (skipped ≠ [] → g.settings.allowPartial.truthy = true) := by
  unfold attemptRun at h
  simp only [Logged.outcome_bind, Logged.outcome_lift, Attempt.bind_ok_iff] at h
  obtain ⟨validation, hvalidation, results, hresults, -, -, h⟩ := h
  refine ⟨validation, results, ?_⟩
  cases herrors : results.filterMap Compilation.error? with
  | nil =>
    rw [herrors] at h
    obtain ⟨hwarnings, hfiles⟩ := renderReport_ok h
    exact ⟨[], hvalidation, hresults, hfiles, rfl, by simpa using hwarnings, by simp⟩
  | cons first others =>
    rw [herrors] at h
    cases hpartial : g.settings.allowPartial.truthy with
    | false =>
      simp only [hpartial, Bool.false_eq_true, if_false, Logged.outcome_lift] at h
      rw [not_succeeded_of_stoppedReport h] at hs
      cases hs
    | true =>
      simp only [hpartial, if_true] at h
      obtain ⟨skipped, hskipped, hwarnings, hfiles⟩ := partialReport_ok h
      exact ⟨skipped, hvalidation, hresults, hfiles, hskipped, hwarnings, fun _ => rfl⟩

theorem attemptRun_warnings (h : (g.attemptRun schema).outcome = .ok report)
    (hs : report.succeeded = true) :
    ∃ validation results skipped, g.validate schema = .ok validation ∧
      (g.compile schema).outcome = .ok results ∧
      (results.filterMap Compilation.error?).mapM faultText = .ok skipped ∧
      report.warnings = validation ++ results.flatMap Compilation.notices ++
        skipped.map ("Skipped " ++ ·) ∧
      (skipped ≠ [] → g.settings.allowPartial.truthy = true) := by
  obtain ⟨validation, results, skipped, hvalidation, hresults, -, hreport⟩ := attemptRun_ok h hs
  exact ⟨validation, results, skipped, hvalidation, hresults, hreport⟩

end Generator

namespace DotNet
variable {settings : Settings} {schema : SchemaSet} {results : List Compilation}

theorem notices_of_compile (h : (compile settings schema).outcome = .ok results)
    {c : Compilation} (hc : c ∈ results) :
    (c.succeeded = false ∧ c.notices = []) ∨
      ∃ d, c.outcome = .ok (some d) ∧ c.notices = d.notices := by
  obtain ⟨v, tables, -, -, hs⟩ := compile_ok_iff.mp h
  rcases Resolver.mem_compileSchema hs hc with ⟨e, -, d, -, rfl⟩ | ⟨m, -, hm⟩
  · exact .inr ⟨.ofEnum d, rfl, rfl⟩
  · rcases Resolver.compileModel_ok_iff.mp hm with ⟨d, -, rfl⟩ | ⟨e, -, rfl⟩
    · exact .inr ⟨.ofClass d, rfl, rfl⟩
    · exact .inl ⟨rfl, rfl⟩

theorem flatMap_notices_of_compile (h : (compile settings schema).outcome = .ok results) :
    results.flatMap Compilation.notices =
      (results.filter Compilation.succeeded).flatMap Compilation.notices := by
  have hfailed : ∀ c ∈ results, c.succeeded = false → c.notices = [] := by
    intro c hc hfailed
    rcases notices_of_compile h hc with ⟨-, hnone⟩ | ⟨d, hd, -⟩
    · exact hnone
    · simp [Compilation.succeeded, Compilation.error?, hd] at hfailed
  clear h
  induction results with
  | nil => rfl
  | cons c rest ih =>
    have hrest := ih fun c' hc' => hfailed c' (List.mem_cons_of_mem _ hc')
    rw [List.flatMap_cons, hrest, List.filter_cons]
    cases hc : c.succeeded with
    | true => rw [if_pos rfl, List.flatMap_cons]
    | false => rw [hfailed c List.mem_cons_self hc, if_neg Bool.false_ne_true, List.nil_append]

/-- One result for each enumeration, without notices, then one for each model with all of its own. -/
theorem exists_results_of_models (h : (compile settings schema).outcome = .ok results) :
    ∃ v tables enums models, settings.vocabulary = .ok v ∧
      LookupTables.readTables schema v = .ok tables ∧ results = enums ++ models ∧
      (∀ c ∈ enums, c.notices = []) ∧
      List.Forall₂ (fun m c => c.name = m.type ∧
        c.notices = if c.succeeded then (⟨tables, settings⟩ : Resolver).noticesOf m else [])
        schema.models models := by
  obtain ⟨v, tables, hv, htables, hs⟩ := compile_ok_iff.mp h
  obtain ⟨enums, models, henums, hmodels, rfl⟩ := Resolver.compileSchema_ok hs
  refine ⟨v, tables, enums, models, hv, htables, rfl, fun c hc => ?_, hmodels.imp fun m c hm => ?_⟩
  · obtain ⟨e, -, d, -, rfl⟩ := exists_left_of_forall₂ henums hc
    rfl
  · obtain ⟨hsucceeded, hnotices⟩ := Resolver.notices_of_compileModel hm
    rw [hsucceeded]
    exact ⟨Resolver.name_of_compileModel hm, hnotices⟩

/-- What a run reports, from the references of its models: no result stands between. -/
theorem warnings_of_run {templates : TemplateStore} {report : RunReport}
    (h : ((⟨backend, settings, templates⟩ : Generator).run schema).outcome = .ok report)
    (hs : report.succeeded = true) :
    ∃ v tables validation results skipped, settings.vocabulary = .ok v ∧
      LookupTables.readTables schema v = .ok tables ∧
      validate templates schema = .ok validation ∧
      (compile settings schema).outcome = .ok results ∧
      (results.filterMap Compilation.error?).mapM Generator.faultText = .ok skipped ∧
      report.warnings = validation ++
        (schema.models.filter (⟨tables, settings⟩ : Resolver).hasClass).flatMap
          (⟨tables, settings⟩ : Resolver).noticesOf ++ skipped.map ("Skipped " ++ ·) := by
  obtain ⟨validation, results, skipped, hvalidation, hresults, hskipped, hwarnings, -⟩ :=
    Generator.attemptRun_warnings (Generator.attemptRun_of_run h hs) hs
  obtain ⟨v, tables, hv, htables, hcompiled⟩ := compile_ok_iff.mp hresults
  rw [Resolver.flatMap_notices_of_compileSchema hcompiled] at hwarnings
  exact ⟨v, tables, validation, results, skipped, hv, htables, hvalidation, hresults, hskipped,
    hwarnings⟩

end DotNet

/-! ## From the field to the report -/

/-- Each type that is taken on trust is named by a notice of its property. The notices of the
properties are those of their class, these are those of its result, and a run that renders its files
reports all notices of its results in order: those of the models that have a class. -/
theorem notices_reported :
    (∀ (r : Resolver) (f : Field) (hasBase : Bool) (chosen : String) (p : Property),
      (r.compileField f hasBase chosen).outcome = .ok p →
        p.notices = f.references.filterMap r.notice? ∧
        (f.isExtension = false → ∀ ref ∈ f.references, r.notice? ref = none)) ∧
    (∀ (r : Resolver) (m : Model) (c : ClassDefinition), (r.compileClass m).outcome = .ok c →
        List.Forall₂ (fun f p => p.notices = f.references.filterMap r.notice?)
          m.fields c.properties ∧
        c.notices = c.properties.flatMap Property.notices ∧
        c.notices = m.fields.flatMap fun f => f.references.filterMap r.notice?) ∧
    (∀ (settings : Settings) (schema : SchemaSet) (results : List Compilation),
      (DotNet.compile settings schema).outcome = .ok results →
        results.flatMap Compilation.notices =
          (results.filter Compilation.succeeded).flatMap Compilation.notices ∧
        (∀ c ∈ results, ∀ d, c.outcome = .ok (some d) → c.notices = d.notices) ∧
        ∃ v tables enums models, settings.vocabulary = .ok v ∧
          LookupTables.readTables schema v = .ok tables ∧ results = enums ++ models ∧
          (∀ c ∈ enums, c.notices = []) ∧
          List.Forall₂ (fun m c => c.name = m.type ∧
            c.notices = if c.succeeded then (⟨tables, settings⟩ : Resolver).noticesOf m else [])
            schema.models models) ∧
    (∀ (g : Generator) (schema : SchemaSet) (report : RunReport),
      (g.run schema).outcome = .ok report → report.succeeded = true →
        ∃ validation results skipped, g.validate schema = .ok validation ∧
          (g.compile schema).outcome = .ok results ∧
          (results.filterMap Compilation.error?).mapM Generator.faultText = .ok skipped ∧
          report.warnings = validation ++ results.flatMap Compilation.notices ++
            skipped.map ("Skipped " ++ ·) ∧
          (skipped ≠ [] → g.settings.allowPartial.truthy = true)) ∧
    ∀ (settings : Settings) (templates : TemplateStore) (schema : SchemaSet) (report : RunReport),
      ((⟨DotNet.backend, settings, templates⟩ : Generator).run schema).outcome = .ok report →
        report.succeeded = true →
        ∃ v tables validation results skipped, settings.vocabulary = .ok v ∧
          LookupTables.readTables schema v = .ok tables ∧
          DotNet.validate templates schema = .ok validation ∧
          (DotNet.compile settings schema).outcome = .ok results ∧
          (results.filterMap Compilation.error?).mapM Generator.faultText = .ok skipped ∧
          report.warnings = validation ++
            (schema.models.filter (⟨tables, settings⟩ : Resolver).hasClass).flatMap
              (⟨tables, settings⟩ : Resolver).noticesOf ++ skipped.map ("Skipped " ++ ·) := by
  refine ⟨?_, ?_, ?_, ?_, ?_⟩
  · intro r f hasBase chosen p h
    exact ⟨Resolver.notices_of_compileField h, fun hf ref => Resolver.known_of_compileField h hf⟩
  · intro r m c h
    exact ⟨Resolver.properties_of_compileClass h, rfl, Resolver.notices_of_compileClass h⟩
  · intro settings schema results h
    refine ⟨DotNet.flatMap_notices_of_compile h, fun c hc d hd => ?_,
      DotNet.exists_results_of_models h⟩
    rcases DotNet.notices_of_compile h hc with ⟨hfailed, -⟩ | ⟨d', hd', hnotices⟩
    · simp [Compilation.succeeded, Compilation.error?, hd] at hfailed
    · rw [hd] at hd'
      cases hd'
      exact hnotices
  · intro g schema report h hs
    exact Generator.attemptRun_warnings (Generator.attemptRun_of_run h hs) hs
  · intro settings templates schema report h hs
    exact DotNet.warnings_of_run h hs

/-- A field that admits the types of an address and of a key. -/
def betaField (uri alternative extensionPrefix : String) : Field where
  fieldName := .str "facility"
  order := 1
  requiredType := some ⟨uri, false⟩
  alternativeTypes := [⟨alternative, true⟩]
  model := none
  alternativeModels := []
  memberName := .null
  extensionPrefix := .str extensionPrefix
  obsolete := false
  override := false
  derivedFromSchema := false
  description := []
  sample := .null

def betaEvent : Model :=
  ⟨.str "Event", [betaField "https://openactive.io/ns-beta#Court" "beta:Pitch" "beta"], .null,
    .str "https://schema.org/Event", []⟩

/-- Two models with one field each; the second is no extension and cannot be resolved. -/
def betaSchema : SchemaSet where
  models :=
    [betaEvent,
     ⟨.str "Place", [betaField "https://openactive.io/ns-beta#Court" "beta:Pitch" ""], .null,
      .str "https://schema.org/Place", []⟩]
  enums := []

/-- A partial run with two types on trust in one field, and the same types refused in another: both
notices come from the field to the report, in front of the line for the model that was skipped. -/
theorem notices_reported_beta :
    let settings : Settings := { Settings.default with allowPartial := .bool true }
    let r : Resolver := ⟨⟨[], ["Event", "Place"], Vocabulary.standard⟩, settings⟩
    let f := betaField "https://openactive.io/ns-beta#Court" "beta:Pitch" "beta"
    let notices := ["Extension referenced unverified Schema.NET type: Pitch (beta:Pitch)",
      "Extension referenced unverified Schema.NET type: Court (beta:Court)"]
    (∃ p, (r.compileField f true "").outcome = .ok p ∧ p.notices = notices ∧
      p.notices = f.references.filterMap r.notice?) ∧
    (∃ c, (r.compileClass betaEvent).outcome = .ok c ∧ c.notices = notices ∧
      c.notices = c.properties.flatMap Property.notices) ∧
    (∃ results, (DotNet.compile settings betaSchema).outcome = .ok results ∧
      results.map Compilation.notices = [notices, []] ∧
      results.flatMap Compilation.notices =
        (results.filter Compilation.succeeded).flatMap Compilation.notices) ∧
    ∃ report, ((⟨DotNet.backend, settings, .empty⟩ : Generator).run betaSchema).outcome =
        .ok report ∧ report.succeeded = true ∧
      report.warnings = notices ++
        ["Skipped Place.facility: Unrecognised type or enum referenced: Pitch, beta:Pitch"] ∧
      ∃ v tables validation results skipped, settings.vocabulary = .ok v ∧
        LookupTables.readTables betaSchema v = .ok tables ∧
        DotNet.validate .empty betaSchema = .ok validation ∧
        (DotNet.compile settings betaSchema).outcome = .ok results ∧
        (results.filterMap Compilation.error?).mapM Generator.faultText = .ok skipped ∧
        report.warnings = validation ++
          (betaSchema.models.filter (⟨tables, settings⟩ : Resolver).hasClass).flatMap
            (⟨tables, settings⟩ : Resolver).noticesOf ++ skipped.map ("Skipped " ++ ·) := by
  intro settings r f notices
  refine ⟨?_, ?_, ?_, ?_⟩
  · obtain ⟨p, hp, hnotices⟩ :
        ∃ p, (r.compileField f true "").outcome = .ok p ∧ p.notices = notices :=
      Attempt.exists_ok_of_decide (by decide +kernel)
    exact ⟨p, hp, hnotices, (notices_reported.1 r f true "" p hp).1⟩
  · obtain ⟨c, hc, hnotices⟩ :
        ∃ c, (r.compileClass betaEvent).outcome = .ok c ∧ c.notices = notices :=
      Attempt.exists_ok_of_decide (by decide +kernel)
    exact ⟨c, hc, hnotices, (notices_reported.2.1 r betaEvent c hc).2.1⟩
  · obtain ⟨results, hresults, hnotices⟩ :
        ∃ results, (DotNet.compile settings betaSchema).outcome = .ok results ∧
          results.map Compilation.notices = [notices, []] :=
      Attempt.exists_ok_of_decide (by decide +kernel)
    exact ⟨results, hresults, hnotices,
      (notices_reported.2.2.1 settings betaSchema results hresults).1⟩
  · obtain ⟨report, hreport, hs, hwarnings⟩ :
        ∃ report, ((⟨DotNet.backend, settings, .empty⟩ : Generator).run betaSchema).outcome =
            .ok report ∧ report.succeeded = true ∧
          report.warnings = notices ++
            ["Skipped Place.facility: Unrecognised type or enum referenced: Pitch, beta:Pitch"] :=
      Attempt.exists_ok_of_decide (by decide +kernel)
    exact ⟨report, hreport, hs, hwarnings,
      notices_reported.2.2.2.2 settings .empty betaSchema report hreport hs⟩

end TypedVocabulary
