import TypedVocabulary.Proofs.Generation.FileCount
import TypedVocabulary.Proofs.Generation.IsolatedModels

/-! # Generation and runs

Generation stops at the first definition that failed. A run looks at the field names and the
templates first, and reports failed definitions or passes over them. Where nothing failed both give
the same files or the same fault of a template, and where something failed they name the same fault
first.
-/
namespace TypedVocabulary
open Attempt

namespace Generator
variable {g : Generator} {s : SchemaSet} {results : List Compilation}

/-! ## Generation -/

theorem generate_of_faults (hcompile : (g.compile s).outcome = .ok results)
    {first : ResolutionError} {others : List ResolutionError}
    (hfaults : results.filterMap Compilation.error? = first :: others) :
    (g.generate s).outcome = .error (.resolution first) := by
  have hfirst : results.findSome? Compilation.error? = some first := by
    rw [← List.head?_filterMap, hfaults, List.head?_cons]
  unfold generate
  rw [Logged.outcome_bind, hcompile, ok_bind, hfirst]
  rfl

theorem generate_of_no_fault (hcompile : (g.compile s).outcome = .ok results)
    (hfaults : results.filterMap Compilation.error? = []) :
    (g.generate s).outcome = (g.render results).outcome := by
  have hnone : results.findSome? Compilation.error? = none := by
    rw [← List.head?_filterMap, hfaults, List.head?_nil]
  unfold generate
  rw [Logged.outcome_bind, hcompile, ok_bind, hnone]

/-! ## Runs -/

theorem generated_iff_of_attempt {errors : List ResolutionError} {warnings : List String}
    (h : (g.attemptRun s).outcome = (g.renderReport s results errors warnings).outcome)
    (files : GeneratedFiles) : (g.render results).outcome = .ok files ↔
      ∃ report, (g.run s).outcome = .ok report ∧ report.succeeded = true ∧ report.files = files := by
  rw [outcome_renderReport] at h
  cases hrender : (g.render results).outcome with
  | ok rendered =>
    rw [hrender, ok_bind] at h
    constructor
    · intro heq
      obtain rfl := Except.ok.inj heq
      exact ⟨_, run_of_attempt h, rfl, rfl⟩
    · rintro ⟨report, hrun, -, rfl⟩
      obtain rfl := Except.ok.inj ((run_of_attempt h).symm.trans hrun)
      rfl
  | error e =>
    rw [hrender] at h
    constructor
    · rintro ⟨⟩
    · rintro ⟨report, hrun, hsucceeded, -⟩
      obtain ⟨message, hfailed⟩ := failed_of_attempt_error h hrun
      simp [RunReport.succeeded, hfailed] at hsucceeded

theorem template_fault_iff_of_attempt {errors : List ResolutionError} {warnings : List String}
    (h : (g.attemptRun s).outcome = (g.renderReport s results errors warnings).outcome)
    (e : TemplateError) : (g.render results).outcome = .error (.template e) ↔
      ∃ report message, (g.run s).outcome = .ok report ∧
        report.outcome = .failed message (.template e) := by
  rw [outcome_renderReport] at h
  cases hrender : (g.render results).outcome with
  | ok rendered =>
    rw [hrender, ok_bind] at h
    constructor
    · rintro ⟨⟩
    · rintro ⟨report, message, hrun, hfailed⟩
      obtain rfl := Except.ok.inj ((run_of_attempt h).symm.trans hrun)
      cases hfailed
  | error fault =>
    rw [hrender] at h
    constructor
    · rintro ⟨⟩
      exact ⟨_, _, run_of_template_fault h, rfl⟩
    · rintro ⟨report, message, hrun, hfailed⟩
      obtain ⟨_, hcause⟩ := failed_of_attempt_error h hrun
      obtain ⟨-, rfl⟩ := RunOutcome.failed.inj (hcause.symm.trans hfailed)
      rfl

end Generator

namespace DotNet
variable {settings : Settings} {templates : TemplateStore} {s : SchemaSet}
  {results : List Compilation} {files : GeneratedFiles}

/-- A run that passes over the definitions that failed: it names all of them in order, and has a file
for each class and for each enumeration that is not part of the foundation library. -/
structure PassesOver (results : List Compilation) (files : GeneratedFiles) (report : RunReport) :
    Prop where
  outcome : ∃ metadata, report.outcome = .generated files metadata ∧
    metadata.failed = (results.filter fun c => !c.succeeded).map Compilation.name ∧
    metadata.fileCount = files.length
  errors : report.errors = results.filterMap Compilation.error?
  paths : ∀ path, path ∈ files.paths ↔
    (∃ c ∈ results, ∃ d, c.outcome = .ok (some (.ofClass d)) ∧ SourceText.classPath d = path) ∨
    ∃ c ∈ results, ∃ e, c.outcome = .ok (some (.ofEnum e)) ∧ e.isExternal = false ∧
      SourceText.enumPath e = path
  distinct : files.paths.Nodup

theorem mem_paths_iff (h : (render settings templates results).outcome = .ok files) (path : String) :
    path ∈ files.paths ↔
      (∃ c ∈ results, ∃ d, c.outcome = .ok (some (.ofClass d)) ∧ SourceText.classPath d = path) ∨
      ∃ c ∈ results, ∃ e, c.outcome = .ok (some (.ofEnum e)) ∧ e.isExternal = false ∧
        SourceText.enumPath e = path := by
  rw [mem_paths_render h]
  simp only [mem_plan_iff]
  constructor
  · rintro ⟨d, c, hc, hd, hp⟩
    cases d with
    | ofClass d => exact .inl ⟨c, hc, d, hd, Option.some.inj hp⟩
    | ofEnum e =>
      cases hx : e.isExternal with
      | true => simp [path?, hx] at hp
      | false => exact .inr ⟨c, hc, e, hd, hx, by simpa [path?, hx] using hp⟩
  · rintro (⟨c, hc, d, hd, rfl⟩ | ⟨c, hc, e, he, hx, rfl⟩)
    · exact ⟨.ofClass d, c, hc, hd, rfl⟩
    · exact ⟨.ofEnum e, c, hc, he, by simp [path?, hx]⟩

theorem misuse_run (h : ¬Checked templates s) :
    ∃ m, ((⟨backend, settings, templates⟩ : Generator).run s).outcome = .error (.misuse m) := by
  obtain ⟨m, hm⟩ := (requires_validate templates s).unmet h
  have hvalidate : (⟨backend, settings, templates⟩ : Generator).validate s = .error (.misuse m) := hm
  have hattempt : ((⟨backend, settings, templates⟩ : Generator).attemptRun s).outcome =
      .error (.misuse m) := by
    unfold Generator.attemptRun
    rw [Logged.outcome_bind, Logged.outcome_lift, hvalidate]
    rfl
  exact ⟨m, Generator.run_of_misuse hattempt⟩

/-- Generation and a run over the same results. A run is a misuse if the schema and the templates are
not as it asks for before it compiles. If they are, both agree: on files and on template faults where
nothing failed, and on the first fault otherwise, which a run reports with all others or passes over. -/
theorem generate_and_run_agree (h : (compile settings s).outcome = .ok results) :
    let g : Generator := ⟨backend, settings, templates⟩
    let faults := results.filterMap Compilation.error?
    (∀ first others, faults = first :: others →
      (g.generate s).outcome = .error (.resolution first)) ∧
    (¬Checked templates s → ∃ m, (g.run s).outcome = .error (.misuse m)) ∧
    (Checked templates s →
      (faults = [] →
        (∀ files, (g.generate s).outcome = .ok files ↔ ∃ report, (g.run s).outcome = .ok report ∧
          report.succeeded = true ∧ report.files = files) ∧
        ∀ e, (g.generate s).outcome = .error (.template e) ↔ ∃ report message,
          (g.run s).outcome = .ok report ∧ report.outcome = .failed message (.template e)) ∧
      ∀ first others, faults = first :: others →
        (settings.allowPartial.truthy = false → ∃ report message,
          (g.run s).outcome = .ok report ∧ report.outcome = .failed message (.resolution first) ∧
          report.errors = faults) ∧
        (settings.allowPartial.truthy = true → ∀ files, (g.render results).outcome = .ok files →
          ∃ report, (g.run s).outcome = .ok report ∧ PassesOver results files report)) := by
  intro g faults
  have hcompile : (g.compile s).outcome = .ok results := h
  refine ⟨fun first others => Generator.generate_of_faults hcompile, misuse_run, fun hchecked => ?_⟩
  obtain ⟨validation, hvalidate⟩ := (requires_validate templates s).met hchecked
  have hvalidate : g.validate s = .ok validation := hvalidate
  have htellable := tellable_of_compile hchecked.fields h
  constructor
  · intro hfaults
    obtain ⟨warnings, hattempt⟩ := Generator.attempt_of_no_fault hvalidate hcompile hfaults
    rw [Generator.generate_of_no_fault hcompile hfaults]
    exact ⟨Generator.generated_iff_of_attempt hattempt,
      Generator.template_fault_iff_of_attempt hattempt⟩
  · intro first others hfaults
    have htell : ∀ e ∈ first :: others, e.Tellable := hfaults ▸ htellable
    constructor
    · intro hp
      obtain ⟨warnings, message, hattempt⟩ :=
        Generator.attempt_stopped hvalidate hcompile hfaults htell hp
      exact ⟨_, message, Generator.run_of_attempt hattempt, rfl, hfaults.symm⟩
    · intro hp files hrender
      obtain ⟨warnings, hattempt⟩ :=
        Generator.attempt_partial hvalidate hcompile hfaults htell hp
      rw [Generator.outcome_renderReport, hrender, ok_bind] at hattempt
      refine ⟨_, Generator.run_of_attempt hattempt, ⟨_, rfl, rfl, rfl⟩, hfaults.symm,
        mem_paths_iff hrender, ?_⟩
      obtain ⟨texts, -, rfl⟩ := render_ok_iff.mp hrender
      exact KeyedList.nodup_keys_putAll_nil texts

/-- A model without a parent, with a field of a given name. -/
def fieldSchema (name : Json) : SchemaSet :=
  ⟨[⟨.str "Event", [{ Field.ofType "name" "https://schema.org/Text" with fieldName := name }],
    .null, .null, []⟩], []⟩

/-- An event without a parent next to a place and an enumeration: generation stops at it, and a run
reports it or passes over it. A field that is named by a number ends the run instead. -/
theorem generate_and_run_agree_event :
    let s := eventSchema .null
    let strict : Generator := ⟨backend, Settings.default, .empty⟩
    let lenient : Generator := ⟨backend, { Settings.default with allowPartial := .bool true }, .empty⟩
    (∃ first report message, (strict.generate s).outcome = .error (.resolution first) ∧
      (strict.run s).outcome = .ok report ∧
      report.outcome = .failed message (.resolution first) ∧ report.errors = [first]) ∧
    (∃ results files report, (lenient.run s).outcome = .ok report ∧
      PassesOver results files report ∧ files.paths = ["/enums/Status.cs", "/models/Place.cs"]) ∧
    (∃ files report, (strict.generate (eventSchema (.str "https://schema.org/Event"))).outcome =
        .ok files ∧
      (strict.run (eventSchema (.str "https://schema.org/Event"))).outcome = .ok report ∧
      report.files = files) ∧
    ∃ first m, (strict.generate (fieldSchema (.int 5))).outcome = .error (.resolution first) ∧
      (strict.run (fieldSchema (.int 5))).outcome = .error (.misuse m) := by
  intro s strict lenient
  have hchecked (parent : Json) : Checked .empty (eventSchema parent) :=
    ⟨by simp [FieldsNamed, eventSchema], ⟨(), rfl⟩⟩
  have hsingle {results : List Compilation}
      (hone : (results.filterMap Compilation.error?).length = 1) :
      ∃ first, results.filterMap Compilation.error? = [first] := List.length_eq_one_iff.mp hone
  refine ⟨?_, ?_, ?_, ?_⟩
  · obtain ⟨results, hresults, hone⟩ : ∃ results, (compile strict.settings s).outcome = .ok results ∧
        (results.filterMap Compilation.error?).length = 1 :=
      exists_ok_of_decide (by decide +kernel)
    obtain ⟨first, hfaults⟩ := hsingle hone
    obtain ⟨hgenerate, -, hrun⟩ := @generate_and_run_agree _ .empty _ _ hresults
    obtain ⟨report, message, hreport, hfailed, herrors⟩ :=
      ((hrun (hchecked .null)).2 first [] hfaults).1 rfl
    exact ⟨first, report, message, hgenerate first [] hfaults, hreport, hfailed,
      herrors.trans hfaults⟩
  · obtain ⟨results, hresults, hrender⟩ : ∃ results,
        (compile lenient.settings s).outcome = .ok results ∧
        ((results.filterMap Compilation.error?).length = 1 ∧
          (lenient.render results).outcome.toOption.any (fun files =>
            decide (files.paths = ["/enums/Status.cs", "/models/Place.cs"])) = true) :=
      exists_ok_of_decide (by decide +kernel)
    obtain ⟨first, hfaults⟩ := hsingle hrender.1
    obtain ⟨files, hfiles, hpaths⟩ := exists_ok_of_decide hrender.2
    obtain ⟨-, -, hrun⟩ := @generate_and_run_agree _ .empty _ _ hresults
    obtain ⟨report, hreport, hpasses⟩ :=
      ((hrun (hchecked .null)).2 first [] hfaults).2 rfl files hfiles
    exact ⟨results, files, report, hreport, hpasses, hpaths⟩
  · obtain ⟨results, hresults, hnone, hrender⟩ : ∃ results, (compile strict.settings
          (eventSchema (.str "https://schema.org/Event"))).outcome = .ok results ∧
        ((results.filterMap Compilation.error?).length = 0 ∧
          (strict.render results).outcome.toOption.isSome = true) :=
      exists_ok_of_decide (by decide +kernel)
    have hfaults := List.length_eq_zero_iff.mp hnone
    obtain ⟨files, hfiles⟩ := exists_ok_of_isSome hrender
    have hcompile : (strict.compile (eventSchema (.str "https://schema.org/Event"))).outcome =
        .ok results := hresults
    have hgenerate := (Generator.generate_of_no_fault hcompile hfaults).trans hfiles
    obtain ⟨-, -, hrun⟩ := @generate_and_run_agree _ .empty _ _ hresults
    obtain ⟨report, hreport, -, hsame⟩ :=
      (((hrun (hchecked _)).1 hfaults).1 files).mp hgenerate
    exact ⟨files, report, hgenerate, hreport, hsame⟩
  · obtain ⟨results, hresults, hone⟩ : ∃ results,
        (compile strict.settings (fieldSchema (.int 5))).outcome = .ok results ∧
        (results.filterMap Compilation.error?).length = 1 :=
      exists_ok_of_decide (by decide +kernel)
    obtain ⟨first, hfaults⟩ := hsingle hone
    have hunchecked : ¬Checked .empty (fieldSchema (.int 5)) := by
      intro h
      obtain ⟨text, htext⟩ := h.fields _ List.mem_cons_self _ List.mem_cons_self
      cases htext
    obtain ⟨hgenerate, hmisuse, -⟩ := @generate_and_run_agree _ .empty _ _ hresults
    obtain ⟨m, hm⟩ := hmisuse hunchecked
    exact ⟨first, m, hgenerate first [] hfaults, hm⟩

end DotNet
end TypedVocabulary
