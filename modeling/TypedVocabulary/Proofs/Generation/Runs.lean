import TypedVocabulary.Generation.Run
import TypedVocabulary.Proofs.Outcomes

/-! # Outcomes of runs

A run ends as it was attempted, unless a failure of a kind that runs report ended it: then it ends in
a report of that failure. Rendering decides between a report with files and a failure.
-/
namespace TypedVocabulary
open Attempt

namespace Generator
variable {g : Generator} {s : SchemaSet} {results : List Compilation}

theorem outcome_run (g : Generator) (s : SchemaSet) : (g.run s).outcome =
    match (g.attemptRun s).outcome with
    | .ok report => .ok report
    | .error e =>
      if isReported e then do
        let text ← Attempt.ofMisuse e.message
        return ⟨[], [], .failed ("Code generation failed: " ++ text) e⟩
      else .error e := by
  unfold run Logged.recover
  cases h : (g.attemptRun s).outcome with
  | ok report => exact h
  | error e =>
    cases hreported : isReported e with
    | true =>
      simp only [hreported, if_true, Logged.outcome_bind, Logged.outcome_lift,
        Logged.outcome_write, ok_bind]
      rfl
    | false => simp [hreported]

theorem run_of_attempt {report : RunReport} (h : (g.attemptRun s).outcome = .ok report) :
    (g.run s).outcome = .ok report := by
  rw [outcome_run, h]

theorem run_of_template_fault {e : TemplateError}
    (h : (g.attemptRun s).outcome = .error (.template e)) :
    (g.run s).outcome =
      .ok ⟨[], [], .failed ("Code generation failed: " ++ e.message) (.template e)⟩ := by
  rw [outcome_run, h]
  rfl

theorem run_of_misuse {m : Misuse} (h : (g.attemptRun s).outcome = .error (.misuse m)) :
    (g.run s).outcome = .error (.misuse m) := by
  rw [outcome_run, h]
  rfl

theorem failed_of_attempt_error {e : Failure} (h : (g.attemptRun s).outcome = .error e)
    {report : RunReport} (hrun : (g.run s).outcome = .ok report) :
    ∃ message, report.outcome = .failed message e := by
  rw [outcome_run, h] at hrun
  dsimp only at hrun
  split at hrun
  · obtain ⟨text, -, hrun⟩ := bind_ok_iff.mp hrun
    rw [pure_ok_iff] at hrun
    subst hrun
    exact ⟨_, rfl⟩
  · cases hrun

theorem outcome_renderReport (errors : List ResolutionError) (warnings : List String) :
    (g.renderReport s results errors warnings).outcome =
      (g.render results).outcome >>= fun files => pure ⟨warnings, errors, .generated files
        { language := g.backend.language
          extension := g.backend.extension
          modelCount := s.models.length
          enumCount := s.enums.length
          fileCount := files.length
          failed := (results.filter fun c => !c.succeeded).map Compilation.name }⟩ := by
  unfold renderReport
  simp only [Logged.outcome_bind, Logged.outcome_write, Logged.outcome_pure, ok_bind]
  rfl

end Generator
end TypedVocabulary
