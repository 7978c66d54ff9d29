import TypedVocabulary.Generation.DotNet
import TypedVocabulary.Proofs.Classes.CompiledClass
import TypedVocabulary.Proofs.Schema.Lookup

/-! # Results of a compilation

The results are the outcomes of all declarations against one set of tables, enumerations first.
Files are generated from results without a fault only.
-/
namespace TypedVocabulary

theorem Generator.generate_ok_iff {g : Generator} {schema : SchemaSet} {files : GeneratedFiles} :
    (g.generate schema).outcome = .ok files ↔
      ∃ results, (g.compile schema).outcome = .ok results ∧
        (∀ c ∈ results, c.succeeded = true) ∧ (g.render results).outcome = .ok files := by
  unfold generate
  rw [Logged.outcome_bind, Attempt.bind_ok_iff]
  refine exists_congr fun results => and_congr_right fun _ => ?_
  have hnone : results.findSome? Compilation.error? = none ↔ ∀ c ∈ results, c.succeeded = true := by
    simp [Compilation.succeeded]
  cases hfault : results.findSome? Compilation.error? with
  | none => exact (and_iff_right (hnone.mp hfault)).symm
  | some e =>
    have hfailed : ¬ ∀ c ∈ results, c.succeeded = true := by
      rw [← hnone, hfault]
      exact Option.some_ne_none e
    simp [hfailed]

namespace DotNet
variable {settings : Settings} {schema : SchemaSet} {results : List Compilation}

theorem compile_ok_iff :
    (compile settings schema).outcome = .ok results ↔
      ∃ v tables, settings.vocabulary = .ok v ∧ LookupTables.readTables schema v = .ok tables ∧
        ((⟨tables, settings⟩ : Resolver).compileSchema schema settings.maxWorkers).outcome =
          .ok results := by
  unfold compile
  simp only [Logged.outcome_bind, Logged.outcome_lift, LookupTables.outcome_build,
    Attempt.bind_ok_iff, exists_and_left]

end DotNet
end TypedVocabulary
