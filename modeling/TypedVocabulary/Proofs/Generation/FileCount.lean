import Mathlib.Data.List.Dedup
import TypedVocabulary.Proofs.Generation.Files
import TypedVocabulary.Proofs.Generation.Warnings
import TypedVocabulary.Proofs.Schema.Lookup

/-! # Number of files

A class or an enumeration goes to the file of its name, and a later one of the same name takes the
file over. So a run leaves one file for each name among its classes, and one for each among its own
enumerations: as many as there are definitions only if no two of a kind have one name.
-/
namespace TypedVocabulary
open Attempt

/-! ## Definitions with files -/

namespace Resolver

def classes (r : Resolver) (s : SchemaSet) : List ClassDefinition :=
  s.models.filterMap fun m => (r.compileClass m).outcome.toOption

/-- The definition of an enumeration, unless the foundation library has it. -/
def ownEnum? (r : Resolver) (e : Enumeration) : Option EnumDefinition :=
  (r.compileEnum e).toOption.filter fun d => !d.isExternal

def ownEnums (r : Resolver) (s : SchemaSet) : List EnumDefinition := s.enums.filterMap r.ownEnum?

theorem ownEnum?_of_external {r : Resolver} {e : Enumeration} {d : EnumDefinition}
    (h : r.compileEnum e = .ok d) (hx : d.isExternal = true) : r.ownEnum? e = none := by
  unfold ownEnum?
  rw [h]
  exact Option.filter_some_neg (by simp [hx])

theorem ownEnum?_of_own {r : Resolver} {e : Enumeration} {d : EnumDefinition}
    (h : r.compileEnum e = .ok d) (hx : d.isExternal = false) : r.ownEnum? e = some d := by
  unfold ownEnum?
  rw [h]
  exact Option.filter_some_pos (by simp [hx])

end Resolver

namespace DotNet
open GeneratedFiles

variable {r : Resolver} {s : SchemaSet}

theorem plan_models {models : List Model} {results : List Compilation}
    (h : List.Forall₂ (fun m c => (r.compileModel m).outcome = .ok c) models results) :
    plan results = (models.filterMap fun m => (r.compileClass m).outcome.toOption).map
      fun c => (SourceText.classPath c, .ofClass c) := by
  induction h with
  | nil => rfl
  | @cons m c models results hc _ ih =>
    have hsplit : plan (c :: results) = plan [c] ++ plan results := plan_append [c] results
    rw [hsplit, ih, List.filterMap_cons]
    rcases Resolver.compileModel_ok_iff.mp hc with ⟨d, hd, rfl⟩ | ⟨e, he, rfl⟩
    · rw [hd]
      rfl
    · rw [he]
      rfl

theorem plan_enums {enums : List Enumeration} {results : List Compilation}
    (h : List.Forall₂ (fun e c => ∃ d, r.compileEnum e = .ok d ∧
      c = ⟨e.type, [], .ok (some (.ofEnum d))⟩) enums results) :
    plan results =
      (enums.filterMap r.ownEnum?).map fun d => (SourceText.enumPath d, .ofEnum d) := by
  induction h with
  | nil => rfl
  | @cons e c enums results hc _ ih =>
    have hsplit : plan (c :: results) = plan [c] ++ plan results := plan_append [c] results
    obtain ⟨d, hd, rfl⟩ := hc
    rw [hsplit, ih]
    cases hx : d.isExternal with
    | true =>
      rw [List.filterMap_cons_none (Resolver.ownEnum?_of_external hd hx)]
      simp [plan, Compilation.definition?, path?, hx]
    | false =>
      rw [List.filterMap_cons_some (Resolver.ownEnum?_of_own hd hx)]
      simp [plan, Compilation.definition?, path?, hx]

theorem plan_compileSchema {workers : Json} {results : List Compilation}
    (h : (r.compileSchema s workers).outcome = .ok results) :
    plan results =
      (r.ownEnums s).map (fun d => (SourceText.enumPath d, .ofEnum d)) ++
        (r.classes s).map fun c => (SourceText.classPath c, .ofClass c) := by
  obtain ⟨enums, models, henums, hmodels, rfl⟩ := Resolver.compileSchema_ok h
  rw [plan_append, plan_enums henums, plan_models hmodels]
  rfl

theorem length_ownEnums {workers : Json} {results : List Compilation}
    (h : (r.compileSchema s workers).outcome = .ok results) :
    (r.ownEnums s).length = s.enums.countP fun e =>
      decide (r.tables.vocabulary.isFoundationNamespace e.namespace = .ok false) := by
  obtain ⟨enums, models, henums, -, -⟩ := Resolver.compileSchema_ok h
  unfold Resolver.ownEnums
  generalize s.enums = declared at henums
  induction henums with
  | nil => rfl
  | @cons e c declared enums hc _ ih =>
    obtain ⟨d, hd, -⟩ := hc
    have hspace : r.tables.vocabulary.isFoundationNamespace e.namespace = .ok d.isExternal := by
      obtain ⟨members, name, isExternal, -, -, hx, rfl⟩ := Resolver.compileEnum_ok_iff.mp hd
      exact hx
    rw [List.countP_cons, ← ih, hspace]
    cases hx : d.isExternal with
    | true =>
      rw [List.filterMap_cons_none (Resolver.ownEnum?_of_external hd hx)]
      simp
    | false =>
      rw [List.filterMap_cons_some (Resolver.ownEnum?_of_own hd hx)]
      simp

def pathIn (directory name : String) : String := "/" ++ directory ++ "/" ++ name ++ ".cs"

theorem pathIn_injective (directory : String) : Function.Injective (pathIn directory) := by
  intro name name' h
  exact (String.append_right_inj _).mp ((String.append_left_inj _).mp h)

theorem pathIn_enums_ne_models (name name' : String) : pathIn "enums" name ≠ pathIn "models" name' := by
  intro h
  have hchars (directory name : String) : (pathIn directory name).toList =
      '/' :: (directory.toList ++ ("/" ++ name ++ ".cs").toList) := by
    simp [pathIn]
  have hlists := congrArg String.toList h
  rw [hchars, hchars] at hlists
  simp at hlists

theorem paths_plan {workers : Json} {results : List Compilation}
    (h : (r.compileSchema s workers).outcome = .ok results) :
    (plan results).map Prod.fst =
      ((r.ownEnums s).map EnumDefinition.name).map (pathIn "enums") ++
        ((r.classes s).map ClassDefinition.name).map (pathIn "models") := by
  rw [plan_compileSchema h, List.map_append]
  simp only [List.map_map]
  rfl

theorem length_files {workers : Json} {results : List Compilation}
    (h : (r.compileSchema s workers).outcome = .ok results) {settings : Settings}
    {templates : TemplateStore} {files : GeneratedFiles}
    (hfiles : (render settings templates results).outcome = .ok files) :
    files.length = ((r.classes s).map ClassDefinition.name).dedup.length +
      ((r.ownEnums s).map EnumDefinition.name).dedup.length := by
  obtain ⟨texts, htexts, rfl⟩ := render_ok_iff.mp hfiles
  have hpaths : texts.map Prod.fst = (plan results).map Prod.fst :=
    KeyedList.keys_of_related (related_of_renderPair htexts)
  have hdisjoint : (((r.ownEnums s).map EnumDefinition.name).map (pathIn "enums")).Disjoint
      (((r.classes s).map ClassDefinition.name).map (pathIn "models")) := by
    intro path henum hclass
    obtain ⟨name, -, rfl⟩ := List.mem_map.mp henum
    obtain ⟨name', -, hsame⟩ := List.mem_map.mp hclass
    exact pathIn_enums_ne_models name name' hsame.symm
  have hkeys : KeyedList.keys texts = _ := hpaths.trans (paths_plan h)
  rw [KeyedList.length_putAll, hkeys, hdisjoint.dedup_append,
    List.dedup_map_of_injective (pathIn_injective _),
    List.dedup_map_of_injective (pathIn_injective _), List.length_append, List.length_map,
    List.length_map, Nat.add_comm]

/-- A successful run leaves a file for each name of a class and for each name of an enumeration
outside the foundation namespace. These are as many as there are such definitions if no two classes
and no two of these enumerations have the same name, and otherwise fewer. -/
theorem length_files_iff (settings : Settings) (templates : TemplateStore) (s : SchemaSet)
    (report : RunReport)
    (h : ((⟨backend, settings, templates⟩ : Generator).run s).outcome = .ok report)
    (hs : report.succeeded = true) :
    ∃ v tables, settings.vocabulary = .ok v ∧ LookupTables.readTables s v = .ok tables ∧
      let classes := (⟨tables, settings⟩ : Resolver).classes s
      let enums := (⟨tables, settings⟩ : Resolver).ownEnums s
      enums.length = (s.enums.countP fun e =>
        decide (v.isFoundationNamespace e.namespace = .ok false)) ∧
      report.files.length = (classes.map ClassDefinition.name).dedup.length +
        (enums.map EnumDefinition.name).dedup.length ∧
      (report.files.length = classes.length + enums.length ↔
        (classes.map ClassDefinition.name).Nodup ∧ (enums.map EnumDefinition.name).Nodup) := by
  obtain ⟨-, results, -, -, hresults, hfiles, -⟩ :=
    Generator.attemptRun_ok (Generator.attemptRun_of_run h hs) hs
  obtain ⟨v, tables, hv, htables, hcompiled⟩ := compile_ok_iff.mp hresults
  refine ⟨v, tables, hv, htables, ?_⟩
  intro classes enums
  have hlength : report.files.length = (classes.map ClassDefinition.name).dedup.length +
      (enums.map EnumDefinition.name).dedup.length := length_files hcompiled hfiles
  refine ⟨?_, hlength, ?_⟩
  · have hvocabulary := LookupTables.vocabulary_readTables htables
    subst hvocabulary
    exact length_ownEnums hcompiled
  · have hclasses := (List.dedup_sublist (classes.map ClassDefinition.name)).length_le
    have henums := (List.dedup_sublist (enums.map EnumDefinition.name)).length_le
    rw [← List.dedup_eq_self, ← List.dedup_eq_self, ← (List.dedup_sublist _).length_eq,
      ← (List.dedup_sublist _).length_eq, hlength]
    simp only [List.length_map] at hclasses henums ⊢
    omega

/-- Two models of one short name in different namespaces, and an enumeration. -/
def twoEvents : SchemaSet where
  models :=
    [⟨.str "Event", [], .null, .str "https://schema.org/Event", []⟩,
     ⟨.str "beta:Event", [], .null, .str "https://schema.org/Place", []⟩]
  enums := [⟨.str "Status", .str "https://openactive.io/", [.str "Open"], [], .null⟩]

/-- Both models compile, but they have one name, and so one file between them. -/
theorem length_files_iff_twoEvents :
    let settings := Settings.default
    let v := Vocabulary.standard
    ∃ report tables,
      ((⟨backend, settings, .empty⟩ : Generator).run twoEvents).outcome = .ok report ∧
      report.succeeded = true ∧ LookupTables.readTables twoEvents v = .ok tables ∧
      let classes := (⟨tables, settings⟩ : Resolver).classes twoEvents
      let enums := (⟨tables, settings⟩ : Resolver).ownEnums twoEvents
      classes.map ClassDefinition.name = ["Event", "Event"] ∧
      enums.map EnumDefinition.name = ["Status"] ∧ report.files.length = 2 ∧
      report.files.length ≠ classes.length + enums.length := by
  intro settings v
  obtain ⟨report, hreport, hs⟩ : ∃ report,
      ((⟨backend, settings, .empty⟩ : Generator).run twoEvents).outcome = .ok report ∧
        report.succeeded = true := exists_ok_of_any (by decide +kernel)
  obtain ⟨v', tables, hv, htables, -, hlength, hiff⟩ :=
    length_files_iff settings .empty twoEvents report hreport hs
  obtain rfl : v' = v := Except.ok.inj (hv.symm.trans Vocabulary.default_vocabulary)
  have hnames : (do
      let tables ← LookupTables.readTables twoEvents v
      let r : Resolver := ⟨tables, settings⟩
      return ((r.classes twoEvents).map ClassDefinition.name,
        (r.ownEnums twoEvents).map EnumDefinition.name)) =
      (.ok (["Event", "Event"], ["Status"]) : Attempt (List String × List String)) := by
    decide +kernel
  rw [htables, ok_bind, pure_ok_iff, Prod.mk.injEq] at hnames
  obtain ⟨hclasses, henums⟩ := hnames
  rw [hclasses, henums] at hlength hiff
  refine ⟨report, tables, hreport, hs, htables, hclasses, henums, hlength, ?_⟩
  intro hcount
  exact absurd (hiff.mp hcount).1 (by decide)

end DotNet
end TypedVocabulary
