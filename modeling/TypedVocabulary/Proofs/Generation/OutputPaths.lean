import TypedVocabulary.Proofs.Generation.EntryPoints
import TypedVocabulary.Proofs.Generation.FileCount
import TypedVocabulary.Proofs.Naming.PlainName
import TypedVocabulary.Proofs.Text.Lines

/-! # Paths of generated files

Every generated file is called by a plain name and lies in the directory of classes or in that of
enumerations. Such a name has no slash and is no dots, so its path has just these two steps.
-/
namespace TypedVocabulary.DotNet
open GeneratedFiles

variable {settings : Settings} {templates : TemplateStore} {schema : SchemaSet}
  {files : GeneratedFiles}

def directories : List String := ["models", "enums"]

def OutputPath (path : String) : Prop :=
  ∃ directory ∈ directories, ∃ name, PlainName name ∧ path = pathIn directory name

theorem outputPath_of_render {results : List Compilation}
    (hcompiled : (compile settings schema).outcome = .ok results)
    (hfiles : (render settings templates results).outcome = .ok files) :
    ∀ path ∈ files.paths, OutputPath path := by
  intro path hpath
  obtain ⟨v, tables, -, -, hresults⟩ := compile_ok_iff.mp hcompiled
  rcases (mem_paths_iff hfiles path).mp hpath with
    ⟨c, hc, d, hd, rfl⟩ | ⟨c, hc, e, he, -, rfl⟩
  · rcases Resolver.mem_compileSchema hresults hc with ⟨_, -, _, -, rfl⟩ | ⟨m, -, hm⟩
    · cases hd
    · rcases Resolver.compileModel_ok_iff.mp hm with ⟨d', hclass, rfl⟩ | ⟨_, -, rfl⟩
      · cases hd
        obtain ⟨base, shortName, names, -, -, -, -, heq⟩ := Resolver.compileClass_ok_iff.mp hclass
        have hname : d.name = typeName shortName := by rw [heq]
        exact ⟨"models", by decide, d.name, hname ▸ plainName_typeName shortName, rfl⟩
      · cases hd
  · rcases Resolver.mem_compileSchema hresults hc with ⟨_, -, e', henum, rfl⟩ | ⟨m, -, hm⟩
    · cases he
      obtain ⟨members, shortName, isExternal, -, -, -, heq⟩ := Resolver.compileEnum_ok_iff.mp henum
      have hname : e.name = typeName shortName := by rw [heq]
      exact ⟨"enums", by decide, e.name, hname ▸ plainName_typeName shortName, rfl⟩
    · rcases Resolver.compileModel_ok_iff.mp hm with ⟨_, -, rfl⟩ | ⟨_, -, rfl⟩
      · cases he
      · cases he

/-- The files that a generator returns, from either of its entry points. -/
def Returns (g : Generator) (schema : SchemaSet) (files : GeneratedFiles) : Prop :=
  (g.generate schema).outcome = .ok files ∨
    ∃ report, (g.run schema).outcome = .ok report ∧ report.succeeded = true ∧ report.files = files

theorem outputPath_of_returns (h : Returns ⟨backend, settings, templates⟩ schema files) :
    ∀ path ∈ files.paths, OutputPath path := by
  rcases h with h | ⟨report, h, hs, rfl⟩
  · obtain ⟨results, hcompiled, -, hfiles⟩ := Generator.generate_ok_iff.mp h
    exact outputPath_of_render hcompiled hfiles
  · obtain ⟨-, results, -, -, hcompiled, hfiles, -⟩ :=
      Generator.attemptRun_ok (Generator.attemptRun_of_run h hs) hs
    exact outputPath_of_render hcompiled hfiles

theorem nodup_paths_of_returns (h : Returns ⟨backend, settings, templates⟩ schema files) :
    files.paths.Nodup := by
  have hrender {results : List Compilation}
      (hfiles : (render settings templates results).outcome = .ok files) : files.paths.Nodup := by
    obtain ⟨texts, -, rfl⟩ := render_ok_iff.mp hfiles
    exact KeyedList.nodup_keys_putAll_nil texts
  rcases h with h | ⟨report, h, hs, rfl⟩
  · obtain ⟨results, -, -, hfiles⟩ := Generator.generate_ok_iff.mp h
    exact hrender hfiles
  · obtain ⟨-, results, -, -, -, hfiles, -⟩ :=
      Generator.attemptRun_ok (Generator.attemptRun_of_run h hs) hs
    exact hrender hfiles

/-! ## Steps of a path -/

theorem names_pathIn {directory name : String} (hd : directory ∈ directories) (hn : PlainName name) :
    (Path.ofText (pathIn directory name)).names = [directory, name ++ ".cs"] := by
  have hchars : (pathIn directory name).toList =
      '/' :: (directory.toList ++ '/' :: (name ++ ".cs").toList) := by
    simp [pathIn]
  have hslash : '/' ∉ (name ++ ".cs").toList := by
    rw [String.toList_append, List.mem_append, not_or]
    exact ⟨hn.not_mem rfl (by decide), by decide⟩
  have hfirst : '/' ∉ directory.toList ∧ directory ≠ "" ∧ directory ≠ "." :=
    (by decide : ∀ d ∈ directories, '/' ∉ d.toList ∧ d ≠ "" ∧ d ≠ ".") directory hd
  have hlong : 3 < (name ++ ".cs").toList.length := by
    obtain ⟨c, hc, -⟩ := hn.first
    cases hl : name.toList with
    | nil => simp [hl] at hc
    | cons c cs => simp [String.toList_append, hl]
  have hsplit : Text.splitOn '/' (pathIn directory name).toList =
      [[], directory.toList, (name ++ ".cs").toList] := by
    rw [hchars, ← List.nil_append ('/' :: _), Text.splitOn_append_cons, Text.splitOn_append_cons,
      Text.splitOn_of_not_mem hslash, Text.splitOn_of_not_mem hfirst.1]
    rfl
  have hempty : name ++ ".cs" ≠ "" := fun h => by simp [h] at hlong
  have hdot : name ++ ".cs" ≠ "." := fun h => by simp [h] at hlong
  unfold Path.ofText
  dsimp only
  rw [hsplit]
  simp [hfirst.2, hempty, hdot, String.ofList_toList]

end TypedVocabulary.DotNet
