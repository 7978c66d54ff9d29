import TypedVocabulary.Proofs.Command.Steps
import TypedVocabulary.Proofs.Generation.OutputPaths
import TypedVocabulary.Proofs.Source.FileTree

/-! # Written files

The command writes generated files below the output directory. Whatever it is given and wherever it
stops, the only files that it has changed by then lie directly in the two directories of the generated
language, under plain names: no text of a schema leads out of them.
-/
namespace TypedVocabulary.Command
open DotNet (OutputPath directories pathIn)

/-! ## Output below a directory -/

/-- Every file that has changed lies under a plain name in a directory of the language. -/
def WrittenInside (dir : Path) (before after : FileTree) : Prop :=
  ∀ place, after.file? place ≠ before.file? place →
    ∃ directory ∈ directories, ∃ d name, PlainName name ∧
      after.node (dir.append [directory]) = .ok (.directory d) ∧ place = d ++ [name ++ ".cs"]

variable {dir : Path} {before t t' : FileTree}

theorem writtenInside_refl (dir : Path) (t : FileTree) : WrittenInside dir t t :=
  fun _ h => absurd rfl h

theorem WrittenInside.grown (h : WrittenInside dir before t) (hg : t.Grown t') :
    WrittenInside dir before t' := by
  intro place hplace
  rw [hg.file?] at hplace
  obtain ⟨directory, hd, d, name, hname, hnode, hat⟩ := h place hplace
  exact ⟨directory, hd, d, name, hname, hg.keeps.node hnode, hat⟩

theorem WrittenInside.write (h : WrittenInside dir before t) {directory name : String}
    (hd : directory ∈ directories) (hn : PlainName name) (s : String) :
    WrittenInside dir before (t.write (dir.append [directory, name ++ ".cs"]) s).1 := by
  rcases t.write_cases (dir.append [directory, name ++ ".cs"]) s with
    ⟨e, he⟩ | ⟨d, last, hleads, hfree, hput⟩
  · rwa [he]
  · have hlast : last = name ++ ".cs" := by
      have hnames := hleads.last
      unfold Path.append at hnames
      rw [List.getLast?_append] at hnames
      exact (Option.some.inj hnames).symm
    have hparent : (dir.append [directory, name ++ ".cs"]).parent = dir.append [directory] := by
      unfold Path.append Path.parent
      rw [List.dropLast_append_of_ne_nil (List.cons_ne_nil _ _)]
      rfl
    have hkeeps := FileTree.keepsDirectories_put hfree (.text s)
    rw [hput]
    intro place hplace
    rw [FileTree.file?_put] at hplace
    by_cases hat : d ++ [last] = place
    · refine ⟨directory, hd, d, name, hn, hkeeps.node ?_, by rw [← hat, hlast]⟩
      rw [← hparent]
      exact hleads.parent
    · rw [if_neg hat] at hplace
      obtain ⟨directory', hd', d', name', hn', hnode, hplace'⟩ := h place hplace
      exact ⟨directory', hd', d', name', hn', hkeeps.node hnode, hplace'⟩

open Step

theorem keeps_writeFile {file : String × String} (h : OutputPath file.1) :
    Keeps (WrittenInside dir before) (writeFile dir file) := by
  obtain ⟨directory, hd, name, hn, hpath⟩ := h
  have hnames := DotNet.names_pathIn hd hn
  unfold writeFile
  rw [hpath, hnames]
  refine (keeps_changeFiles fun t ht => ?_).bind fun _ => keeps_changeFiles fun t ht => ?_
  · exact ht.grown (t.grown_ensureDirectory _)
  · exact ht.write hd hn file.2

/-- Wherever writing stops, it has changed no file but in the directories of the language. -/
theorem keeps_writeFiles {files : GeneratedFiles} (h : ∀ path ∈ files.paths, OutputPath path)
    (dirs : List String) : Keeps (WrittenInside dir before) (writeFiles dir dirs files) := by
  unfold writeFiles makeDirectories
  refine (keeps_forM fun d _ => keeps_changeFiles fun t ht => ?_).bind fun _ =>
    (keeps_forM fun file hfile => keeps_writeFile (h file.1 ?_)).bind fun _ => keeps_perform _
  · exact ht.grown (t.grown_ensureDirectory _)
  · exact List.mem_map_of_mem (List.mem_mergeSort.mp hfile)

/-- Generated files have paths of two plain steps below the output directory, and what is written of
them, into any directory and in any session, is written to these two directories. -/
theorem files_stay_inside (settings : Settings) (templates : TemplateStore) (schema : SchemaSet)
    (files : GeneratedFiles)
    (h : DotNet.Returns ⟨DotNet.backend, settings, templates⟩ schema files) :
    (∀ path ∈ files.paths, OutputPath path) ∧
      ∀ (dir : Path) (session : Session), WrittenInside dir session.files
        (StateT.run (ExceptT.run (writeFiles dir DotNet.backend.dirs files)) session).2.files := by
  have hpaths := DotNet.outputPath_of_returns h
  refine ⟨hpaths, fun dir session => ?_⟩
  exact (keeps_writeFiles hpaths DotNet.backend.dirs).run (writtenInside_refl dir session.files)

/-- Models with names that would lead elsewhere as paths. -/
def climbingNames : SchemaSet where
  models := ["..", "..\\up", "1st"].map fun name =>
    ⟨.str name, [], .null, .str "https://schema.org/Event", []⟩
  enums := []

theorem files_stay_inside_climbingNames :
    ∃ files, DotNet.Returns ⟨DotNet.backend, .default, .empty⟩ climbingNames files ∧
      files.paths = ["/models/Field.cs", "/models/Up.cs", "/models/_1st.cs"] ∧
      (∀ path ∈ files.paths, OutputPath path) ∧
      WrittenInside (Path.ofText "out") FileTree.empty (StateT.run (ExceptT.run
        (writeFiles (Path.ofText "out") DotNet.backend.dirs files)) ⟨.warning, [], .empty⟩).2.files := by
  have hgenerated : ∃ files,
      ((⟨DotNet.backend, .default, .empty⟩ : Generator).generate climbingNames).outcome = .ok files ∧
        files.paths = ["/models/Field.cs", "/models/Up.cs", "/models/_1st.cs"] :=
    Attempt.exists_ok_of_decide (by decide +kernel)
  obtain ⟨files, hfiles, hpaths⟩ := hgenerated
  have hreturns : DotNet.Returns ⟨DotNet.backend, .default, .empty⟩ climbingNames files := .inl hfiles
  obtain ⟨hplain, hwritten⟩ := files_stay_inside .default .empty climbingNames files hreturns
  exact ⟨files, hreturns, hpaths, hplain, hwritten (Path.ofText "out") ⟨.warning, [], .empty⟩⟩

end TypedVocabulary.Command
