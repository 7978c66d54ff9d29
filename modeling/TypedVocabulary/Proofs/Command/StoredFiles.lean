import TypedVocabulary.Proofs.Command.WrittenFiles

/-! # Stored files

When writing comes to its end, the directories of the language are there, each generated file stands
under its path with its text, and no other file has changed. Writing keeps this true of the files
that it has come to so far: their places differ, so no file is written over by a later one.
-/
namespace TypedVocabulary.Command
open DotNet (OutputPath directories pathIn)
open Step

def below (dir : Path) (text : String) : Path := dir.append (Path.ofText text).names

structure Stored (dir : Path) (dirs : List String) (written : GeneratedFiles)
    (before after : FileTree) : Prop where
  directories : ∀ d ∈ dirs, ∃ place, after.node (below dir d) = .ok (.directory place)
  entries : ∀ entry ∈ written,
    ∃ place, after.node (below dir entry.1) = .ok (.file place (.text entry.2))
  others : ∀ place, after.file? place ≠ before.file? place →
    ∃ entry ∈ written, after.node (below dir entry.1) = .ok (.file place (.text entry.2))

variable {dir : Path} {dirs : List String} {done : GeneratedFiles} {before t t' : FileTree}
  {path path' code : String}

theorem stored_refl (dir : Path) (t : FileTree) : Stored dir [] [] t t where
  directories _ hd := nomatch hd
  entries _ he := nomatch he
  others _ h := absurd rfl h

theorem Stored.perm (h : Stored dir dirs done before t) {written : GeneratedFiles}
    (hw : done.Perm written) : Stored dir dirs written before t where
  directories := h.directories
  entries entry hentry := h.entries entry (hw.mem_iff.mpr hentry)
  others place hplace := by
    obtain ⟨entry, hentry, hnode⟩ := h.others place hplace
    exact ⟨entry, hw.mem_iff.mp hentry, hnode⟩

theorem Stored.grown (h : Stored dir dirs done before t) (hg : t.Grown t') :
    Stored dir dirs done before t' where
  directories d hd := by
    obtain ⟨place, hnode⟩ := h.directories d hd
    exact ⟨place, hg.keeps.node hnode⟩
  entries entry hentry := by
    obtain ⟨place, hnode⟩ := h.entries entry hentry
    exact ⟨place, hg.node_file hnode⟩
  others place hplace := by
    rw [hg.file?] at hplace
    obtain ⟨entry, hentry, hnode⟩ := h.others place hplace
    exact ⟨entry, hentry, hg.node_file hnode⟩

theorem Stored.directory (h : Stored dir dirs done before t) {d : String} {place : Place}
    (hd : t.node (below dir d) = .ok (.directory place)) :
    Stored dir (dirs ++ [d]) done before t where
  directories d' hd' := by
    rcases List.mem_append.mp hd' with hd' | hd'
    · exact h.directories d' hd'
    · obtain rfl := List.mem_singleton.mp hd'
      exact ⟨place, hd⟩
  entries := h.entries
  others := h.others

/-- Files with different paths have different places, also before and after a write. -/
theorem path_eq_of_place_eq {place : Place} {c c' : FileContent} (hp : OutputPath path)
    (hp' : OutputPath path') (hk : t.KeepsDirectories t')
    (h : t.node (below dir path) = .ok (.file place c))
    (h' : t'.node (below dir path') = .ok (.file place c')) : path = path' := by
  obtain ⟨a, ha, name, hn, rfl⟩ := hp
  obtain ⟨a', ha', name', hn', rfl⟩ := hp'
  have hdown : ∀ a ∈ directories, a ≠ ".." := by decide
  unfold below at h h'
  rw [DotNet.names_pathIn ha hn] at h
  rw [DotNet.names_pathIn ha' hn'] at h'
  obtain ⟨d, hd, rfl⟩ := FileTree.place_of_node (hdown a ha) h
  obtain ⟨d', hd', hplace⟩ := FileTree.place_of_node (hdown a' ha') h'
  cases (hk.walk hd).symm.trans hd'
  simp only [List.append_cancel_left_eq, List.cons.injEq, String.append_left_inj, and_true] at hplace
  rw [hplace.1, hplace.2]

/-- One more file, under a path of its own. -/
theorem Stored.write (h : Stored dir dirs done before t)
    (hdone : ∀ entry ∈ done, OutputPath entry.1) (hpath : OutputPath path) (hnew : path ∉ done.paths)
    (hw : t.write (below dir path) code = (t', .ok ())) :
    Stored dir dirs (done ++ [(path, code)]) before t' := by
  rcases t.write_cases (below dir path) code with ⟨e, he⟩ | ⟨d, name, hleads, hfree, hput⟩
  · cases he.symm.trans hw
  cases hput.symm.trans hw
  have hkeeps := FileTree.keepsDirectories_put hfree (.text code)
  have hlast := hleads.node_put hfree (.text code)
  have hstays : ∀ entry ∈ done, ∀ place,
      t.node (below dir entry.1) = .ok (.file place (.text entry.2)) →
      (t.put (d ++ [name]) (.text code)).node (below dir entry.1) =
        .ok (.file place (.text entry.2)) := by
    intro entry hentry place hnode
    have hne : d ++ [name] ≠ place := by
      rintro rfl
      have hsame := path_eq_of_place_eq (hdone entry hentry) hpath hkeeps hnode hlast
      exact hnew (hsame ▸ List.mem_map_of_mem hentry)
    refine hkeeps.node_file ?_ hnode
    rw [FileTree.file?_put, if_neg hne]
    exact FileTree.file?_of_node hnode
  refine ⟨fun d hd => ?_, fun entry hentry => ?_, fun place hplace => ?_⟩
  · obtain ⟨place, hnode⟩ := h.directories d hd
    exact ⟨place, hkeeps.node hnode⟩
  · rcases List.mem_append.mp hentry with hentry | hentry
    · obtain ⟨place, hnode⟩ := h.entries entry hentry
      exact ⟨place, hstays entry hentry place hnode⟩
    · obtain rfl := List.mem_singleton.mp hentry
      exact ⟨d ++ [name], hlast⟩
  · rw [FileTree.file?_put] at hplace
    by_cases hat : d ++ [name] = place
    · exact ⟨(path, code), by simp, hat ▸ hlast⟩
    · rw [if_neg hat] at hplace
      obtain ⟨entry, hentry, hnode⟩ := h.others place hplace
      exact ⟨entry, List.mem_append_left _ hentry, hstays entry hentry place hnode⟩

/-! ## Writing

Of writing that fails nothing is said. -/

variable {E : FileTree → Prop} (hE : ∀ t, E t)
include hE

theorem triple_ensureDirectory (p : Path) :
    Triple (Stored dir dirs done before) (changeFiles (·.ensureDirectory p))
      (fun _ t => Stored dir dirs done before t ∧ ∃ place, t.node p = .ok (.directory place)) E := by
  refine triple_changeFiles (fun t t' ht h => ?_) fun _ t' _ _ _ => hE t'
  have hgrown := t.grown_ensureDirectory p
  rw [h] at hgrown
  exact ⟨ht.grown hgrown, FileTree.node_of_ensureDirectory h⟩

theorem triple_makeDirectories (dir : Path) (dirs : List String) :
    Triple (· = before) (makeDirectories dir dirs) (fun _ => Stored dir dirs [] before) E := by
  have hloop : Triple (Stored dir [] [] before) (makeDirectories dir dirs)
      (fun _ => Stored dir dirs [] before) E := by
    unfold makeDirectories
    refine triple_forM (Stored dir · [] before) fun made d _ _ => ?_
    refine (triple_ensureDirectory hE (below dir d)).post fun _ t ht => ?_
    obtain ⟨hstored, place, hplace⟩ := ht
    exact hstored.directory hplace
  exact hloop.pre fun t ht => ht ▸ stored_refl dir t

theorem triple_writeFile {entry : String × String} (hdone : ∀ entry ∈ done, OutputPath entry.1)
    (hpath : OutputPath entry.1) (hnew : entry.1 ∉ done.paths) :
    Triple (Stored dir dirs done before) (writeFile dir entry)
      (fun _ => Stored dir dirs (done ++ [entry]) before) E := by
  unfold writeFile
  refine (triple_ensureDirectory hE _).bind fun _ => triple_changeFiles (fun t t' ht h => ?_)
    fun _ t' _ _ _ => hE t'
  exact ht.1.write hdone hpath hnew h

/-- Writing that succeeds has stored all files. -/
theorem triple_writeFiles {written : GeneratedFiles}
    (hpaths : ∀ path ∈ written.paths, OutputPath path) (hnodup : written.paths.Nodup) :
    Triple (· = before) (writeFiles dir dirs written) (fun _ => Stored dir dirs written before)
      E := by
  have hperm : (Text.sortByKey written).Perm written := List.mergeSort_perm _ _
  have hsorted : (GeneratedFiles.paths (Text.sortByKey written)).Nodup :=
    (hperm.map Prod.fst).nodup_iff.mpr hnodup
  have hloop : Triple (Stored dir dirs [] before) ((Text.sortByKey written).forM (writeFile dir))
      (fun _ => Stored dir dirs (Text.sortByKey written) before) E := by
    refine triple_forM (Stored dir dirs · before) fun done entry after hsplit => ?_
    have hpath : ∀ e ∈ done ++ entry :: after, OutputPath e.1 := by
      intro e he
      refine hpaths e.1 (List.mem_map_of_mem (hperm.mem_iff.mp ?_))
      rwa [hsplit]
    rw [hsplit, GeneratedFiles.paths, List.map_append, List.map_cons] at hsorted
    refine triple_writeFile hE (fun e he => hpath e (by simp [he])) (hpath entry (by simp)) ?_
    exact fun hmem => (List.nodup_append.mp hsorted).2.2 _ hmem _ List.mem_cons_self rfl
  unfold writeFiles
  refine (triple_makeDirectories hE dir dirs).bind fun _ => hloop.bind fun _ => ?_
  have hnote : Keeps (Stored dir dirs (Text.sortByKey written) before)
      (note .info s!"Wrote {written.length} file(s) to {dir.text}") := keeps_perform _
  exact (hnote.triple fun t _ => hE t).post fun _ t ht => ht.perm hperm

end TypedVocabulary.Command
