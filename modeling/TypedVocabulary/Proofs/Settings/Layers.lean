import TypedVocabulary.Proofs.Json.Members
import TypedVocabulary.Proofs.Json.ReadBack
import TypedVocabulary.Proofs.Outcomes
import TypedVocabulary.Settings.Sources

/-! # Layers of settings

The defaults of a language, a settings file and overrides are layers, the later above the earlier. A
layer gives a custom setting under its plain name or as a member of `custom`. A setting of the program
comes from the highest layer that gives it, and so does a custom setting among those that give it under
its plain name. Only where no layer does is it looked for in `custom`, from the highest layer on.
-/
namespace TypedVocabulary.Settings
open Json (find?)
open KeyedList (keys put putAll)
open Attempt

variable {table base overrides : List (String × Json)} {members old new : List (String × Json)}
  {name : String} {v : Json}

/-! ## Merging -/

/-- The members of `custom`, of which a table without it has none. -/
def nested? (table : List (String × Json)) : Option (List (String × Json)) :=
  match (find? "custom" table).getD (.obj []) with
  | .obj members => some members
  | _ => none

theorem nested?_eq_some_iff : nested? table = some members ↔
    (find? "custom" table).getD (.obj []) = .obj members := by
  unfold nested?
  split
  · rename_i ms h
    rw [h]
    simp
  · rename_i v h
    simpa using h members

theorem nested?_of_none (h : find? "custom" table = none) : nested? table = some [] := by
  unfold nested?
  rw [h]
  rfl

theorem nested?_of_obj (h : find? "custom" table = some (.obj members)) :
    nested? table = some members := by
  unfold nested?
  rw [h]
  rfl

theorem nested?_congr (h : find? "custom" table = find? "custom" base) :
    nested? table = nested? base := by
  unfold nested?
  rw [h]

theorem mergeOne_of_ne {entry : String × Json} (h : entry.1 ≠ "custom") :
    mergeOne base entry = .ok (put entry.1 entry.2 base) := by
  unfold mergeOne
  split
  · exact absurd rfl h
  · rfl

theorem mergeOne_custom (h : nested? base = some old) (new : List (String × Json)) :
    mergeOne base ("custom", .obj new) = .ok (put "custom" (.obj (putAll old new)) base) := by
  rw [nested?_eq_some_iff] at h
  simp only [mergeOne, h]

theorem merge_of_plain (hn : (keys overrides).Nodup)
    (h : ∀ members, find? "custom" overrides ≠ some (.obj members)) (base : List (String × Json)) :
    merge base overrides = .ok (putAll base overrides) := by
  induction overrides generalizing base with
  | nil => rfl
  | cons entry rest ih =>
    obtain ⟨hentry, hrest⟩ := List.nodup_cons.mp hn
    have hone : mergeOne base entry = .ok (put entry.1 entry.2 base) := by
      by_cases hkey : entry.1 = "custom"
      · obtain ⟨key, value⟩ := entry
        obtain rfl : key = "custom" := hkey
        cases value with
        | obj members => exact absurd rfl (h members)
        | null | bool | int | float | str | arr => rfl
      · exact mergeOne_of_ne hkey
    refine bind_ok_iff.mpr ⟨_, hone, ih hrest (fun members hmembers => ?_) _⟩
    refine h members ?_
    rw [Json.find?_cons, if_neg, hmembers]
    rintro hkey
    exact hentry (hkey ▸ Json.isSome_find?_iff.mp (by rw [hmembers]; rfl))

/-- What a merged table says: the upper table counts, except that the members of `custom` are merged. -/
theorem merge_ok (hbase : nested? base = some old) (hover : nested? overrides = some new)
    (hb : (keys base).Nodup) (ho : (keys overrides).Nodup) :
    ∃ merged, merge base overrides = .ok merged ∧ (keys merged).Nodup ∧
      nested? merged = some (putAll old new) ∧
      ∀ name, name ≠ "custom" → find? name merged = (find? name overrides).or (find? name base) := by
  induction overrides generalizing base old new with
  | nil =>
    obtain rfl : [] = new := Option.some.inj hover
    exact ⟨base, rfl, hb, hbase, fun name _ => rfl⟩
  | cons entry rest ih =>
    obtain ⟨hentry, hrest⟩ := List.nodup_cons.mp ho
    have hnone : find? entry.1 rest = none := Json.find?_eq_none_iff.mpr hentry
    by_cases hkey : entry.1 = "custom"
    · -- The one entry under this name is merged, and the rest leaves `custom` alone.
      obtain ⟨key, value⟩ := entry
      obtain rfl : key = "custom" := hkey
      obtain rfl : value = .obj new := nested?_eq_some_iff.mp hover
      have hmerged : nested? (put "custom" (.obj (putAll old new)) base) =
          some (putAll old new) := by
        refine nested?_of_obj ?_
        rw [Json.find?_put, if_pos rfl]
      obtain ⟨merged, hm, hn, hcustom, hfind⟩ :=
        ih hmerged (nested?_of_none hnone) (KeyedList.nodup_keys_put hb "custom" _) hrest
      refine ⟨merged, bind_ok_iff.mpr ⟨_, mergeOne_custom hbase new, hm⟩, hn, hcustom, ?_⟩
      intro name hname
      rw [hfind name hname, Json.find?_put, if_neg hname.symm, Json.find?_cons, if_neg hname.symm]
    · have hover' : nested? rest = some new := by
        rw [← hover]
        exact nested?_congr (KeyedList.value?_cons_of_ne hkey).symm
      have hbase' : nested? (put entry.1 entry.2 base) = some old := by
        rw [← hbase]
        exact nested?_congr (by rw [Json.find?_put, if_neg hkey])
      obtain ⟨merged, hm, hn, hcustom, hfind⟩ :=
        ih hbase' hover' (KeyedList.nodup_keys_put hb entry.1 entry.2) hrest
      refine ⟨merged, bind_ok_iff.mpr ⟨_, mergeOne_of_ne hkey, hm⟩, hn, hcustom, ?_⟩
      intro name hname
      rw [hfind name hname, Json.find?_put, Json.find?_cons]
      by_cases hsame : entry.1 = name
      · rw [if_pos hsame, if_pos hsame, ← hsame, hnone]
        rfl
      · rw [if_neg hsame, if_neg hsame]

/-! ## Settings of a merged table -/

/-- The entries that are settings of the program. -/
def known (table : List (String × Json)) : List (String × Json) :=
  table.filter fun m => names.contains m.1

def unknown (table : List (String × Json)) : List (String × Json) :=
  table.filter fun m => !names.contains m.1

theorem find?_known (table : List (String × Json)) (h : name ∈ names) :
    find? name (known table) = find? name table := by
  unfold known
  rw [Json.find?_filter names.contains, if_pos (List.contains_iff_mem.mpr h)]

theorem find?_unknown (table : List (String × Json)) (name : String) :
    find? name (unknown table) = if name ∈ names then none else find? name table := by
  unfold unknown
  rw [Json.find?_filter fun name => !names.contains name]
  by_cases h : name ∈ names
  · simp [h]
  · simp [h]

theorem nodup_unknown (h : (keys table).Nodup) : (keys (unknown table)).Nodup :=
  h.sublist (List.filter_sublist.map Prod.fst)

theorem find?_ofTable (table : List (String × Json)) (h : name ∈ names) :
    find? name (ofTable table).toTable = (find? name table).or (find? name default.toTable) := by
  simp only [names, List.mem_cons, List.not_mem_nil, or_false] at h
  rcases h with rfl | rfl | rfl | rfl | rfl | rfl | rfl | rfl | rfl | rfl | rfl | rfl | rfl | rfl |
    rfl | rfl <;> exact (Option.or_some ..).symm

theorem custom_ofTable (table : List (String × Json)) :
    (ofTable table).custom = (find? "custom" table).getD (.obj []) := rfl

theorem ofMerged_eq (h : unknown table ≠ []) :
    ofMerged table = Table.read ((find? "custom" table).getD (.obj [])) >>= fun custom =>
      pure (ofTable (put "custom" (.obj (Table.toMembers (putAll custom (Table.ofMembers (unknown table)))))
        (known table))) := by
  have hcustom : find? "custom" (known table) = find? "custom" table :=
    find?_known table (by decide)
  rw [← hcustom]
  exact if_neg fun hempty => h (List.isEmpty_iff.mp hempty)

theorem custom_of_ofMerged {s : Settings} (hunknown : unknown table ≠ [])
    (h : ofMerged table = .ok s) : ∃ custom,
      Table.read ((find? "custom" table).getD (.obj [])) = .ok custom ∧
      s.custom = .obj (Table.toMembers (putAll custom (Table.ofMembers (unknown table)))) := by
  rw [ofMerged_eq hunknown] at h
  obtain ⟨custom, hread, hs⟩ := bind_ok_iff.mp h
  obtain rfl := pure_ok_iff.mp hs
  refine ⟨custom, hread, ?_⟩
  rw [custom_ofTable, Json.find?_put, if_pos rfl]
  rfl

theorem ofMerged_ok (h : nested? table = some members) :
    ∃ s, ofMerged table = .ok s ∧ s.custom = .obj (putAll members (unknown table)) ∧
      ∀ name ∈ names, name ≠ "custom" →
        find? name s.toTable = (find? name table).or (find? name default.toTable) := by
  rw [nested?_eq_some_iff] at h
  by_cases hempty : unknown table = []
  · refine ⟨ofTable (known table), if_pos (List.isEmpty_iff.mpr hempty), ?_, ?_⟩
    · rw [custom_ofTable, find?_known table (by decide), h, hempty]
      rfl
    · intro name hname _
      rw [find?_ofTable _ hname, find?_known table hname]
  · have hread : Table.read (.obj members) = .ok (Table.ofMembers members) := rfl
    rw [ofMerged_eq hempty, h, hread]
    refine ⟨_, rfl, ?_, ?_⟩
    · rw [custom_ofTable, Json.find?_put, if_pos rfl, Table.putAll_ofMembers,
        Table.toMembers_ofMembers]
      rfl
    · intro name hname hne
      rw [find?_ofTable _ hname, Json.find?_put, if_neg hne.symm, find?_known table hname]

/-- The setting of that name, which is a custom one unless the program has it. -/
def value? (s : Settings) (name : String) : Option Json :=
  if name ∈ names then find? name s.toTable
  else
    match s.custom with
    | .obj members => find? name members
    | _ => none

/-! ## Layers -/

structure Layer (table : List (String × Json)) : Prop where
  distinct : (keys table).Nodup
  custom : ∀ v, find? "custom" table = some v → ∃ members, v = .obj members ∧ (keys members).Nodup

/-- What a layer says of a name inside `custom`. -/
def inCustom? (table : List (String × Json)) (name : String) : Option Json :=
  (nested? table).bind (find? name)

theorem inCustom?_eq (h : nested? table = some members) (name : String) :
    inCustom? table name = find? name members := by
  unfold inCustom?
  rw [h]
  rfl

namespace Layer
variable {F C : List (String × Json)} {t : FileTree} {language file : Json}

theorem exists_nested (h : Layer table) :
    ∃ members, nested? table = some members ∧ (keys members).Nodup := by
  cases hcustom : find? "custom" table with
  | none => exact ⟨[], nested?_of_none hcustom, List.nodup_nil⟩
  | some v =>
    obtain ⟨members, rfl, hn⟩ := h.custom v hcustom
    exact ⟨members, nested?_of_obj hcustom, hn⟩

theorem of_none (hn : (keys table).Nodup) (h : find? "custom" table = none) : Layer table :=
  ⟨hn, fun _ hv => by rw [h] at hv; cases hv⟩

theorem of_obj (hn : (keys table).Nodup) (h : find? "custom" table = some (.obj members))
    (hm : (keys members).Nodup) : Layer table :=
  ⟨hn, fun _ hv => ⟨members, Option.some.inj (hv.symm.trans h), hm⟩⟩

theorem exists_merge (hbase : Layer base) (hover : Layer overrides) :
    ∃ merged, merge base overrides = .ok merged ∧ Layer merged ∧
      (∀ name, name ≠ "custom" → find? name merged = (find? name overrides).or (find? name base)) ∧
      ∀ name, inCustom? merged name = (inCustom? overrides name).or (inCustom? base name) := by
  obtain ⟨old, hold, hno⟩ := hbase.exists_nested
  obtain ⟨new, hnew, hnn⟩ := hover.exists_nested
  obtain ⟨merged, hm, hn, hcustom, hfind⟩ := merge_ok hold hnew hbase.distinct hover.distinct
  refine ⟨merged, hm, ⟨hn, ?_⟩, hfind, ?_⟩
  · intro v hv
    rw [nested?_eq_some_iff, hv] at hcustom
    exact ⟨_, hcustom, KeyedList.nodup_keys_putAll hno new⟩
  · intro name
    rw [inCustom?_eq hcustom, inCustom?_eq hold, inCustom?_eq hnew]
    exact Json.find?_putAll hnn old name

theorem nil : Layer [] := of_none List.nodup_nil rfl

theorem of_languageDefaults (h : (name, table) ∈ languageDefaults) : Layer table := by
  cases List.mem_singleton.mp h
  exact of_obj (by decide) rfl (by decide)

theorem keys_languageDefaults (h : (name, table) ∈ languageDefaults) :
    ∀ key ∈ keys table, key ∈ names := by
  cases List.mem_singleton.mp h
  decide

/-- Defaults give custom settings inside `custom` only. -/
theorem of_defaultsFor (h : defaultsFor language = .ok base) :
    Layer base ∧ ∀ name, name ∉ names → find? name base = none := by
  have hcases : base = [] ∨ ∃ l, (l, base) ∈ languageDefaults := by
    unfold defaultsFor at h
    split at h
    · cases h
      cases language with
      | str l =>
        cases hfind : KeyedList.value? languageDefaults l with
        | none => exact .inl (by simp only [hfind]; rfl)
        | some table =>
          refine .inr ⟨l, ?_⟩
          simp only [hfind]
          exact KeyedList.mem_of_value? hfind
      | null | bool | int | float | arr | obj => exact .inl rfl
    · cases h
  rcases hcases with rfl | ⟨l, hl⟩
  · exact ⟨nil, fun _ _ => rfl⟩
  · refine ⟨of_languageDefaults hl, fun name hname => Json.find?_eq_none_iff.mpr ?_⟩
    exact fun hmem => hname (keys_languageDefaults hl name hmem)

end Layer

/-! ## The settings file -/

theorem readFile_ok {t : FileTree} {file : String}
    (hexists : t.pathExists (Path.ofText file) = .ok true)
    (hextension : (Path.ofText file).hasExtension [".json"] = true)
    (hopen : t.open (Path.ofText file) = .ok (.text (Json.obj members).write))
    (hreads : Json.ReadsBack (.obj members)) : readFile t file = .ok members := by
  obtain ⟨text, hdecode, hparse⟩ := hreads
  unfold readFile
  simp only [hexists, hextension, hopen, hdecode, hparse, ok_bind, Bool.not_true,
    Bool.false_eq_true, if_false]
  rfl

/-- The settings file as a layer; an absent one says nothing. -/
def fileLayer (t : FileTree) (file : Json) : Attempt (List (String × Json)) :=
  if file.truthy then do readFile t (← file.asOperand) else .ok []

section
variable {t : FileTree} {language file : Json} {F C : List (String × Json)}

theorem load_eq (hbase : defaultsFor language = .ok base) (hfile : fileLayer t file = .ok F)
    (C : List (String × Json)) :
    load t language (.obj C) file = merge base F >>= fun below => merge below C >>= ofMerged := by
  have hover : ∀ below : List (String × Json),
      (if (Json.obj C).truthy then merge below C >>= ofMerged else pure below >>= ofMerged) =
        merge below C >>= ofMerged := by
    intro below
    cases C with
    | nil => rfl
    | cons m rest => rfl
  unfold load fileLayer at *
  rw [hbase, ok_bind]
  by_cases htruthy : file.truthy = true
  · rw [if_pos htruthy] at hfile ⊢
    obtain ⟨name, hname, hread⟩ := bind_ok_iff.mp hfile
    rw [hname, ok_bind, hread, ok_bind]
    exact bind_congr hover
  · rw [if_neg htruthy] at hfile ⊢
    cases hfile
    exact hover base

/-- Where each setting comes from, for settings of the program and for custom ones. -/
theorem load_layers (hbase : defaultsFor language = .ok base) (hfile : fileLayer t file = .ok F)
    (hF : Layer F) (hC : Layer C) :
    ∃ s custom, load t language (.obj C) file = .ok s ∧ s.custom = .obj custom ∧
      (keys custom).Nodup ∧
      (∀ name ∈ names, name ≠ "custom" → find? name s.toTable =
        (find? name C).or ((find? name F).or ((find? name base).or (find? name default.toTable)))) ∧
      ∀ name, find? name custom =
        (if name ∈ names then none else (find? name C).or (find? name F)).or
          ((inCustom? C name).or ((inCustom? F name).or (inCustom? base name))) := by
  obtain ⟨hlayer, hflat⟩ := Layer.of_defaultsFor hbase
  obtain ⟨below, hbelow, hB, hfindB, hcustomB⟩ := hlayer.exists_merge hF
  obtain ⟨merged, hmerged, hM, hfindM, hcustomM⟩ := hB.exists_merge hC
  obtain ⟨members, hmembers, hn⟩ := hM.exists_nested
  obtain ⟨s, hs, hcustom, hnames⟩ := ofMerged_ok hmembers
  refine ⟨s, _, ?_, hcustom, KeyedList.nodup_keys_putAll hn _, ?_, ?_⟩
  · rw [load_eq hbase hfile]
    exact bind_ok_iff.mpr ⟨below, hbelow, bind_ok_iff.mpr ⟨merged, hmerged, hs⟩⟩
  · intro name hname hne
    rw [hnames name hname hne, hfindM name hne, hfindB name hne, Option.or_assoc, Option.or_assoc]
  · intro name
    have hin : find? name members =
        (inCustom? C name).or ((inCustom? F name).or (inCustom? base name)) := by
      rw [← hcustomB, ← hcustomM, inCustom?_eq hmembers]
    rw [Json.find?_putAll (nodup_unknown hM.distinct), find?_unknown, hin]
    by_cases hname : name ∈ names
    · rw [if_pos hname, if_pos hname]
    · have hne : name ≠ "custom" := by
        rintro rfl
        exact hname (by decide)
      rw [if_neg hname, if_neg hname, hfindM name hne, hfindB name hne, hflat name hname,
        Option.or_none]

/-- An override gives its setting, but one inside `custom` yields to the settings file where that
has a custom setting under its plain name. -/
theorem overrides_win (hlanguage : language.hashable = true) (hfile : fileLayer t file = .ok F)
    (hF : Layer F) (hC : Layer C) :
    ∃ s, load t language (.obj C) file = .ok s ∧
      (∀ name v, name ≠ "custom" → find? name C = some v → s.value? name = some v) ∧
      ∀ members name v, find? "custom" C = some (.obj members) → find? name members = some v →
        name ∉ names → find? name C = none →
        s.value? name = some ((find? name F).getD v) := by
  obtain ⟨base, hbase⟩ : ∃ base, defaultsFor language = .ok base := ⟨_, if_pos hlanguage⟩
  obtain ⟨s, custom, hs, hcustom, -, hknown, hfind⟩ := load_layers hbase hfile hF hC
  have hvalue : ∀ name, name ∉ names → s.value? name = find? name custom := by
    intro name hname
    unfold value?
    rw [if_neg hname, hcustom]
  refine ⟨s, hs, ?_, ?_⟩
  · intro name v hne hv
    by_cases hname : name ∈ names
    · unfold value?
      rw [if_pos hname, hknown name hname hne, hv]
      rfl
    · rw [hvalue name hname, hfind, if_neg hname, hv]
      rfl
  · intro members name v hmembers hv hname hnone
    have hin : inCustom? C name = some v :=
      (inCustom?_eq (nested?_of_obj hmembers) name).trans hv
    rw [hvalue name hname, hfind, if_neg hname, hnone, hin]
    cases find? name F with
    | none => rfl
    | some w => rfl

end

/-- A settings file with a custom setting under its plain name. -/
def plainCustomFile : FileTree :=
  ⟨[(["settings.json"], .text (Json.obj [("union_converter", .str "FileConverter")]).write)], [[]]⟩

theorem overrides_win_union_converter :
    (Json.str "dotnet").hashable = true ∧
      fileLayer plainCustomFile (.str "settings.json") =
        .ok [("union_converter", .str "FileConverter")] ∧
      Layer [("union_converter", .str "FileConverter")] ∧
      Layer [("custom", .obj [("union_converter", .str "OverrideConverter")])] ∧
      ∃ s, load plainCustomFile (.str "dotnet")
          (.obj [("custom", .obj [("union_converter", .str "OverrideConverter")])])
          (.str "settings.json") = .ok s ∧
        s.value? "union_converter" = some (.str "FileConverter") := by
  have hread : readFile plainCustomFile "settings.json" =
      .ok [("union_converter", .str "FileConverter")] :=
    readFile_ok (by decide +kernel) (by decide +kernel) rfl
      (Json.readsBack_of_chars (by decide +kernel) (by decide +kernel))
  have hfile : fileLayer plainCustomFile (.str "settings.json") =
      .ok [("union_converter", .str "FileConverter")] := by
    unfold fileLayer
    rw [if_pos (by decide)]
    exact hread
  have hF : Layer [("union_converter", .str "FileConverter")] :=
    .of_none (by decide) rfl
  have hC : Layer [("custom", .obj [("union_converter", .str "OverrideConverter")])] :=
    .of_obj (by decide) rfl (by decide)
  have hlanguage : (Json.str "dotnet").hashable = true := rfl
  obtain ⟨s, hs, -, hcustom⟩ := overrides_win hlanguage hfile hF hC
  exact ⟨hlanguage, hfile, hF, hC, s, hs,
    hcustom _ "union_converter" (.str "OverrideConverter") rfl rfl (by decide) rfl⟩

end TypedVocabulary.Settings
