import TypedVocabulary.Proofs.Json.Equality
import TypedVocabulary.Proofs.Settings.Layers
import TypedVocabulary.Proofs.Source.FileTree

/-! # Saving and reloading

Saved settings have the custom ones beside the others, and a reader takes every name of the program for
a setting of the program. So they come back as they were unless a custom setting has such a name: it
replaces the other or vanishes, and one that is called `custom` would have to hold itself to come back.
-/
namespace TypedVocabulary.Settings
open Json (find?)
open KeyedList (keys put putAll)
open Attempt

/-- Equality of all settings, in which the order of members does not count. -/
def Same (s s' : Settings) : Prop := Json.same (.obj s.toTable) (.obj s'.toTable) = true

variable {s s' : Settings} {members : List (String × Json)} {t : FileTree} {file name : String}

theorem keys_toTable (s : Settings) : keys s.toTable = names := rfl

theorem exists_toTable (s : Settings) (h : name ∈ names) : ∃ v, find? name s.toTable = some v :=
  Json.exists_find?_of_mem (keys_toTable s ▸ h)

theorem same_iff : s.Same s' ↔ ∀ name ∈ names, ∃ v w, find? name s.toTable = some v ∧
    find? name s'.toTable = some w ∧ Json.same v w = true := by
  have hnodup : (keys s.toTable).Nodup := by
    rw [keys_toTable]
    decide
  have hlength : s.toTable.length = s'.toTable.length := rfl
  unfold Same
  rw [Json.same, Bool.and_eq_true, hlength, beq_self_eq_true, eq_self, true_and,
    Json.sameMembers_iff]
  constructor
  · intro h name hname
    obtain ⟨v, hv⟩ := s.exists_toTable hname
    obtain ⟨w, hw, hsame⟩ := h (name, v) (Json.mem_of_find? hv)
    exact ⟨v, w, hv, hw, hsame⟩
  · intro h m hm
    have hname : m.1 ∈ names := keys_toTable s ▸ List.mem_map_of_mem hm
    obtain ⟨v, w, hv, hw, hsame⟩ := h m.1 hname
    rw [Json.find?_of_mem hnodup hm] at hv
    cases hv
    exact ⟨w, hw, hsame⟩

/-! ## Saving -/

/-- The custom settings beside the others. -/
def flat (s : Settings) (members : List (String × Json)) : List (String × Json) :=
  putAll s.toTable.dropLast members

theorem saved_ok (h : s.custom = .obj members) : s.saved = .ok (s.flat members) := by
  unfold saved
  rw [h]
  change Except.ok _ = _
  rw [Table.putAll_ofMembers, Table.toMembers_ofMembers]
  rfl

theorem save_ok (h : s.custom = .obj members)
    (hwritable : ∀ text, (t.write (Path.ofText file) text).2 = .ok ()) :
    ∃ t', save t s file = .ok t' ∧
      t.write (Path.ofText file) (Json.write (.obj (s.flat members))) = (t', .ok ()) := by
  have hw := hwritable (Json.write (.obj (s.flat members)))
  refine ⟨_, ?_, Prod.ext rfl hw⟩
  unfold save
  rw [saved_ok h, ok_bind]
  split
  · rename_i heq
    rw [heq]
    rfl
  · rename_i heq
    rw [heq] at hw
    cases hw
  · rename_i heq
    rw [heq] at hw
    cases hw

theorem find?_dropLast_toTable (s : Settings) (name : String) :
    find? name s.toTable.dropLast = if name = "custom" then none else find? name s.toTable := by
  by_cases h : name = "custom"
  · rw [if_pos h, h, Json.find?_eq_none_iff]
    exact (by decide : "custom" ∉ names.dropLast)
  · have hlast : s.toTable = s.toTable.dropLast ++ [("custom", s.custom)] := rfl
    have hsplit : find? name s.toTable =
        (find? name s.toTable.dropLast).or (find? name [("custom", s.custom)]) := by
      rw [hlast]
      exact KeyedList.value?_append
    rw [if_neg h, hsplit, Json.find?_cons, if_neg (Ne.symm h)]
    exact (Option.or_none).symm

theorem find?_flat (hn : (keys members).Nodup) (s : Settings) (name : String) :
    find? name (s.flat members) = (find? name members).or
      (if name = "custom" then none else find? name s.toTable) := by
  unfold flat
  rw [Json.find?_putAll hn, find?_dropLast_toTable]

theorem nodup_flat (s : Settings) (members : List (String × Json)) :
    (keys (s.flat members)).Nodup := by
  refine KeyedList.nodup_keys_putAll ?_ members
  exact (by decide : names.dropLast.Nodup)

theorem fileLayer_of_save (hcustom : s.custom = .obj members)
    (hjson : (Path.ofText file).hasExtension [".json"] = true)
    (hwritable : ∀ text, (t.write (Path.ofText file) text).2 = .ok ())
    (hreads : Json.ReadsBack (.obj (s.flat members))) :
    ∃ t', save t s file = .ok t' ∧ fileLayer t' (.str file) = .ok (s.flat members) := by
  obtain ⟨t', hsave, hwrite⟩ := save_ok hcustom hwritable
  obtain ⟨hexists, hopen⟩ := FileTree.open_of_write hwrite
  have hfile : (Json.str file).truthy = true := by
    by_contra hempty
    have : file = "" := by simpa [Json.truthy] using hempty
    subst this
    revert hjson
    decide +kernel
  refine ⟨t', hsave, ?_⟩
  unfold fileLayer
  rw [if_pos hfile]
  exact readFile_ok hexists hjson hopen hreads

/-! ## Reloading -/

/-- The custom settings of the default language. -/
def converterNames : List String := ["duration_converter", "time_converter", "union_converter"]

theorem exists_dotnetDefaults : ∃ base, defaultsFor (.str "dotnet") = .ok base ∧
    ∀ name, inCustom? base name = none ↔ name ∉ converterNames :=
  ⟨_, rfl, fun _ => Json.find?_eq_none_iff⟩

theorem Same.custom {custom : List (String × Json)} (h : s.Same s') (hs : s.custom = .obj members)
    (hs' : s'.custom = .obj custom) : Json.same (.obj members) (.obj custom) = true := by
  obtain ⟨v, w, hv, hw, hsame⟩ := same_iff.mp h "custom" (by decide)
  have hv' : s.custom = v := Option.some.inj hv
  have hw' : s'.custom = w := Option.some.inj hw
  rwa [← hv', ← hw', hs, hs'] at hsame

section
variable (hn : (keys members).Nodup) (hconverters : ∀ name ∈ converterNames, name ∈ keys members)
  (hfile : fileLayer t (.str file) = .ok (s.flat members))
include hn hconverters hfile

/-- Settings that are reloaded from a layer: a name of the program is a setting of the program, and
`custom` has the other names with what was inside the `custom` of the file. -/
theorem exists_reload (hlayer : Layer (s.flat members)) :
    ∃ s' custom, load t (.str "dotnet") .null (.str file) = .ok s' ∧ s'.custom = .obj custom ∧
      (keys custom).Nodup ∧
      (∀ name ∈ names, name ≠ "custom" →
        find? name s'.toTable = (find? name members).or (find? name s.toTable)) ∧
      ∀ name, find? name custom = (if name ∈ names then none else find? name members).or
        (inCustom? (s.flat members) name) := by
  obtain ⟨base, hbase, hdefaults⟩ := exists_dotnetDefaults
  obtain ⟨s', custom, hload, hcustom, hnodup, hnames, hfind⟩ :=
    load_layers hbase hfile hlayer Layer.nil
  refine ⟨s', custom, hload, hcustom, hnodup, ?_, ?_⟩
  · intro name hname hne
    obtain ⟨v, hv⟩ := s.exists_toTable hname
    rw [hnames name hname hne, find?_flat hn, if_neg hne, hv]
    cases find? name members <;> rfl
  · intro name
    have hnil : inCustom? [] name = none := rfl
    rw [hfind, hnil]
    by_cases hname : name ∈ names
    · have hother : name ∉ converterNames := fun h =>
        (by decide : ∀ name ∈ converterNames, name ∉ names) name h hname
      rw [if_pos hname, if_pos hname, (hdefaults name).mpr hother, Option.or_none]
      rfl
    · have hflat : find? name (s.flat members) = find? name members := by
        have hnone : find? name s.toTable = none :=
          Json.find?_eq_none_iff.mpr (keys_toTable s ▸ hname)
        rw [find?_flat hn, hnone]
        split <;> exact Option.or_none
      rw [if_neg hname, if_neg hname, hflat]
      by_cases hconverter : name ∈ converterNames
      · obtain ⟨v, hv⟩ := Json.exists_find?_of_mem (hconverters name hconverter)
        rw [hv]
        rfl
      · rw [(hdefaults name).mpr hconverter, Option.or_none]
        rfl

/-- Without a custom setting called `custom`, all others come back but those with names of the
program. -/
theorem reload_of_not_custom (hcustom : s.custom = .obj members)
    (hregular : Json.Regular (.obj s.toTable)) (hno : "custom" ∉ keys members) :
    (∃ s', load t (.str "dotnet") .null (.str file) = .ok s' ∧ s.Same s') ↔
      ∀ name ∈ keys members, name ∉ names := by
  have hflat : find? "custom" (s.flat members) = none := by
    rw [find?_flat hn, Json.find?_eq_none_iff.mpr hno]
    rfl
  have hnone : ∀ name, inCustom? (s.flat members) name = none :=
    inCustom?_eq (nested?_of_none hflat)
  obtain ⟨s', custom, hload, hcustom', hnodup, hnames, hfind⟩ :=
    exists_reload hn hconverters hfile (.of_none (nodup_flat s members) hflat)
  simp only [hnone, Option.or_none] at hfind
  have hvalues := Json.regularMembers_iff.mp (Json.regular_obj_iff.mp hregular).2
  constructor
  · rintro ⟨s'', hload', hsame⟩ name hmem hname
    obtain rfl : s' = s'' := Except.ok.inj (hload.symm.trans hload')
    obtain ⟨v, hv⟩ := Json.exists_find?_of_mem hmem
    obtain ⟨w, hw, -⟩ := Json.find?_of_same (hsame.custom hcustom hcustom') hv
    rw [hfind, if_pos hname] at hw
    cases hw
  · intro h
    refine ⟨s', hload, same_iff.mpr fun name hname => ?_⟩
    by_cases hlast : name = "custom"
    · subst hlast
      refine ⟨.obj members, .obj custom, congrArg some hcustom, congrArg some hcustom', ?_⟩
      refine Json.same_of_find?_eq ?_ hnodup fun name => ?_
      · exact hcustom ▸ hvalues ("custom", s.custom) (by simp [toTable])
      · rw [hfind]
        split
        · rename_i hother
          exact Json.find?_eq_none_iff.mpr fun hmem => h name hmem hother
        · rfl
    · obtain ⟨v, hv⟩ := s.exists_toTable hname
      have hfree : find? name members = none :=
        Json.find?_eq_none_iff.mpr fun hmem => h name hmem hname
      refine ⟨v, v, hv, ?_, Json.same_self v (hvalues (name, v) (Json.mem_of_find? hv))⟩
      rw [hnames name hname hlast, hfree, hv]
      rfl

/-- An object called `custom` comes back merged into the custom settings, not as one of them. -/
theorem reload_of_custom_object {inner : List (String × Json)}
    (hv : find? "custom" members = some (.obj inner)) (hinner : (keys inner).Nodup) :
    ∃ s' custom, load t (.str "dotnet") .null (.str file) = .ok s' ∧ s'.custom = .obj custom ∧
      find? "custom" custom = find? "custom" inner := by
  have hflat : find? "custom" (s.flat members) = some (.obj inner) := by
    rw [find?_flat hn, hv]
    rfl
  obtain ⟨s', custom, hload, hcustom', -, -, hfind⟩ :=
    exists_reload hn hconverters hfile (.of_obj (nodup_flat s members) hflat hinner)
  refine ⟨s', custom, hload, hcustom', ?_⟩
  rw [hfind, if_pos (by decide), inCustom?_eq (nested?_of_obj hflat)]
  rfl

omit hn hconverters hfile in
/-- No unknown entry is called `custom`, so a value of that name is one of the table before. -/
theorem exists_of_find?_putAll_unknown {table : Table} {data : List (String × Json)} {w : Json}
    (hw : find? "custom" (Table.toMembers (putAll table (Table.ofMembers (unknown data)))) = some w) :
    ∃ e ∈ table, e.2 = w := by
  obtain ⟨e, he, heq⟩ := List.mem_map.mp (Json.mem_of_find? hw)
  obtain ⟨hkey, rfl⟩ := Prod.mk.inj heq
  rcases KeyedList.mem_putAll_beq he with he | ⟨u, hu, -, hsame⟩
  · exact ⟨e, he, rfl⟩
  · obtain ⟨m, hm, rfl⟩ := List.mem_map.mp hu
    have hname : e.1 = .str m.1 := hsame.elim id Json.beq_str_iff.mp
    have hlast : m.1 = "custom" := by
      rw [hname] at hkey
      exact hkey
    have hnot := (List.mem_filter.mp hm).2
    rw [hlast] at hnot
    exact absurd hnot (by decide)

omit hfile in
theorem unknown_flat_ne_nil (base : List (String × Json)) :
    unknown (putAll base (s.flat members)) ≠ [] := by
  intro hnil
  obtain ⟨u, hu⟩ := Json.exists_find?_of_mem (hconverters "union_converter" (by decide))
  have hfind := find?_unknown (putAll base (s.flat members)) "union_converter"
  rw [hnil, if_neg (by decide), Json.find?_putAll (nodup_flat s members), find?_flat hn, hu] at hfind
  cases hfind

theorem reload_of_custom_value {v : Json} (hv : find? "custom" members = some v)
    (hother : ∀ inner, v ≠ .obj inner)
    (hload : load t (.str "dotnet") .null (.str file) = .ok s') :
    ∃ custom table, s'.custom = .obj custom ∧ Table.read v = .ok table ∧
      ∀ w, find? "custom" custom = some w → ∃ e ∈ table, e.2 = w := by
  obtain ⟨base, hbase, -⟩ := exists_dotnetDefaults
  have hnodup := nodup_flat s members
  have hflat : find? "custom" (s.flat members) = some v := by
    rw [find?_flat hn, hv]
    rfl
  have hmerge := merge_of_plain hnodup (by simp [hflat, hother]) base
  have hread : ofMerged (putAll base (s.flat members)) = .ok s' := by
    have heq := load_eq hbase hfile []
    rw [hmerge, ok_bind] at heq
    exact heq.symm.trans hload
  have hcustom : find? "custom" (putAll base (s.flat members)) = some v := by
    rw [Json.find?_putAll hnodup, hflat]
    rfl
  have hunknown := unknown_flat_ne_nil (s := s) hn hconverters base
  obtain ⟨table, htable, hs'⟩ := custom_of_ofMerged hunknown hread
  rw [hcustom] at htable
  exact ⟨_, table, hs', htable, fun w hw => exists_of_find?_putAll_unknown hw⟩

/-- A custom setting called `custom` does not come back: it would have to hold itself. -/
theorem not_reload_of_custom (hcustom : s.custom = .obj members)
    (hregular : Json.Regular (.obj members)) {v : Json} (hv : find? "custom" members = some v)
    (hload : load t (.str "dotnet") .null (.str file) = .ok s') : ¬ s.Same s' := by
  suffices h : ∃ custom, s'.custom = .obj custom ∧
      ∀ w, find? "custom" custom = some w → w.depth < v.depth by
    intro hsame
    obtain ⟨custom, hcustom', hdepth⟩ := h
    obtain ⟨w, hw, hvw⟩ := Json.find?_of_same (hsame.custom hcustom hcustom') hv
    exact Nat.not_lt.mpr (Json.depth_le_of_same v w hvw) (hdepth w hw)
  by_cases hobj : ∃ inner, v = .obj inner
  · obtain ⟨inner, rfl⟩ := hobj
    have hinner := Json.regularMembers_iff.mp (Json.regular_obj_iff.mp hregular).2 _
      (Json.mem_of_find? hv)
    obtain ⟨s'', custom, hload', hcustom', hfind⟩ := reload_of_custom_object hn hconverters hfile
      hv (Json.regular_obj_iff.mp hinner).1
    obtain rfl : s'' = s' := Except.ok.inj (hload'.symm.trans hload)
    refine ⟨custom, hcustom', fun w hw => ?_⟩
    rw [hfind] at hw
    rw [Json.depth]
    exact Nat.lt_succ_of_le (Json.depth_le_depthMembers (Json.mem_of_find? hw))
  · obtain ⟨custom, table, hcustom', hread, hfrom⟩ := reload_of_custom_value hn hconverters hfile
      hv (fun inner h => hobj ⟨inner, h⟩) hload
    refine ⟨custom, hcustom', fun w hw => ?_⟩
    obtain ⟨e, he, rfl⟩ := hfrom w hw
    exact Json.depth_lt_of_read hread he

end

/-- Saved settings whose custom settings hold all converters come back equal exactly when no custom
setting has the name of a setting of the program. -/
theorem reload_same_iff (hcustom : s.custom = .obj members)
    (hregular : Json.Regular (.obj s.toTable))
    (hconverters : ∀ name ∈ converterNames, name ∈ keys members)
    (hjson : (Path.ofText file).hasExtension [".json"] = true)
    (hwritable : ∀ text, (t.write (Path.ofText file) text).2 = .ok ())
    (hreads : ∀ table, s.saved = .ok table → Json.ReadsBack (.obj table)) :
    ∃ t', save t s file = .ok t' ∧
      ((∃ s', load t' (.str "dotnet") .null (.str file) = .ok s' ∧ s.Same s') ↔
        ∀ name ∈ keys members, name ∉ names) := by
  have hmembers : Json.Regular (.obj members) :=
    hcustom ▸ Json.regularMembers_iff.mp (Json.regular_obj_iff.mp hregular).2
      ("custom", s.custom) (by simp [toTable])
  have hn : (keys members).Nodup := (Json.regular_obj_iff.mp hmembers).1
  obtain ⟨t', hsave, hfile⟩ :=
    fileLayer_of_save hcustom hjson hwritable (hreads _ (saved_ok hcustom))
  refine ⟨t', hsave, ?_⟩
  by_cases hno : "custom" ∈ keys members
  · obtain ⟨v, hv⟩ := Json.exists_find?_of_mem hno
    constructor
    · rintro ⟨s', hload, hsame⟩
      exact absurd hsame (not_reload_of_custom hn hconverters hfile hcustom hmembers hv hload)
    · intro h
      exact absurd (by decide) (h "custom" hno)
  · exact reload_of_not_custom hn hconverters hfile hcustom hregular hno

/-- Settings without values but the converters. -/
def onlyConverters : Settings :=
  { ofTable (names.map fun name => (name, .null)) with
    custom := .obj (converterNames.map fun name => (name, .str "Converter")) }

theorem reload_same_iff_onlyConverters :
    Json.Regular (.obj onlyConverters.toTable) ∧
      (∀ text, (FileTree.empty.write (Path.ofText "saved.json") text).2 = .ok ()) ∧
      (∀ table, onlyConverters.saved = .ok table → Json.ReadsBack (.obj table)) ∧
      ∃ t s, save FileTree.empty onlyConverters "saved.json" = .ok t ∧
        load t (.str "dotnet") .null (.str "saved.json") = .ok s ∧ onlyConverters.Same s := by
  have hregular : Json.Regular (.obj onlyConverters.toTable) := by
    refine Json.regular_obj_iff.mpr ⟨by decide, ?_⟩
    simp [toTable, onlyConverters, ofTable, names, converterNames, Json.find?, KeyedList.value?, Json.Regular,
      Json.RegularMembers]
    decide
  have hwritable : ∀ text, (FileTree.empty.write (Path.ofText "saved.json") text).2 = .ok () := by
    intro text
    rfl
  have hreads : ∀ table, onlyConverters.saved = .ok table → Json.ReadsBack (.obj table) := by
    intro table htable
    rw [saved_ok rfl] at htable
    cases htable
    exact Json.readsBack_of_chars (by decide +kernel) (by decide +kernel)
  obtain ⟨t, hsave, hiff⟩ :=
    reload_same_iff rfl hregular (by decide) (by decide +kernel) hwritable hreads
  obtain ⟨s, hload, hsame⟩ := hiff.mpr (by decide)
  exact ⟨hregular, hwritable, hreads, t, s, hsave, hload, hsame⟩

end TypedVocabulary.Settings
