import TypedVocabulary.Proofs.Schema.Lookup
import TypedVocabulary.Schema.Document

/-! # Order of declarations

The tables are filled declaration by declaration, and of two enumerations with one key the last
counts. Where no key comes twice, a look-up depends on what is declared and not on the order, and
so two documents that declare the same things give tables that answer alike.
-/
namespace TypedVocabulary

/-- The same models and the same enumerations, each declared as often, in any order. -/
structure SchemaSet.Reordered (s s' : SchemaSet) : Prop where
  models : s.models.Perm s'.models
  enums : s.enums.Perm s'.enums

theorem SchemaSet.Reordered.symm {s s' : SchemaSet} (h : s.Reordered s') : s'.Reordered s :=
  ⟨h.models.symm, h.enums.symm⟩

def Enumeration.key (v : Vocabulary) (e : Enumeration) : Attempt String := do
  v.compact (← e.uri)

def SchemaSet.DistinctKeys (s : SchemaSet) (v : Vocabulary) : Prop :=
  s.enums.Pairwise fun e e' => ∀ key, e.key v = .ok key → e'.key v ≠ .ok key

theorem SchemaSet.distinctKeys_iff {s : SchemaSet} {v : Vocabulary} {keys : List String}
    (h : s.enums.mapM (Enumeration.key v) = .ok keys) : s.DistinctKeys v ↔ keys.Nodup := by
  have hkeys := Attempt.mapM_ok_iff.mp h
  unfold SchemaSet.DistinctKeys
  clear h
  generalize s.enums = enums at hkeys
  induction hkeys with
  | nil => simp
  | @cons e key enums keys hkey hrest ih =>
    rw [List.pairwise_cons, List.nodup_cons]
    refine and_congr ?_ ih
    constructor
    · intro hfirst hmem
      obtain ⟨e', he', hkey'⟩ := exists_left_of_forall₂ hrest hmem
      exact hfirst e' he' key hkey hkey'
    · intro hnot e' he' key' hkey₁ hkey₂
      obtain ⟨k, hk, hk'⟩ := exists_right_of_forall₂ hrest he'
      have hk₁ : key = key' := Except.ok.inj (hkey.symm.trans hkey₁)
      have hk₂ : k = key' := Except.ok.inj (hk'.symm.trans hkey₂)
      exact hnot (hk₁ ▸ hk₂ ▸ hk)

theorem SchemaSet.Reordered.distinctKeys {s s' : SchemaSet} {v : Vocabulary} (h : s.Reordered s')
    (hd : s.DistinctKeys v) : s'.DistinctKeys v := by
  refine (h.enums.pairwise_iff ?_).mp hd
  intro e e' hne key he' he
  exact hne key he he'

/-! ## Tables that answer alike -/

namespace LookupTables

/-- Every look-up has the same answer, however the tables are laid out. -/
structure Agree (t t' : LookupTables) : Prop where
  enum? : ∀ key, t.enum? key = t'.enum? key
  hasModel : ∀ name, t.hasModel name = t'.hasModel name
  vocabulary : t.vocabulary = t'.vocabulary

open KeyedList

variable {s s' : SchemaSet} {v : Vocabulary} {tables : LookupTables}

theorem key_of_enumEntry {e : Enumeration} {x : String × EnumEntry} (h : enumEntry v e = .ok x) :
    e.key v = .ok x.1 := by
  unfold enumEntry at h
  obtain ⟨uri, huri, h⟩ := Attempt.bind_ok_iff.mp h
  obtain ⟨key, hkey, h⟩ := Attempt.bind_ok_iff.mp h
  obtain ⟨isExternal, -, h⟩ := Attempt.bind_ok_iff.mp h
  rw [Attempt.pure_ok_iff] at h
  subst h
  exact Attempt.bind_ok_iff.mpr ⟨uri, huri, hkey⟩

theorem exists_entries (h : readTables s v = .ok tables) :
    ∃ entries, s.enums.mapM (enumEntry v) = .ok entries ∧
      ∀ key, tables.enum? key = value? entries.reverse key := by
  simp only [readTables, Attempt.bind_ok_iff, Attempt.pure_ok_iff] at h
  obtain ⟨entries, hentries, names, -, rfl⟩ := h
  refine ⟨entries, hentries, fun key => ?_⟩
  have hfold := value?_putAll_reverse [] entries key
  rw [value?_nil, Option.or_none] at hfold
  exact hfold

theorem keys_nodup (hd : s.DistinctKeys v) {entries : List (String × EnumEntry)}
    (h : s.enums.mapM (enumEntry v) = .ok entries) : (keys entries).Nodup := by
  have hkeys : s.enums.mapM (Enumeration.key v) = .ok (keys entries) := by
    rw [Attempt.mapM_ok_iff]
    unfold keys
    rw [List.forall₂_map_right_iff]
    exact (Attempt.mapM_ok_iff.mp h).imp fun e x hx => key_of_enumEntry hx
  exact (SchemaSet.distinctKeys_iff hkeys).mp hd

theorem enum?_iff (hd : s.DistinctKeys v) (h : readTables s v = .ok tables) {key : String}
    {entry : EnumEntry} :
    tables.enum? key = some entry ↔ ∃ e ∈ s.enums, enumEntry v e = .ok (key, entry) := by
  constructor
  · exact exists_of_enum? h
  · rintro ⟨e, he, hentry⟩
    obtain ⟨entries, hentries, hlast⟩ := exists_entries h
    have hmem : (key, entry) ∈ entries := (Attempt.mem_mapM_iff hentries).mpr ⟨e, he, hentry⟩
    have hn : (keys entries.reverse).Nodup := by
      unfold keys
      rw [List.map_reverse, List.nodup_reverse]
      exact keys_nodup hd hentries
    rw [hlast]
    exact value?_of_mem hn (List.mem_reverse.mpr hmem)

theorem isSome_enum?_iff (h : readTables s v = .ok tables) {key : String} :
    (tables.enum? key).isSome = true ↔ ∃ e ∈ s.enums, e.key v = .ok key := by
  obtain ⟨entries, hentries, hlast⟩ := exists_entries h
  rw [hlast, isSome_value?_iff]
  unfold keys
  simp only [List.map_reverse, List.mem_reverse, List.mem_map]
  constructor
  · rintro ⟨x, hx, rfl⟩
    obtain ⟨e, he, hentry⟩ := (Attempt.mem_mapM_iff hentries).mp hx
    exact ⟨e, he, key_of_enumEntry hentry⟩
  · rintro ⟨e, he, hkey⟩
    obtain ⟨x, hx, hentry⟩ := Attempt.exists_of_mem_mapM hentries he
    exact ⟨x, hx, Except.ok.inj ((key_of_enumEntry hentry).symm.trans hkey)⟩

theorem hasModel_iff (h : readTables s v = .ok tables) {name : String} :
    tables.hasModel name = true ↔ ∃ m ∈ s.models, m.shortName = .ok name := by
  constructor
  · exact exists_of_hasModel h
  · rintro ⟨m, hm, hname⟩
    simp only [readTables, Attempt.bind_ok_iff, Attempt.pure_ok_iff] at h
    obtain ⟨entries, -, names, hnames, rfl⟩ := h
    have hmem : name ∈ names := (Attempt.mem_mapM_iff hnames).mpr ⟨m, hm, hname⟩
    simpa [hasModel] using hmem

theorem exists_readTables_iff :
    (∃ tables, readTables s v = .ok tables) ↔
      (∃ entries, s.enums.mapM (enumEntry v) = .ok entries) ∧
        ∃ names, s.models.mapM Model.shortName = .ok names := by
  constructor
  · rintro ⟨tables, h⟩
    simp only [readTables, Attempt.bind_ok_iff] at h
    obtain ⟨entries, hentries, names, hnames, -⟩ := h
    exact ⟨⟨entries, hentries⟩, names, hnames⟩
  · rintro ⟨⟨entries, hentries⟩, names, hnames⟩
    exact ⟨_, Attempt.bind_ok_iff.mpr ⟨entries, hentries, Attempt.bind_ok_iff.mpr ⟨names, hnames, rfl⟩⟩⟩

theorem exists_readTables_of_reordered (hs : s.Reordered s') (h : readTables s v = .ok tables) :
    ∃ tables', readTables s' v = .ok tables' := by
  have hparts := exists_readTables_iff.mp ⟨tables, h⟩
  rw [Attempt.exists_mapM_iff, Attempt.exists_mapM_iff] at hparts
  rw [exists_readTables_iff, Attempt.exists_mapM_iff, Attempt.exists_mapM_iff]
  simpa only [hs.enums.mem_iff, hs.models.mem_iff] using hparts

theorem agree_of_reordered (hs : s.Reordered s') (hd : s.DistinctKeys v)
    (h : readTables s v = .ok tables) {tables' : LookupTables}
    (h' : readTables s' v = .ok tables') : tables.Agree tables' := by
  constructor
  · intro key
    ext entry
    rw [enum?_iff hd h, enum?_iff (hs.distinctKeys hd) h']
    simp only [hs.enums.mem_iff]
  · intro name
    have hiff : tables.hasModel name = true ↔ tables'.hasModel name = true := by
      rw [hasModel_iff h, hasModel_iff h']
      simp only [hs.models.mem_iff]
    exact Bool.eq_iff_iff.mpr hiff
  · rw [vocabulary_readTables h, vocabulary_readTables h']

end LookupTables

/-! ## Documents -/

namespace Document

/-- The entries of one collection are those of the other in any order. -/
inductive Rearranged : Json → Json → Prop
  | null : Rearranged .null .null
  | arr {xs ys : List Json} (h : xs.Perm ys) : Rearranged (.arr xs) (.arr ys)
  | obj {ms ns : List (String × Json)} (h : ms.Perm ns) : Rearranged (.obj ms) (.obj ns)

/-- Documents with the same definitions, where each may have its own order. -/
structure Reordered (ms ms' : List (String × Json)) : Prop where
  declared : (Json.find? "models" ms).isSome = (Json.find? "models" ms').isSome
  models : Rearranged (Json.field ms "models") (Json.field ms' "models")
  enums : Rearranged (Json.field ms "enums") (Json.field ms' "enums")

theorem readCollection_rearranged {α : Type} {read : Json → Json → Attempt α} {kind : String}
    {c c' : Json} (h : Rearranged c c') {xs : List α}
    (hxs : readCollection read kind c = .ok xs) :
    ∃ xs', readCollection read kind c' = .ok xs' ∧ xs.Perm xs' := by
  cases h with
  | null => exact ⟨xs, hxs, .refl xs⟩
  | arr h => exact Attempt.mapM_perm h hxs
  | obj h => exact Attempt.mapM_perm h hxs

theorem readSchema_reordered {ms ms' : List (String × Json)} (h : Reordered ms ms') {s : SchemaSet}
    (hs : readSchema (.obj ms) = .ok s) :
    ∃ s', readSchema (.obj ms') = .ok s' ∧ s.Reordered s' := by
  unfold readSchema at hs ⊢
  cases hmodels : (Json.find? "models" ms).isNone with
  | true =>
    simp only [hmodels, if_true] at hs
    obtain ⟨_, hthrow, -⟩ := Attempt.bind_ok_iff.mp hs
    exact absurd hthrow Attempt.throw_ne_ok
  | false =>
    have hmodels' : (Json.find? "models" ms').isNone = false := by
      rw [← Option.not_isSome, ← h.declared, Option.not_isSome, hmodels]
    simp only [hmodels, hmodels', Bool.false_eq_true, if_false, Attempt.bind_ok_iff,
      Attempt.pure_ok_iff] at hs ⊢
    obtain ⟨models, hread, enums, hreadEnums, rfl⟩ := hs
    obtain ⟨models', hread', hpermModels⟩ := readCollection_rearranged h.models hread
    obtain ⟨enums', hreadEnums', hpermEnums⟩ := readCollection_rearranged h.enums hreadEnums
    exact ⟨⟨models', enums'⟩, ⟨models', hread', enums', hreadEnums', rfl⟩,
      ⟨hpermModels, hpermEnums⟩⟩

end Document
end TypedVocabulary
