import TypedVocabulary.Proofs.KeyedList
import TypedVocabulary.Proofs.Outcomes
import TypedVocabulary.Proofs.Settings.Typed
import TypedVocabulary.Schema.Lookup

/-! # Entries of the lookup tables

Whatever the tables hold was declared: an entry comes from an enumeration with its key, and a model
name from a model. The key of a reference to an enumeration determines the short name it was
declared with. Tables ask for types that are texts, and for namespaces that are texts where they are given.
-/
namespace TypedVocabulary
open Attempt

theorem Model.requires_shortName (m : Model) : Requires m.shortName m.type.IsText :=
  (Json.requires_asText m.type).bind_ok fun _ _ _ => ⟨_, rfl⟩

theorem Enumeration.requires_shortName (e : Enumeration) : Requires e.shortName e.type.IsText :=
  (Json.requires_asText e.type).bind_ok fun _ _ _ => ⟨_, rfl⟩

namespace LookupTables
open Reference

theorem mem_of_enum? {t : LookupTables} {key : String} {entry : EnumEntry}
    (h : t.enum? key = some entry) : (key, entry) ∈ t.enums := KeyedList.mem_of_value? h

variable {s : SchemaSet} {v : Vocabulary} {tables : LookupTables}

theorem outcome_build (s : SchemaSet) (v : Vocabulary) : (build s v).outcome = readTables s v := by
  unfold build
  rw [Logged.outcome_bind, Logged.outcome_lift]
  cases readTables s v <;> rfl

theorem requires_readTables (hv : v.HasTexts) (s : SchemaSet) :
    Requires (readTables s v)
      ((∀ e ∈ s.enums, e.type.IsText ∧ e.namespace.AbsentOrText) ∧
        ∀ m ∈ s.models, m.type.IsText) := by
  have hentry (e : Enumeration) :
      Requires (enumEntry v e) (e.type.IsText ∧ e.namespace.AbsentOrText) := by
    have huri : Requires e.uri e.type.IsText :=
      e.requires_shortName.bind_ok fun _ _ _ => ⟨_, rfl⟩
    unfold enumEntry
    refine huri.bind fun _ uri _ => ?_
    obtain ⟨key, hkey⟩ := Vocabulary.exists_compact hv uri
    rw [hkey, ok_bind]
    exact (Vocabulary.requires_isFoundationNamespace hv e.namespace).bind_ok fun _ _ _ => ⟨_, rfl⟩
  unfold readTables
  refine (requires_mapM fun e _ => hentry e).bind fun _ entries _ => ?_
  exact (requires_mapM fun m _ => m.requires_shortName).bind_ok fun _ _ _ => ⟨_, rfl⟩

theorem vocabulary_readTables (h : readTables s v = .ok tables) : tables.vocabulary = v := by
  simp only [readTables, Attempt.bind_ok_iff, Attempt.pure_ok_iff] at h
  obtain ⟨entries, -, names, -, rfl⟩ := h
  rfl

theorem exists_of_mem (h : readTables s v = .ok tables) {x : String × EnumEntry}
    (hx : x ∈ tables.enums) : ∃ e ∈ s.enums, enumEntry v e = .ok x := by
  simp only [readTables, Attempt.bind_ok_iff, Attempt.pure_ok_iff] at h
  obtain ⟨entries, hentries, names, -, rfl⟩ := h
  rcases KeyedList.mem_putAll hx with hmem | hmem
  · cases hmem
  · exact (Attempt.mem_mapM_iff hentries).mp hmem

theorem exists_of_enum? (h : readTables s v = .ok tables) {key : String} {entry : EnumEntry}
    (he : tables.enum? key = some entry) : ∃ e ∈ s.enums, enumEntry v e = .ok (key, entry) :=
  exists_of_mem h (mem_of_enum? he)

theorem exists_of_hasModel (h : readTables s v = .ok tables) {name : String}
    (hm : tables.hasModel name = true) : ∃ m ∈ s.models, m.shortName = .ok name := by
  simp only [readTables, Attempt.bind_ok_iff, Attempt.pure_ok_iff] at h
  obtain ⟨entries, -, names, hnames, rfl⟩ := h
  exact (Attempt.mem_mapM_iff hnames).mp (by simpa [hasModel] using hm)

theorem enumEntry_ok {e : Enumeration} {key : String} {entry : EnumEntry}
    (h : enumEntry v e = .ok (key, entry)) :
    ∃ name, e.shortName = .ok name ∧ v.compact (e.namespace.display ++ name) = .ok key ∧
      v.isFoundationNamespace e.namespace = .ok entry.isExternal := by
  simp only [enumEntry, Enumeration.uri, Attempt.bind_ok_iff, Attempt.pure_ok_iff] at h
  obtain ⟨uri, ⟨name, hname, rfl⟩, key', hkey, isExternal, hx, heq⟩ := h
  cases heq
  exact ⟨name, hname, hkey, hx⟩

theorem unseparated_shortName {e : Enumeration} {name : String} (h : e.shortName = .ok name) :
    Unseparated name.toList := by
  simp only [Enumeration.shortName, Attempt.bind_ok_iff, Attempt.pure_ok_iff] at h
  obtain ⟨text, -, rfl⟩ := h
  rw [Reference.shortName, String.toList_ofList, shortChars_eq]
  exact unseparated_lastSegment _

theorem shortName_of_enumEntry (hv : v.EndsSeparated) {e : Enumeration} {space : String}
    (hspace : e.namespace = .str space) (hs : endsInSeparator space.toList = true) {key : String}
    {entry : EnumEntry} (h : enumEntry v e = .ok (key, entry)) {uri : String}
    (huri : v.compact uri = .ok key) : e.shortName = .ok (Reference.shortName uri) := by
  obtain ⟨name, hname, hkey, -⟩ := enumEntry_ok h
  have hsame : shortChars (e.namespace.display ++ name).toList = shortChars uri.toList :=
    (Vocabulary.lastSegment_compactChars hv hkey).symm.trans
      (Vocabulary.lastSegment_compactChars hv huri)
  have hdeclared : shortChars (e.namespace.display ++ name).toList = name.toList := by
    rw [hspace, Json.display, String.toList_append, shortChars_eq,
      lastSegment_stripMark_append hs, lastSegment_of_unseparated (unseparated_shortName hname)]
  rw [hname, Reference.shortName, ← hsame, hdeclared, String.ofList_toList]

end LookupTables
end TypedVocabulary
