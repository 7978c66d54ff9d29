import TypedVocabulary.Proofs.Schema.DeclarationOrder

/-! # Extended schemas

A schema grows by declarations that are put anywhere among its own. Its tables then answer wherever
they answered before, though perhaps with another entry, and for a key or a name that no added
declaration has they answer as they did.
-/
namespace TypedVocabulary
open Attempt

/-- The last list is made of the other two, each in its own order. -/
inductive Merged {α : Type} : List α → List α → List α → Prop
  | nil : Merged [] [] []
  | left (x : α) {xs ys zs : List α} (h : Merged xs ys zs) : Merged (x :: xs) ys (x :: zs)
  | right (y : α) {xs ys zs : List α} (h : Merged xs ys zs) : Merged xs (y :: ys) (y :: zs)

namespace Merged
variable {α β : Type} {xs ys zs : List α}

theorem mem_iff (h : Merged xs ys zs) {z : α} : z ∈ zs ↔ z ∈ xs ∨ z ∈ ys := by
  induction h with
  | nil => simp
  | left x _ ih => rw [List.mem_cons, List.mem_cons, ih, or_assoc]
  | right y _ ih => rw [List.mem_cons, List.mem_cons, ih, or_left_comm]

theorem exists_mapM_iff (h : Merged xs ys zs) {f : α → Attempt β} :
    (∃ cs, zs.mapM f = .ok cs) ↔ (∃ as, xs.mapM f = .ok as) ∧ ∃ bs, ys.mapM f = .ok bs := by
  rw [Attempt.exists_mapM_iff, Attempt.exists_mapM_iff, Attempt.exists_mapM_iff]
  simp only [h.mem_iff, or_imp, forall_and]

theorem mapM (h : Merged xs ys zs) {f : α → Attempt β} {as bs cs : List β}
    (hxs : xs.mapM f = .ok as) (hys : ys.mapM f = .ok bs) (hzs : zs.mapM f = .ok cs) :
    Merged as bs cs := by
  rw [mapM_ok_iff] at hxs hys hzs
  induction h generalizing as bs cs with
  | nil =>
    cases hxs
    cases hys
    cases hzs
    exact .nil
  | left x _ ih =>
    obtain ⟨a, as, ha, has, rfl⟩ := List.forall₂_cons_left_iff.mp hxs
    obtain ⟨c, cs, hc, hcs, rfl⟩ := List.forall₂_cons_left_iff.mp hzs
    obtain rfl : c = a := Except.ok.inj (hc.symm.trans ha)
    exact .left c (ih has hys hcs)
  | right y _ ih =>
    obtain ⟨b, bs, hb, hbs, rfl⟩ := List.forall₂_cons_left_iff.mp hys
    obtain ⟨c, cs, hc, hcs, rfl⟩ := List.forall₂_cons_left_iff.mp hzs
    obtain rfl : c = b := Except.ok.inj (hc.symm.trans hb)
    exact .right c (ih hxs hbs hcs)

theorem value?_reverse {xs ys zs : List (String × α)} (h : Merged xs ys zs) {key : String}
    (hother : key ∉ KeyedList.keys ys) :
    KeyedList.value? zs.reverse key = KeyedList.value? xs.reverse key := by
  induction h with
  | nil => rfl
  | left x _ ih =>
    rw [List.reverse_cons, List.reverse_cons, KeyedList.value?_append, KeyedList.value?_append,
      ih hother]
  | right y _ ih =>
    obtain ⟨hy, hrest⟩ := not_or.mp (List.mem_cons.not.mp hother)
    have hnone : KeyedList.value? [y] key = none := by
      rw [KeyedList.value?_cons, if_neg (Ne.symm hy)]
      rfl
    rw [List.reverse_cons, KeyedList.value?_append, hnone, Option.or_none, ih hrest]

end Merged

/-- Declarations added to those of a schema, at any place. -/
structure SchemaSet.ExtendedBy (s added s' : SchemaSet) : Prop where
  models : Merged s.models added.models s'.models
  enums : Merged s.enums added.enums s'.enums

namespace LookupTables

/-- What the first tables know, the second know as well. -/
structure Extends (t t' : LookupTables) : Prop where
  enum? : ∀ key, (t.enum? key).isSome = true → (t'.enum? key).isSome = true
  hasModel : ∀ name, t.hasModel name = true → t'.hasModel name = true
  vocabulary : t'.vocabulary = t.vocabulary

variable {s added s' : SchemaSet} {v : Vocabulary} {tables tables' : LookupTables}

theorem exists_readTables_extended (h : s.ExtendedBy added s') :
    (∃ tables', readTables s' v = .ok tables') ↔
      (∃ tables, readTables s v = .ok tables) ∧ ∃ tables, readTables added v = .ok tables := by
  rw [exists_readTables_iff, exists_readTables_iff, exists_readTables_iff,
    h.enums.exists_mapM_iff, h.models.exists_mapM_iff]
  exact and_and_and_comm

theorem extends_of_extendedBy (h : s.ExtendedBy added s') (htables : readTables s v = .ok tables)
    (htables' : readTables s' v = .ok tables') : tables.Extends tables' := by
  constructor
  · intro key hkey
    obtain ⟨e, he, hekey⟩ := (isSome_enum?_iff htables).mp hkey
    exact (isSome_enum?_iff htables').mpr ⟨e, h.enums.mem_iff.mpr (.inl he), hekey⟩
  · intro name hname
    obtain ⟨m, hm, hmname⟩ := (hasModel_iff htables).mp hname
    exact (hasModel_iff htables').mpr ⟨m, h.models.mem_iff.mpr (.inl hm), hmname⟩
  · rw [vocabulary_readTables htables, vocabulary_readTables htables']

theorem enum?_extended (h : s.ExtendedBy added s') (htables : readTables s v = .ok tables)
    (htables' : readTables s' v = .ok tables') {key : String}
    (hkey : ∀ e ∈ added.enums, e.key v ≠ .ok key) : tables'.enum? key = tables.enum? key := by
  obtain ⟨entries, hentries, hlast⟩ := exists_entries htables
  obtain ⟨entries', hentries', hlast'⟩ := exists_entries htables'
  obtain ⟨-, others, hothers⟩ := h.enums.exists_mapM_iff.mp ⟨entries', hentries'⟩
  have hnotMem : key ∉ KeyedList.keys others := by
    intro hmem
    obtain ⟨x, hx, rfl⟩ := List.mem_map.mp hmem
    obtain ⟨e, he, hentry⟩ := (mem_mapM_iff hothers).mp hx
    exact hkey e he (key_of_enumEntry hentry)
  rw [hlast, hlast', (h.enums.mapM hentries hothers hentries').value?_reverse hnotMem]

theorem hasModel_extended (h : s.ExtendedBy added s') (htables : readTables s v = .ok tables)
    (htables' : readTables s' v = .ok tables') {name : String}
    (hname : ∀ m ∈ added.models, m.shortName ≠ .ok name) :
    tables'.hasModel name = tables.hasModel name := by
  have hiff : tables'.hasModel name = true ↔ tables.hasModel name = true := by
    rw [hasModel_iff htables, hasModel_iff htables']
    constructor
    · rintro ⟨m, hm, hmname⟩
      rcases h.models.mem_iff.mp hm with hm | hm
      · exact ⟨m, hm, hmname⟩
      · exact absurd hmname (hname m hm)
    · rintro ⟨m, hm, hmname⟩
      exact ⟨m, h.models.mem_iff.mpr (.inl hm), hmname⟩
  exact Bool.eq_iff_iff.mpr hiff

end LookupTables
end TypedVocabulary
