import TypedVocabulary.Proofs.Classes.PropertyNames
import TypedVocabulary.Proofs.Classes.Spelling

/-! # Expansion of compact keys

A compact key is expanded by its part before the first colon, and a declared prefix has no colon in
it, so the key leads back to the very namespace that compaction has taken off. Compaction takes the
longest namespace that begins an address; a name without separators never completes a longer one.
-/
namespace TypedVocabulary
open Reference

theorem Table.find?_of_mem {t : Table} (hk : (t.map Prod.fst).Nodup) {key : String} {value : Json}
    (h : (.str key, value) ∈ t) : t.find? key = some value :=
  KeyedList.value?_of_mem_beq (fun _ => Json.beq_str_iff) hk h

namespace Vocabulary
variable {v : Vocabulary} {p name : String}

theorem expand_key (hv : v.Regular) (hk : (v.namespaces.map Prod.fst).Nodup) {space : String}
    (h : (.str p, .str space) ∈ v.namespaces) (name : String) :
    v.expand (p ++ ":" ++ name) = space ++ name := by
  have hcolon : ':' ∉ p.toList := fun hmem => nomatch hv.unseparated p _ h ':' hmem
  have hcut : Text.cut? ':' (p ++ ":" ++ name).toList = some (p.toList, name.toList) := by
    rw [toList_key]
    exact Text.cut?_append_cons hcolon name.toList
  unfold expand
  rw [hcut]
  simp only [String.ofList_toList, Table.find?_of_mem hk h]
  rfl

theorem expand_compact (hv : v.Regular) (hk : (v.namespaces.map Prod.fst).Nodup)
    {prefixName : Json} {space value : String} (h : (prefixName, .str space) ∈ v.namespaces)
    (hvalue : space.toList <+: value.toList) :
    ∃ key, v.compact value = .ok key ∧ v.expand key = value := by
  obtain ⟨name, hname⟩ := hvalue
  have hstrip : stripMark value.toList = value.toList := by
    rw [← hname]
    exact hv.stripMark_address h name
  have hl : (stripMark value.toList).head? ≠ some localMark := by
    rw [hstrip, ← hname]
    exact hv.head?_address h name
  rcases compactChars_longest hv.hasTexts hl with
    ⟨other, longest, rest, hother, hcs, hkey, -⟩ | ⟨-, hnone⟩
  · obtain ⟨q, -, rfl, -⟩ := hv.texts other _ hother
    refine ⟨q ++ ":" ++ String.ofList rest, hkey, ?_⟩
    rw [expand_key hv hk hother, ← String.toList_inj, String.toList_append, String.toList_ofList,
      ← hcs, hstrip]
  · exact absurd ⟨name, hname.trans hstrip.symm⟩ (hnone prefixName space h)

theorem compact_expand (hv : v.Regular) (hk : (v.namespaces.map Prod.fst).Nodup)
    (hp : v.Declares p) (hn : Unseparated name.toList) :
    v.compact (v.expand (p ++ ":" ++ name)) = .ok (p ++ ":" ++ name) := by
  obtain ⟨space, hspace⟩ := hp
  obtain ⟨_, s, -, rfl⟩ := hv.texts _ _ hspace
  rw [expand_key hv hk hspace]
  exact compact_address hv hspace hn

theorem nodup_prefixes_standard : (standard.namespaces.map Prod.fst).Nodup := by
  simp [standard, Table.ofMembers, defaultNamespaces]

/-- Compaction and expansion are inverse to each other on addresses and keys of declared prefixes. -/
theorem expansion_inverts_compaction (hv : v.Regular) (hk : (v.namespaces.map Prod.fst).Nodup) :
    (∀ (prefixName : Json) (space value : String), (prefixName, .str space) ∈ v.namespaces →
      space.toList <+: value.toList → ∃ key, v.compact value = .ok key ∧ v.expand key = value) ∧
    (∀ p name : String, v.Declares p → Unseparated name.toList →
      v.compact (v.expand (p ++ ":" ++ name)) = .ok (p ++ ":" ++ name)) :=
  ⟨fun _ _ _ h hvalue => expand_compact hv hk h hvalue, fun _ _ hp hn => compact_expand hv hk hp hn⟩

/-- The standard table meets the conditions, with one namespace inside another. -/
theorem expansion_inverts_compaction_standard :
    standard.Regular ∧ (standard.namespaces.map Prod.fst).Nodup ∧
    (∃ key, standard.compact "https://openactive.io/ns-beta#Course/x" = .ok key ∧
      standard.expand key = "https://openactive.io/ns-beta#Course/x") ∧
    standard.compact (standard.expand ("oa" ++ ":" ++ "ns-beta")) = .ok ("oa" ++ ":" ++ "ns-beta") := by
  have h := expansion_inverts_compaction regular_standard nodup_prefixes_standard
  have hbeta : (.str "beta", .str "https://openactive.io/ns-beta#") ∈ standard.namespaces := by
    simp [standard, Table.ofMembers, defaultNamespaces]
  have hoa : standard.Declares "oa" := by
    refine ⟨.str "https://openactive.io/", ?_⟩
    simp [standard, Table.ofMembers, defaultNamespaces]
  refine ⟨regular_standard, nodup_prefixes_standard, h.1 _ _ _ hbeta ?_, h.2 _ _ hoa ?_⟩
  · exact List.isPrefixOf_iff_prefix.mp (by decide)
  · exact unseparated_of_all (by decide)

end Vocabulary
end TypedVocabulary
