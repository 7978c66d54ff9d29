import TypedVocabulary.Proofs.Classes.ResolvedReference
import TypedVocabulary.Proofs.Vocabulary.CanonicalKey

/-! # Spellings of a type

A declared name can be written as an address, as a compact key, and behind the local mark if its
prefix is the local one. In a vocabulary without ambiguous prefixes and namespaces all of these have
one short name and one compact key, so that they resolve alike or are the same fault.
-/
namespace TypedVocabulary
open Reference

namespace Vocabulary

/-- Prefixes and namespaces that are told apart by how texts begin and end. -/
structure Regular (v : Vocabulary) : Prop where
  texts : ∀ prefixName space, (prefixName, space) ∈ v.namespaces →
    ∃ p s : String, prefixName = .str p ∧ space = .str s
  unseparated : ∀ p space, (.str p, space) ∈ v.namespaces → Unseparated p.toList
  unmarkedPrefix : ∀ p space, (.str p, space) ∈ v.namespaces → isMarked p.toList = false
  separated : v.EndsSeparated
  unmarkedSpace : ∀ prefixName s, (prefixName, .str s) ∈ v.namespaces → isMarked s.toList = false
  notLocal : ∀ prefixName s, (prefixName, .str s) ∈ v.namespaces →
    s.toList.head? ≠ some localMark
  distinct : (v.namespaces.map Prod.snd).Nodup

/-- No namespace begins like the key of a declared prefix. -/
def PrefixFree (v : Vocabulary) : Prop :=
  ∀ p space prefixName s, (.str p, space) ∈ v.namespaces → (prefixName, .str s) ∈ v.namespaces →
    ¬ (p ++ ":").toList <+: s.toList

def Declares (v : Vocabulary) (p : String) : Prop := ∃ space, (.str p, space) ∈ v.namespaces

/-- The ways to write the name of a prefix. -/
inductive Spells (v : Vocabulary) (p name : String) : String → Prop
  | address {space : String} (h : (.str p, .str space) ∈ v.namespaces) :
      Spells v p name (space ++ name)
  | key : Spells v p name (p ++ ":" ++ name)
  | localName (h : v.localPrefix = .str p) : Spells v p name ("#" ++ name)

variable {v : Vocabulary} {p name uri : String}

theorem Regular.hasTexts (hv : v.Regular) : v.HasTexts := by
  intro prefixName space h
  obtain ⟨_, s, -, hs⟩ := hv.texts prefixName space h
  exact ⟨s, hs⟩

theorem Regular.keyPrefix (hv : v.Regular) (hf : v.PrefixFree) (hp : v.Declares p) :
    v.KeyPrefix p := by
  obtain ⟨space, hspace⟩ := hp
  exact ⟨hv.unseparated p space hspace, hv.unmarkedPrefix p space hspace,
    fun prefixName s hs => hf p space prefixName s hspace hs⟩

@[simp] theorem toList_localName (name : String) : ("#" ++ name).toList = '#' :: name.toList := by
  simp

theorem Spells.not_marked (hv : v.Regular) (hp : v.Declares p) (h : v.Spells p name uri) :
    isMarked uri.toList = false := by
  obtain ⟨space, hspace⟩ := hp
  cases h with
  | address hs =>
    rw [String.toList_append]
    exact isMarked_append (hv.separated _ _ hs) (hv.unmarkedSpace _ _ hs) _
  | key =>
    rw [toList_key]
    exact isMarked_append_cons (hv.unmarkedPrefix p space hspace) rfl _
  | localName =>
    rw [toList_localName]
    rfl

theorem Spells.shortName (hv : v.Regular) (hp : v.Declares p) (hn : Unseparated name.toList)
    (h : v.Spells p name uri) : Reference.shortName uri = name := by
  have hname : lastSegment name.toList = name.toList := lastSegment_of_unseparated hn
  have hlast : lastSegment uri.toList = name.toList := by
    cases h with
    | address hs => rw [String.toList_append, lastSegment_append (hv.separated _ _ hs), hname]
    | key => rw [toList_key, lastSegment_append_cons _ rfl, hname]
    | localName =>
      rw [toList_localName]
      exact (lastSegment_append_cons [] rfl name.toList).trans hname
  rw [Reference.shortName, shortChars_eq, stripMark_of_not_marked (h.not_marked hv hp), hlast,
    String.ofList_toList]

/-- A text that begins with a namespace begins neither with an array mark nor with the local mark. -/
theorem Regular.stripMark_address (hv : v.Regular) {prefixName : Json} {space : String}
    (h : (prefixName, .str space) ∈ v.namespaces) (rest : List Char) :
    stripMark (space.toList ++ rest) = space.toList ++ rest :=
  stripMark_of_not_marked (isMarked_append (hv.separated _ _ h) (hv.unmarkedSpace _ _ h) rest)

theorem Regular.head?_address (hv : v.Regular) {prefixName : Json} {space : String}
    (h : (prefixName, .str space) ∈ v.namespaces) (rest : List Char) :
    (space.toList ++ rest).head? ≠ some localMark := by
  obtain ⟨c, tail, hc⟩ := exists_cons_of_endsInSeparator (hv.separated _ _ h)
  have hfirst := hv.notLocal _ _ h
  rw [hc, List.head?_cons] at hfirst
  rw [hc, List.cons_append, List.head?_cons]
  exact hfirst

theorem compact_address (hv : v.Regular) {space : String}
    (h : (.str p, .str space) ∈ v.namespaces) (hn : Unseparated name.toList) :
    v.compact (space ++ name) = .ok (p ++ ":" ++ name) := by
  have hstrip : stripMark (space ++ name).toList = space.toList ++ name.toList := by
    rw [String.toList_append]
    exact hv.stripMark_address h _
  have hl : (stripMark (space ++ name).toList).head? ≠ some localMark := by
    rw [hstrip]
    exact hv.head?_address h _
  rcases compactChars_longest hv.hasTexts hl with
    ⟨other, s, rest, hs, hcs, hkey, hlongest⟩ | ⟨-, hnone⟩
  · rw [hstrip] at hcs
    have hpre : s.toList <+: space.toList :=
      prefix_of_prefix_append_unseparated (hv.separated _ _ hs) hn ⟨rest, hcs.symm⟩
    have hle : space.length ≤ s.length := hlongest (.str p) space h (hstrip ▸ List.prefix_append _ _)
    have hsame : s = space := by
      rw [← String.length_toList, ← String.length_toList] at hle
      exact String.toList_inj.mp (hpre.eq_of_length_le hle)
    subst hsame
    cases prefix_unique hv.distinct h hs
    have hrest : name.toList = rest := by simpa using hcs
    rw [compact, hkey, ← hrest, String.ofList_toList]
    rfl
  · exact absurd (hstrip ▸ List.prefix_append _ _) (hnone (.str p) space h)

theorem compact_localName (h : v.localPrefix = .str p) :
    v.compact ("#" ++ name) = .ok (p ++ ":" ++ name) := by
  have hstrip : stripMark ("#" ++ name).toList = localMark :: name.toList := by
    rw [toList_localName]
    exact stripMark_of_not_marked rfl
  rw [compact, compactChars_local hstrip, h, String.ofList_toList]
  rfl

/-- Every spelling of a name has the same compact key. -/
theorem Spells.compact (hv : v.Regular) (hf : v.PrefixFree) (hp : v.Declares p)
    (hn : Unseparated name.toList) (h : v.Spells p name uri) :
    v.compact uri = .ok (p ++ ":" ++ name) := by
  cases h with
  | address hs => exact compact_address hv hs hn
  | key => exact ((hv.keyPrefix hf hp).compacted hv.separated name).compact_eq hv.hasTexts
  | localName hl => exact compact_localName hl

/-! ## The standard vocabulary -/

theorem regular_standard : standard.Regular where
  texts _ _ h := by
    rcases standard_cases h with ⟨rfl, rfl⟩ | ⟨rfl, rfl⟩ | ⟨rfl, rfl⟩ | ⟨rfl, rfl⟩ <;>
      exact ⟨_, _, rfl, rfl⟩
  unseparated _ _ h := (keepsKeys_standard.declared _ _ h).unseparated
  unmarkedPrefix _ _ h := (keepsKeys_standard.declared _ _ h).unmarked
  separated := endsSeparated_standard
  unmarkedSpace _ _ h := by
    rcases standard_cases h with ⟨-, h⟩ | ⟨-, h⟩ | ⟨-, h⟩ | ⟨-, h⟩ <;> cases h <;> decide
  notLocal _ _ h := by
    rcases standard_cases h with ⟨-, h⟩ | ⟨-, h⟩ | ⟨-, h⟩ | ⟨-, h⟩ <;> cases h <;> decide
  distinct := distinct_standard

theorem prefixFree_standard : standard.PrefixFree :=
  fun _ _ prefixName s hp => (keepsKeys_standard.declared _ _ hp).free prefixName s

end Vocabulary

namespace Resolver
open Vocabulary
variable {r : Resolver} {p name : String}

/-- All spellings of a name resolve to one type with one list of notices, or are one fault. -/
theorem resolve_spells (hv : r.tables.vocabulary.Regular) (hf : r.tables.vocabulary.PrefixFree)
    (hp : r.tables.vocabulary.Declares p) (hn : Unseparated name.toList)
    (isArray isExtension : Bool) :
    (∃ t, ∀ uri, r.tables.vocabulary.Spells p name uri →
      (r.resolve ⟨uri, isArray⟩ isExtension).outcome = .ok t) ∨
    ∀ uri, r.tables.vocabulary.Spells p name uri →
      (r.resolve ⟨uri, isArray⟩ isExtension).outcome =
        .error (.resolution (.unresolvedType name (p ++ ":" ++ name))) := by
  have hname {uri : String} (h : r.tables.vocabulary.Spells p name uri) :
      (⟨uri, isArray⟩ : TypeReference).shortName = name := h.shortName hv hp hn
  have hkey {uri : String} (h : r.tables.vocabulary.Spells p name uri) :=
    h.compact hv hf hp hn
  have hsame (uri : String) (h : r.tables.vocabulary.Spells p name uri) :
      r.resolveBase ⟨uri, isArray⟩ isExtension =
        r.resolveBase ⟨p ++ ":" ++ name, isArray⟩ isExtension :=
    resolveBase_congr ((hname h).trans (hname .key).symm) ((hkey h).trans (hkey .key).symm)
  obtain ⟨found, hfound⟩ := exists_isFoundation hv.hasTexts (p ++ ":" ++ name)
  have htotal : (∃ t, r.resolveBase ⟨p ++ ":" ++ name, isArray⟩ isExtension = .ok t) ∨ _ :=
    resolveBase_total (hkey .key) hfound
  rcases htotal with ⟨base, hbase⟩ | herror
  · refine .inl ⟨if isArray then r.listOf base else base, fun uri h => ?_⟩
    rw [outcome_resolve, resolvePure_ok_iff]
    exact ⟨base, (hsame uri h).trans hbase, rfl⟩
  · refine .inr fun uri h => ?_
    rw [outcome_resolve, resolvePure, hsame uri h, herror, hname .key]
    rfl

/-- Lists of events under the standard vocabulary, where the local prefix has three spellings. -/
theorem resolve_spells_event :
    let r : Resolver := ⟨⟨[], ["Event"], standard⟩, Settings.default⟩
    (standard.Regular ∧ standard.PrefixFree ∧ standard.Declares "oa" ∧
      Unseparated "Event".toList) ∧
    ((∃ t, ∀ uri, standard.Spells "oa" "Event" uri →
      (r.resolve ⟨uri, true⟩ false).outcome = .ok t) ∨
    ∀ uri, standard.Spells "oa" "Event" uri →
      (r.resolve ⟨uri, true⟩ false).outcome =
        .error (.resolution (.unresolvedType "Event" ("oa" ++ ":" ++ "Event")))) := by
  intro r
  have hp : standard.Declares "oa" :=
    ⟨.str "https://openactive.io/", by simp [standard, Table.ofMembers, defaultNamespaces]⟩
  have hn : Unseparated "Event".toList := unseparated_of_all (by decide)
  exact ⟨⟨regular_standard, prefixFree_standard, hp, hn⟩,
    @resolve_spells r "oa" "Event" regular_standard prefixFree_standard hp hn true false⟩

end Resolver
end TypedVocabulary
