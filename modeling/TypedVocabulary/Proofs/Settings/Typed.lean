import TypedVocabulary.Proofs.Requirements
import TypedVocabulary.Proofs.Vocabulary.CompactKey

/-! # Typed settings

Settings whose values have the types that are declared for them. Such settings give a vocabulary in
which every text can be looked up, so that what a look-up asks for is a text and nothing more.
-/
namespace TypedVocabulary
open Attempt

structure Settings.Typed (s : Settings) : Prop where
  outputDir : s.outputDir = .null ∨ s.outputDir.IsText
  «namespace» : s.namespace.IsText
  foundationNamespace : s.foundationNamespace.IsText
  foundationRoot : s.foundationRoot.IsText
  unionType : s.unionType.IsText
  listType : s.listType.IsText
  vocabularyNamespaces : ∃ members, s.vocabularyNamespaces = .obj members ∧
    ∀ m ∈ members, m.2.IsText
  localPrefix : s.localPrefix.IsText
  foundationPrefix : s.foundationPrefix.IsText
  foundationTypes : s.foundationTypes = .null ∨
    ∃ names, s.foundationTypes = .arr names ∧ ∀ n ∈ names, n.IsText
  docsUrlPrefix : s.docsUrlPrefix.IsText
  addComments : ∃ b, s.addComments = .bool b
  addCodeExamples : ∃ b, s.addCodeExamples = .bool b
  allowPartial : ∃ b, s.allowPartial = .bool b
  maxWorkers : s.maxWorkers = .null ∨ ∃ n, s.maxWorkers = .int n
  custom : ∃ members, s.custom = .obj members

namespace Vocabulary
variable {v : Vocabulary}

theorem exists_readFoundationTypes {types : Json}
    (h : types = .null ∨ ∃ names, types = .arr names ∧ ∀ n ∈ names, n.IsText) :
    ∃ names, readFoundationTypes types = .ok names := by
  rcases h with rfl | ⟨names, rfl, hnames⟩
  · exact ⟨none, rfl⟩
  · have hall : names.all Json.hashable = true := by
      rw [List.all_eq_true]
      intro n hn
      obtain ⟨s, rfl⟩ := hnames n hn
      rfl
    refine ⟨some (names.filterMap Json.text?), ?_⟩
    unfold readFoundationTypes
    simp only [Json.visit, ok_bind, if_pos hall]
    rfl

theorem requires_isFoundationNamespace (hv : v.HasTexts) (value : Json) :
    Requires (v.isFoundationNamespace value) value.AbsentOrText := by
  unfold isFoundationNamespace
  by_cases ht : value.truthy = true
  · have htext : value.IsText ↔ value.AbsentOrText :=
      ⟨Json.IsText.absentOrText, fun h => h ht⟩
    rw [if_pos ht]
    refine ((Json.requires_asText value).bind_ok fun _ s _ => ?_).congr htext
    obtain ⟨known, hknown⟩ := exists_prefixOf hv s
    exact ⟨_, bind_ok_iff.mpr ⟨known, hknown, rfl⟩⟩
  · rw [if_neg ht]
    exact requires_of_ok rfl fun h => absurd h ht

theorem requires_isFoundation (hv : v.HasTexts) (value : Json) :
    Requires (v.isFoundation value) value.AbsentOrText := by
  constructor
  · intro hp
    by_cases ht : value.truthy = true
    · obtain ⟨s, rfl⟩ := hp ht
      exact exists_isFoundation hv s
    · unfold isFoundation isFoundationNamespace
      rw [if_neg ht]
      exact ⟨false, rfl⟩
  · intro hp
    obtain ⟨m, hm⟩ := (requires_isFoundationNamespace hv value).unmet hp
    exact ⟨m, bind_error_iff.mpr (.inl hm)⟩

end Vocabulary

theorem Settings.Typed.exists_vocabulary {s : Settings} (h : s.Typed) :
    ∃ v, s.vocabulary = .ok v ∧ v.HasTexts := by
  obtain ⟨names, hnames⟩ := Vocabulary.exists_readFoundationTypes h.foundationTypes
  obtain ⟨members, hmembers, htexts⟩ := h.vocabularyNamespaces
  refine ⟨⟨Table.ofMembers members, s.localPrefix, s.foundationPrefix, names⟩, ?_, ?_⟩
  · unfold Settings.vocabulary Vocabulary.ofSettings
    rw [hnames, hmembers]
    rfl
  · intro p space hspace
    obtain ⟨m, hm, heq⟩ := List.mem_map.mp hspace
    obtain ⟨text, htext⟩ := htexts m hm
    cases heq
    exact ⟨text, htext⟩

theorem Settings.typed_default : Settings.default.Typed where
  outputDir := .inl rfl
  «namespace» := ⟨_, rfl⟩
  foundationNamespace := ⟨_, rfl⟩
  foundationRoot := ⟨_, rfl⟩
  unionType := ⟨_, rfl⟩
  listType := ⟨_, rfl⟩
  vocabularyNamespaces := by
    refine ⟨Vocabulary.defaultNamespaces, rfl, ?_⟩
    intro m hm
    simp only [Vocabulary.defaultNamespaces, List.mem_cons, List.not_mem_nil, or_false] at hm
    rcases hm with rfl | rfl | rfl | rfl <;> exact ⟨_, rfl⟩
  localPrefix := ⟨_, rfl⟩
  foundationPrefix := ⟨_, rfl⟩
  foundationTypes := .inl rfl
  docsUrlPrefix := ⟨_, rfl⟩
  addComments := ⟨_, rfl⟩
  addCodeExamples := ⟨_, rfl⟩
  allowPartial := ⟨_, rfl⟩
  maxWorkers := .inl rfl
  custom := ⟨_, rfl⟩

end TypedVocabulary
