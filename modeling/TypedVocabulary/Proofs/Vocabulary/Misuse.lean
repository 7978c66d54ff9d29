import TypedVocabulary.Proofs.Requirements
import TypedVocabulary.Vocabulary.Namespaces

/-! # Misuses of a vocabulary

Namespaces are taken as they were written, so a look-up may stumble over one that is no text, and what
is looked up may be none either. Nothing else can go wrong in a vocabulary.
-/
namespace TypedVocabulary.Vocabulary
open Attempt

theorem failsBy_namespaceSize (space : Json) : FailsBy IsMisuse (namespaceSize space) := by
  cases space with
  | str | arr | obj => exact failsBy_ok rfl
  | null | bool | int | float =>
    intro e he
    exact ⟨_, (Except.error.inj he).symm⟩

theorem failsBy_entries (v : Vocabulary) : FailsBy IsMisuse v.entries := by
  unfold entries
  refine failsBy_mapM fun x _ => ?_
  exact (failsBy_namespaceSize x.2).bind fun _ _ => failsBy_pure _

theorem failsBy_matchEntry (cs : List Char) (es : List Entry) :
    FailsBy IsMisuse (matchEntry cs es) := by
  induction es with
  | nil => exact failsBy_ok rfl
  | cons e rest ih =>
    unfold matchEntry
    refine (Json.requires_asOperand e.space).failsBy.bind fun space _ => ?_
    split
    · exact failsBy_ok rfl
    · exact ih

theorem failsBy_compact (v : Vocabulary) (s : String) : FailsBy IsMisuse (v.compact s) := by
  unfold compact compactChars
  split
  · exact failsBy_ok rfl
  · refine v.failsBy_entries.bind fun es _ => (failsBy_matchEntry _ _).bind fun found _ => ?_
    cases found <;> exact failsBy_pure _

theorem failsBy_prefixOf (v : Vocabulary) (s : String) : FailsBy IsMisuse (v.prefixOf s) := by
  unfold prefixOf
  refine (v.failsBy_compact s).bind fun key _ => ?_
  split
  · exact failsBy_pure _
  · exact failsBy_pure _

theorem failsBy_isFoundationNamespace (v : Vocabulary) (value : Json) :
    FailsBy IsMisuse (v.isFoundationNamespace value) := by
  unfold isFoundationNamespace
  split
  · refine (Json.requires_asText value).failsBy.bind fun s _ => ?_
    exact (v.failsBy_prefixOf s).bind fun _ _ => failsBy_pure _
  · exact failsBy_pure _

theorem failsBy_isFoundation (v : Vocabulary) (value : Json) :
    FailsBy IsMisuse (v.isFoundation value) := by
  unfold isFoundation
  refine (v.failsBy_isFoundationNamespace value).bind fun inside _ => ?_
  split
  · split
    · exact failsBy_pure _
    · exact (Json.requires_asText value).failsBy.bind fun _ _ => failsBy_pure _
  · exact failsBy_pure _

end TypedVocabulary.Vocabulary
