import Mathlib.Data.List.Nodup
import TypedVocabulary.Text.Order

/-! # Sorted texts

Sorting gives the same texts in ascending order, and texts of which none comes twice come out in
strictly ascending order.
-/
namespace TypedVocabulary.Text

theorem atMost_iff {a b : String} : atMost a b = true ↔ a ≤ b := by
  unfold atMost
  rw [Bool.not_eq_true', decide_eq_false_iff_not, String.not_lt]

theorem sort_perm (texts : List String) : (sort texts).Perm texts := List.mergeSort_perm _ _

theorem pairwise_sort (texts : List String) : (sort texts).Pairwise (· ≤ ·) := by
  have htrans (a b c : String) (hab : atMost a b = true) (hbc : atMost b c = true) :
      atMost a c = true :=
    atMost_iff.mpr (String.le_trans (atMost_iff.mp hab) (atMost_iff.mp hbc))
  have htotal (a b : String) : (atMost a b || atMost b a) = true := by
    rw [Bool.or_eq_true, atMost_iff, atMost_iff]
    exact String.le_total a b
  exact (List.pairwise_mergeSort htrans htotal texts).imp atMost_iff.mp

theorem pairwise_lt_sort {texts : List String} (h : texts.Nodup) :
    (sort texts).Pairwise (· < ·) := by
  have hnodup : (sort texts).Nodup := (sort_perm texts).nodup_iff.mpr h
  refine ((pairwise_sort texts).and hnodup).imp ?_
  rintro a b ⟨hle, hne⟩
  rw [← String.not_le]
  exact fun hge => hne (String.le_antisymm hle hge)

end TypedVocabulary.Text
