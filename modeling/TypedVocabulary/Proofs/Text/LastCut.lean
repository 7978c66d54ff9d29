import Mathlib.Data.List.DropRight
import TypedVocabulary.Text.Slice

/-! # Cuts at last occurrences

A cut takes what follows the last occurrence of a separator. It leaves exactly those ends of a text
that do not have the separator, so cuts at several separators leave the ends without any of them, and
it makes no difference in which order they are made.
-/
namespace TypedVocabulary.Text
variable {sep : Char} {seps cs part : List Char}

theorem suffix_rtakeWhile_iff {p : Char → Bool} :
    part <:+ cs.rtakeWhile p ↔ part <:+ cs ∧ ∀ c ∈ part, p c = true := by
  induction cs using List.reverseRecOn generalizing part with
  | nil =>
    rw [List.rtakeWhile_nil, List.suffix_nil, iff_self_and]
    rintro rfl
    simp
  | append_singleton cs c ih =>
    rw [List.rtakeWhile_concat]
    cases hc : p c with
    | true =>
      rw [if_pos rfl, List.suffix_concat_iff, List.suffix_concat_iff]
      constructor
      · rintro (rfl | ⟨front, rfl, hfront⟩)
        · simp
        · obtain ⟨hend, hall⟩ := ih.mp hfront
          refine ⟨.inr ⟨front, rfl, hend⟩, fun d hd => ?_⟩
          rcases List.mem_append.mp hd with hd | hd
          · exact hall d hd
          · rw [List.mem_singleton.mp hd, hc]
      · rintro ⟨rfl | ⟨front, rfl, hend⟩, hall⟩
        · exact .inl rfl
        · exact .inr ⟨front, rfl, ih.mpr ⟨hend, fun d hd => hall d (List.mem_append_left _ hd)⟩⟩
    | false =>
      rw [if_neg Bool.false_ne_true, List.suffix_nil, List.suffix_concat_iff]
      constructor
      · rintro rfl
        simp
      · rintro ⟨rfl | ⟨front, rfl, -⟩, hall⟩
        · rfl
        · have hlast : p c = true := hall c (by simp)
          rw [hc] at hlast
          cases hlast

theorem eq_of_suffix_iff {other : List Char} (h : ∀ part, part <:+ cs ↔ part <:+ other) :
    cs = other := by
  have hend : cs <:+ other := (h cs).mp List.suffix_rfl
  exact hend.eq_of_length_le ((h other).mpr List.suffix_rfl).length_le

theorem suffix_afterLast_iff : part <:+ afterLast sep cs ↔ part <:+ cs ∧ sep ∉ part := by
  have hcut : afterLast sep cs = cs.rtakeWhile (· != sep) := rfl
  rw [hcut, suffix_rtakeWhile_iff]
  refine and_congr_right fun _ => ⟨fun h hmem => ?_, fun h c hc => ?_⟩
  · simpa using h sep hmem
  · exact bne_iff_ne.mpr fun heq => h (heq ▸ hc)

/-- What is left by one cut after the other, each at the last occurrence that is still there. -/
def afterEach (seps cs : List Char) : List Char := seps.foldl (fun cs sep => afterLast sep cs) cs

/-- All cuts together leave the ends that have none of the separators. -/
theorem suffix_afterEach_iff :
    part <:+ afterEach seps cs ↔ part <:+ cs ∧ ∀ sep ∈ seps, sep ∉ part := by
  induction seps generalizing cs with
  | nil => simp [afterEach]
  | cons sep seps ih =>
    have hstep : afterEach (sep :: seps) cs = afterEach seps (afterLast sep cs) := rfl
    rw [hstep, ih, suffix_afterLast_iff, List.forall_mem_cons, and_assoc]

theorem afterEach_congr {seps' : List Char} (h : ∀ sep, sep ∈ seps ↔ sep ∈ seps') :
    afterEach seps cs = afterEach seps' cs := by
  refine eq_of_suffix_iff fun part => ?_
  rw [suffix_afterEach_iff, suffix_afterEach_iff]
  exact and_congr_right fun _ => forall_congr' fun sep => imp_congr_left (h sep)

end TypedVocabulary.Text
