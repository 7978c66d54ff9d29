import Mathlib.Data.List.DropRight
import TypedVocabulary.Proofs.Text.LastCut
import TypedVocabulary.Vocabulary.Reference

/-! # Short names as last segments

A short name is found by three cuts: after the last `/`, then after the last `#`, then after the
last `:`. Together they leave the longest end of the reference that has none of the three in it,
so whatever stands in front of a separator is without effect on the short name.
-/
namespace TypedVocabulary.Reference

def isSeparator (c : Char) : Bool := c == '/' || c == '#' || c == ':'

def Unseparated (cs : List Char) : Prop := ∀ c ∈ cs, isSeparator c = false

def endsInSeparator (cs : List Char) : Bool := cs.getLast?.any isSeparator

def isMarked (cs : List Char) : Bool := arrayMark.isPrefixOf cs

/-- The longest end of a text without separators. -/
def lastSegment (cs : List Char) : List Char := cs.rtakeWhile fun c => !isSeparator c

/-! ## Last segments -/

theorem unseparated_of_all {cs : List Char} (h : cs.all (fun c => !isSeparator c) = true) :
    Unseparated cs := by
  intro c hc
  simpa using List.all_eq_true.mp h c hc

theorem unseparated_append {front cs : List Char} :
    Unseparated (front ++ cs) ↔ Unseparated front ∧ Unseparated cs :=
  List.forall_mem_append

theorem exists_separator_of_not_unseparated {cs : List Char} (h : ¬Unseparated cs) :
    ∃ front c rest, cs = front ++ c :: rest ∧ isSeparator c = true := by
  simp only [Unseparated, not_forall, Bool.not_eq_false] at h
  obtain ⟨c, hc, hsep⟩ := h
  obtain ⟨front, rest, hcs⟩ := List.append_of_mem hc
  exact ⟨front, c, rest, hcs, hsep⟩

theorem lastSegment_of_unseparated {cs : List Char} (h : Unseparated cs) : lastSegment cs = cs := by
  rw [lastSegment, List.rtakeWhile_eq_self_iff]
  intro c hc
  rw [h c hc]
  rfl

theorem unseparated_lastSegment (cs : List Char) : Unseparated (lastSegment cs) := by
  intro c hc
  simpa using List.mem_rtakeWhile_imp hc

theorem lastSegment_append_cons (front : List Char) {c : Char} (hc : isSeparator c = true)
    (cs : List Char) : lastSegment (front ++ c :: cs) = lastSegment cs := by
  have hrev : (front ++ c :: cs).reverse = cs.reverse ++ c :: front.reverse := by simp
  rw [lastSegment, lastSegment, List.rtakeWhile, List.rtakeWhile, hrev, List.takeWhile_append]
  split
  · rename_i hall
    rw [(List.takeWhile_prefix _).eq_of_length hall]
    simp [hc]
  · rfl

theorem endsInSeparator_iff {cs : List Char} :
    endsInSeparator cs = true ↔ ∃ front c, cs = front ++ [c] ∧ isSeparator c = true := by
  simp only [endsInSeparator, Option.any_eq_true, List.getLast?_eq_some_iff]
  constructor
  · rintro ⟨c, ⟨front, rfl⟩, hc⟩
    exact ⟨front, c, rfl, hc⟩
  · rintro ⟨front, c, rfl, hc⟩
    exact ⟨c, ⟨front, rfl⟩, hc⟩

theorem exists_cons_of_endsInSeparator {cs : List Char} (h : endsInSeparator cs = true) :
    ∃ c rest, cs = c :: rest := by
  cases cs with
  | nil => cases h
  | cons c rest => exact ⟨c, rest, rfl⟩

theorem lastSegment_append {front : List Char} (h : endsInSeparator front = true)
    (cs : List Char) : lastSegment (front ++ cs) = lastSegment cs := by
  obtain ⟨head, c, rfl, hc⟩ := endsInSeparator_iff.mp h
  rw [List.append_assoc, List.singleton_append]
  exact lastSegment_append_cons head hc cs

theorem isSeparator_iff {c : Char} : isSeparator c = true ↔ c ∈ ['/', '#', ':'] := by
  simp [isSeparator, or_assoc]

theorem unseparated_iff {cs : List Char} :
    Unseparated cs ↔ ∀ sep ∈ ['/', '#', ':'], sep ∉ cs := by
  constructor
  · intro h sep hsep hmem
    rw [← isSeparator_iff, h sep hmem] at hsep
    cases hsep
  · intro h c hc
    exact Bool.eq_false_iff.mpr fun hsep => h c (isSeparator_iff.mp hsep) hc

theorem suffix_lastSegment_iff {cs part : List Char} :
    part <:+ lastSegment cs ↔ part <:+ cs ∧ Unseparated part := by
  rw [lastSegment, Text.suffix_rtakeWhile_iff]
  simp only [Bool.not_eq_true', Unseparated]

/-- The three cuts in a row are one cut after the last separator of any kind. -/
theorem shortChars_eq (cs : List Char) : shortChars cs = lastSegment (stripMark cs) := by
  have hcuts : shortChars cs = Text.afterEach ['/', '#', ':'] (stripMark cs) := rfl
  refine Text.eq_of_suffix_iff fun part => ?_
  rw [hcuts, Text.suffix_afterEach_iff, suffix_lastSegment_iff, unseparated_iff]

/-! ## Array marks -/

theorem isMarked_iff {cs : List Char} : isMarked cs = true ↔ ∃ rest, cs = arrayMark ++ rest := by
  rw [isMarked, List.isPrefixOf_iff_prefix]
  exact ⟨fun ⟨rest, h⟩ => ⟨rest, h.symm⟩, fun ⟨rest, h⟩ => ⟨rest, h.symm⟩⟩

theorem stripMark_of_not_marked {cs : List Char} (h : isMarked cs = false) :
    stripMark cs = cs := by
  unfold stripMark
  cases hp : arrayMark.isPrefixOf? cs with
  | none => rfl
  | some rest =>
    have hm : isMarked cs = true :=
      isMarked_iff.mpr ⟨rest, (List.append_eq_of_isPrefixOf?_eq_some hp).symm⟩
    rw [h] at hm
    cases hm

theorem stripMark_suffix (cs : List Char) : stripMark cs <:+ cs := by
  unfold stripMark
  split
  · rename_i rest hp
    have hdrop : dropSeparator rest <:+ rest := by
      unfold dropSeparator
      split
      · split
        · exact List.suffix_cons _ _
        · exact List.suffix_rfl
      · exact List.suffix_rfl
    exact hdrop.trans ⟨arrayMark, List.append_eq_of_isPrefixOf?_eq_some hp⟩
  · exact List.suffix_rfl

theorem shortChars_suffix (cs : List Char) : shortChars cs <:+ cs := by
  rw [shortChars_eq]
  exact (List.rtakeWhile_suffix _ _).trans (stripMark_suffix cs)

/-! ## Beginnings of texts -/

theorem prefix_of_prefix_append_unseparated {space front name : List Char}
    (hs : endsInSeparator space = true) (hn : Unseparated name) (h : space <+: front ++ name) :
    space <+: front := by
  rcases List.prefix_or_prefix_of_prefix h (List.prefix_append front name) with h' | ⟨mid, rfl⟩
  · exact h'
  · rcases mid.eq_nil_or_concat' with rfl | ⟨init, last, rfl⟩
    · simp
    · have hsep : isSeparator last = true := by
        simpa [endsInSeparator, List.getLast?_append] using hs
      have hmid : init ++ [last] <+: name := (List.prefix_append_right_inj front).mp h
      have hlast : isSeparator last = false := hn last (hmid.subset (by simp))
      rw [hsep] at hlast
      cases hlast

/-- A beginning without separators does not reach a separator. -/
theorem prefix_of_unseparated_prefix {word front cs : List Char} {c : Char}
    (hw : Unseparated word) (hc : isSeparator c = true) (h : word <+: front ++ c :: cs) :
    word <+: front := by
  rcases List.prefix_or_prefix_of_prefix h (List.prefix_append front (c :: cs)) with h' | ⟨mid, rfl⟩
  · exact h'
  · cases mid with
    | nil => simp
    | cons d mid =>
      have hmid : d :: mid <+: c :: cs := (List.prefix_append_right_inj front).mp h
      obtain ⟨rfl, -⟩ := List.cons_prefix_cons.mp hmid
      have hfree : isSeparator d = false := hw d (by simp)
      rw [hc] at hfree
      cases hfree

theorem unseparated_arrayMark : Unseparated arrayMark := unseparated_of_all (by decide)

/-- An array mark in front of a separator does not reach what follows. -/
theorem lastSegment_stripMark_append {front : List Char} (h : endsInSeparator front = true)
    (cs : List Char) : lastSegment (stripMark (front ++ cs)) = lastSegment cs := by
  obtain ⟨head, c, rfl, hc⟩ := endsInSeparator_iff.mp h
  rw [List.append_assoc, List.singleton_append]
  unfold stripMark
  cases hp : arrayMark.isPrefixOf? (head ++ c :: cs) with
  | none => exact lastSegment_append_cons head hc cs
  | some rest =>
    have hrest := List.append_eq_of_isPrefixOf?_eq_some hp
    obtain ⟨mid, rfl⟩ :=
      prefix_of_unseparated_prefix unseparated_arrayMark hc ⟨rest, hrest⟩
    rw [List.append_assoc, List.append_cancel_left_eq] at hrest
    subst hrest
    -- The separating number sign that is dropped is the first of `mid`, or `c` itself.
    cases mid with
    | nil =>
      simp only [List.nil_append, dropSeparator]
      split
      · rfl
      · exact lastSegment_append_cons [] hc cs
    | cons d mid =>
      simp only [List.cons_append, dropSeparator]
      split
      · exact lastSegment_append_cons mid hc cs
      · exact lastSegment_append_cons (d :: mid) hc cs

theorem isMarked_append_cons {front : List Char} {c : Char} (hm : isMarked front = false)
    (hc : isSeparator c = true) (cs : List Char) : isMarked (front ++ c :: cs) = false := by
  cases h : isMarked (front ++ c :: cs) with
  | false => rfl
  | true =>
    have hp := prefix_of_unseparated_prefix unseparated_arrayMark hc
      (List.isPrefixOf_iff_prefix.mp h)
    rw [isMarked, List.isPrefixOf_iff_prefix.mpr hp] at hm
    cases hm

theorem isMarked_front {front cs : List Char} (h : front <+: cs) (hm : isMarked cs = false) :
    isMarked front = false := by
  cases hfront : isMarked front with
  | false => rfl
  | true =>
    have hp := (List.isPrefixOf_iff_prefix.mp hfront).trans h
    rw [isMarked, List.isPrefixOf_iff_prefix.mpr hp] at hm
    cases hm

theorem isMarked_append {front : List Char} (hs : endsInSeparator front = true)
    (hm : isMarked front = false) (cs : List Char) : isMarked (front ++ cs) = false := by
  obtain ⟨head, c, rfl, hc⟩ := endsInSeparator_iff.mp hs
  rw [List.append_assoc, List.singleton_append]
  exact isMarked_append_cons (isMarked_front (List.prefix_append head [c]) hm) hc cs

end TypedVocabulary.Reference
