import TypedVocabulary.Proofs.Vocabulary.WrittenReference

/-! # Short names

The short name of a reference is the longest end without separators that stands behind the array
mark. What stands in front of a separator is without effect on it, an array mark included. So the
marked form of a text has the short name of the text itself, except for a text that begins with the
mark once more and has no separator: of this one only the first mark is taken off.
-/
namespace TypedVocabulary.Reference
variable {cs part : List Char} {front name : String}

/-! ## The longest end -/

/-- An end of a text that has no separator, and is the longest of this kind. -/
structure LongestEnd (cs name : List Char) : Prop where
  isEnd : name <:+ cs
  unseparated : Unseparated name
  longest : ∀ other, other <:+ cs → Unseparated other → other.length ≤ name.length

theorem longestEnd_lastSegment (cs : List Char) : LongestEnd cs (lastSegment cs) where
  isEnd := List.rtakeWhile_suffix _ _
  unseparated := unseparated_lastSegment cs
  longest _ hend hfree := (suffix_lastSegment_iff.mpr ⟨hend, hfree⟩).length_le

theorem longestEnd_iff : LongestEnd cs part ↔ lastSegment cs = part := by
  constructor
  · intro h
    have hpart : part <:+ lastSegment cs := suffix_lastSegment_iff.mpr ⟨h.isEnd, h.unseparated⟩
    have hlength : (lastSegment cs).length ≤ part.length :=
      h.longest _ (List.rtakeWhile_suffix _ _) (unseparated_lastSegment cs)
    exact (hpart.eq_of_length_le hlength).symm
  · rintro rfl
    exact longestEnd_lastSegment cs

theorem toList_shortName (s : String) :
    (shortName s).toList = lastSegment (stripArrayMark s).toList := by
  rw [shortName, stripArrayMark, String.toList_ofList, String.toList_ofList, shortChars_eq]

/-- The cuts behind the mark could be made in any order. -/
theorem shortChars_any_order {seps : List Char} (h : ∀ sep, sep ∈ seps ↔ isSeparator sep = true)
    (cs : List Char) : Text.afterEach seps (stripMark cs) = shortChars cs := by
  have hcuts : shortChars cs = Text.afterEach ['/', '#', ':'] (stripMark cs) := rfl
  rw [hcuts]
  exact Text.afterEach_congr fun sep => (h sep).trans isSeparator_iff

/-! ## What stands in front -/

theorem lastSegment_eq_self_iff : lastSegment cs = cs ↔ Unseparated cs := by
  refine ⟨fun h => ?_, lastSegment_of_unseparated⟩
  rw [← h]
  exact unseparated_lastSegment cs

theorem lastSegment_append_of_separated (h : ¬Unseparated cs) (front : List Char) :
    lastSegment (front ++ cs) = lastSegment cs := by
  obtain ⟨before, c, after, rfl, hsep⟩ := exists_separator_of_not_unseparated h
  rw [← List.append_assoc, lastSegment_append_cons _ hsep, lastSegment_append_cons _ hsep]

theorem shortName_append_iff (h : endsInSeparator front.toList = true) :
    shortName (front ++ name) = name ↔ Unseparated name.toList := by
  have hname : (shortName (front ++ name)).toList = lastSegment name.toList := by
    rw [shortName, String.toList_ofList, String.toList_append, shortChars_eq,
      lastSegment_stripMark_append h]
  rw [← String.toList_inj, hname, lastSegment_eq_self_iff]

/-! ## Marked texts -/

theorem lastSegment_dropSeparator (cs : List Char) :
    lastSegment (dropSeparator cs) = lastSegment cs := by
  unfold dropSeparator
  split
  · split
    · rename_i c rest hmark
      have hc : c = localMark := of_decide_eq_true (Bool.and_eq_true_iff.mp hmark).1
      rw [hc]
      exact (lastSegment_append_cons [] rfl rest).symm
    · rfl
  · rfl

theorem shortChars_append_mark (cs : List Char) :
    shortChars (arrayMark ++ cs) = lastSegment cs := by
  rw [shortChars_eq, TypeReference.stripMark_append_mark, lastSegment_dropSeparator]

theorem shortChars_append_mark_iff :
    shortChars (arrayMark ++ cs) = shortChars cs ↔ isMarked cs = false ∨ ¬Unseparated cs := by
  rw [shortChars_append_mark]
  cases hm : isMarked cs with
  | false =>
    rw [shortChars_eq, stripMark_of_not_marked hm]
    exact iff_of_true rfl (.inl rfl)
  | true =>
    obtain ⟨rest, rfl⟩ := isMarked_iff.mp hm
    rw [shortChars_append_mark]
    by_cases hrest : Unseparated rest
    · have hcs : Unseparated (arrayMark ++ rest) :=
        unseparated_append.mpr ⟨unseparated_arrayMark, hrest⟩
      have hlonger : arrayMark ++ rest ≠ rest := fun h => nomatch List.append_left_eq_self.mp h
      rw [lastSegment_of_unseparated hcs, lastSegment_of_unseparated hrest]
      exact iff_of_false hlonger (by simp [hcs])
    · have hcs : ¬Unseparated (arrayMark ++ rest) := fun h => hrest (unseparated_append.mp h).2
      rw [lastSegment_append_of_separated hrest]
      exact iff_of_true rfl (.inr hcs)

theorem shortName_append_mark_iff :
    shortName ("ArrayOf" ++ name) = shortName name ↔
      ¬"ArrayOf".toList <+: name.toList ∨ ¬Unseparated name.toList := by
  have hmark : ("ArrayOf" ++ name).toList = arrayMark ++ name.toList := String.toList_append
  rw [shortName, shortName, hmark, String.ofList_inj, shortChars_append_mark_iff,
    ← TypeReference.isMarked_iff_begins, Bool.not_eq_true]

/-! ## The rule of short names -/

/-- The short name of a reference is the longest end without separators behind its array mark. So a
name behind a text that ends in a separator, whether or not this text begins with the mark, is the
short name of the whole exactly if it has no separator itself. And one more mark in front leaves a
short name as it was exactly if the text does not begin with the mark already or has a separator. -/
theorem shortName_longest_end :
    (∀ s name : String,
      LongestEnd (stripArrayMark s).toList name.toList ↔ shortName s = name) ∧
    (∀ front name : String, endsInSeparator front.toList = true →
      (shortName (front ++ name) = name ↔ Unseparated name.toList)) ∧
    (∀ name : String, shortName ("ArrayOf" ++ name) = shortName name ↔
      ¬"ArrayOf".toList <+: name.toList ∨ ¬Unseparated name.toList) := by
  refine ⟨fun s name => ?_, fun _ _ h => shortName_append_iff h, fun _ => shortName_append_mark_iff⟩
  rw [longestEnd_iff, ← toList_shortName, String.toList_inj]

/-- A text with every separator, an address behind an array mark, a marked key, and a text that a
second mark changes. -/
theorem shortName_longest_end_course :
    LongestEnd (stripArrayMark "ArrayOf#oa:ns#beta/a:b/Course").toList "Course".toList ∧
    endsInSeparator "ArrayOf#https://openactive.io/ns-beta#".toList = true ∧
    shortName ("ArrayOf#https://openactive.io/ns-beta#" ++ "Course") = "Course" ∧
    shortName ("ArrayOf" ++ "beta:Course") = shortName "beta:Course" ∧
    shortName ("ArrayOf" ++ "ArrayOfCourse") ≠ shortName "ArrayOfCourse" := by
  obtain ⟨hlongest, hfront, hmark⟩ := shortName_longest_end
  have hsep : endsInSeparator "ArrayOf#https://openactive.io/ns-beta#".toList = true := by decide
  have hname : Unseparated "Course".toList := unseparated_of_all (by decide)
  have hkey : ¬"ArrayOf".toList <+: "beta:Course".toList :=
    TypeReference.isMarked_iff_begins.not.mp (by decide)
  have hmarked : "ArrayOf".toList <+: "ArrayOfCourse".toList :=
    TypeReference.isMarked_iff_begins.mp (by decide)
  have hwhole : Unseparated "ArrayOfCourse".toList := unseparated_of_all (by decide)
  refine ⟨(hlongest _ _).mpr (by decide), hsep, (hfront _ _ hsep).mpr hname,
    (hmark _).mpr (.inl hkey), fun h => ?_⟩
  rcases (hmark _).mp h with hunmarked | hseparated
  · exact hunmarked hmarked
  · exact hseparated hwhole

end TypedVocabulary.Reference
