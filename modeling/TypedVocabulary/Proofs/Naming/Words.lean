import TypedVocabulary.Proofs.Naming.ConvertedName
import TypedVocabulary.Proofs.Text.Lines

/-! # Words of names

The words of a name are its runs of ASCII letters and digits. A converted name is made of them alone,
each with a capital first letter, so what stands between the words and how often is lost: two names meet
in one class name exactly if their words are spelled alike one behind the other.
-/
namespace TypedVocabulary.Identifier
variable {c : Char} {cs : List Char}

def words (cs : List Char) : List (List Char) :=
  (cs.splitOnP fun c => !c.isAlphanum).filter fun word => !word.isEmpty

/-- The words one behind the other; a name without words is spelled like `field`. -/
def spelling (cs : List Char) : List Char :=
  (if words cs = [] then [['f', 'i', 'e', 'l', 'd']] else words cs).flatMap capitalize

/-! ## Joined words -/

theorem isSeparator_keep (h : c.isAlphanum = false) : isSeparator (keep c) = true := by
  rcases keep_spec c with halnum | hsep
  · unfold keep at halnum
    split at halnum
    · rename_i hkept
      cases h.symm.trans halnum
    · cases halnum
  · exact hsep

theorem keep_of_alphanum (h : c.isAlphanum = true) : keep c = c := by
  simp [keep, h]

theorem joinWords_pieces {piece : List Char} {pieces : List (List Char)}
    (h : (cs.splitOnP fun c => !c.isAlphanum) = piece :: pieces) :
    joinWords true (cs.map keep) = capitalize piece ++ pieces.flatMap capitalize ∧
      joinWords false (cs.map keep) = piece ++ pieces.flatMap capitalize := by
  induction cs generalizing piece pieces with
  | nil =>
    rw [List.splitOnP_nil, List.cons.injEq] at h
    obtain ⟨rfl, rfl⟩ := h
    exact ⟨rfl, rfl⟩
  | cons c cs ih =>
    obtain ⟨first, rest, hsplit⟩ := List.exists_cons_of_ne_nil
      (List.splitOnP_ne_nil (fun c : Char => !c.isAlphanum) cs)
    obtain ⟨hstart, hinside⟩ := ih hsplit
    rw [List.splitOnP_cons_eq_if_modifyHead, hsplit] at h
    rw [List.map_cons]
    cases hc : c.isAlphanum with
    | true =>
      simp only [hc, Bool.not_true, Bool.false_eq_true, if_false, List.modifyHead_cons,
        List.cons.injEq] at h
      obtain ⟨rfl, rfl⟩ := h
      have hsep : isSeparator c = false := isSeparator_of_alphanum hc
      simp [joinWords, keep_of_alphanum hc, hsep, hinside, capitalize]
    | false =>
      simp only [hc, Bool.not_false, if_true, List.cons.injEq] at h
      obtain ⟨rfl, rfl⟩ := h
      simp [joinWords, isSeparator_keep hc, hstart, capitalize]

theorem joinWords_words (cs : List Char) :
    joinWords true (cs.map keep) = (words cs).flatMap capitalize := by
  obtain ⟨first, rest, hsplit⟩ := List.exists_cons_of_ne_nil
    (List.splitOnP_ne_nil (fun c : Char => !c.isAlphanum) cs)
  have hempty (pieces : List (List Char)) :
      (pieces.filter fun word => !word.isEmpty).flatMap capitalize = pieces.flatMap capitalize := by
    induction pieces with
    | nil => rfl
    | cons piece pieces ih => cases piece <;> simp [capitalize, ih]
  rw [(joinWords_pieces hsplit).1, words, hsplit, hempty, List.flatMap_cons]

/-! ## Separators at the ends -/

theorem joinWords_dropWhile (cs : List Char) :
    joinWords true (cs.dropWhile isSeparator) = joinWords true cs := by
  induction cs with
  | nil => rfl
  | cons c cs ih =>
    cases hc : isSeparator c with
    | true => simp [joinWords, hc, ih]
    | false => simp [hc]

theorem joinWords_append {seps : List Char} (h : ∀ c ∈ seps, isSeparator c = true) (atStart : Bool) :
    joinWords atStart (cs ++ seps) = joinWords atStart cs := by
  have hseps (atStart : Bool) : joinWords atStart seps = [] := by
    induction seps generalizing atStart with
    | nil => rfl
    | cons c seps ih =>
      obtain ⟨hc, hseps⟩ := List.forall_mem_cons.mp h
      rw [joinWords, if_pos hc, ih hseps]
  induction cs generalizing atStart with
  | nil => exact hseps atStart
  | cons c cs ih =>
    rw [List.cons_append, joinWords, joinWords]
    split
    · exact ih true
    · rw [ih false]

theorem joinWords_trim (cs : List Char) :
    joinWords true (Text.trim isSeparator cs) = joinWords true cs := by
  obtain ⟨seps, hcs, hseps⟩ := Text.trimRight_append isSeparator (cs.dropWhile isSeparator)
  rw [← joinWords_dropWhile cs, hcs, joinWords_append hseps]
  rfl

/-! ## Names that meet -/

theorem joinWords_clean (cs : List Char) : joinWords true (clean cs) = spelling cs := by
  have hwords : (words cs).flatMap capitalize = joinWords true (Text.trim isSeparator (cs.map keep)) :=
    (joinWords_words cs).symm.trans (joinWords_trim _).symm
  rw [spelling]
  cases htrim : Text.trim isSeparator (cs.map keep) with
  | nil =>
    have hclean : clean cs = ['f', 'i', 'e', 'l', 'd'] := by rw [clean, htrim]
    rw [htrim] at hwords
    have hnone : words cs = [] := by
      rw [List.eq_nil_iff_forall_not_mem]
      intro word hword
      have hcapital : capitalize word = [] := List.flatMap_eq_nil_iff.mp hwords word hword
      have hfilled := (List.mem_filter.mp hword).2
      cases word with
      | nil => cases hfilled
      | cons c rest => cases hcapital
    rw [hclean, if_pos hnone]
    rfl
  | cons c rest =>
    have hclean : clean cs = c :: rest := by rw [clean, htrim]
    rw [htrim] at hwords
    have hsome : words cs ≠ [] := by
      intro hnone
      obtain ⟨b, bs, hword, -⟩ := exists_word cs
      rw [hclean, ← hwords, hnone] at hword
      cases hword
    rw [hclean, if_neg hsome, hwords]

theorem low_not_mem_spelling (cs : List Char) : '_' ∉ spelling cs := by
  intro hmem
  rw [← joinWords_clean] at hmem
  have halnum := isAlphanum_of_mem_joinWords (fun c hc => mem_clean hc) hmem
  cases halnum

/-- The low line in front of a digit is found again, as no word has one. -/
theorem guardDigit_inj {xs ys : List Char} (hx : '_' ∉ xs) (hy : '_' ∉ ys) :
    guardDigit xs = guardDigit ys ↔ xs = ys := by
  refine ⟨fun h => ?_, congrArg guardDigit⟩
  have hcases (cs : List Char) : guardDigit cs = cs ∨ guardDigit cs = '_' :: cs := by
    cases cs with
    | nil => exact .inl rfl
    | cons c cs =>
      rw [guardDigit]
      split
      · exact .inr rfl
      · exact .inl rfl
  rcases hcases xs with hxs | hxs <;> rcases hcases ys with hys | hys <;> rw [hxs, hys] at h
  · exact h
  · exact absurd (h ▸ List.mem_cons_self) hx
  · exact absurd (h ▸ List.mem_cons_self) hy
  · exact (List.cons.inj h).2

/-- Names meet in one class name exactly if they are spelled alike. -/
theorem typeName_eq_iff {name other : String} :
    typeName name = typeName other ↔ spelling name.toList = spelling other.toList := by
  have hname (s : String) : typeName s = String.ofList (guardDigit (spelling s.toList)) := by
    rw [typeName_eq, convert, convertChars, upperCamel, joinWords_clean]
  rw [hname, hname, String.ofList_inj, guardDigit_inj (low_not_mem_spelling _) (low_not_mem_spelling _)]

end TypedVocabulary.Identifier
