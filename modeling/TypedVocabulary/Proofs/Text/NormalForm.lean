import Mathlib.Data.List.Chain
import TypedVocabulary.Proofs.Text.Lines

/-! # The normal form of texts

Layout leaves rows that have no blanks at their ends, begin and end with one that shows something, and
have no two empty ones next to each other. Rows like that are left alone, so layout done twice is
layout done once, and whatever a laid out text cannot hold is seen from its rows.
-/
namespace TypedVocabulary.Text
variable {cs l : List Char} {ls : List (List Char)} {gap : Bool}

/-! ## Rows of laid out texts -/

/-- At least one of two neighbours is not empty. -/
def Apart (l l' : List Char) : Prop := l ≠ [] ∨ l' ≠ []

structure LaidOut (ls : List (List Char)) : Prop where
  single : ∀ l ∈ ls, '\n' ∉ l
  trimmed : ∀ l ∈ ls, trimRight isMargin l = l
  apart : ls.IsChain Apart
  first : ls.head? ≠ some []
  last : ls.getLast? ≠ some []

theorem isChain_squeeze (gap : Bool) (ls : List (List Char)) :
    (squeeze gap ls).IsChain Apart ∧ (squeeze gap ls).getLast? ≠ some [] := by
  induction ls generalizing gap with
  | nil => exact ⟨.nil, nofun⟩
  | cons l ls ih =>
    rw [squeeze]
    cases hl : l.isEmpty with
    | true => exact ih true
    | false =>
      have hne : l ≠ [] := by simpa using hl
      obtain ⟨hchain, hlast⟩ := ih false
      have htail : (l :: squeeze false ls).IsChain Apart :=
        List.isChain_cons.mpr ⟨fun _ _ => .inl hne, hchain⟩
      have hend : (l :: squeeze false ls).getLast? ≠ some [] := by
        rw [List.getLast?_cons]
        cases hrest : (squeeze false ls).getLast? with
        | none => simpa [hrest] using hne
        | some last =>
          rw [hrest] at hlast
          simpa using hlast
      cases gap with
      | false => exact ⟨htail, hend⟩
      | true =>
        refine ⟨List.isChain_cons.mpr ⟨fun y hy => .inr ?_, htail⟩, ?_⟩
        · obtain rfl : l = y := Option.some.inj hy
          exact hne
        · simpa using hend

theorem trimRight_trimRight (p : Char → Bool) (cs : List Char) :
    trimRight p (trimRight p cs) = trimRight p cs := by
  unfold trimRight
  rw [List.reverse_reverse, List.dropWhile_idempotent]

theorem head?_squeeze_dropWhile (ls : List (List Char)) :
    (squeeze false (ls.dropWhile List.isEmpty)).head? ≠ some [] := by
  have hfirst := List.head?_dropWhile_not List.isEmpty ls
  cases hrest : ls.dropWhile List.isEmpty with
  | nil => exact nofun
  | cons l ls =>
    have hl : l.isEmpty = false := by simpa [hrest] using hfirst
    have hne : l ≠ [] := by simpa using hl
    rw [squeeze, hl]
    simpa using hne

theorem laidOut_tidyLines (cs : List Char) : LaidOut (tidyLines cs) := by
  have hmem (l : List Char) (hl : l ∈ tidyLines cs) : l = [] ∨ l ∈ rows cs :=
    (mem_squeeze hl).imp_right fun h => (List.dropWhile_suffix _).mem h
  obtain ⟨hchain, hlast⟩ := isChain_squeeze false ((rows cs).dropWhile List.isEmpty)
  refine ⟨fun l hl => ?_, fun l hl => ?_, hchain, head?_squeeze_dropWhile (rows cs), hlast⟩
  · rcases hmem l hl with rfl | hl
    · exact List.not_mem_nil
    · exact not_mem_of_mem_rows hl
  · rcases hmem l hl with rfl | hl
    · rfl
    · obtain ⟨piece, -, rfl⟩ := List.mem_map.mp hl
      exact trimRight_trimRight isMargin piece

/-! ## Layout of laid out rows -/

/-- Rows next to each other of which one shows something stay as they are behind a gap that they
close. -/
theorem squeeze_of_apart (hchain : (opening gap ++ ls).IsChain Apart)
    (hlast : (opening gap ++ ls).getLast? ≠ some []) : squeeze gap ls = opening gap ++ ls := by
  induction ls generalizing gap with
  | nil =>
    cases gap with
    | false => rfl
    | true => exact absurd rfl hlast
  | cons l ls ih =>
    rw [squeeze]
    cases hl : l.isEmpty with
    | true =>
      obtain rfl : l = [] := List.isEmpty_iff.mp hl
      cases gap with
      | false => exact ih hchain hlast
      | true => simp [opening, Apart] at hchain
    | false =>
      have hrest : (l :: ls).IsChain Apart := hchain.suffix (List.suffix_append _ _)
      have hend : ls.getLast? ≠ some [] := by
        intro hempty
        refine hlast ?_
        rw [List.getLast?_append, List.getLast?_cons, hempty]
        rfl
      have htail : squeeze false ls = ls := ih hrest.tail hend
      rw [htail]
      rfl

theorem tidyLines_of_laidOut (h : LaidOut ls) : tidyLines (joinLines ls ++ ['\n']) = ls := by
  cases hls : ls with
  | nil => rfl
  | cons l rest =>
    rw [← hls]
    have hlines : splitOn '\n' (joinLines ls) = ls := by
      rw [splitOn_eq, joinLines_eq, List.splitOn_intercalate '\n' h.single (by simp [hls])]
    have hrows : rows (joinLines ls ++ ['\n']) = ls ++ [[]] := by
      rw [rows, splitOn_append_cons, hlines, List.map_append, List.map_congr_left h.trimmed,
        List.map_id']
      rfl
    have hdrop : (ls ++ [[]]).dropWhile List.isEmpty = ls ++ [[]] := by
      have hfirst := h.first
      rw [hls] at hfirst ⊢
      exact List.dropWhile_cons_of_neg (by simpa using hfirst)
    have hsame : squeeze false ls = ls := squeeze_of_apart h.apart h.last
    rw [tidyLines_eq, hrows, hdrop, squeeze_append, hsame]
    simp [squeeze]

theorem formatChars_formatChars (cs : List Char) : formatChars (formatChars cs) = formatChars cs := by
  have hsame : tidyLines (formatChars cs) = tidyLines cs := tidyLines_of_laidOut (laidOut_tidyLines cs)
  rw [formatChars, hsame, formatChars]

/-! ## Characters of laid out texts -/

theorem formatChars_of_tidyLines_eq_nil (h : tidyLines cs = []) : formatChars cs = ['\n'] := by
  rw [formatChars, h]
  rfl

/-- A text that shows something has no empty line but single ones inside and the one at its end. -/
theorem isChain_lines (h : tidyLines cs ≠ []) : (splitOn '\n' (formatChars cs)).IsChain Apart := by
  have hlaid := laidOut_tidyLines cs
  rw [splitOn_formatChars h]
  refine hlaid.apart.append (List.isChain_singleton []) fun l hl _ _ => .inl ?_
  rintro rfl
  exact hlaid.last hl

theorem head?_formatChars (h : tidyLines cs ≠ []) : (formatChars cs).head? ≠ some '\n' := by
  intro hhead
  obtain ⟨rest, hrest⟩ := List.head?_eq_some_iff.mp hhead
  have hlines := splitOn_formatChars h
  rw [hrest, splitOn, if_pos rfl] at hlines
  refine (laidOut_tidyLines cs).first ?_
  cases htidy : tidyLines cs with
  | nil => exact absurd htidy h
  | cons l ls =>
    rw [htidy] at hlines
    rw [← (List.cons.inj hlines).1]
    rfl

theorem getLast?_joinLines (hls : LaidOut ls) : (joinLines ls).getLast? ≠ some '\n' := by
  intro hlast
  obtain ⟨front, hfront⟩ := List.getLast?_eq_some_iff.mp hlast
  cases h : ls with
  | nil =>
    rw [h] at hfront
    simp [joinLines] at hfront
  | cons l rest =>
    have hlines : splitOn '\n' (joinLines ls) = ls := by
      rw [splitOn_eq, joinLines_eq, List.splitOn_intercalate '\n' hls.single (by simp [h])]
    rw [hfront, splitOn_append_cons] at hlines
    refine hls.last ?_
    rw [← hlines]
    simp [splitOn]

theorem not_infix_lineFeeds (cs : List Char) : ¬['\n', '\n', '\n'] <:+: formatChars cs := by
  rintro ⟨front, back, htext⟩
  by_cases h : tidyLines cs = []
  · rw [formatChars_of_tidyLines_eq_nil h] at htext
    have hlength := congrArg List.length htext
    simp at hlength
    omega
  · have hchain := isChain_lines h
    have hlines : splitOn '\n' (formatChars cs) =
        splitOn '\n' front ++ [] :: [] :: splitOn '\n' back := by
      rw [← htext, List.append_assoc, List.cons_append, splitOn_append_cons]
      rfl
    rw [hlines] at hchain
    simp [Apart, List.isChain_append] at hchain

/-- The last piece of a text ends in the last character, unless this is the separator. -/
theorem exists_splitOn_concat {sep c : Char} (hc : c ≠ sep) (cs : List Char) :
    ∃ pieces piece, splitOn sep (cs ++ [c]) = pieces ++ [piece ++ [c]] := by
  induction cs with
  | nil => exact ⟨[], [], by simp [splitOn, hc]⟩
  | cons d cs ih =>
    obtain ⟨pieces, piece, hsplit⟩ := ih
    rw [List.cons_append, splitOn, hsplit]
    split
    · exact ⟨[] :: pieces, piece, rfl⟩
    · cases pieces with
      | nil => exact ⟨[], d :: piece, rfl⟩
      | cons first rest => exact ⟨(d :: first) :: rest, piece, rfl⟩

theorem not_infix_margin {c : Char} (hc : isMargin c = true) (cs : List Char) :
    ¬[c, '\n'] <:+: formatChars cs := by
  rintro ⟨front, back, htext⟩
  have hne : c ≠ '\n' := by
    rintro rfl
    cases hc
  by_cases h : tidyLines cs = []
  · rw [formatChars_of_tidyLines_eq_nil h] at htext
    have hlength := congrArg List.length htext
    simp at hlength
    omega
  · obtain ⟨pieces, piece, hpieces⟩ := exists_splitOn_concat hne front
    have hlines : tidyLines cs ++ [[]] = pieces ++ [piece ++ [c]] ++ splitOn '\n' back := by
      rw [← splitOn_formatChars h, ← hpieces, ← splitOn_append_cons, ← htext]
      simp
    have hmem : piece ++ [c] ∈ tidyLines cs ++ [[]] := by
      rw [hlines]
      simp
    have hrow : piece ++ [c] ∈ tidyLines cs := by simpa using hmem
    have hend := List.rdropWhile_eq_self_iff.mp ((laidOut_tidyLines cs).trimmed _ hrow)
    simp [hc] at hend

/-! ## Content -/

/-- The lines of a text that show something. -/
def contentLines (s : String) : List (List Char) :=
  (splitOn '\n' s.toList).filter fun l => !l.all isMargin

theorem isEmpty_trimRight (l : List Char) : (trimRight isMargin l).isEmpty = l.all isMargin := by
  rw [Bool.eq_iff_iff, List.isEmpty_iff, List.all_eq_true]
  exact List.rdropWhile_eq_nil_iff

/-- Layout keeps the content of a text, without the blanks at the ends of its lines. -/
theorem filter_tidyLines (cs : List Char) :
    (tidyLines cs).filter (fun l => !l.isEmpty) =
      ((splitOn '\n' cs).filter fun l => !l.all isMargin).map (trimRight isMargin) := by
  have hdrop (ls : List (List Char)) :
      (ls.dropWhile List.isEmpty).filter (fun l => !l.isEmpty) = ls.filter fun l => !l.isEmpty := by
    induction ls with
    | nil => rfl
    | cons l ls ih => cases hl : l.isEmpty <;> simp [hl, ih]
  rw [tidyLines_eq, filter_squeeze, hdrop, rows, List.filter_map]
  refine congrArg _ (List.filter_congr fun l _ => ?_)
  rw [Function.comp_apply, isEmpty_trimRight]

theorem contentLines_format (s : String) :
    contentLines (format s) = (contentLines s).map (trimRight isMargin) := by
  unfold contentLines format
  rw [String.toList_ofList, ← filter_tidyLines]
  by_cases h : tidyLines s.toList = []
  · rw [formatChars_of_tidyLines_eq_nil h, h]
    rfl
  · rw [splitOn_formatChars h, List.filter_append]
    have hlast : [([] : List Char)].filter (fun l => !l.all isMargin) = [] := rfl
    rw [hlast, List.append_nil]
    refine List.filter_congr fun l hl => ?_
    rw [← isEmpty_trimRight, (laidOut_tidyLines _).trimmed l hl]

/-- A text without content is made of line feeds and blanks. -/
theorem forall_splitOn_iff {p : Char → Prop} {sep : Char} :
    (∀ l ∈ splitOn sep cs, ∀ c ∈ l, p c) ↔ ∀ c ∈ cs, c = sep ∨ p c := by
  induction cs with
  | nil => simp [splitOn]
  | cons c cs ih =>
    rw [List.forall_mem_cons, ← ih, splitOn]
    by_cases hc : c = sep
    · simp [hc]
    · obtain ⟨piece, pieces, hsplit⟩ := exists_splitOn_cons sep cs
      simp [hc, hsplit, and_assoc]

theorem tidyLines_eq_nil_iff :
    tidyLines cs = [] ↔ ∀ c ∈ cs, c = '\n' ∨ isMargin c = true := by
  have hcontent : tidyLines cs = [] ↔ (tidyLines cs).filter (fun l => !l.isEmpty) = [] := by
    refine ⟨fun h => by rw [h]; rfl, fun h => ?_⟩
    have hfirst := (laidOut_tidyLines cs).first
    cases htidy : tidyLines cs with
    | nil => rfl
    | cons l ls =>
      rw [htidy] at h hfirst
      cases l with
      | nil => exact absurd rfl hfirst
      | cons c l => cases h
  rw [hcontent, filter_tidyLines, List.map_eq_nil_iff, List.filter_eq_nil_iff, ← forall_splitOn_iff]
  simp

theorem format_eq_iff (s : String) :
    format s = "\n" ↔ ∀ c ∈ s.toList, c = '\n' ∨ isMargin c = true := by
  rw [← tidyLines_eq_nil_iff, ← String.toList_inj, format, String.toList_ofList]
  refine ⟨fun h => ?_, formatChars_of_tidyLines_eq_nil⟩
  by_contra hne
  refine head?_formatChars hne ?_
  rw [h]
  rfl

/-- The layout of a text is a normal form. Laid out again it stays as it is. It ends in one line feed
and no more, and is nothing else exactly if the text is made of line feeds and blanks; otherwise it
does not begin with a line feed. No blank stands in front of a line feed, no three line feeds follow
each other, and the lines that show something are those of the text without the blanks at their
ends. -/
theorem format_normalForm (s : String) :
    format (format s) = format s ∧
    (∃ body : List Char, (format s).toList = body ++ ['\n'] ∧ body.getLast? ≠ some '\n') ∧
    (format s = "\n" ↔ ∀ c ∈ s.toList, c = '\n' ∨ c = ' ' ∨ c = '\t') ∧
    (format s = "\n" ∨ (format s).toList.head? ≠ some '\n') ∧
    ¬[' ', '\n'] <:+: (format s).toList ∧ ¬['\t', '\n'] <:+: (format s).toList ∧
    ¬['\n', '\n', '\n'] <:+: (format s).toList ∧
    contentLines (format s) = (contentLines s).map (trimRight isMargin) := by
  have hmargin (c : Char) : isMargin c = true ↔ c = ' ' ∨ c = '\t' := by
    rw [isMargin, Bool.or_eq_true, beq_iff_eq, beq_iff_eq]
  have htext : (format s).toList = formatChars s.toList := String.toList_ofList
  simp only [← hmargin, htext]
  refine ⟨?_, ⟨_, rfl, getLast?_joinLines (laidOut_tidyLines _)⟩, format_eq_iff s, ?_,
    not_infix_margin rfl _, not_infix_margin rfl _, not_infix_lineFeeds _, contentLines_format s⟩
  · rw [← String.toList_inj, htext, format, String.toList_ofList, htext]
    exact formatChars_formatChars s.toList
  · by_cases h : tidyLines s.toList = []
    · exact .inl ((format_eq_iff s).mpr (tidyLines_eq_nil_iff.mp h))
    · exact .inr (head?_formatChars h)

end TypedVocabulary.Text
