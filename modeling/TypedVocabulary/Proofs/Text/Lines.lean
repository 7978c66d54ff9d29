import TypedVocabulary.Proofs.Text.Slice
import TypedVocabulary.Text.Layout

/-! # Lines of formatted text

A comment is a line that has three slashes after its blanks; all other lines are code. Layout works
on rows, the lines without the blanks at their ends, in one pass that remembers only whether an
empty row has gone by. So the code of a text can be followed from one part of it to the next.
-/
namespace TypedVocabulary.Text

def isComment (l : List Char) : Bool := ['/', '/', '/'].isPrefixOf (trimLeft isMargin l)

def codeOf (ls : List (List Char)) : List (List Char) := ls.filter fun l => !isComment l

/-- The lines of a text that are no comments. -/
def codeLines (s : String) : List (List Char) := codeOf (splitOn '\n' s.toList)

theorem codeOf_append (xs ys : List (List Char)) : codeOf (xs ++ ys) = codeOf xs ++ codeOf ys :=
  List.filter_append xs ys

theorem joinLines_eq (ls : List (List Char)) : joinLines ls = ['\n'].intercalate ls := by
  match ls with
  | [] => rfl
  | [l] => simp [joinLines]
  | l :: l' :: rest =>
    have hstep : joinLines (l :: l' :: rest) = l ++ '\n' :: joinLines (l' :: rest) := rfl
    rw [hstep, joinLines_eq (l' :: rest), List.intercalate_cons_cons]
    simp

/-! ## Comments -/

theorem isPrefixOf_append_of_disjoint {word tail : List Char} (h : ∀ c ∈ word, c ∉ tail)
    (cs : List Char) : word.isPrefixOf (cs ++ tail) = word.isPrefixOf cs := by
  induction word generalizing cs with
  | nil => simp
  | cons w word ih =>
    cases cs with
    | nil =>
      cases tail with
      | nil => rfl
      | cons t tail =>
        have hw : w ≠ t := fun heq => h w List.mem_cons_self (heq ▸ List.mem_cons_self)
        simp [List.isPrefixOf_cons_cons, hw]
    | cons c cs =>
      rw [List.cons_append, List.isPrefixOf_cons_cons, List.isPrefixOf_cons_cons,
        ih fun x hx => h x (List.mem_cons_of_mem _ hx)]

theorem isComment_cons_of_not_margin {c : Char} (hc : isMargin c = false) (cs : List Char) :
    isComment (c :: cs) = ['/', '/', '/'].isPrefixOf (c :: cs) := by
  rw [isComment, trimLeft, List.dropWhile_cons_of_neg (by simp [hc])]

theorem isComment_cons_of_margin {c : Char} (hc : isMargin c = true) (cs : List Char) :
    isComment (c :: cs) = isComment cs := by
  rw [isComment, trimLeft, List.dropWhile_cons_of_pos hc, isComment, trimLeft]

theorem isComment_append_blanks (cs : List Char) {blanks : List Char}
    (h : ∀ c ∈ blanks, isMargin c = true) : isComment (cs ++ blanks) = isComment cs := by
  induction cs with
  | nil =>
    have hdrop : blanks.dropWhile isMargin = [] := List.dropWhile_eq_nil_iff.mpr h
    simp [isComment, trimLeft, hdrop]
  | cons c cs ih =>
    cases hc : isMargin c with
    | true =>
      rw [List.cons_append, isComment_cons_of_margin hc, isComment_cons_of_margin hc, ih]
    | false =>
      have hslash : ∀ d ∈ ['/', '/', '/'], d ∉ blanks := by
        intro d hd hmem
        have hmargin := h d hmem
        simp only [List.mem_cons, List.not_mem_nil, or_false, or_self] at hd
        rw [hd] at hmargin
        cases hmargin
      rw [List.cons_append, isComment_cons_of_not_margin hc, isComment_cons_of_not_margin hc,
        ← List.cons_append, isPrefixOf_append_of_disjoint hslash]

theorem isComment_trimRight (cs : List Char) :
    isComment (trimRight isMargin cs) = isComment cs := by
  obtain ⟨blanks, hcs, hblanks⟩ := trimRight_append isMargin cs
  exact (isComment_append_blanks _ hblanks).symm.trans (congrArg isComment hcs.symm)

/-! ## Rows -/

def rows (cs : List Char) : List (List Char) := (splitOn '\n' cs).map (trimRight isMargin)

theorem rows_append_cons (xs ys : List Char) : rows (xs ++ '\n' :: ys) = rows xs ++ rows ys := by
  rw [rows, splitOn_append_cons, List.map_append, rows, rows]

theorem tidyLines_eq (cs : List Char) :
    tidyLines cs = squeeze false ((rows cs).dropWhile List.isEmpty) := rfl

/-- Whether an empty row has gone by since the last other one. -/
def gapAfter (gap : Bool) (ls : List (List Char)) : Bool := ls.foldl (fun _ l => l.isEmpty) gap

theorem gapAfter_append (gap : Bool) (xs ys : List (List Char)) :
    gapAfter gap (xs ++ ys) = gapAfter (gapAfter gap xs) ys := List.foldl_append

theorem squeeze_append (gap : Bool) (xs ys : List (List Char)) :
    squeeze gap (xs ++ ys) = squeeze gap xs ++ squeeze (gapAfter gap xs) ys := by
  induction xs generalizing gap with
  | nil => rfl
  | cons x xs ih =>
    rw [List.cons_append, squeeze, squeeze]
    cases hx : x.isEmpty with
    | true => simpa [gapAfter, hx] using ih true
    | false => simpa [gapAfter, hx] using ih false

/-- Layout leaves all rows that are not empty, in their order. -/
theorem filter_squeeze (gap : Bool) (ls : List (List Char)) :
    (squeeze gap ls).filter (fun l => !l.isEmpty) = ls.filter fun l => !l.isEmpty := by
  induction ls generalizing gap with
  | nil => rfl
  | cons l ls ih =>
    rw [squeeze]
    cases hl : l.isEmpty with
    | true => simp [hl, ih]
    | false => cases gap <;> simp [hl, ih]

theorem mem_squeeze {gap : Bool} {ls : List (List Char)} {l : List Char} (h : l ∈ squeeze gap ls) :
    l = [] ∨ l ∈ ls := by
  induction ls generalizing gap with
  | nil => cases h
  | cons x xs ih =>
    have hrest {gap : Bool} (h : l ∈ squeeze gap xs) : l = [] ∨ l ∈ x :: xs :=
      (ih h).imp_right (List.mem_cons_of_mem x)
    unfold squeeze at h
    split at h
    · exact hrest h
    · rcases List.mem_append.mp h with h | h
      · cases gap with
        | true => exact .inl (List.mem_singleton.mp h)
        | false => cases h
      · rcases List.mem_cons.mp h with rfl | h
        · exact .inr List.mem_cons_self
        · exact hrest h

theorem not_mem_of_mem_squeeze {c : Char} {gap : Bool} {ls : List (List Char)}
    (h : ∀ l ∈ ls, c ∉ l) {l : List Char} (hl : l ∈ squeeze gap ls) : c ∉ l := by
  rcases mem_squeeze hl with rfl | hl
  · exact List.not_mem_nil
  · exact h l hl

theorem not_mem_of_mem_rows {cs l : List Char} (hl : l ∈ rows cs) : '\n' ∉ l := by
  obtain ⟨piece, hpiece, rfl⟩ := List.mem_map.mp hl
  obtain ⟨blanks, hsplit, -⟩ := trimRight_append isMargin piece
  intro hmem
  refine not_mem_of_mem_splitOn hpiece ?_
  rw [hsplit]
  exact List.mem_append_left blanks hmem

theorem splitOn_formatChars {cs : List Char} (h : tidyLines cs ≠ []) :
    splitOn '\n' (formatChars cs) = tidyLines cs ++ [[]] := by
  have hlines : ∀ l ∈ tidyLines cs, '\n' ∉ l := by
    intro l hl
    have hrows : ∀ l ∈ (rows cs).dropWhile List.isEmpty, '\n' ∉ l :=
      fun l hl => not_mem_of_mem_rows ((List.dropWhile_suffix _).mem hl)
    exact not_mem_of_mem_squeeze hrows hl
  have hjoin : splitOn '\n' (joinLines (tidyLines cs)) = tidyLines cs := by
    rw [splitOn_eq, joinLines_eq, List.splitOn_intercalate '\n' hlines h]
  rw [formatChars, splitOn_append_cons, hjoin]
  rfl

/-! ## Code in rows -/

def codeRows (gap : Bool) (ls : List (List Char)) : List (List Char) := codeOf (squeeze gap ls)

theorem codeRows_append (gap : Bool) (xs ys : List (List Char)) :
    codeRows gap (xs ++ ys) = codeRows gap xs ++ codeRows (gapAfter gap xs) ys := by
  rw [codeRows, squeeze_append, codeOf_append, codeRows, codeRows]

/-- Rows begin with one that is not empty. -/
def Solid (ls : List (List Char)) : Prop := ∃ x xs, ls = x :: xs ∧ x ≠ []

theorem Solid.append {xs : List (List Char)} (h : Solid xs) (ys : List (List Char)) :
    Solid (xs ++ ys) := by
  obtain ⟨x, rest, rfl, hx⟩ := h
  exact ⟨x, rest ++ ys, rfl, hx⟩

def opening (gap : Bool) : List (List Char) := if gap then [[]] else []

theorem codeRows_of_solid {ls : List (List Char)} (h : Solid ls) (gap : Bool) :
    codeRows gap ls = opening gap ++ codeRows false ls := by
  obtain ⟨x, xs, rfl, hx⟩ := h
  have hempty : x.isEmpty = false := by simpa using hx
  simp only [codeRows, squeeze, hempty, Bool.false_eq_true, if_false, List.nil_append, codeOf_append]
  cases gap <;> rfl

theorem gapAfter_of_solid {ls : List (List Char)} (h : Solid ls) (gap : Bool) :
    gapAfter gap ls = gapAfter false ls := by
  obtain ⟨x, xs, rfl, -⟩ := h
  rfl

/-- Rows that end in one that is not empty leave no code exactly if all are comments. -/
theorem codeRows_eq_nil_iff {gap : Bool} {ls : List (List Char)} (h : gapAfter gap ls = false) :
    codeRows gap ls = [] ↔ gap = false ∧ ∀ l ∈ ls, isComment l = true := by
  induction ls generalizing gap with
  | nil =>
    have hgap : gap = false := h
    simp [codeRows, squeeze, codeOf, hgap]
  | cons x xs ih =>
    cases hx : x.isEmpty with
    | true =>
      have hstep : codeRows gap (x :: xs) = codeRows true xs := by simp [codeRows, squeeze, hx]
      have hcode : isComment x = false := by
        rw [List.isEmpty_iff.mp hx]
        rfl
      rw [hstep, ih (by simpa [gapAfter, hx] using h)]
      simp [hcode]
    | false =>
      have hsolid : Solid (x :: xs) := ⟨x, xs, rfl, by simpa using hx⟩
      have hstep : codeRows false (x :: xs) = codeOf [x] ++ codeRows false xs := by
        have happend := codeRows_append false [x] xs
        rw [show gapAfter false [x] = x.isEmpty from rfl, hx] at happend
        rw [← List.singleton_append, happend]
        simp [codeRows, squeeze, hx]
      rw [codeRows_of_solid hsolid, hstep, List.append_eq_nil_iff, List.append_eq_nil_iff,
        ih (by simpa [gapAfter, hx] using h)]
      cases gap <;> simp [opening, codeOf]

/-! ## Sections of comments and code -/

/-- Rows that are none, or that neither begin nor end with an empty one. -/
def Fenced (ls : List (List Char)) : Prop := ls = [] ∨ Solid ls ∧ gapAfter false ls = false

theorem codeRows_section {comments code : List (List Char)} (hcomments : Fenced comments)
    (hcode : Solid code) (gap : Bool) (rest : List (List Char)) :
    codeRows gap (comments ++ code ++ rest) =
      opening gap ++ codeRows false comments ++ codeRows false code ++
        codeRows (gapAfter false code) rest := by
  rcases hcomments with rfl | ⟨hsolid, hend⟩
  · rw [List.nil_append, codeRows_append, codeRows_of_solid hcode, gapAfter_of_solid hcode]
    simp [codeRows, squeeze, codeOf]
  · rw [List.append_assoc, codeRows_append, codeRows_of_solid hsolid, gapAfter_of_solid hsolid,
      hend, codeRows_append]
    simp

variable {sections : List (List (List Char) × List (List Char))}

theorem codeRows_sections_cons {s : List (List Char) × List (List Char)} (hs : Fenced s.1)
    (hcode : Solid s.2) (gap : Bool) :
    codeRows gap ((s :: sections).flatMap fun s => s.1 ++ s.2) =
      opening gap ++ codeRows false s.1 ++ codeRows false s.2 ++
        codeRows (gapAfter false s.2) (sections.flatMap fun s => s.1 ++ s.2) := by
  rw [List.flatMap_cons, codeRows_section hs hcode]

theorem codeRows_bare_cons {s : List (List Char) × List (List Char)} (hcode : Solid s.2)
    (gap : Bool) :
    codeRows gap ((s :: sections).flatMap Prod.snd) =
      opening gap ++ codeRows false s.2 ++
        codeRows (gapAfter false s.2) (sections.flatMap Prod.snd) := by
  have hempty := codeRows_section (.inl rfl) hcode gap (sections.flatMap Prod.snd)
  rw [List.flatMap_cons]
  simpa [codeRows, squeeze, codeOf] using hempty

/-- Comments can add code, and take none away. -/
theorem length_codeRows_bare_le (hs : ∀ s ∈ sections, Fenced s.1 ∧ Solid s.2) (gap : Bool) :
    (codeRows gap (sections.flatMap Prod.snd)).length ≤
      (codeRows gap (sections.flatMap fun s => s.1 ++ s.2)).length := by
  induction sections generalizing gap with
  | nil => exact le_rfl
  | cons s rest ih =>
    obtain ⟨hfenced, hsolid⟩ := hs s List.mem_cons_self
    have hrest := ih (fun s hs' => hs s (List.mem_cons_of_mem _ hs')) (gapAfter false s.2)
    rw [codeRows_sections_cons hfenced hsolid, codeRows_bare_cons hsolid]
    simp only [List.length_append]
    omega

/-- The code is that of the sections without their comments exactly if these leave none. -/
theorem codeRows_sections_eq_iff (hs : ∀ s ∈ sections, Fenced s.1 ∧ Solid s.2) (gap : Bool) :
    codeRows gap (sections.flatMap fun s => s.1 ++ s.2) =
        codeRows gap (sections.flatMap Prod.snd) ↔
      ∀ s ∈ sections, codeRows false s.1 = [] := by
  induction sections generalizing gap with
  | nil => simp
  | cons s rest ih =>
    obtain ⟨hfenced, hsolid⟩ := hs s List.mem_cons_self
    have hs' : ∀ s ∈ rest, Fenced s.1 ∧ Solid s.2 := fun s h => hs s (List.mem_cons_of_mem _ h)
    rw [codeRows_sections_cons hfenced hsolid, codeRows_bare_cons hsolid, List.forall_mem_cons,
      ← ih hs' (gapAfter false s.2)]
    constructor
    · intro heq
      -- The rest has at least the code it has without comments, so there is no room for more.
      have hle := length_codeRows_bare_le hs' (gapAfter false s.2)
      have hlength := congrArg List.length heq
      simp only [List.length_append] at hlength
      have hnone : codeRows false s.1 = [] := List.length_eq_zero_iff.mp (by omega)
      rw [hnone, List.append_nil] at heq
      exact ⟨hnone, List.append_cancel_left heq⟩
    · rintro ⟨hnone, heq⟩
      rw [hnone, List.append_nil, heq]

end TypedVocabulary.Text
