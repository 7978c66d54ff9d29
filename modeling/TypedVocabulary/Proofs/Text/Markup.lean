import TypedVocabulary.Template

/-! # Escaped markup

Ampersands and angle brackets are written as entities. It comes to the same whether each character is
written in its turn, or the ampersands of the whole text are replaced first and then the two brackets.
An escaped text has no bracket, and an ampersand only where an entity begins. Its entities are read from
left to right, which undoes the escaping; and each text of this form is the escaped form of what is read
from it.
-/
namespace TypedVocabulary.Text

/-! ## Entities -/

/-- Each occurrence of a character gives way to a word. -/
def replace (c : Char) (word : List Char) (cs : List Char) : List Char :=
  cs.flatMap fun d => if d = c then word else [d]

def ampEntity : List Char := ['&', 'a', 'm', 'p', ';']
def ltEntity : List Char := ['&', 'l', 't', ';']
def gtEntity : List Char := ['&', 'g', 't', ';']

/-- Reads each entity as its character, from left to right. -/
def readEntities : List Char → List Char
  | '&' :: 'a' :: 'm' :: 'p' :: ';' :: cs => '&' :: readEntities cs
  | '&' :: 'l' :: 't' :: ';' :: cs => '<' :: readEntities cs
  | '&' :: 'g' :: 't' :: ';' :: cs => '>' :: readEntities cs
  | c :: cs => c :: readEntities cs
  | [] => []

def unmarkup (s : String) : String := String.ofList (readEntities s.toList)

def BeginsEntity (cs : List Char) : Prop := ampEntity <+: cs ∨ ltEntity <+: cs ∨ gtEntity <+: cs

/-- No bracket, and no ampersand that does not begin an entity. -/
structure Escaped (cs : List Char) : Prop where
  less : '<' ∉ cs
  greater : '>' ∉ cs
  ampersand : ∀ rest, '&' :: rest <:+ cs → BeginsEntity ('&' :: rest)

variable {cs : List Char}

/-! ## Escaping -/

theorem markupChar_of_plain {c : Char} (hand : c ≠ '&') (hless : c ≠ '<') (hgreater : c ≠ '>') :
    markupChar c = [c] := by
  rw [markupChar, if_neg hand, if_neg hless, if_neg hgreater]

/-- An ampersand is replaced before the brackets bring in new ones. -/
theorem replace_replace_replace (cs : List Char) :
    replace '>' gtEntity (replace '<' ltEntity (replace '&' ampEntity cs)) = cs.flatMap markupChar := by
  have hchar (c : Char) :
      replace '>' gtEntity (replace '<' ltEntity (replace '&' ampEntity [c])) = markupChar c := by
    by_cases hand : c = '&'
    · subst hand
      rfl
    by_cases hless : c = '<'
    · subst hless
      rfl
    by_cases hgreater : c = '>'
    · subst hgreater
      rfl
    rw [markupChar_of_plain hand hless hgreater]
    simp [replace, hand, hless, hgreater]
  induction cs with
  | nil => rfl
  | cons c cs ih =>
    rw [List.flatMap_cons, ← ih, ← hchar]
    simp only [replace, List.flatMap_cons, List.flatMap_nil, List.flatMap_append, List.append_nil]

/-! ## Escaped texts -/

theorem Escaped.of_suffix {cs' : List Char} (h : Escaped cs) (hs : cs' <:+ cs) : Escaped cs' where
  less hmem := h.less (hs.subset hmem)
  greater hmem := h.greater (hs.subset hmem)
  ampersand rest hrest := h.ampersand rest (hrest.trans hs)

theorem suffix_of_suffix_append {c : Char} {rest word : List Char} (hword : c ∉ word)
    (h : c :: rest <:+ word ++ cs) : c :: rest <:+ cs := by
  induction word with
  | nil => exact h
  | cons d word ih =>
    rcases List.suffix_cons_iff.mp h with heq | h
    · cases heq
      exact absurd List.mem_cons_self hword
    · exact ih (fun hmem => hword (List.mem_cons_of_mem d hmem)) h

theorem Escaped.entity {word : List Char} (h : Escaped cs) (hbegins : BeginsEntity ('&' :: word ++ cs))
    (hword : '&' ∉ word ∧ '<' ∉ word ∧ '>' ∉ word) : Escaped ('&' :: word ++ cs) where
  less := by simp [hword.2.1, h.less]
  greater := by simp [hword.2.2, h.greater]
  ampersand := by
    intro rest hrest
    rcases List.suffix_cons_iff.mp hrest with heq | hrest
    · rw [heq]
      exact hbegins
    · exact h.ampersand rest (suffix_of_suffix_append hword.1 hrest)

theorem Escaped.plain {c : Char} (h : Escaped cs) (hand : c ≠ '&') (hless : c ≠ '<')
    (hgreater : c ≠ '>') : Escaped (c :: cs) where
  less := by simp [Ne.symm hless, h.less]
  greater := by simp [Ne.symm hgreater, h.greater]
  ampersand := by
    intro rest hrest
    rcases List.suffix_cons_iff.mp hrest with heq | hrest
    · cases heq
      exact absurd rfl hand
    · exact h.ampersand rest hrest

theorem escaped_flatMap_markupChar (cs : List Char) : Escaped (cs.flatMap markupChar) := by
  induction cs with
  | nil => exact ⟨List.not_mem_nil, List.not_mem_nil, by simp⟩
  | cons c cs ih =>
    rw [List.flatMap_cons]
    by_cases hand : c = '&'
    · subst hand
      exact ih.entity (.inl (List.prefix_append ampEntity _)) (by decide)
    by_cases hless : c = '<'
    · subst hless
      exact ih.entity (.inr (.inl (List.prefix_append ltEntity _))) (by decide)
    by_cases hgreater : c = '>'
    · subst hgreater
      exact ih.entity (.inr (.inr (List.prefix_append gtEntity _))) (by decide)
    rw [markupChar_of_plain hand hless hgreater]
    exact ih.plain hand hless hgreater

/-! ## Reading -/

theorem readEntities_plain {c : Char} (h : ¬BeginsEntity (c :: cs)) :
    readEntities (c :: cs) = c :: readEntities cs := by
  rw [readEntities]
  · rintro rest rfl rfl
    exact h (.inl ⟨rest, rfl⟩)
  · rintro rest rfl rfl
    exact h (.inr (.inl ⟨rest, rfl⟩))
  · rintro rest rfl rfl
    exact h (.inr (.inr ⟨rest, rfl⟩))

theorem BeginsEntity.head_eq {c : Char} (h : BeginsEntity (c :: cs)) : c = '&' := by
  rcases h with ⟨rest, h⟩ | ⟨rest, h⟩ | ⟨rest, h⟩ <;> exact (List.cons.inj h).1.symm

theorem readEntities_markupChar (c : Char) (cs : List Char) :
    readEntities (markupChar c ++ cs) = c :: readEntities cs := by
  by_cases hand : c = '&'
  · subst hand
    rfl
  by_cases hless : c = '<'
  · subst hless
    rfl
  by_cases hgreater : c = '>'
  · subst hgreater
    rfl
  rw [markupChar_of_plain hand hless hgreater]
  exact readEntities_plain fun hbegins => hand hbegins.head_eq

theorem readEntities_flatMap_markupChar (cs : List Char) : readEntities (cs.flatMap markupChar) = cs := by
  induction cs with
  | nil => rfl
  | cons c cs ih => rw [List.flatMap_cons, readEntities_markupChar, ih]

/-- An escaped text is made of what its entities and its other characters are written as. -/
theorem Escaped.flatMap_readEntities (h : Escaped cs) : (readEntities cs).flatMap markupChar = cs := by
  fun_induction readEntities cs with
  | case1 cs ih => exact congrArg (ampEntity ++ ·) (ih (h.of_suffix (List.suffix_append ampEntity cs)))
  | case2 cs ih => exact congrArg (ltEntity ++ ·) (ih (h.of_suffix (List.suffix_append ltEntity cs)))
  | case3 cs ih => exact congrArg (gtEntity ++ ·) (ih (h.of_suffix (List.suffix_append gtEntity cs)))
  | case4 c cs hamp hlt hgt ih =>
    have hand : c ≠ '&' := by
      rintro rfl
      rcases h.ampersand cs List.suffix_rfl with ⟨rest, heq⟩ | ⟨rest, heq⟩ | ⟨rest, heq⟩
      · cases heq
        exact hamp rest rfl rfl
      · cases heq
        exact hlt rest rfl rfl
      · cases heq
        exact hgt rest rfl rfl
    have hless : c ≠ '<' := fun heq => h.less (heq ▸ List.mem_cons_self)
    have hgreater : c ≠ '>' := fun heq => h.greater (heq ▸ List.mem_cons_self)
    rw [List.flatMap_cons, markupChar_of_plain hand hless hgreater,
      ih (h.of_suffix (List.suffix_cons c cs))]
    rfl
  | case5 => rfl

theorem unmarkup_markup (s : String) : unmarkup (markup s) = s := by
  rw [unmarkup, markup, String.toList_ofList, readEntities_flatMap_markupChar, String.ofList_toList]

theorem markup_unmarkup {s : String} (h : Escaped s.toList) : markup (unmarkup s) = s := by
  rw [markup, unmarkup, String.toList_ofList, h.flatMap_readEntities, String.ofList_toList]

theorem not_mem_markup_bracket (s : String) : '<' ∉ (markup s).toList ∧ '>' ∉ (markup s).toList := by
  rw [markup, String.toList_ofList]
  exact ⟨(escaped_flatMap_markupChar s.toList).less, (escaped_flatMap_markupChar s.toList).greater⟩

/-- Escaping is what three replacements in a row give. It gives the texts without brackets whose ampersands
all begin entities, and each of them for one text only, which is what its entities are read as. -/
theorem escaping_reversible :
    (∀ s : String, (markup s).toList =
        replace '>' gtEntity (replace '<' ltEntity (replace '&' ampEntity s.toList)) ∧
      Escaped (markup s).toList ∧ unmarkup (markup s) = s) ∧
    Function.Injective markup ∧
    ∀ t : String, Escaped t.toList → markup (unmarkup t) = t := by
  refine ⟨?_, Function.LeftInverse.injective unmarkup_markup, fun t ht => markup_unmarkup ht⟩
  intro s
  have hchars : (markup s).toList = s.toList.flatMap markupChar := String.toList_ofList
  refine ⟨?_, ?_, unmarkup_markup s⟩
  · rw [hchars, replace_replace_replace]
  · rw [hchars]
    exact escaped_flatMap_markupChar s.toList

end TypedVocabulary.Text
