import TypedVocabulary.Proofs.Naming.PlainName

/-! # Converted names

Conversion makes one word of a name: ASCII letters and digits, of which the first is no small letter.
In front of a digit it puts a low line, which cleaning takes away again, and it makes the first letter
capital again, whatever case it was left in. So a converted name is converted to what its name is.
-/
namespace TypedVocabulary.Identifier
variable {c : Char} {cs rest : List Char}

/-! ## Letters -/

theorem isUpper_or_isDigit (h : c.isAlphanum = true) (hlower : c.isLower = false) :
    c.isUpper = true ∨ c.isDigit = true := by
  rcases isAlphanum_iff.mp h with hupper | hsmall | hdigit
  · exact .inl hupper
  · cases hlower.symm.trans hsmall
  · exact .inr hdigit

theorem isLower_toLower (h : c.isUpper = true) : c.toLower.isLower = true := by
  rw [Char.isLower_toLower_eq_isAlpha, Char.isAlpha, h, Bool.true_or]

theorem isSeparator_of_alphanum (h : c.isAlphanum = true) : isSeparator c = false := by
  refine Bool.eq_false_iff.mpr fun hsep => ?_
  rw [isSeparator, Bool.or_eq_true, beq_iff_eq, beq_iff_eq] at hsep
  rcases hsep with rfl | rfl <;> cases h

/-! ## Words -/

/-- ASCII letters and digits, of which the first is no small letter. -/
structure IsWord (c : Char) (rest : List Char) : Prop where
  alphanum : ∀ d ∈ c :: rest, d.isAlphanum = true
  first : c.isLower = false

/-- The words of a name, put together. -/
theorem exists_word (cs : List Char) :
    ∃ c rest, joinWords true (clean cs) = c :: rest ∧ IsWord c rest := by
  obtain ⟨c, rest, hclean, hc⟩ := clean_cons cs
  have hword : joinWords true (clean cs) = c.toUpper :: joinWords false rest := by
    rw [hclean, joinWords, if_neg (by simp [hc]), if_pos rfl]
  refine ⟨_, _, hword, fun d hd => ?_, Char.isLower_toUpper_eq_false c⟩
  exact isAlphanum_of_mem_joinWords (fun b hb => mem_clean hb) (hword ▸ hd)

theorem IsWord.isUpper_or_isDigit (h : IsWord c rest) : c.isUpper = true ∨ c.isDigit = true :=
  Identifier.isUpper_or_isDigit (h.alphanum c List.mem_cons_self) h.first

/-! ## Conversion of words -/

theorem map_keep_of_alphanum (h : ∀ d ∈ cs, d.isAlphanum = true) : cs.map keep = cs := by
  have hkeep : ∀ d ∈ cs, keep d = id d := fun d hd => by simp [keep, h d hd]
  rw [List.map_congr_left hkeep, List.map_id]

theorem clean_of_alphanum (h : ∀ d ∈ c :: rest, d.isAlphanum = true) :
    clean (c :: rest) = c :: rest := by
  have hsep : ∀ d ∈ c :: rest, isSeparator d = false := fun d hd => isSeparator_of_alphanum (h d hd)
  rw [clean, map_keep_of_alphanum h, Text.trim_of_forall hsep]

theorem clean_low (cs : List Char) : clean ('_' :: cs) = clean cs := by
  rfl

theorem joinWords_of_alphanum (h : ∀ d ∈ cs, d.isAlphanum = true) : joinWords false cs = cs := by
  induction cs with
  | nil => rfl
  | cons d cs ih =>
    obtain ⟨hd, hcs⟩ := List.forall_mem_cons.mp h
    rw [joinWords, if_neg (by simp [isSeparator_of_alphanum hd]), ih hcs]
    rfl

theorem upperCamel_of_alphanum (h : ∀ d ∈ c :: rest, d.isAlphanum = true) :
    upperCamel (c :: rest) = guardDigit (c.toUpper :: rest) := by
  obtain ⟨hc, hrest⟩ := List.forall_mem_cons.mp h
  rw [upperCamel, clean_of_alphanum h, joinWords, if_neg (by simp [isSeparator_of_alphanum hc]),
    if_pos rfl, joinWords_of_alphanum hrest]

theorem upperCamel_low (cs : List Char) : upperCamel ('_' :: cs) = upperCamel cs := by
  rw [upperCamel, clean_low, upperCamel]

/-! ## Converted names -/

/-- A name in upper camel case and in camel case: a letter, capital or small, in front of letters and
digits, or a low line in front of a digit and then letters and digits. -/
inductive Cased : List Char → List Char → Prop
  | letter {c : Char} {rest : List Char} (hc : c.isUpper = true) (hsmall : c.toLower.isLower = true)
      (hrest : ∀ d ∈ rest, d.isAlphanum = true) : Cased (c :: rest) (c.toLower :: rest)
  | guarded {c : Char} {rest : List Char} (hc : c.isDigit = true)
      (hrest : ∀ d ∈ rest, d.isAlphanum = true) : Cased ('_' :: c :: rest) ('_' :: c :: rest)

theorem guardDigit_of_digit (h : c.isDigit = true) : guardDigit (c :: rest) = '_' :: c :: rest :=
  if_pos h

theorem guardDigit_of_upper (h : c.isUpper = true) : guardDigit (c :: rest) = c :: rest :=
  if_neg fun hdigit => not_isUpper_of_isDigit hdigit h

theorem cased_upperCamel (cs : List Char) : Cased (upperCamel cs) (lowerFirst (upperCamel cs)) := by
  obtain ⟨c, rest, hword, h⟩ := exists_word cs
  have hrest : ∀ d ∈ rest, d.isAlphanum = true := fun d hd => h.alphanum d (List.mem_cons_of_mem _ hd)
  rw [upperCamel, hword]
  rcases h.isUpper_or_isDigit with hc | hc
  · rw [guardDigit_of_upper hc]
    exact .letter hc (isLower_toLower hc) hrest
  · rw [guardDigit_of_digit hc]
    exact .guarded hc hrest

theorem plainName_convert (style : NamingCase) (name : String) : PlainName (convert style name) := by
  cases style with
  | upperCamel => exact plainName_upperCamel name
  | camel =>
    have hchars : (convert .camel name).toList = lowerFirst (upperCamel name.toList) :=
      String.toList_ofList
    have hcased := cased_upperCamel name.toList
    generalize upperCamel name.toList = upper at hchars hcased
    generalize lowerFirst upper = camel at hchars hcased
    cases hcased with
    | @letter c rest hc hsmall hrest =>
      have hplain : ∀ d ∈ c.toLower :: rest, d.isAlphanum = true ∨ d = '_' :=
        List.forall_mem_cons.mpr ⟨.inl (isAlphanum_iff.mpr (.inr (.inl hsmall))),
          fun d hd => .inl (hrest d hd)⟩
      have hdigit : c.toLower.isDigit = false :=
        Bool.eq_false_iff.mpr fun hdigit => not_isLower_of_isDigit hdigit hsmall
      exact ⟨hchars ▸ hplain, c.toLower, by rw [hchars]; rfl, hdigit⟩
    | @guarded c rest hc hrest =>
      have hplain : ∀ d ∈ '_' :: c :: rest, d.isAlphanum = true ∨ d = '_' := by
        refine List.forall_mem_cons.mpr ⟨.inr rfl, List.forall_mem_cons.mpr ⟨.inl ?_, ?_⟩⟩
        · exact isAlphanum_iff.mpr (.inr (.inr hc))
        · exact fun d hd => .inl (hrest d hd)
      exact ⟨hchars ▸ hplain, '_', by rw [hchars]; rfl, rfl⟩

theorem Cased.upperCamel_eq {upper camel : List Char} (h : Cased upper camel) :
    upperCamel upper = upper ∧ upperCamel camel = upper := by
  cases h with
  | @letter c rest hc hsmall hrest =>
    have hupper : ∀ d ∈ c :: rest, d.isAlphanum = true :=
      List.forall_mem_cons.mpr ⟨isAlphanum_iff.mpr (.inl hc), hrest⟩
    have hcamel : ∀ d ∈ c.toLower :: rest, d.isAlphanum = true :=
      List.forall_mem_cons.mpr ⟨isAlphanum_iff.mpr (.inr (.inl hsmall)), hrest⟩
    have hcapital : c.toUpper = c := Char.toUpper_eq_of_not_isLower (Char.not_isLower_of_isUpper hc)
    rw [upperCamel_of_alphanum hupper, upperCamel_of_alphanum hcamel,
      Char.toUpper_toLower_eq_toUpper, hcapital, guardDigit_of_upper hc]
    exact ⟨rfl, rfl⟩
  | @guarded c rest hc hrest =>
    have hword : ∀ d ∈ c :: rest, d.isAlphanum = true :=
      List.forall_mem_cons.mpr ⟨isAlphanum_iff.mpr (.inr (.inr hc)), hrest⟩
    have hdigit : c.toUpper = c := Char.toUpper_eq_of_not_isLower (not_isLower_of_isDigit hc)
    rw [upperCamel_low, upperCamel_of_alphanum hword, hdigit, guardDigit_of_digit hc]
    exact ⟨rfl, rfl⟩

theorem upperCamel_convertChars (style : NamingCase) (cs : List Char) :
    upperCamel (convertChars style cs) = upperCamel cs := by
  have h := (cased_upperCamel cs).upperCamel_eq
  cases style with
  | upperCamel => exact h.1
  | camel => exact h.2

theorem convert_convert (style target : NamingCase) (name : String) :
    convert target (convert style name) = convert target name := by
  have hsame := upperCamel_convertChars style name.toList
  unfold convert
  rw [String.toList_ofList]
  cases target with
  | upperCamel => exact congrArg String.ofList hsame
  | camel => exact congrArg (fun cs => String.ofList (lowerFirst cs)) hsame

/-- Conversion makes identifiers of all names: in upper camel case a capital letter and then letters
and digits, or a low line, a digit and then letters and digits, and in camel case the same with the
letter in front small. What has been converted is converted like the name it comes from, and no class
name is escaped. -/
theorem conversion_to_identifiers (name : String) :
    Cased (convert .upperCamel name).toList (convert .camel name).toList ∧
    (∀ style target, convert target (convert style name) = convert target name) ∧
    typeName name = convert .upperCamel name := by
  refine ⟨?_, fun style target => convert_convert style target name, typeName_eq name⟩
  unfold convert
  rw [String.toList_ofList, String.toList_ofList]
  exact cased_upperCamel name.toList

end TypedVocabulary.Identifier
