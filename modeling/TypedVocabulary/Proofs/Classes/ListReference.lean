import TypedVocabulary.Proofs.Classes.Spelling
import TypedVocabulary.Proofs.Classes.TypeShape

/-! # References to lists

A list is written as its element behind the array mark, with a number sign in between where the
element does not begin with one itself. Reading takes that sign for a separator only if an address
follows, since otherwise it may be the local mark. So addresses and local names come back as they
were. A compact key comes back as a local name: it keeps its short name, but all that is looked up
by key is looked up behind the local prefix.
-/
namespace TypedVocabulary
open Reference

theorem Text.occurs_iff {word cs : List Char} :
    Text.occurs word cs = true ↔ ∃ front rest, cs = front ++ word ++ rest := by
  induction cs with
  | nil =>
    rw [occurs, List.isEmpty_iff]
    constructor
    · rintro rfl
      exact ⟨[], [], rfl⟩
    · rintro ⟨front, rest, h⟩
      simp_all
  | cons c cs ih =>
    rw [occurs, Bool.or_eq_true, List.isPrefixOf_iff_prefix, ih]
    constructor
    · rintro (⟨rest, h⟩ | ⟨front, rest, rfl⟩)
      · exact ⟨[], rest, h.symm⟩
      · exact ⟨c :: front, rest, rfl⟩
    · rintro ⟨front, rest, h⟩
      cases front with
      | nil => exact .inl ⟨rest, h.symm⟩
      | cons d front =>
        obtain ⟨rfl, hcs⟩ := List.cons.inj h
        exact .inr ⟨front, rest, hcs⟩

namespace TypeReference

def isAddress (s : String) : Bool := Text.occurs [':', '/', '/'] s.toList

def isLocal (s : String) : Bool := s.toList.head? = some localMark

/-- What reading finds behind the array mark of a written list. -/
def element (s : String) : String := stripArrayMark (text ⟨s, true⟩)

variable {s : String}

theorem toList_text_list (s : String) :
    (text ⟨s, true⟩).toList = arrayMark ++ (if isLocal s then s.toList else localMark :: s.toList) := by
  have hmark : "ArrayOf".toList = arrayMark := rfl
  cases hl : isLocal s with
  | true =>
    have hhead : s.toList.head? = some localMark := of_decide_eq_true hl
    simp [text, hhead, hmark]
  | false =>
    have hhead : s.toList.head? ≠ some localMark := of_decide_eq_false hl
    simp only [text, if_true, if_neg hhead, String.toList_append, hmark, Bool.false_eq_true,
      if_false, List.append_assoc]
    rfl

theorem stripMark_append_mark (cs : List Char) :
    stripMark (arrayMark ++ cs) = dropSeparator cs := by
  rw [stripMark, List.isPrefixOf?_eq_some_iff_append_eq.mpr rfl]

theorem parse_text_list (s : String) : parse (.str (text ⟨s, true⟩)) = .ok ⟨element s, true⟩ := by
  have hmarked : arrayMark.isPrefixOf (text ⟨s, true⟩).toList = true := by
    rw [toList_text_list, List.isPrefixOf_iff_prefix]
    exact List.prefix_append _ _
  have hne : (text ⟨s, true⟩).isEmpty = false := by
    rw [String.isEmpty_eq_false_iff, ← String.toList_inj.ne, toList_text_list]
    simp [arrayMark]
  rw [parse, hne, if_neg Bool.false_ne_true, ofText, hmarked]
  rfl

theorem dropSeparator_mark (cs : List Char) :
    dropSeparator (localMark :: cs) =
      if Text.occurs [':', '/', '/'] cs then cs else localMark :: cs := by
  have hskip : Text.occurs [':', '/', '/'] (localMark :: cs) = Text.occurs [':', '/', '/'] cs := rfl
  simp [dropSeparator, hskip]

theorem exists_of_isLocal (h : isLocal s = true) : ∃ name, s.toList = localMark :: name :=
  List.head?_eq_some_iff.mp (of_decide_eq_true h)

theorem element_eq_self (h : isLocal s ≠ isAddress s) : element s = s := by
  rw [element, stripArrayMark, toList_text_list, stripMark_append_mark]
  cases hl : isLocal s with
  | true =>
    obtain ⟨name, hname⟩ := exists_of_isLocal hl
    have ha : Text.occurs [':', '/', '/'] name = false := by
      have ha : isAddress s = false := by simpa [hl] using h
      rw [isAddress, hname] at ha
      exact ha
    rw [if_pos rfl, hname, dropSeparator_mark, ha, if_neg Bool.false_ne_true, ← hname,
      String.ofList_toList]
  | false =>
    have ha : Text.occurs [':', '/', '/'] s.toList = true := by
      have ha : isAddress s = true := by simpa [hl] using h
      exact ha
    rw [if_neg Bool.false_ne_true, dropSeparator_mark, ha, if_pos rfl, String.ofList_toList]

/-- Any other element, such as a compact key, is taken for a local name. -/
theorem element_of_key (hl : isLocal s = false) (ha : isAddress s = false) :
    element s = "#" ++ s := by
  rw [isAddress] at ha
  rw [element, stripArrayMark, toList_text_list, stripMark_append_mark, hl, if_neg Bool.false_ne_true,
    dropSeparator_mark, ha, if_neg Bool.false_ne_true, String.ofList_cons, String.ofList_toList]
  rfl

/-- A local name with an address in it loses its mark. -/
theorem element_of_local_address {name : List Char} (hname : s.toList = localMark :: name)
    (ha : isAddress s = true) : element s = String.ofList name := by
  have hl : isLocal s = true := by simp [isLocal, hname]
  have ha' : Text.occurs [':', '/', '/'] name = true := by
    rw [isAddress, hname] at ha
    exact ha
  rw [element, stripArrayMark, toList_text_list, stripMark_append_mark, hl, if_pos rfl, hname,
    dropSeparator_mark, ha', if_pos rfl]

theorem shortName_element (hm : isMarked s.toList = false) :
    Reference.shortName (element s) = Reference.shortName s := by
  have hself : shortChars s.toList = lastSegment s.toList := by
    rw [shortChars_eq, stripMark_of_not_marked hm]
  rw [Reference.shortName, Reference.shortName, hself]
  refine congrArg String.ofList ?_
  by_cases h : isLocal s = isAddress s
  · cases hl : isLocal s with
    | false =>
      have hmarked : ("#" ++ s).toList = localMark :: s.toList := by simp [localMark]
      rw [element_of_key hl (h ▸ hl), hmarked, shortChars_eq, stripMark_of_not_marked rfl]
      exact lastSegment_append_cons [] rfl s.toList
    | true =>
      obtain ⟨name, hname⟩ := exists_of_isLocal hl
      have ha : isAddress s = true := h ▸ hl
      rw [element_of_local_address hname ha, String.toList_ofList, shortChars_eq, hname]
      rw [isAddress, hname] at ha
      -- What follows the last separator is not reached by a mark that the name itself may begin with.
      obtain ⟨front, rest, hsplit⟩ :
          ∃ front rest, name = front ++ [':', '/', '/'] ++ rest := Text.occurs_iff.mp ha
      have hsep : endsInSeparator (front ++ [':', '/', '/']) = true := by
        simp [endsInSeparator, List.getLast?_append, isSeparator]
      calc lastSegment (stripMark name) = lastSegment rest := by
            rw [hsplit, lastSegment_stripMark_append hsep]
        _ = lastSegment name := by rw [hsplit, lastSegment_append hsep]
        _ = lastSegment (localMark :: name) := (lastSegment_append_cons [] rfl name).symm
  · rw [element_eq_self h, hself]

end TypeReference

theorem ResolutionError.unresolvedType_inj {name key key' : String}
    (h : unresolvedType name key = unresolvedType name key') : key = key' := by
  cases h
  rfl

namespace Resolver
variable {r : Resolver} {name key key' : String} {isExtension : Bool} {t u : TypeExpr}

/-! ## Two keys under one short name -/

/-- Nothing that is looked up by key tells the two keys apart: the short name is built in, both keys
are enumerations on one side of the foundation library, or neither is one and the short name is that
of a model or both keys are in the foundation vocabulary. -/
def LooksUpAlike (r : Resolver) (name key key' : String) : Prop :=
  key = key' ∨ (ScalarKind.ofShortName? name).isSome = true ∨
  (∃ entry entry', r.tables.enum? key = some entry ∧ r.tables.enum? key' = some entry' ∧
    (entry.isExternal = entry'.isExternal ∨ r.settings.foundationNamespace = .null)) ∨
  (r.tables.enum? key = none ∧ r.tables.enum? key' = none ∧
    (r.tables.hasModel name = true ∨
      r.tables.vocabulary.isFoundation (.str key) = .ok true ∧
        r.tables.vocabulary.isFoundation (.str key') = .ok true))

theorem Resolves.of_scalar (h : r.Resolves name key isExtension t) (hk : t.kind = .scalar) :
    (ScalarKind.ofShortName? name).isSome = true := by
  cases h with
  | scalar hs =>
    rw [hs]
    rfl
  | foundationEnum _ _ _ | localEnum _ _ _ | model _ _ _ | foundation _ _ _ _
  | unverified _ _ _ _ _ => cases hk

theorem Resolves.of_enumeration (h : r.Resolves name key isExtension t)
    (hk : t.kind = .enumeration) :
    ∃ entry, r.tables.enum? key = some entry ∧
      t.namespace = if entry.isExternal then r.settings.foundationNamespace else .null := by
  cases h with
  | @scalar kind _ => cases kind <;> cases hk
  | @foundationEnum entry _ he hx => exact ⟨entry, he, by rw [hx, if_pos rfl]; rfl⟩
  | @localEnum entry _ he hx => exact ⟨entry, he, by rw [hx, if_neg Bool.false_ne_true]; rfl⟩
  | model _ _ _ | foundation _ _ _ _ | unverified _ _ _ _ _ => cases hk

theorem Resolves.of_model (h : r.Resolves name key isExtension t) (hk : t.kind = .model) :
    r.tables.enum? key = none ∧ r.tables.hasModel name = true := by
  cases h with
  | @scalar kind _ => cases kind <;> cases hk
  | model _ he hm => exact ⟨he, hm⟩
  | foundationEnum _ _ _ | localEnum _ _ _ | foundation _ _ _ _ | unverified _ _ _ _ _ => cases hk

theorem Resolves.of_foundation (h : r.Resolves name key isExtension t)
    (hk : t.kind = .foundation) :
    r.tables.enum? key = none ∧
      (t.notices = [] ∧ r.tables.vocabulary.isFoundation (.str key) = .ok true ∨
        t.notices = [r.unverifiedNotice name key]) := by
  cases h with
  | @scalar kind _ => cases kind <;> cases hk
  | foundation _ he _ hf => exact ⟨he, .inl ⟨rfl, hf⟩⟩
  | unverified _ he _ _ _ => exact ⟨he, .inr rfl⟩
  | foundationEnum _ _ _ | localEnum _ _ _ | model _ _ _ => cases hk

theorem unverifiedNotice_inj (h : r.unverifiedNotice name key = r.unverifiedNotice name key') :
    key = key' := by
  unfold unverifiedNotice at h
  generalize "Extension referenced unverified " ++ r.settings.foundationNamespace.display ++
    " type: " ++ name ++ " (" = front at h
  have hlist := congrArg String.toList h
  simp only [String.toList_append, List.append_cancel_right_eq, List.append_cancel_left_eq] at hlist
  exact String.toList_inj.mp hlist

theorem LooksUpAlike.of_resolves (h : r.Resolves name key isExtension t)
    (h' : r.Resolves name key' isExtension u) (hsame : t.asNonNullable = u.asNonNullable) :
    r.LooksUpAlike name key key' := by
  obtain ⟨-, hspace, -, hkind, -, hnotices⟩ := TypeExpr.mk.inj hsame
  cases hk : t.kind with
  | scalar => exact .inr (.inl (h.of_scalar hk))
  | enumeration =>
    obtain ⟨entry, he, hs⟩ := h.of_enumeration hk
    obtain ⟨entry', he', hs'⟩ := h'.of_enumeration (hkind ▸ hk)
    refine .inr (.inr (.inl ⟨entry, entry', he, he', ?_⟩))
    rw [hs, hs'] at hspace
    cases hx : entry.isExternal <;> cases hx' : entry'.isExternal
    · exact .inl rfl
    · rw [hx, hx'] at hspace
      exact .inr hspace.symm
    · rw [hx, hx'] at hspace
      exact .inr hspace
    · exact .inl rfl
  | model =>
    obtain ⟨he, hm⟩ := h.of_model hk
    obtain ⟨he', -⟩ := h'.of_model (hkind ▸ hk)
    exact .inr (.inr (.inr ⟨he, he', .inl hm⟩))
  | foundation =>
    obtain ⟨he, hf⟩ := h.of_foundation hk
    obtain ⟨he', hf'⟩ := h'.of_foundation (hkind ▸ hk)
    rcases hf with ⟨hn, hf⟩ | hn <;> rcases hf' with ⟨hn', hf'⟩ | hn'
    · exact .inr (.inr (.inr ⟨he, he', .inr ⟨hf, hf'⟩⟩))
    · simp [hn, hn'] at hnotices
    · simp [hn, hn'] at hnotices
    · rw [hn, hn'] at hnotices
      exact .inl (unverifiedNotice_inj (List.cons.inj hnotices).1)
  | list => exact absurd hk h.isLeaf.notList
  | union => exact absurd hk h.isLeaf.notUnion

variable {ref ref' : TypeReference}

/-- Keys that nothing tells apart resolve to one type or are one fault. -/
theorem resolveBase_of_alike (hname : ref.shortName = ref'.shortName)
    (hkey : r.tables.vocabulary.compact ref.uri = .ok key)
    (hkey' : r.tables.vocabulary.compact ref'.uri = .ok key')
    (h : r.LooksUpAlike ref.shortName key key') :
    r.resolveBase ref isExtension = r.resolveBase ref' isExtension := by
  have hsame {t : TypeExpr} (h : r.Resolves ref.shortName key isExtension t)
      (h' : r.Resolves ref.shortName key' isExtension t) :
      r.resolveBase ref isExtension = r.resolveBase ref' isExtension := by
    rw [h.resolveBase hkey]
    rw [hname] at h'
    exact (h'.resolveBase hkey').symm
  cases hs : ScalarKind.ofShortName? ref.shortName with
  | some kind => exact hsame (.scalar hs) (.scalar hs)
  | none =>
    rcases h with rfl | hscalar | ⟨entry, entry', he, he', hx⟩ | ⟨he, he', hknown⟩
    · exact resolveBase_congr hname (hkey.trans hkey'.symm)
    · rw [hs] at hscalar
      cases hscalar
    · -- Without a namespace of its own the library names an enumeration as the schema does.
      have hplain (hspace : r.settings.foundationNamespace = .null) :
          r.foundationType ref.shortName true .enumeration =
            .plain (typeName ref.shortName) true .enumeration := by
        rw [foundationType, hspace]
        rfl
      cases hside : entry.isExternal <;> cases hside' : entry'.isExternal <;>
        simp only [hside, hside', reduceCtorEq, false_or] at hx
      · exact hsame (.localEnum hs he hside) (.localEnum hs he' hside')
      · exact hsame (.localEnum hs he hside) (hplain hx ▸ .foundationEnum hs he' hside')
      · exact hsame (hplain hx ▸ .foundationEnum hs he hside) (.localEnum hs he' hside')
      · exact hsame (.foundationEnum hs he hside) (.foundationEnum hs he' hside')
    · cases hm : r.tables.hasModel ref.shortName with
      | true => exact hsame (.model hs he hm) (.model hs he' hm)
      | false =>
        obtain hm' | ⟨hf, hf'⟩ := hknown
        · cases hm.symm.trans hm'
        · exact hsame (.foundation hs he hm hf) (.foundation hs he' hm hf')

/-- Under one short name the lists of two references are the same exactly if their keys are not told
apart. -/
theorem listOf_resolveBase_iff (hv : r.tables.vocabulary.HasTexts)
    (hname : ref.shortName = ref'.shortName) :
    r.listOf <$> r.resolveBase ref isExtension = r.listOf <$> r.resolveBase ref' isExtension ↔
      ∃ key key', r.tables.vocabulary.compact ref.uri = .ok key ∧
        r.tables.vocabulary.compact ref'.uri = .ok key' ∧
        r.LooksUpAlike ref.shortName key key' := by
  constructor
  · intro h
    obtain ⟨key, hkey⟩ := Vocabulary.exists_compact hv ref.uri
    obtain ⟨key', hkey'⟩ := Vocabulary.exists_compact hv ref'.uri
    obtain ⟨found, hfound⟩ := Vocabulary.exists_isFoundation hv key
    obtain ⟨found', hfound'⟩ := Vocabulary.exists_isFoundation hv key'
    refine ⟨key, key', hkey, hkey', ?_⟩
    have htotal : (∃ t, r.resolveBase ref isExtension = .ok t) ∨ _ := resolveBase_total hkey hfound
    have htotal' : (∃ t, r.resolveBase ref' isExtension = .ok t) ∨ _ :=
      resolveBase_total hkey' hfound'
    rcases htotal with ⟨t, ht⟩ | he <;> rcases htotal' with ⟨u, hu⟩ | he'
    · rw [ht, hu] at h
      have hlist : r.listOf t = r.listOf u := Except.ok.inj h
      have hsame : [t.asNonNullable] = [u.asNonNullable] := congrArg TypeExpr.arguments hlist
      have hresolves' := resolves_of_resolveBase hkey' hu
      rw [← hname] at hresolves'
      exact .of_resolves (resolves_of_resolveBase hkey ht) hresolves' (List.cons.inj hsame).1
    · rw [ht, he'] at h
      cases h
    · rw [he, hu] at h
      cases h
    · rw [he, he', hname] at h
      exact .inl (ResolutionError.unresolvedType_inj (Failure.resolution.inj (Except.error.inj h)))
  · rintro ⟨key, key', hkey, hkey', halike⟩
    rw [resolveBase_of_alike hname hkey hkey' halike]

/-! ## The law of lists -/

/-- The type of a reference as it is written. -/
def resolveText (r : Resolver) (s : String) (isExtension : Bool) : Attempt TypeExpr := do
  (r.resolve (← TypeReference.parse (.str s)) isExtension).outcome

/-- The list of a reference is the list of its type, and is the same fault if that is one. -/
def WrapsOnly (r : Resolver) (s : String) (isExtension : Bool) : Prop :=
  r.resolveText (TypeReference.text ⟨s, true⟩) isExtension =
    r.listOf <$> r.resolveText s isExtension

variable {s : String}

theorem resolveText_single (hs : s ≠ "") (hm : isMarked s.toList = false) :
    r.resolveText s isExtension = r.resolveBase ⟨s, false⟩ isExtension := by
  have hne : s.isEmpty = false := String.isEmpty_eq_false_iff.mpr hs
  have hparse : TypeReference.parse (.str s) = .ok ⟨s, false⟩ := by
    rw [TypeReference.parse, hne, if_neg Bool.false_ne_true, TypeReference.ofText, stripArrayMark,
      stripMark_of_not_marked hm, String.ofList_toList]
    exact congrArg (fun b => Except.ok (TypeReference.mk s b)) hm
  rw [resolveText, hparse, Attempt.ok_bind, outcome_resolve, resolvePure]
  exact bind_pure _

theorem resolveText_list (s : String) :
    r.resolveText (TypeReference.text ⟨s, true⟩) isExtension =
      r.listOf <$> r.resolveBase ⟨TypeReference.element s, false⟩ isExtension := by
  have hsame : r.resolveBase ⟨TypeReference.element s, true⟩ isExtension =
      r.resolveBase ⟨TypeReference.element s, false⟩ isExtension := resolveBase_congr rfl rfl
  rw [resolveText, TypeReference.parse_text_list, Attempt.ok_bind, outcome_resolve, resolvePure,
    hsame]
  simp only [if_true, bind_pure_comp]

/-- A list wraps what its element resolves to exactly if the key that is found behind the array mark
is looked up as that of the element. -/
theorem wrapsOnly_iff (hv : r.tables.vocabulary.HasTexts) (hs : s ≠ "")
    (hm : isMarked s.toList = false) :
    r.WrapsOnly s isExtension ↔ ∃ key key',
      r.tables.vocabulary.compact (TypeReference.element s) = .ok key ∧
      r.tables.vocabulary.compact s = .ok key' ∧
      r.LooksUpAlike (Reference.shortName s) key key' := by
  have hname : (⟨TypeReference.element s, false⟩ : TypeReference).shortName =
      (⟨s, false⟩ : TypeReference).shortName := by
    rw [TypeReference.shortName, TypeReference.shortName, TypeReference.shortName_element hm]
  rw [WrapsOnly, resolveText_list, resolveText_single hs hm, listOf_resolveBase_iff hv hname,
    hname, TypeReference.shortName]

/-- A list of an address or of a local name wraps the type of its element. Behind the array mark a
compact key is taken for a local name, with the key that the local prefix gives it, so that its list
wraps its type exactly if both keys are looked up alike. -/
theorem list_wraps_reference (hs : s ≠ "") (hm : isMarked s.toList = false) (isExtension : Bool) :
    (TypeReference.isLocal s ≠ TypeReference.isAddress s → r.WrapsOnly s isExtension) ∧
    (TypeReference.isLocal s = false → TypeReference.isAddress s = false →
      TypeReference.element s = "#" ++ s ∧
      Reference.shortName ("#" ++ s) = Reference.shortName s ∧
      r.tables.vocabulary.compact ("#" ++ s) =
        .ok (r.tables.vocabulary.localPrefix.display ++ ":" ++ s)) ∧
    (r.tables.vocabulary.HasTexts →
      (r.WrapsOnly s isExtension ↔ ∃ key key',
        r.tables.vocabulary.compact (TypeReference.element s) = .ok key ∧
        r.tables.vocabulary.compact s = .ok key' ∧
        r.LooksUpAlike (Reference.shortName s) key key')) := by
  refine ⟨fun h => ?_, fun hl ha => ?_, fun hv => wrapsOnly_iff hv hs hm⟩
  · rw [WrapsOnly, resolveText_list, resolveText_single hs hm, TypeReference.element_eq_self h]
  · have helement := TypeReference.element_of_key hl ha
    refine ⟨helement, helement ▸ TypeReference.shortName_element hm, ?_⟩
    have hstrip : stripMark ("#" ++ s).toList = localMark :: s.toList := by
      rw [Vocabulary.toList_localName]
      exact stripMark_of_not_marked rfl
    rw [Vocabulary.compact, Vocabulary.compactChars_local hstrip, String.ofList_toList]

/-- Events of the foundation vocabulary: the list of their address wraps their type, and that of
their key is a fault. -/
theorem list_wraps_reference_event :
    let r : Resolver := ⟨⟨[], [], Vocabulary.standard⟩, Settings.default⟩
    ("schema:Event" ≠ "" ∧ isMarked "schema:Event".toList = false) ∧
    ("https://schema.org/Event" ≠ "" ∧ isMarked "https://schema.org/Event".toList = false) ∧
    r.tables.vocabulary.HasTexts ∧
    r.WrapsOnly "https://schema.org/Event" false ∧ ¬ r.WrapsOnly "schema:Event" false := by
  intro r
  have hv : r.tables.vocabulary.HasTexts := Vocabulary.hasTexts_standard
  refine ⟨⟨by decide, by decide⟩, ⟨by decide, by decide⟩, hv, ?_, ?_⟩
  · exact (list_wraps_reference (by decide) (by decide) false).1 (by decide)
  · intro hwraps
    obtain ⟨key, key', hkey, hkey', halike⟩ :=
      ((list_wraps_reference (by decide) (by decide) false).2.2 hv).mp hwraps
    obtain rfl : key = "oa:schema:Event" := Except.ok.inj (hkey.symm.trans (by decide +kernel))
    obtain rfl : key' = "schema:Event" := Except.ok.inj (hkey'.symm.trans (by decide +kernel))
    rcases halike with hsame | hscalar | ⟨entry, -, hentry, -⟩ | ⟨-, -, hmodel | ⟨hoa, -⟩⟩
    · exact absurd hsame (by decide)
    · exact absurd hscalar (by decide +kernel)
    · cases hentry
    · cases hmodel
    · exact absurd hoa (by decide +kernel)

end Resolver
end TypedVocabulary
