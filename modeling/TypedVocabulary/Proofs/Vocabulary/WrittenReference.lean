import TypedVocabulary.Proofs.Classes.ListReference

/-! # Written references

Writing and reading a reference each decide on their own where a number sign stands behind the array
mark: writing by the first character of the address, reading by the three characters that an address
has in it. A list is read back where the two agree, and a single reference where it does not begin
with the array mark itself. What reading makes of the forms that a schema is written in is of this
kind.
-/
namespace TypedVocabulary.TypeReference
open Reference
variable {s : String} {ref : TypeReference}

theorem isMarked_iff_begins : isMarked s.toList = true ↔ "ArrayOf".toList <+: s.toList :=
  List.isPrefixOf_iff_prefix

theorem isLocal_iff : isLocal s = true ↔ "#".toList <+: s.toList := by
  have hmark : "#".toList = [localMark] := rfl
  rw [isLocal, decide_eq_true_iff, List.head?_eq_some_iff, hmark]
  exact exists_congr fun rest => eq_comm

theorem isAddress_iff : isAddress s = true ↔ "://".toList <:+: s.toList := by
  rw [isAddress, Text.occurs_iff]
  exact exists_congr fun front => exists_congr fun rest => eq_comm

/-! ## What reading finds -/

theorem parse_ok_iff : parse (.str s) = .ok ref ↔ s ≠ "" ∧ ofText s = ref := by
  by_cases hs : s = ""
  · subst hs
    simp [parse]
  · have hne : s.isEmpty = false := by simpa using hs
    rw [parse, hne, if_neg Bool.false_ne_true, Except.ok.injEq, and_iff_right hs]

theorem ofText_of_not_marked (h : isMarked s.toList = false) : ofText s = ⟨s, false⟩ := by
  have hflag : arrayMark.isPrefixOf s.toList = false := h
  rw [ofText, stripArrayMark, stripMark_of_not_marked h, String.ofList_toList, hflag]

theorem ofText_of_mark {cs : List Char} (h : s.toList = arrayMark ++ cs) :
    ofText s = ⟨String.ofList (dropSeparator cs), true⟩ := by
  have hflag : arrayMark.isPrefixOf s.toList = true := by
    rw [h, List.isPrefixOf_iff_prefix]
    exact List.prefix_append _ _
  rw [ofText, stripArrayMark, hflag, h, stripMark_append_mark]

/-- A single reference is read as it is written, and as a list if it begins with the array mark. -/
theorem ofText_eq_single_iff : ofText s = ⟨s, false⟩ ↔ isMarked s.toList = false := by
  refine ⟨fun h => ?_, ofText_of_not_marked⟩
  exact congrArg isArray h

theorem element_eq_self_iff : element s = s ↔ isLocal s ≠ isAddress s := by
  refine ⟨fun h hsame => ?_, element_eq_self⟩
  have hlength := congrArg List.length (congrArg String.toList h)
  cases hl : isLocal s with
  | false =>
    rw [element_of_key hl (hsame ▸ hl), String.toList_append, List.length_append] at hlength
    have hmark : "#".toList.length = 1 := rfl
    omega
  | true =>
    obtain ⟨name, hname⟩ := exists_of_isLocal hl
    rw [element_of_local_address hname (hsame ▸ hl), String.toList_ofList, hname,
      List.length_cons] at hlength
    omega

/-! ## References that are read back -/

theorem parse_text_single_iff :
    parse (.str (text ⟨s, false⟩)) = .ok ⟨s, false⟩ ↔ s ≠ "" ∧ isMarked s.toList = false := by
  have htext : text ⟨s, false⟩ = s := rfl
  rw [htext, parse_ok_iff, ofText_eq_single_iff]

theorem parse_text_list_iff :
    parse (.str (text ⟨s, true⟩)) = .ok ⟨s, true⟩ ↔ isLocal s ≠ isAddress s := by
  rw [parse_text_list, Except.ok.injEq, mk.injEq, and_iff_left rfl, element_eq_self_iff]

/-- Reading finds a reference in the text, and the same one in its written form. -/
def Settles (s : String) : Prop := ∃ ref, parse (.str s) = .ok ref ∧ parse (.str ref.text) = .ok ref

theorem settles_single (hs : s ≠ "") (hm : isMarked s.toList = false) : Settles s :=
  ⟨⟨s, false⟩, parse_text_single_iff.mpr ⟨hs, hm⟩, parse_text_single_iff.mpr ⟨hs, hm⟩⟩

theorem settles_list {element : String} {cs : List Char} (h : s.toList = arrayMark ++ cs)
    (hcs : dropSeparator cs = element.toList) (hread : isLocal element ≠ isAddress element) :
    Settles s := by
  have hs : s ≠ "" := by
    rintro rfl
    simp [arrayMark] at h
  refine ⟨⟨element, true⟩, parse_ok_iff.mpr ⟨hs, ?_⟩, parse_text_list_iff.mpr hread⟩
  rw [ofText_of_mark h, hcs, String.ofList_toList]

theorem settles_list_of_local {name : String} (hn : isAddress name = false) :
    Settles ("ArrayOf#" ++ name) := by
  have hchars : ("#" ++ name).toList = localMark :: name.toList := by simp [localMark]
  have hskip : Text.occurs [':', '/', '/'] name.toList = false := hn
  have hlocal : isLocal ("#" ++ name) = true := by simp [isLocal, hchars]
  have haddress : isAddress ("#" ++ name) = false := by rwa [isAddress, hchars]
  have hmarked : ("ArrayOf#" ++ name).toList = arrayMark ++ localMark :: name.toList := by
    simp [arrayMark, localMark]
  refine settles_list hmarked ?_ (by simp [hlocal, haddress] : isLocal ("#" ++ name) ≠ _)
  rw [dropSeparator_mark, hskip, if_neg Bool.false_ne_true, hchars]

/-- An address is a list element with a separating number sign in front and without one. -/
theorem settles_list_of_address {uri : String} (ha : isAddress uri = true) (hl : isLocal uri = false) :
    Settles ("ArrayOf#" ++ uri) ∧ Settles ("ArrayOf" ++ uri) := by
  have hread : isLocal uri ≠ isAddress uri := by simp [hl, ha]
  have hseparated : ("ArrayOf#" ++ uri).toList = arrayMark ++ localMark :: uri.toList := by
    simp [arrayMark, localMark]
  have hbare : ("ArrayOf" ++ uri).toList = arrayMark ++ uri.toList := by simp [arrayMark]
  have haddress : Text.occurs [':', '/', '/'] uri.toList = true := ha
  constructor
  · refine settles_list hseparated ?_ hread
    rw [dropSeparator_mark, haddress, if_pos rfl]
  · refine settles_list hbare ?_ hread
    cases hcs : uri.toList with
    | nil => rfl
    | cons c cs =>
      have hc : c ≠ localMark := by simpa [isLocal, hcs] using hl
      simp [dropSeparator, hc]

/-- A single reference is read back from its written form exactly if it is not empty and does not
begin with the array mark, and a list exactly if its element begins with a number sign or has the
mark of an address in it, but not both. So what is read from a text without array mark, from the list
of a local name without such a mark and from the list of an address is read back. -/
theorem written_read_back :
    (∀ ref : TypeReference, parse (.str ref.text) = .ok ref ↔
      (ref.isArray = false ∧ ref.uri ≠ "" ∧ ¬"ArrayOf".toList <+: ref.uri.toList) ∨
      (ref.isArray = true ∧
        Xor ("#".toList <+: ref.uri.toList) ("://".toList <:+: ref.uri.toList))) ∧
    (∀ s : String, s ≠ "" → ¬"ArrayOf".toList <+: s.toList → Settles s) ∧
    (∀ name : String, ¬"://".toList <:+: name.toList → Settles ("ArrayOf#" ++ name)) ∧
    (∀ uri : String, "://".toList <:+: uri.toList → ¬"#".toList <+: uri.toList →
      Settles ("ArrayOf#" ++ uri) ∧ Settles ("ArrayOf" ++ uri)) := by
  refine ⟨?_, fun s hs hm => ?_, fun name hn => ?_, fun uri ha hl => ?_⟩
  · rintro ⟨uri, isArray⟩
    cases isArray with
    | false =>
      rw [parse_text_single_iff, ← isMarked_iff_begins]
      simp
    | true =>
      rw [parse_text_list_iff, ← isLocal_iff, ← isAddress_iff]
      cases isLocal uri <;> cases isAddress uri <;> simp [Xor]
  · exact settles_single hs (Bool.eq_false_iff.mpr fun h => hm (isMarked_iff_begins.mp h))
  · exact settles_list_of_local (Bool.eq_false_iff.mpr fun h => hn (isAddress_iff.mp h))
  · exact settles_list_of_address (isAddress_iff.mpr ha)
      (Bool.eq_false_iff.mpr fun h => hl (isLocal_iff.mp h))

/-- Every form of a reference, and three references that no form leads to: a list of a compact key, a
list of a local name with an address in it, and a single reference that begins with the array mark. -/
theorem written_read_back_text :
    (Settles "https://schema.org/Text" ∧ Settles "ArrayOf#Offer" ∧
      Settles "ArrayOf#https://schema.org/Text" ∧ Settles "ArrayOfhttps://schema.org/Text") ∧
    parse (.str (text ⟨"schema:Text", true⟩)) ≠ .ok ⟨"schema:Text", true⟩ ∧
    parse (.str (text ⟨"#see://a", true⟩)) ≠ .ok ⟨"#see://a", true⟩ ∧
    parse (.str (text ⟨"ArrayOf#Offer", false⟩)) ≠ .ok ⟨"ArrayOf#Offer", false⟩ := by
  obtain ⟨hiff, hsingle, hlocal, haddress⟩ := written_read_back
  have hkey : ¬"://".toList <:+: "schema:Text".toList := isAddress_iff.not.mp (by decide)
  have hname : ¬"#".toList <+: "schema:Text".toList := isLocal_iff.not.mp (by decide)
  have huri : "://".toList <:+: "https://schema.org/Text".toList := isAddress_iff.mp (by decide)
  have hsee : "://".toList <:+: "#see://a".toList := isAddress_iff.mp (by decide)
  have hmarked : "ArrayOf".toList <+: "ArrayOf#Offer".toList := isMarked_iff_begins.mp (by decide)
  obtain ⟨hseparated, hbare⟩ := haddress "https://schema.org/Text" huri (isLocal_iff.not.mp (by decide))
  refine ⟨⟨hsingle _ (by decide) (isMarked_iff_begins.not.mp (by decide)),
    hlocal "Offer" (isAddress_iff.not.mp (by decide)), hseparated, hbare⟩, ?_, ?_, ?_⟩
  · intro h
    rcases (hiff _).mp h with ⟨hflag, -⟩ | ⟨-, ⟨hl, -⟩ | ⟨ha, -⟩⟩
    · cases hflag
    · exact hname hl
    · exact hkey ha
  · intro h
    rcases (hiff _).mp h with ⟨hflag, -⟩ | ⟨-, ⟨-, ha⟩ | ⟨-, hl⟩⟩
    · cases hflag
    · exact ha hsee
    · exact hl (isLocal_iff.mp (by decide))
  · intro h
    rcases (hiff _).mp h with ⟨-, -, hm⟩ | ⟨hflag, -⟩
    · exact hm hmarked
    · cases hflag

end TypedVocabulary.TypeReference
