import TypedVocabulary.Proofs.Classes.WireNames
import TypedVocabulary.Proofs.Naming.Words

/-! # Members of enumerations

A member of an enumeration is named after the last segment of its value, and nothing keeps track of the
names that are taken. So two values lead to one member if they differ in their namespaces alone, or in
their short names by what stands between the words or by the case of a word's first letter.
-/
namespace TypedVocabulary
open Text

namespace Resolver

theorem compileMember_str (value : String) :
    compileMember (.str value) = .ok ⟨typeName (Reference.shortName value), value⟩ := rfl

theorem mapM_compileMember (values : List String) :
    (values.map Json.str).mapM compileMember =
      .ok (values.map fun value => ⟨typeName (Reference.shortName value), value⟩) := by
  induction values with
  | nil => rfl
  | cons value values ih =>
    rw [List.map_cons, List.mapM_cons, compileMember_str, ih]
    rfl

theorem members_of_compileEnum {r : Resolver} {e : Enumeration} {values : List String}
    {d : EnumDefinition} (hvalues : e.values = values.map .str) (h : r.compileEnum e = .ok d) :
    d.members = values.map fun value => ⟨typeName (Reference.shortName value), value⟩ := by
  obtain ⟨members, shortName, isExternal, hmembers, -, -, rfl⟩ := compileEnum_ok_iff.mp h
  rw [hvalues, mapM_compileMember] at hmembers
  exact (Except.ok.inj hmembers).symm

end Resolver

/-! ## Declarations in the text -/

/-- The line that declares a member, with the comma behind it if there is one. -/
def EnumMember.declaration (m : EnumMember) (mark : String) : List Char :=
  ("        " ++ m.name ++ mark).toList

def declarations : List EnumMember → List (List Char)
  | [] => []
  | [m] => [m.declaration ""]
  | m :: ms => m.declaration "," :: declarations ms

theorem PlainName.exists_last {s : String} (h : PlainName s) :
    ∃ c, s.toList.getLast? = some c ∧ isMargin c = false := by
  obtain ⟨first, hfirst, -⟩ := h.first
  obtain ⟨rest, hs⟩ := List.head?_eq_some_iff.mp hfirst
  obtain ⟨c, hc⟩ : ∃ c, s.toList.getLast? = some c := by
    rw [hs]
    exact ⟨_, List.getLast?_eq_some_getLast (List.cons_ne_nil first rest)⟩
  refine ⟨c, hc, ?_⟩
  have hmem : c ∈ s.toList := List.mem_of_getLast? hc
  refine Bool.eq_false_iff.mpr fun hmargin => ?_
  rw [isMargin, Bool.or_eq_true, beq_iff_eq, beq_iff_eq] at hmargin
  rcases hmargin with rfl | rfl
  · exact h.not_mem (by decide) (by decide) hmem
  · exact h.not_mem (by decide) (by decide) hmem

namespace SourceText

theorem declaration_mem {m : EnumMember} (hm : PlainName m.name) {mark : String}
    (hmark : mark = "" ∨ mark = ",") : m.declaration mark ∈ rowsOf (memberLines m mark) := by
  have hname : '\n' ∉ m.name.toList := hm.not_mem (by decide) (by decide)
  have hline : ∀ c ∈ m.declaration mark, (c != '\n') = true := by
    intro c hc
    rw [bne_iff_ne]
    rintro rfl
    simp only [EnumMember.declaration, String.toList_append, List.mem_append] at hc
    rcases hc with (hc | hc) | hc
    · exact absurd hc (by decide)
    · exact hname hc
    · rcases hmark with rfl | rfl <;> exact absurd hc (by decide)
  have hlast : ∃ c, (m.declaration mark).getLast? = some c ∧ isMargin c = false := by
    obtain ⟨c, hc, hmargin⟩ := hm.exists_last
    rw [EnumMember.declaration, String.toList_append, String.toList_append]
    rcases hmark with rfl | rfl
    · exact ⟨c, by simp only [List.getLast?_append, hc]; rfl, hmargin⟩
    · exact ⟨',', by simp only [List.getLast?_append]; rfl, rfl⟩
  obtain ⟨c, hc, hmargin⟩ := hlast
  have hrow : trimRight isMargin ((m.declaration mark).takeWhile (· != '\n')) = m.declaration mark := by
    rw [List.takeWhile_eq_self_iff.mpr hline, trimRight_of_last hc hmargin]
  rw [← hrow]
  exact mem_rowsOf (by simp [memberLines])

theorem declarations_sublist {members : List EnumMember} (h : ∀ m ∈ members, PlainName m.name) :
    (declarations members).Sublist (rowsOf (allMemberLines members)) := by
  induction members using allMemberLines.induct with
  | case1 => exact List.nil_sublist _
  | case2 m => exact List.singleton_sublist.mpr (declaration_mem (h m List.mem_cons_self) (.inl rfl))
  | case3 m ms hms ih =>
    obtain ⟨hm, hrest⟩ := List.forall_mem_cons.mp h
    have hstep : declarations (m :: ms) = [m.declaration ","] ++ declarations ms := by
      rw [declarations]
      · rfl
      · exact hms
    rw [hstep, allMemberLines, rowsOf_append]
    · exact (List.singleton_sublist.mpr (declaration_mem hm (.inr rfl))).append (ih hrest)
    · exact hms

theorem ne_nil_of_mem_declarations {members : List EnumMember} {row : List Char}
    (h : row ∈ declarations members) : row ≠ [] := by
  have hdeclaration (m : EnumMember) (mark : String) : m.declaration mark ≠ [] := by
    intro hnil
    simp [EnumMember.declaration] at hnil
  induction members with
  | nil => cases h
  | cons m ms ih =>
    cases ms with
    | nil =>
      obtain rfl := List.mem_singleton.mp h
      exact hdeclaration m ""
    | cons m' ms =>
      rcases List.mem_cons.mp h with rfl | h
      · exact hdeclaration m ","
      · exact ih h

end SourceText

/-! ## Distinct members -/

namespace Resolver
open Identifier (spelling)

/-- An enumeration of different values has a member for each value in their order, and its text declares
them all. The names of the members are different exactly if the short names of no two values are spelled
alike: nothing else tells members apart. -/
theorem memberNames_nodup_iff {r : Resolver} {e : Enumeration} {values : List String}
    {d : EnumDefinition} (hvalues : e.values = values.map .str) (hn : values.Nodup)
    (h : r.compileEnum e = .ok d) :
    d.members.map EnumMember.value = values ∧
    ((d.members.map EnumMember.name).Nodup ↔ ∀ v ∈ values, ∀ w ∈ values, v ≠ w →
      spelling (Reference.shortName v).toList ≠ spelling (Reference.shortName w).toList) ∧
    ∀ s t text, t.added? SourceText.enumTemplate = none → SourceText.ofEnum s t d = .ok text →
      (declarations d.members).Sublist (splitOn '\n' text.toList) := by
  have hmembers := members_of_compileEnum hvalues h
  refine ⟨?_, ?_, fun s t text ht htext => ?_⟩
  · simp [hmembers, Function.comp_def]
  · have hnames : d.members.map EnumMember.name =
        values.map fun value => typeName (Reference.shortName value) := by
      simp only [hmembers, List.map_map, Function.comp_def]
    rw [hnames, List.nodup_map_iff_inj_on hn]
    constructor
    · intro hinj v hv w hw hne hspelled
      exact hne (hinj v hv w hw (Identifier.typeName_eq_iff.mpr hspelled))
    · intro hspelled v hv w hw hsame
      by_contra hne
      exact hspelled v hv w hw hne (Identifier.typeName_eq_iff.mp hsame)
  · have hplain : ∀ m ∈ d.members, PlainName m.name := by
      rw [hmembers, List.forall_mem_map]
      intro value _
      dsimp only
      exact plainName_typeName _
    exact SourceText.sublist_lines_ofEnum ht htext (SourceText.declarations_sublist hplain)
      fun row hrow => SourceText.ne_nil_of_mem_declarations hrow

/-- Two values of one short name in different namespaces are declared under one name. -/
theorem memberNames_nodup_iff_scheduled :
    let r : Resolver := ⟨⟨[], [], Vocabulary.standard⟩, Settings.default⟩
    let values := ["https://schema.org/EventScheduled", "https://openactive.io/EventScheduled"]
    let e : Enumeration := ⟨.str "Status", .str "https://openactive.io/", values.map .str, [], .null⟩
    values.Nodup ∧ ∃ d text, r.compileEnum e = .ok d ∧
      d.members.map EnumMember.name = ["EventScheduled", "EventScheduled"] ∧
      ¬(d.members.map EnumMember.name).Nodup ∧
      SourceText.ofEnum Settings.default .empty d = .ok text ∧
      ["        EventScheduled,".toList, "        EventScheduled".toList].Sublist
        (splitOn '\n' text.toList) := by
  intro r values e
  have hn : values.Nodup := by decide
  obtain ⟨d, hd, hnames⟩ : ∃ d, r.compileEnum e = .ok d ∧
      d.members.map EnumMember.name = ["EventScheduled", "EventScheduled"] :=
    Attempt.exists_ok_of_decide (by decide +kernel)
  obtain ⟨-, hiff, hlines⟩ := memberNames_nodup_iff rfl hn hd
  have htext := (SourceText.ofEnum_ok_iff (s := Settings.default) (e := d) (t := .empty) rfl).mpr rfl
  have hdeclared : declarations d.members =
      ["        EventScheduled,".toList, "        EventScheduled".toList] := by
    have hvalues : e.values = values.map .str := rfl
    have hmembers := members_of_compileEnum hvalues hd
    rw [hmembers] at hnames ⊢
    simp only [values, List.map_cons, List.map_nil, List.cons.injEq, and_true] at hnames
    simp only [values, List.map_cons, List.map_nil, declarations, EnumMember.declaration, hnames]
    decide
  refine ⟨hn, d, _, hd, hnames, fun hdistinct => ?_, htext, hdeclared ▸ hlines _ _ _ rfl htext⟩
  exact hiff.mp hdistinct "https://schema.org/EventScheduled" (by decide)
    "https://openactive.io/EventScheduled" (by decide) (by decide) (by decide +kernel)

end Resolver
end TypedVocabulary
