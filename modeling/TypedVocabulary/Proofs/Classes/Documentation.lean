import TypedVocabulary.Classes.SourceText
import TypedVocabulary.Proofs.Text.Lines

/-! # Documentation in source text

The lines of a definition fall into sections, each some documentation with the code that it stands in
front of. Code begins with a row that is not empty, and documentation is closed off by its tags, so
the code of the text stays as it is exactly if the documentation is made of comments. A line of
documentation is one as long as it has no line feed, or all that follows one is a comment too.
-/
namespace TypedVocabulary

/-- Behind three slashes a text is a comment up to its last line. -/
def Text.Contained (text : String) : Prop :=
  ∀ piece ∈ (Text.splitOn '\n' text.toList).tail, Text.isComment piece = true

instance (text : String) : Decidable (Text.Contained text) :=
  inferInstanceAs (Decidable (∀ piece ∈ (Text.splitOn '\n' text.toList).tail,
    Text.isComment piece = true))

theorem Text.contained_of_not_mem {text : String} (h : '\n' ∉ text.toList) : Contained text := by
  rw [Contained, splitOn_of_not_mem h]
  simp

theorem Text.not_mem_markup {s : String} (h : '\n' ∉ s.toList) : '\n' ∉ (markup s).toList := by
  rw [markup, String.toList_ofList, List.mem_flatMap]
  rintro ⟨c, hc, hmem⟩
  have hne : '\n' ≠ c := fun heq => h (heq ▸ hc)
  unfold markupChar at hmem
  split at hmem
  · simp at hmem
  · split at hmem
    · simp at hmem
    · split at hmem
      · simp at hmem
      · exact hne (List.mem_singleton.mp hmem)

namespace SourceText
open Text

def rowsOf (ls : List SourceLine) : List (List Char) := ls.flatMap fun l => rows l.text.toList

@[simp] theorem rowsOf_append (xs ys : List SourceLine) : rowsOf (xs ++ ys) = rowsOf xs ++ rowsOf ys :=
  List.flatMap_append

theorem rows_join (ls : List SourceLine) :
    rows (String.join (ls.map fun l => l.text ++ "\n")).toList = rowsOf ls ++ [[]] := by
  induction ls with
  | nil => rfl
  | cons l ls ih =>
    rw [List.map_cons, String.join_cons, String.toList_append, String.toList_append,
      List.append_assoc, show "\n".toList = ['\n'] from rfl, List.singleton_append,
      rows_append_cons, ih]
    simp [rowsOf]

theorem solid_rows {front : List Char} (hfront : '\n' ∉ front)
    (hvisible : front.any (fun c => !isMargin c) = true) (cs : List Char) : Solid (rows (front ++ cs)) := by
  obtain ⟨piece, pieces, hcs⟩ := exists_splitOn_cons '\n' cs
  refine ⟨trimRight isMargin (front ++ piece), pieces.map (trimRight isMargin), ?_, ?_⟩
  · rw [rows, splitOn_append_of_not_mem hfront hcs, List.map_cons]
  · obtain ⟨c, hc, hmargin⟩ := List.any_eq_true.mp hvisible
    intro hempty
    have hall := List.rdropWhile_eq_nil_iff.mp hempty c (List.mem_append_left piece hc)
    rw [hall] at hmargin
    cases hmargin

theorem solid_rowsOf {front : List Char} (hfront : '\n' ∉ front)
    (hvisible : front.any (fun c => !isMargin c) = true) {l : SourceLine} {cs : List Char}
    (hl : l.text.toList = front ++ cs) (ls : List SourceLine) : Solid (rowsOf (l :: ls)) := by
  have hrows : rowsOf (l :: ls) = rows l.text.toList ++ rowsOf ls := List.flatMap_cons
  rw [hrows, hl]
  exact (solid_rows hfront hvisible cs).append _

theorem lines_ofLines {ls : List SourceLine} (h : Solid (rowsOf ls)) :
    splitOn '\n' (ofLines ls).toList = squeeze false (rowsOf ls) ++ [[]] := by
  have htidy : tidyLines (String.join (ls.map fun l => l.text ++ "\n")).toList =
      squeeze false (rowsOf ls) := by
    obtain ⟨x, xs, hrows, hx⟩ := h
    have hdrop : (rowsOf ls ++ [[]]).dropWhile List.isEmpty = rowsOf ls ++ [[]] := by
      rw [hrows, List.cons_append, List.dropWhile_cons_of_neg (by simpa using hx)]
    rw [tidyLines_eq, rows_join, hdrop, squeeze_append]
    simp [squeeze]
  have hne : squeeze false (rowsOf ls) ≠ [] := by
    obtain ⟨x, xs, hrows, hx⟩ := h
    simp [hrows, squeeze, hx]
  rw [ofLines, format, String.toList_ofList, splitOn_formatChars (htidy ▸ hne), htidy]

theorem codeLines_ofLines {ls : List SourceLine} (h : Solid (rowsOf ls)) :
    codeLines (ofLines ls) = codeRows false (rowsOf ls) ++ [[]] := by
  rw [codeLines, lines_ofLines h, codeOf_append]
  rfl

/-! ## Lines of documentation -/

theorem isComment_doc (indent : Nat) (cs : List Char) :
    isComment (List.replicate indent ' ' ++ ['/', '/', '/', ' '] ++ cs) = true := by
  induction indent with
  | zero => rfl
  | succ n ih =>
    rw [List.replicate_succ, List.cons_append, List.cons_append, isComment_cons_of_margin rfl]
    exact ih

theorem toList_doc (indent : Nat) (t : String) :
    (SourceLine.doc indent t).text.toList =
      List.replicate indent ' ' ++ ['/', '/', '/', ' '] ++ t.toList := by
  simp only [SourceLine.text, String.toList_append, String.toList_ofList]
  rfl

theorem not_mem_doc (indent : Nat) :
    '\n' ∉ List.replicate indent ' ' ++ ['/', '/', '/', ' '] := by
  simp

def Commented (l : SourceLine) : Prop := ∀ row ∈ rows l.text.toList, isComment row = true

/-- Only what follows a line feed can be other than a comment. -/
theorem commented_doc_iff (indent : Nat) (t : String) :
    Commented (.doc indent t) ↔ Contained t := by
  obtain ⟨piece, pieces, ht⟩ := exists_splitOn_cons '\n' t.toList
  rw [Commented, toList_doc, rows, splitOn_append_of_not_mem (not_mem_doc indent) ht, Contained, ht]
  simp only [List.map_cons, List.forall_mem_cons, isComment_trimRight, isComment_doc, true_and,
    List.forall_mem_map, List.tail_cons]

theorem forall_rowsOf_iff (ls : List SourceLine) :
    (∀ row ∈ rowsOf ls, isComment row = true) ↔ ∀ l ∈ ls, Commented l := by
  rw [rowsOf, List.forall_mem_flatMap]
  rfl

theorem solid_doc (indent : Nat) (t : String) (ls : List SourceLine) :
    Solid (rowsOf (.doc indent t :: ls)) :=
  solid_rowsOf (not_mem_doc indent) (List.any_eq_true.mpr ⟨'/', by simp, rfl⟩)
    (toList_doc indent t) ls

theorem gapAfter_concat_doc (ls : List SourceLine) (indent : Nat) {t : String}
    (ht : '\n' ∉ t.toList) (gap : Bool) :
    gapAfter gap (rowsOf (ls ++ [.doc indent t])) = false := by
  have hrows : rowsOf [.doc indent t] = [trimRight isMargin (SourceLine.doc indent t).text.toList] := by
    have hline : '\n' ∉ (SourceLine.doc indent t).text.toList := by
      rw [toList_doc, List.mem_append, not_or]
      exact ⟨not_mem_doc indent, ht⟩
    rw [rowsOf, List.flatMap_singleton, rows, splitOn_of_not_mem hline]
    rfl
  have hcomment : isComment (trimRight isMargin (SourceLine.doc indent t).text.toList) = true := by
    rw [isComment_trimRight, toList_doc, isComment_doc]
  rw [rowsOf_append, gapAfter_append, hrows]
  cases hrow : trimRight isMargin (SourceLine.doc indent t).text.toList with
  | nil =>
    rw [hrow] at hcomment
    cases hcomment
  | cons c cs => rfl

theorem fenced_docBlock (indent : Nat) {tag : String} (htag : '\n' ∉ tag.toList)
    (ls : List SourceLine) : Fenced (rowsOf (docBlock indent tag ls)) := by
  unfold docBlock
  split
  · exact .inl rfl
  · refine .inr ⟨solid_doc indent _ _, ?_⟩
    have hclose : '\n' ∉ ("</" ++ tag ++ ">").toList := by simpa using htag
    exact gapAfter_concat_doc (.doc indent ("<" ++ tag ++ ">") :: ls) indent hclose false

theorem forall_docBlock_iff (indent : Nat) {tag : String} (htag : '\n' ∉ tag.toList)
    (ls : List SourceLine) :
    (∀ l ∈ docBlock indent tag ls, Commented l) ↔ ∀ l ∈ ls, Commented l := by
  have hopen : Commented (.doc indent ("<" ++ tag ++ ">")) :=
    (commented_doc_iff _ _).mpr (contained_of_not_mem (by simpa using htag))
  have hclose : Commented (.doc indent ("</" ++ tag ++ ">")) :=
    (commented_doc_iff _ _).mpr (contained_of_not_mem (by simpa using htag))
  unfold docBlock
  split
  · rename_i hempty
    simp [List.isEmpty_iff.mp hempty]
  · rw [List.cons_append, List.forall_mem_cons, List.forall_mem_append, List.forall_mem_singleton]
    exact ⟨fun h => h.2.1, fun h => ⟨hopen, h, hclose⟩⟩

theorem forall_docText_iff (indent : Nat) (lines : List String) :
    (∀ l ∈ docText indent lines, Commented l) ↔ ∀ t ∈ lines, Contained (markup t) := by
  rw [docText, List.forall_mem_map]
  exact forall₂_congr fun t _ => commented_doc_iff indent (markup t)

/-- The lines of an example have no line feeds, so none of them becomes code. -/
theorem commented_sampleLine {line : String} (h : '\n' ∉ line.toList) :
    Commented (sampleLine line) := by
  rw [sampleLine, commented_doc_iff]
  refine contained_of_not_mem ?_
  split
  · exact h
  · exact not_mem_markup h

/-! ## Sections -/

abbrev Section := List SourceLine × List SourceLine

def Section.WellFormed (s : Section) : Prop := Fenced (rowsOf s.1) ∧ Solid (rowsOf s.2)

theorem rowsOf_flatMap (sections : List Section) (f : Section → List SourceLine) :
    rowsOf (sections.flatMap f) = sections.flatMap fun s => rowsOf (f s) := by
  rw [rowsOf, List.flatMap_assoc]
  rfl

theorem solid_append_of_fenced {xs ys : List (List Char)} (hxs : Fenced xs) (hys : Solid ys) :
    Solid (xs ++ ys) := by
  rcases hxs with rfl | ⟨hxs, -⟩
  · exact hys
  · exact hxs.append ys

theorem fenced_append {xs ys : List (List Char)} (hxs : Fenced xs) (hys : Fenced ys) :
    Fenced (xs ++ ys) := by
  rcases hys with rfl | ⟨hys, hend⟩
  · rwa [List.append_nil]
  · refine .inr ⟨solid_append_of_fenced hxs hys, ?_⟩
    rw [gapAfter_append, gapAfter_of_solid hys, hend]

theorem codeRows_fenced_iff {ls : List SourceLine} (h : Fenced (rowsOf ls)) :
    codeRows false (rowsOf ls) = [] ↔ ∀ l ∈ ls, Commented l := by
  have hend : gapAfter false (rowsOf ls) = false := by
    rcases h with h | ⟨-, h⟩
    · rw [h]
      rfl
    · exact h
  rw [codeRows_eq_nil_iff hend, forall_rowsOf_iff, eq_self_iff_true, true_and]

/-- Documentation leaves the code of a text alone exactly if all of it is comments. -/
theorem codeLines_sections_eq_iff {s : Section} {rest : List Section}
    (hs : ∀ t ∈ s :: rest, t.WellFormed) :
    codeLines (ofLines ((s :: rest).flatMap fun t => t.1 ++ t.2)) =
        codeLines (ofLines ((s :: rest).flatMap Prod.snd)) ↔
      ∀ t ∈ s :: rest, ∀ l ∈ t.1, Commented l := by
  obtain ⟨hfenced, hsolid⟩ := hs s List.mem_cons_self
  have hshown : Solid (rowsOf ((s :: rest).flatMap fun t => t.1 ++ t.2)) := by
    rw [List.flatMap_cons, rowsOf_append, rowsOf_append]
    exact (solid_append_of_fenced hfenced hsolid).append _
  have hbare : Solid (rowsOf ((s :: rest).flatMap Prod.snd)) := by
    rw [List.flatMap_cons, rowsOf_append]
    exact hsolid.append _
  let pairs := (s :: rest).map fun t => (rowsOf t.1, rowsOf t.2)
  have hpairs : ∀ x ∈ pairs, Fenced x.1 ∧ Solid x.2 := by
    intro x hx
    obtain ⟨t, ht, rfl⟩ := List.mem_map.mp hx
    exact hs t ht
  have hshownPairs : rowsOf ((s :: rest).flatMap fun t => t.1 ++ t.2) =
      pairs.flatMap fun x => x.1 ++ x.2 := by
    rw [rowsOf_flatMap, List.flatMap_map]
    simp only [rowsOf_append]
  have hbarePairs : rowsOf ((s :: rest).flatMap Prod.snd) = pairs.flatMap Prod.snd := by
    rw [rowsOf_flatMap, List.flatMap_map]
  rw [codeLines_ofLines hshown, codeLines_ofLines hbare, List.append_left_inj, hshownPairs,
    hbarePairs, codeRows_sections_eq_iff hpairs, List.forall_mem_map]
  exact forall₂_congr fun t ht => codeRows_fenced_iff (hs t ht).1

/-! ## Classes -/

def PropertyView.bare (p : PropertyView) : PropertyView := { p with description := [], sample := none }

def ClassView.bare (c : ClassView) : ClassView :=
  { c with description := [], docsUrl := none, properties := c.properties.map PropertyView.bare }

/-- Every property has attributes, and examples come as lines. -/
def PropertyView.WellFormed (p : PropertyView) : Prop :=
  (∃ a rest, p.attributes = ("[" ++ a) :: rest) ∧ ∀ line ∈ p.sample.getD [], '\n' ∉ line.toList

def PropertyView.Contained (p : PropertyView) : Prop :=
  ∀ t ∈ p.description, Text.Contained (markup t)

/-- All documentation of a class is comments. -/
def ClassView.Contained (c : ClassView) : Prop :=
  (∀ t ∈ c.description, Text.Contained (markup t)) ∧
    (∀ url ∈ c.docsUrl, Commented (docsLine c.type url)) ∧
    ∀ p ∈ c.properties, p.Contained

def propertySection (p : PropertyView) : Section :=
  (docBlock 8 "summary" (docText 8 p.description) ++
      docBlock 8 "example" ((p.sample.getD []).map sampleLine),
    p.attributes.map (fun a => .code ("        " ++ a)) ++
      [.code ("        " ++ p.declaration), .code ""])

def classHeader (c : ClassView) : Section :=
  ([], [.code "using System;",
    .code "using System.Collections.Generic;",
    .code "using System.Runtime.Serialization;",
    .code "using Newtonsoft.Json;",
    .code "",
    .code ("namespace " ++ c.namespace),
    .code "\x7b"])

def classSection (c : ClassView) : Section :=
  (docBlock 4 "summary" (docText 4 c.description ++ (c.docsUrl.map (docsLine c.type)).toList),
    [.code "    [DataContract]",
     .code ("    public partial class " ++ c.name ++ " : " ++ c.base),
     .code "    \x7b"])

def closing : Section := ([], [.code "    \x7d", .code "\x7d"])

def classSections (c : ClassView) : List Section :=
  classHeader c :: classSection c :: (c.properties.map propertySection ++ [closing])

theorem propertyLines_eq :
    propertyLines = fun p => (propertySection p).1 ++ (propertySection p).2 := by
  funext p
  simp [propertyLines, propertySection]

theorem classLines_eq (c : ClassView) :
    classLines c = (classSections c).flatMap fun s => s.1 ++ s.2 := by
  simp [classLines, classSections, classHeader, classSection, closing, propertyLines_eq,
    List.flatMap_map]

theorem classLines_bare (c : ClassView) :
    classLines c.bare = (classSections c).flatMap Prod.snd := by
  have hproperty (p : PropertyView) : propertySection p.bare = ([], (propertySection p).2) := rfl
  simp [classLines_eq, classSections, classHeader, classSection, closing, ClassView.bare,
    List.flatMap_map, hproperty, docText, docBlock]

theorem solid_code (front text : String) (hfront : '\n' ∉ front.toList)
    (hvisible : front.toList.any (fun c => !isMargin c) = true) (ls : List SourceLine) :
    Solid (rowsOf (.code (front ++ text) :: ls)) :=
  solid_rowsOf hfront hvisible String.toList_append ls

theorem wellFormed_propertySection {p : PropertyView} (hp : p.WellFormed) :
    (propertySection p).WellFormed := by
  obtain ⟨⟨a, rest, ha⟩, -⟩ := hp
  refine ⟨?_, ?_⟩
  · rw [propertySection, rowsOf_append]
    exact fenced_append (fenced_docBlock 8 (by decide) _) (fenced_docBlock 8 (by decide) _)
  · have hfirst : "        " ++ ("[" ++ a) = "        [" ++ a := by rw [← String.append_assoc]; rfl
    simp only [propertySection, ha, List.map_cons, List.cons_append, hfirst]
    exact solid_code "        [" a (by decide) (by decide) _

theorem wellFormed_classSections {c : ClassView} (hc : ∀ p ∈ c.properties, p.WellFormed) :
    ∀ s ∈ classSections c, s.WellFormed := by
  have hheader : (classHeader c).WellFormed :=
    ⟨.inl rfl, solid_code "using System;" "" (by decide) (by decide) _⟩
  have hclass : (classSection c).WellFormed :=
    ⟨fenced_docBlock 4 (by decide) _,
      solid_code "    [DataContract]" "" (by decide) (by decide) _⟩
  have hclosing : closing.WellFormed :=
    ⟨.inl rfl, solid_code "    \x7d" "" (by decide) (by decide) _⟩
  intro s hs
  simp only [classSections, List.mem_cons, List.mem_append, List.mem_map, List.not_mem_nil,
    or_false] at hs
  rcases hs with rfl | rfl | ⟨p, hp, rfl⟩ | rfl
  · exact hheader
  · exact hclass
  · exact wellFormed_propertySection (hc p hp)
  · exact hclosing

theorem forall_propertySection_iff {p : PropertyView} (hp : p.WellFormed) :
    (∀ l ∈ (propertySection p).1, Commented l) ↔ p.Contained := by
  have hsample : ∀ l ∈ (p.sample.getD []).map sampleLine, Commented l := by
    intro l hl
    obtain ⟨line, hline, rfl⟩ := List.mem_map.mp hl
    exact commented_sampleLine (hp.2 line hline)
  rw [propertySection, List.forall_mem_append, forall_docBlock_iff 8 (by decide),
    forall_docBlock_iff 8 (by decide), forall_docText_iff]
  exact and_iff_left hsample

theorem forall_classSection_iff (c : ClassView) :
    (∀ l ∈ (classSection c).1, Commented l) ↔
      (∀ t ∈ c.description, Text.Contained (markup t)) ∧
        ∀ url ∈ c.docsUrl, Commented (docsLine c.type url) := by
  rw [classSection, forall_docBlock_iff 4 (by decide), List.forall_mem_append, forall_docText_iff]
  cases c.docsUrl <;> simp

/-- The code of a class stays as it is exactly if its documentation is comments. -/
theorem codeLines_class_iff {c : ClassView} (hc : ∀ p ∈ c.properties, p.WellFormed) :
    codeLines (ofLines (classLines c)) = codeLines (ofLines (classLines c.bare)) ↔
      c.Contained := by
  rw [classLines_eq, classLines_bare]
  refine (codeLines_sections_eq_iff (wellFormed_classSections hc)).trans ?_
  have hproperties : (∀ s ∈ c.properties.map propertySection, ∀ l ∈ s.1, Commented l) ↔
      ∀ p ∈ c.properties, p.Contained := by
    rw [List.forall_mem_map]
    exact forall₂_congr fun p hp => forall_propertySection_iff (hc p hp)
  rw [List.forall_mem_cons, List.forall_mem_cons, List.forall_mem_append, List.forall_mem_singleton,
    forall_classSection_iff, hproperties, ClassView.Contained, and_assoc]
  simp [classHeader, closing]

/-! ## Enumerations -/

def EnumView.bare (e : EnumView) : EnumView := { e with description := [] }

def EnumView.Contained (e : EnumView) : Prop := ∀ t ∈ e.description, Text.Contained (markup t)

def enumHeader (e : EnumView) : Section :=
  ([], [.code "using System.Runtime.Serialization;",
    .code "using Newtonsoft.Json;",
    .code "using Newtonsoft.Json.Converters;",
    .code "",
    .code ("namespace " ++ e.namespace),
    .code "\x7b"])

def enumSection (e : EnumView) : Section :=
  (docBlock 4 "summary" (docText 4 e.description),
    [.code "    [JsonConverter(typeof(StringEnumConverter))]",
     .code ("    public enum " ++ e.name),
     .code "    \x7b"] ++
    allMemberLines e.members ++
    [.code "    \x7d",
     .code "\x7d"])

theorem enumLines_eq (e : EnumView) :
    enumLines e = [enumHeader e, enumSection e].flatMap fun s => s.1 ++ s.2 := by
  simp [enumLines, enumHeader, enumSection]

theorem enumLines_bare (e : EnumView) :
    enumLines e.bare = [enumHeader e, enumSection e].flatMap Prod.snd := by
  simp [enumLines, enumHeader, enumSection, EnumView.bare, docText, docBlock]

theorem wellFormed_enumSections (e : EnumView) :
    ∀ s ∈ [enumHeader e, enumSection e], s.WellFormed := by
  have hheader : (enumHeader e).WellFormed :=
    ⟨.inl rfl, solid_code "using System.Runtime.Serialization;" ""
      (by decide) (by decide) _⟩
  have henum : (enumSection e).WellFormed :=
    ⟨fenced_docBlock 4 (by decide) _,
      solid_code "    [JsonConverter(typeof(StringEnumConverter))]" ""
        (by decide) (by decide) _⟩
  intro s hs
  simp only [List.mem_cons, List.not_mem_nil, or_false] at hs
  rcases hs with rfl | rfl
  · exact hheader
  · exact henum

theorem codeLines_enum_iff (e : EnumView) :
    codeLines (ofLines (enumLines e)) = codeLines (ofLines (enumLines e.bare)) ↔
      e.Contained := by
  rw [enumLines_eq, enumLines_bare]
  refine (codeLines_sections_eq_iff (wellFormed_enumSections e)).trans ?_
  rw [List.forall_mem_cons, List.forall_mem_singleton, enumSection,
    forall_docBlock_iff 4 (by decide), forall_docText_iff]
  simp [enumHeader, EnumView.Contained]

end SourceText
end TypedVocabulary
