import TypedVocabulary.Proofs.Classes.SampleText
import TypedVocabulary.Proofs.Classes.WireNames
import TypedVocabulary.Proofs.Json.WrittenLines
import TypedVocabulary.Proofs.Text.Markup

/-! # Samples in documentation

A sample stands between its tags in the text of a class, one row for each line. The tags of the code block
are told from the other lines by what they are, so a line of the sample that is such a tag itself is left
as it is. All other lines are free of markup. No line of a list or an object is a tag unless the field name
brings in a line feed.
-/
namespace TypedVocabulary
open Text

/-! ## Tags -/

theorem Text.PlainStarts.ne_tag {s : String} (h : PlainStarts true s.toList) {line : String}
    (hline : line ∈ lines s) : line ≠ Sample.openTag ∧ line ≠ Sample.closeTag := by
  have hplain := h.head_lines hline
  constructor
  · rintro rfl
    exact hplain (by decide)
  · rintro rfl
    exact hplain (by decide)

/-! ## Rows of a text -/

theorem Text.mem_trimRight {c : Char} (hc : isMargin c = false) (cs : List Char) :
    c ∈ trimRight isMargin cs ↔ c ∈ cs := by
  obtain ⟨blanks, hcs, hblanks⟩ := trimRight_append isMargin cs
  constructor
  · intro h
    rw [hcs]
    exact List.mem_append_left _ h
  · intro h
    rw [hcs] at h
    refine (List.mem_append.mp h).resolve_right fun hmem => ?_
    rw [hblanks c hmem] at hc
    cases hc

theorem Text.squeeze_of_forall_ne_nil {ls : List (List Char)} (h : ∀ l ∈ ls, l ≠ []) :
    squeeze false ls = ls := by
  induction ls with
  | nil => rfl
  | cons l ls ih =>
    obtain ⟨hl, hls⟩ := List.forall_mem_cons.mp h
    simp [squeeze, hl, ih hls]

theorem Text.infix_squeeze {shown : List (List Char)} (h : ∀ l ∈ shown, l ≠ [])
    (front back : List (List Char)) (gap : Bool) : shown <:+: squeeze gap (front ++ shown ++ back) := by
  have hshown (gap : Bool) : shown <:+ squeeze gap shown := by
    cases shown with
    | nil => exact List.nil_suffix
    | cons l ls =>
      obtain ⟨hl, hls⟩ := List.forall_mem_cons.mp h
      rw [squeeze, if_neg (by simpa using hl), squeeze_of_forall_ne_nil hls]
      exact List.suffix_append _ _
  rw [squeeze_append, squeeze_append]
  exact ((hshown _).isInfix.trans (List.suffix_append _ _).isInfix).trans (List.prefix_append _ _).isInfix

namespace SourceText
variable {s : Settings} {t : TemplateStore}

theorem infix_lines_ofLines {ls shown : List SourceLine} (h : Solid (rowsOf ls)) (hshown : shown <:+: ls)
    (hne : ∀ row ∈ rowsOf shown, row ≠ []) : rowsOf shown <:+: splitOn '\n' (ofLines ls).toList := by
  obtain ⟨front, back, rfl⟩ := hshown
  have hinfix := infix_squeeze hne (rowsOf front) (rowsOf back) false
  rw [← rowsOf_append, ← rowsOf_append] at hinfix
  rw [lines_ofLines h]
  exact hinfix.trans (List.prefix_append _ _).isInfix

theorem docBlock_infix_propertyLines (p : PropertyView) :
    docBlock 8 "example" ((p.sample.getD []).map sampleLine) <:+: propertyLines p := by
  rw [propertyLines, List.append_assoc (_ ++ _)]
  exact List.infix_append _ _ _

theorem propertyLines_infix_classLines {view : ClassView} {p : PropertyView} (h : p ∈ view.properties) :
    propertyLines p <:+: classLines view := by
  obtain ⟨before, after, hsplit⟩ := List.append_of_mem h
  have hproperties : propertyLines p <:+: view.properties.flatMap propertyLines := by
    rw [hsplit, List.flatMap_append, List.flatMap_cons]
    exact (List.prefix_append _ _).isInfix.trans (List.suffix_append _ _).isInfix
  unfold classLines
  exact (hproperties.trans (List.suffix_append _ _).isInfix).trans (List.prefix_append _ _).isInfix

def docRow (line : String) : List Char := trimRight isMargin ("        /// " ++ line).toList

theorem docRow_eq (line : String) :
    docRow line = "        ///".toList ++ trimRight isMargin (' ' :: line.toList) := by
  have hfront : ("        /// " ++ line).toList = "        ///".toList ++ (' ' :: line.toList) := by
    rw [String.toList_append]
    rfl
  rw [docRow, hfront]
  exact trimRight_append_of_last (c := '/') (by decide) (by decide) _

theorem mem_docRow {c : Char} (hc : isMargin c = false) (hslash : c ≠ '/') (line : String) :
    c ∈ docRow line ↔ c ∈ line.toList := by
  have hne : c ≠ ' ' := by
    rintro rfl
    cases hc
  have hfront : "        /// ".toList =
      [' ', ' ', ' ', ' ', ' ', ' ', ' ', ' ', '/', '/', '/', ' '] := by decide
  rw [docRow, mem_trimRight hc, String.toList_append, List.mem_append, hfront]
  simp [hne, hslash]

theorem rowsOf_doc {lines : List String} (h : ∀ line ∈ lines, '\n' ∉ line.toList) :
    rowsOf (lines.map (.doc 8)) = lines.map docRow := by
  induction lines with
  | nil => rfl
  | cons line lines ih =>
    obtain ⟨hline, hlines⟩ := List.forall_mem_cons.mp h
    have hsingle : '\n' ∉ (SourceLine.doc 8 line).text.toList := by
      rw [toList_doc, List.mem_append, not_or]
      exact ⟨not_mem_doc 8, hline⟩
    have hrow : rows (SourceLine.doc 8 line).text.toList = [docRow line] := by
      rw [rows, splitOn_of_not_mem hsingle]
      rfl
    rw [List.map_cons, rowsOf, List.flatMap_cons, hrow, ← rowsOf, ih hlines]
    rfl

/-- The text of a line of a sample: a tag as it is, and any other line without markup. -/
def sampleText (line : String) : String :=
  if line = Sample.openTag ∨ line = Sample.closeTag then line else markup line

theorem not_mem_sampleText {line : String} (h : '\n' ∉ line.toList) : '\n' ∉ (sampleText line).toList := by
  unfold sampleText
  split
  · exact h
  · exact not_mem_markup h

/-- Only a line that is a tag has an angle bracket. -/
theorem bracket_mem_docRow_iff (line : String) :
    ('<' ∉ docRow (sampleText line) ∧ '>' ∉ docRow (sampleText line)) ↔
      line ≠ Sample.openTag ∧ line ≠ Sample.closeTag := by
  rw [mem_docRow (by decide) (by decide), mem_docRow (by decide) (by decide), sampleText]
  split
  · rename_i htag
    rcases htag with rfl | rfl <;> decide
  · rename_i htag
    exact iff_of_true (not_mem_markup_bracket line) (not_or.mp htag)

theorem docBlock_sample (inner : List String) :
    docBlock 8 "example" ((Sample.openTag :: inner ++ [Sample.closeTag]).map sampleLine) =
      ("<example>" :: "<code>" :: inner.map sampleText ++ ["</code>", "</example>"]).map (.doc 8) := by
  have hopen : sampleLine Sample.openTag = .doc 8 "<code>" := rfl
  have hclose : sampleLine Sample.closeTag = .doc 8 "</code>" := rfl
  have hinner : inner.map sampleLine = (inner.map sampleText).map (.doc 8) := by
    rw [List.map_map]
    rfl
  simp [docBlock, hopen, hclose, hinner]

end SourceText

/-! ## Samples of fields -/

def Field.namesNumeric (f : Field) : Bool :=
  ((f.requiredType.map TypeReference.text).map Sample.isNumeric).getD false

def Field.sampleLines (f : Field) : List String :=
  lines (Sample.label f.fieldName ++ Sample.body (Sample.plainNumbers f.sample) f.namesNumeric)

def Field.sampleRows (f : Field) : List (List Char) :=
  "        /// <example>".toList :: "        /// <code>".toList ::
    f.sampleLines.map (fun line => SourceText.docRow (SourceText.sampleText line)) ++
      ["        /// </code>".toList, "        /// </example>".toList]

namespace Field
variable {f : Field}

theorem not_mem_sampleLines {line : String} (h : line ∈ f.sampleLines) : '\n' ∉ line.toList := by
  obtain ⟨piece, hpiece, rfl⟩ := List.mem_map.mp h
  rw [String.toList_ofList]
  exact not_mem_of_mem_splitOn hpiece

theorem rowsOf_sample (f : Field) :
    SourceText.rowsOf (SourceText.docBlock 8 "example"
      ((Sample.openTag :: f.sampleLines ++ [Sample.closeTag]).map SourceText.sampleLine)) = f.sampleRows := by
  have hexample : SourceText.docRow "<example>" = "        /// <example>".toList := by decide
  have hcode : SourceText.docRow "<code>" = "        /// <code>".toList := by decide
  have hcode' : SourceText.docRow "</code>" = "        /// </code>".toList := by decide
  have hexample' : SourceText.docRow "</example>" = "        /// </example>".toList := by decide
  rw [SourceText.docBlock_sample, SourceText.rowsOf_doc, sampleRows]
  · simp only [List.cons_append, List.map_cons, List.map_append, List.map_map, List.map_nil, hexample, hcode,
      hcode', hexample', Function.comp_def]
  · intro line hline
    simp only [List.cons_append, List.mem_cons, List.mem_append, List.mem_map, List.not_mem_nil,
      or_false] at hline
    rcases hline with rfl | rfl | ⟨line, hline, rfl⟩ | rfl | rfl
    · decide
    · decide
    · exact SourceText.not_mem_sampleText (not_mem_sampleLines hline)
    · decide
    · decide

theorem label_of_truthy {fieldName : Json} (h : fieldName.truthy = true) :
    ∃ rest, (Sample.label fieldName).toList = '"' :: rest := by
  rw [Sample.label, if_pos h]
  simp

theorem plainStarts_label {fieldName : Json} (h : '\n' ∉ (Sample.label fieldName).toList) :
    PlainStarts true (Sample.label fieldName).toList := by
  cases htruthy : fieldName.truthy with
  | true =>
    obtain ⟨rest, hrest⟩ := label_of_truthy htruthy
    rw [hrest, List.mem_cons, not_or] at h
    rw [hrest]
    exact PlainStarts.of_quote h.2
  | false =>
    rw [Sample.label, htruthy]
    trivial

theorem plainStarts_body {v : Json} (hv : ¬Sample.IsScalar v) (numeric : Bool) :
    PlainStarts true (Sample.body (Sample.plainNumbers v) numeric).toList := by
  have hwrite : Sample.body (Sample.plainNumbers v) numeric = (Sample.plainNumbers v).write := by
    cases v with
    | arr vs => rfl
    | obj ms => rfl
    | null | bool | int | float | str => exact (hv trivial).elim
  rw [hwrite, Json.write, String.toList_ofList]
  exact Json.plainStarts_writeChars _ 0 true

theorem not_mem_body {v : Json} (hv : Sample.IsScalar v)
    (htext : '\n' ∉ (Sample.scalarText (Sample.plainNumbers v)).toList) (numeric : Bool) :
    '\n' ∉ (Sample.body (Sample.plainNumbers v) numeric).toList := by
  rw [Sample.body_of_isScalar (Sample.isScalar_plainNumbers hv)]
  cases numeric with
  | true => exact htext
  | false => simpa using htext

/-- Tags come from line feeds only: a list or an object has none that the field name does not bring in, and
neither has a value on one line behind a field name. -/
theorem sampleLines_ne_tag (hlabel : '\n' ∉ (Sample.label f.fieldName).toList)
    (hvalue : ¬Sample.IsScalar f.sample ∨
      f.fieldName.truthy = true ∧ '\n' ∉ (Sample.scalarText (Sample.plainNumbers f.sample)).toList) :
    ∀ line ∈ f.sampleLines, line ≠ Sample.openTag ∧ line ≠ Sample.closeTag := by
  intro line hline
  refine PlainStarts.ne_tag ?_ hline
  rw [String.toList_append]
  by_cases hscalar : Sample.IsScalar f.sample
  · obtain ⟨htruthy, htext⟩ := hvalue.resolve_left (not_not_intro hscalar)
    obtain ⟨rest, hrest⟩ := label_of_truthy htruthy
    rw [hrest, List.mem_cons, not_or] at hlabel
    rw [hrest, List.cons_append]
    exact PlainStarts.of_quote (List.not_mem_append hlabel.2 (not_mem_body hscalar htext f.namesNumeric))
  · exact (plainStarts_label hlabel).append (plainStarts_body hscalar f.namesNumeric)

end Field

namespace SourceText
variable {s : Settings} {t : TemplateStore}

theorem shownSample_of_compileField {r : Resolver} {f : Field} {hasBase : Bool} {chosen : String}
    {p : Property} (hp : (r.compileField f hasBase chosen).outcome = .ok p)
    (hshown : s.addCodeExamples.truthy = true) (hsample : f.sample ≠ .null) :
    shownSample s p = some (Sample.openTag :: f.sampleLines ++ [Sample.closeTag]) := by
  obtain ⟨type, name, converter, -, -, -, rfl⟩ := Resolver.compileField_ok_iff.mp hp
  rw [shownSample, if_pos hshown]
  dsimp only
  split
  · rename_i hnull
    exact (hsample hnull).elim
  · rfl

theorem ne_nil_of_mem_sampleRows {f : Field} {row : List Char} (h : row ∈ f.sampleRows) : row ≠ [] := by
  have hrow (line : String) : docRow line ≠ [] := by
    rw [docRow_eq]
    exact List.append_ne_nil_of_left_ne_nil (by decide) _
  simp only [Field.sampleRows, List.cons_append, List.mem_cons, List.mem_append, List.mem_map, List.not_mem_nil,
    or_false] at h
  rcases h with rfl | rfl | ⟨line, -, rfl⟩ | rfl | rfl
  · decide
  · decide
  · exact hrow _
  · decide
  · decide

/-- The sample of a field stands in one piece in the text of its class. -/
theorem sampleRows_infix {r : Resolver} {m : Model} {c : ClassDefinition} {text : String}
    (ht : t.added? classTemplate = none) (hc : (r.compileClass m).outcome = .ok c)
    (htext : ofClass s t c = .ok text) (hshown : s.addCodeExamples.truthy = true) {f : Field} (hf : f ∈ m.fields)
    (hsample : f.sample ≠ .null) : f.sampleRows <:+: splitOn '\n' text.toList := by
  obtain ⟨view, hview, rfl⟩ := (ofClass_ok_iff ht).mp htext
  obtain ⟨base, shortName, names, -, -, -, hproperties, -⟩ := Resolver.compileClass_ok_iff.mp hc
  obtain ⟨converters, rendered, views, -, -, hviews, rfl⟩ := classView_ok hview
  obtain ⟨p, hpmem, hp⟩ := exists_right_of_forall₂ hproperties hf
  obtain ⟨shown, hmem, hview⟩ := exists_right_of_forall₂ (Attempt.mapM_ok_iff.mp hviews) hpmem
  obtain ⟨type, -, rfl⟩ := propertyView_ok hview
  have hblock := docBlock_infix_propertyLines ⟨p.name, type, shownDescription s p.description,
    shownSample s p, attributes converters p, declaration p type⟩
  rw [shownSample_of_compileField hp hshown hsample, Option.getD_some] at hblock
  rw [← f.rowsOf_sample]
  refine infix_lines_ofLines (solid_classLines _) (hblock.trans (propertyLines_infix_classLines ?_)) ?_
  · exact shownSample_of_compileField hp hshown hsample ▸ hmem
  · rw [f.rowsOf_sample]
    exact fun row hrow => ne_nil_of_mem_sampleRows hrow

/-- Between the tags of the code block no row has an angle bracket exactly if no line of the sample is such
a tag. Every other line is written without markup. -/
theorem sampleBlock_escaped_iff {r : Resolver} {m : Model} {c : ClassDefinition}
    (ht : t.added? classTemplate = none) (hc : (r.compileClass m).outcome = .ok c)
    (hshown : s.addCodeExamples.truthy = true) :
    (r.settings.Typed → s.Typed → ∃ text, ofClass s t c = .ok text) ∧
    ∀ f ∈ m.fields, f.sample ≠ .null → ∃ rows,
      (∀ text, ofClass s t c = .ok text →
        ("        /// <example>".toList :: "        /// <code>".toList :: rows ++
          ["        /// </code>".toList, "        /// </example>".toList]) <:+: splitOn '\n' text.toList) ∧
      List.Forall₂ (fun line row => line ≠ Sample.openTag → line ≠ Sample.closeTag → row = docRow (markup line))
        f.sampleLines rows ∧
      ((∀ row ∈ rows, '<' ∉ row ∧ '>' ∉ row) ↔
        ∀ line ∈ f.sampleLines, line ≠ Sample.openTag ∧ line ≠ Sample.closeTag) ∧
      ('\n' ∉ (Sample.label f.fieldName).toList →
        ¬Sample.IsScalar f.sample ∨
          f.fieldName.truthy = true ∧ '\n' ∉ (Sample.scalarText (Sample.plainNumbers f.sample)).toList →
        ∀ row ∈ rows, '<' ∉ row ∧ '>' ∉ row) := by
  refine ⟨fun hr hs => ?_, fun f hf hsample => ?_⟩
  · obtain ⟨view, hview⟩ := exists_classView hs (Resolver.worded_compileClass hr hc)
    exact ⟨_, (ofClass_ok_iff ht).mpr ⟨view, hview, rfl⟩⟩
  · have hbrackets : (∀ row ∈ f.sampleLines.map fun line => docRow (sampleText line), '<' ∉ row ∧ '>' ∉ row) ↔
        ∀ line ∈ f.sampleLines, line ≠ Sample.openTag ∧ line ≠ Sample.closeTag := by
      rw [List.forall_mem_map]
      exact forall₂_congr fun line _ => bracket_mem_docRow_iff line
    refine ⟨f.sampleLines.map fun line => docRow (sampleText line),
      fun text htext => sampleRows_infix ht hc htext hshown hf hsample, ?_, hbrackets,
      fun hlabel hvalue => hbrackets.mpr (Field.sampleLines_ne_tag hlabel hvalue)⟩
    rw [List.forall₂_map_right_iff, List.forall₂_same]
    intro line _ hopen hclose
    rw [sampleText, if_neg (not_or.mpr ⟨hopen, hclose⟩)]

/-- A text whose second line is the closing tag closes the code block too early. -/
theorem sampleBlock_escaped_iff_tag :
    let r : Resolver := ⟨⟨[], [], Vocabulary.standard⟩, Settings.default⟩
    let f := { Field.ofType "name" "https://schema.org/Text" with sample := .str "a\n</code>\nb" }
    Settings.default.addCodeExamples.truthy = true ∧ ∃ c text,
      (r.compileClass (Resolver.eventOf [f])).outcome = .ok c ∧ ofClass Settings.default .empty c = .ok text ∧
      (∃ rows, ("        /// <example>".toList :: "        /// <code>".toList :: rows ++
          ["        /// </code>".toList, "        /// </example>".toList]) <:+: splitOn '\n' text.toList ∧
        ¬∀ row ∈ rows, '<' ∉ row ∧ '>' ∉ row) ∧
      ["        /// <example>".toList, "        /// <code>".toList, "        /// \"name\": \"a".toList,
        "        /// </code>".toList, "        /// b\"".toList, "        /// </code>".toList,
        "        /// </example>".toList] <:+: splitOn '\n' text.toList := by
  intro r f
  obtain ⟨c, hc⟩ : ∃ c, (r.compileClass (Resolver.eventOf [f])).outcome = .ok c :=
    Attempt.exists_ok_of_isSome (by decide +kernel)
  have hf : f ∈ (Resolver.eventOf [f]).fields := by simp [Resolver.eventOf]
  obtain ⟨hexists, hblock⟩ := sampleBlock_escaped_iff (s := Settings.default) (t := .empty) rfl hc (by decide)
  obtain ⟨text, htext⟩ := hexists Settings.typed_default Settings.typed_default
  obtain ⟨rows, hrows, -, hescaped, -⟩ := hblock f hf (by simp [f])
  have hlines : f.sampleLines = ["\"name\": \"a", "</code>", "b\""] := by decide +kernel
  have htag : ¬∀ line ∈ f.sampleLines, line ≠ Sample.openTag ∧ line ≠ Sample.closeTag := by
    rw [hlines]
    exact fun h => (h "</code>" (by simp)).2 rfl
  have hshown : f.sampleRows = ["        /// <example>".toList, "        /// <code>".toList,
      "        /// \"name\": \"a".toList, "        /// </code>".toList, "        /// b\"".toList,
      "        /// </code>".toList, "        /// </example>".toList] := by
    rw [Field.sampleRows, hlines]
    decide +kernel
  exact ⟨by decide, c, text, hc, htext, ⟨rows, hrows text htext, fun h => htag (hescaped.mp h)⟩,
    hshown ▸ sampleRows_infix rfl hc htext (by decide) hf (by simp [f])⟩

end SourceText
end TypedVocabulary
