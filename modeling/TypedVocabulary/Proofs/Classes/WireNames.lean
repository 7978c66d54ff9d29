import TypedVocabulary.Proofs.Classes.ClassText
import TypedVocabulary.Proofs.Text.StringLiteral

/-! # Wire names in source text

The name under which a field is serialized stands between quotes as it is, while the values of an
enumeration are written with escapes. So a reader of the literal always finds the value of an enumeration,
up to characters that no literal can hold, and finds the wire name of a field only if nothing in it ends
the literal, ends the line or begins an escape.
-/
namespace TypedVocabulary
open Text StringLiteral

/-- The first line of the attribute that names a field to serialization. -/
def Field.memberLine (f : Field) : List Char :=
  trimRight isMargin
    (("        [DataMember(Name = \"" ++ f.wireName.display ++ "\", EmitDefaultValue = false, Order = " ++
      toString f.compiledOrder ++ ")]").toList.takeWhile (· != '\n'))

/-- The line of the attribute that names a member of an enumeration to serialization. -/
def EnumMember.valueLine (m : EnumMember) : List Char :=
  ("        [EnumMember(Value = " ++ Json.quote m.value ++ ")]").toList

/-! ## Literals -/

namespace Field
variable (f : Field)

def memberEnd : List Char :=
  ", EmitDefaultValue = false, Order = ".toList ++ (toString f.compiledOrder).toList ++ ")]".toList

def memberLiteral : List Char :=
  trimRight isMargin ((f.wireName.display.toList ++ '"' :: f.memberEnd).takeWhile (· != '\n'))

theorem memberLine_eq : f.memberLine = "        [DataMember(Name = \"".toList ++ f.memberLiteral := by
  have htext (front name close order back : String) {rest : List Char} (hclose : close.toList = '"' :: rest) :
      (front ++ name ++ close ++ order ++ back).toList =
        front.toList ++ (name.toList ++ '"' :: (rest ++ order.toList ++ back.toList)) := by
    simp [hclose]
  have hclose : "\", EmitDefaultValue = false, Order = ".toList =
      '"' :: ", EmitDefaultValue = false, Order = ".toList := by decide
  have hfront : ∀ c ∈ "        [DataMember(Name = \"".toList, (c != '\n') = true :=
    List.all_eq_true.mp (by decide)
  unfold memberLine memberLiteral memberEnd
  rewrite [htext _ _ _ _ _ hclose, List.takeWhile_append_of_pos hfront]
  exact trimRight_append_of_last (c := '"') (by decide) (by decide) _

theorem not_mem_memberEnd {c : Char} (hdigit : c.isDigit = false) (hsign : c ≠ '-')
    (hfront : c ∉ ", EmitDefaultValue = false, Order = ".toList) (hback : c ∉ ")]".toList) :
    c ∉ f.memberEnd := by
  unfold memberEnd
  simp only [List.mem_append, not_or]
  exact ⟨⟨hfront, not_mem_toString hdigit hsign _⟩, hback⟩

theorem trimRight_append_memberEnd (front : List Char) :
    trimRight isMargin (front ++ f.memberEnd) = front ++ f.memberEnd := by
  have hlast : (front ++ f.memberEnd).getLast? = some ']' := by
    unfold memberEnd
    simp only [List.getLast?_append]
    rfl
  exact trimRight_of_last hlast (by decide)

theorem denotes_memberLiteral_iff (plain : Char → Bool) :
    Denotes plain f.memberLiteral f.wireName.display ↔
      ∀ c ∈ f.wireName.display.toList, c ≠ '"' ∧ c ≠ '\\' ∧ c ≠ '\n' ∧ plain c = true := by
  have hquote : '"' ∉ f.memberEnd := f.not_mem_memberEnd (by decide) (by decide) (by decide) (by decide)
  have hfeed : '\n' ∉ f.memberEnd := f.not_mem_memberEnd (by decide) (by decide) (by decide) (by decide)
  have hbegin : f.memberLiteral <+:
      (f.wireName.display.toList ++ '"' :: f.memberEnd).takeWhile (· != '\n') :=
    List.rdropWhile_prefix _ _
  constructor
  · intro h
    obtain ⟨hclean, hname⟩ :=
      clean_of_denotes (hbegin.trans (List.takeWhile_prefix _)) hquote h
    intro c hc
    -- The whole name is on the line, so it has no line feed in it.
    have hkept := List.mem_takeWhile_imp (hbegin.subset (hname.subset hc))
    exact ⟨(hclean c hc).1, (hclean c hc).2.1, by simpa using hkept, (hclean c hc).2.2⟩
  · intro h
    have hall : ∀ c ∈ f.wireName.display.toList ++ '"' :: f.memberEnd, (c != '\n') = true := by
      intro c hc
      rcases List.mem_append.mp hc with hc | hc
      · simpa using (h c hc).2.2.1
      · rcases List.mem_cons.mp hc with rfl | hc
        · rfl
        · exact bne_iff_ne.mpr fun heq => hfeed (heq ▸ hc)
    have hliteral : f.memberLiteral = f.wireName.display.toList ++ '"' :: f.memberEnd := by
      rw [memberLiteral, List.takeWhile_eq_self_iff.mpr hall, List.append_cons,
        trimRight_append_memberEnd]
    rw [hliteral]
    exact denotes_of_clean fun c hc => ⟨(h c hc).1, (h c hc).2.1, (h c hc).2.2.2⟩

end Field

namespace EnumMember
variable (m : EnumMember)

def valueLiteral : List Char := m.value.toList.flatMap Json.quoteChar ++ '"' :: ")]".toList

theorem valueLine_eq : m.valueLine = "        [EnumMember(Value = \"".toList ++ m.valueLiteral := by
  have hquote : "        [EnumMember(Value = \"".toList = "        [EnumMember(Value = ".toList ++ ['"'] := by
    decide
  rw [valueLine, String.toList_append, String.toList_append, Json.quote, String.toList_ofList,
    Json.quoteChars, hquote, valueLiteral]
  simp

theorem getLast?_valueLine : m.valueLine.getLast? = some ']' := by
  rw [valueLine_eq, valueLiteral]
  simp only [List.getLast?_append]
  rfl

theorem lineFeed_not_mem_valueLine : '\n' ∉ m.valueLine := by
  have hvalue : '\n' ∉ m.value.toList.flatMap Json.quoteChar := by
    rw [List.mem_flatMap]
    rintro ⟨c, -, hc⟩
    exact lineFeed_not_mem_quoteChar c hc
  rw [valueLine_eq, valueLiteral]
  simp only [List.mem_append, not_or]
  exact ⟨by decide, hvalue, by decide⟩

theorem denotes_valueLiteral_iff (plain : Char → Bool) :
    Denotes plain m.valueLiteral m.value ↔ ∀ c ∈ m.value.toList, IsEscaped c ∨ plain c = true :=
  denotes_quoted_iff

end EnumMember

/-! ## Lines of the text -/

theorem Resolver.serialized_of_compileField {r : Resolver} {f : Field} {hasBase : Bool}
    {chosen : String} {p : Property} (h : (r.compileField f hasBase chosen).outcome = .ok p)
    (hf : f.obsolete = false) :
    p.disinherited = false ∧ p.order = some f.compiledOrder ∧ p.wireName = f.wireName := by
  have hcarries := carries_of_compileField h
  exact ⟨hcarries.disinherited.trans hf, hcarries.order_of_serialized hf,
    hcarries.wireName.trans (if_neg (Bool.eq_false_iff.mp hf))⟩

namespace SourceText
variable {s : Settings} {t : TemplateStore}

theorem sublist_lines_ofLines {ls : List SourceLine} (h : Solid (rowsOf ls)) {shown : List (List Char)}
    (hshown : shown.Sublist (rowsOf ls)) (hne : ∀ row ∈ shown, row ≠ []) :
    shown.Sublist (splitOn '\n' (ofLines ls).toList) := by
  have hself : shown.filter (fun row => !row.isEmpty) = shown :=
    List.filter_eq_self.mpr fun row hrow => by simpa using hne row hrow
  have hrows := hshown.filter fun row => !row.isEmpty
  rw [hself, ← filter_squeeze false] at hrows
  rw [lines_ofLines h]
  exact (hrows.trans List.filter_sublist).trans (List.sublist_append_left _ _)

theorem mem_rowsOf {ls : List SourceLine} {line : String} (h : .code line ∈ ls) :
    trimRight isMargin (line.toList.takeWhile (· != '\n')) ∈ rowsOf ls := by
  obtain ⟨pieces, hpieces⟩ := splitOn_eq_takeWhile '\n' line.toList
  refine List.mem_flatMap.mpr ⟨.code line, h, ?_⟩
  rw [SourceLine.text, rows, hpieces, List.map_cons]
  exact List.mem_cons_self

theorem memberLine_mem {r : Resolver} {f : Field} {hasBase : Bool} {chosen : String} {p : Property}
    {converters : Converters} {view : PropertyView}
    (hp : (r.compileField f hasBase chosen).outcome = .ok p) (hf : f.obsolete = false)
    (hview : propertyView s converters p = .ok view) : f.memberLine ∈ rowsOf (propertyLines view) := by
  obtain ⟨hserialized, horder, hname⟩ := Resolver.serialized_of_compileField hp hf
  obtain ⟨type, -, rfl⟩ := propertyView_ok hview
  have hline := indented_memberAttribute horder
  rewrite [hname] at hline
  refine mem_rowsOf (hline ▸ ?_)
  simp [propertyLines, attributes, hserialized]

theorem memberLines_sublist {r : Resolver} {hasBase : Bool} {chosen : Field → String}
    {converters : Converters} {fields : List Field} {properties : List Property}
    {views : List PropertyView}
    (hproperties : List.Forall₂ (fun f p => (r.compileField f hasBase (chosen f)).outcome = .ok p)
      fields properties)
    (hviews : List.Forall₂ (fun p view => propertyView s converters p = .ok view) properties views) :
    ((fields.filter fun f => !f.obsolete).map Field.memberLine).Sublist
      (rowsOf (views.flatMap propertyLines)) := by
  induction hproperties generalizing views with
  | nil => exact List.nil_sublist _
  | @cons f p fields properties hp _ ih =>
    cases hviews with
    | @cons _ view _ views hview hviews =>
      rw [List.flatMap_cons, rowsOf_append]
      cases hf : f.obsolete with
      | true =>
        -- A disinherited field has rows of its own, and none of them is a member line.
        rw [List.filter_cons_of_neg (by simp [hf])]
        exact (ih hviews).trans (List.sublist_append_right _ _)
      | false =>
        rw [List.filter_cons_of_pos (by simp [hf]), List.map_cons, ← List.singleton_append]
        exact (List.singleton_sublist.mpr (memberLine_mem hp hf hview)).append (ih hviews)

theorem valueLine_mem (m : EnumMember) (mark : String) : m.valueLine ∈ rowsOf (memberLines m mark) := by
  have hall : ∀ c ∈ m.valueLine, (c != '\n') = true :=
    fun c hc => bne_iff_ne.mpr fun heq => m.lineFeed_not_mem_valueLine (heq ▸ hc)
  have hrow : trimRight isMargin (m.valueLine.takeWhile (· != '\n')) = m.valueLine := by
    rw [List.takeWhile_eq_self_iff.mpr hall, trimRight_of_last m.getLast?_valueLine (by decide)]
  rw [← hrow]
  exact mem_rowsOf List.mem_cons_self

theorem valueLines_sublist (members : List EnumMember) :
    (members.map EnumMember.valueLine).Sublist (rowsOf (allMemberLines members)) := by
  induction members using allMemberLines.induct with
  | case1 => exact List.nil_sublist _
  | case2 m => exact List.singleton_sublist.mpr (valueLine_mem m "")
  | case3 m ms hms ih =>
    rw [allMemberLines, rowsOf_append, List.map_cons, ← List.singleton_append]
    · exact (List.singleton_sublist.mpr (valueLine_mem m ",")).append ih
    · exact hms

theorem solid_classLines (view : ClassView) : Solid (rowsOf (classLines view)) :=
  solid_code "using System;" "" (by decide) (by decide) _

theorem solid_enumLines (view : EnumView) : Solid (rowsOf (enumLines view)) :=
  solid_code "using System.Runtime.Serialization;" "" (by decide) (by decide) _

theorem memberLines_sublist_ofClass {r : Resolver} {m : Model} {c : ClassDefinition} {text : String}
    (ht : t.added? classTemplate = none) (hc : (r.compileClass m).outcome = .ok c)
    (htext : ofClass s t c = .ok text) :
    ((m.fields.filter fun f => !f.obsolete).map Field.memberLine).Sublist
      (splitOn '\n' text.toList) := by
  obtain ⟨view, hview, rfl⟩ := (ofClass_ok_iff ht).mp htext
  obtain ⟨base, shortName, names, -, -, -, hproperties, -⟩ := Resolver.compileClass_ok_iff.mp hc
  obtain ⟨converters, rendered, views, -, -, hviews, rfl⟩ := classView_ok hview
  have hmembers := memberLines_sublist hproperties (Attempt.mapM_ok_iff.mp hviews)
  refine sublist_lines_ofLines (solid_classLines _) (hmembers.trans ?_) ?_
  · rw [classLines, rowsOf_append, rowsOf_append]
    exact (List.sublist_append_right _ _).trans (List.sublist_append_left _ _)
  · rw [List.forall_mem_map]
    intro f _ hnil
    rw [f.memberLine_eq] at hnil
    exact absurd (List.append_eq_nil_iff.mp hnil).1 (by decide)

theorem sublist_lines_ofEnum {e : EnumDefinition} {text : String} {shown : List (List Char)}
    (ht : t.added? enumTemplate = none) (htext : ofEnum s t e = .ok text)
    (hshown : shown.Sublist (rowsOf (allMemberLines e.members))) (hne : ∀ row ∈ shown, row ≠ []) :
    shown.Sublist (splitOn '\n' text.toList) := by
  obtain rfl := (ofEnum_ok_iff ht).mp htext
  refine sublist_lines_ofLines (solid_enumLines _) (hshown.trans ?_) hne
  rw [enumLines, rowsOf_append, rowsOf_append]
  exact (List.sublist_append_right _ _).trans (List.sublist_append_left _ _)

theorem valueLines_sublist_ofEnum {e : EnumDefinition} {text : String}
    (ht : t.added? enumTemplate = none) (htext : ofEnum s t e = .ok text) :
    (e.members.map EnumMember.valueLine).Sublist (splitOn '\n' text.toList) := by
  refine sublist_lines_ofEnum ht htext (valueLines_sublist e.members) ?_
  rw [List.forall_mem_map]
  intro m _ hnil
  rw [m.valueLine_eq] at hnil
  exact absurd (List.append_eq_nil_iff.mp hnil).1 (by decide)

/-- Whatever characters may stand for themselves in a literal, the one of a field stands for its wire
name exactly if none of the name is a quote, a backslash or a line feed and all may stand for themselves,
and the one of an enumeration member stands for its value if those that are not escaped may. -/
theorem wireName_denoted_iff {r : Resolver} {m : Model} {c : ClassDefinition} (ht : BuiltIn t)
    (hc : (r.compileClass m).outcome = .ok c) (plain : Char → Bool) :
    (r.settings.Typed → s.Typed → ∃ text, ofClass s t c = .ok text) ∧
    (∀ text, ofClass s t c = .ok text →
      ((m.fields.filter fun f => !f.obsolete).map Field.memberLine).Sublist
        (splitOn '\n' text.toList)) ∧
    (∀ f ∈ m.fields, f.obsolete = false → ∃ literal,
      f.memberLine = "        [DataMember(Name = \"".toList ++ literal ∧
      (Denotes plain literal f.wireName.display ↔
        ∀ ch ∈ f.wireName.display.toList, ch ≠ '"' ∧ ch ≠ '\\' ∧ ch ≠ '\n' ∧ plain ch = true)) ∧
    ∀ e text, ofEnum s t e = .ok text →
      (e.members.map EnumMember.valueLine).Sublist (splitOn '\n' text.toList) ∧
      ∀ v ∈ e.members, ∃ literal,
        v.valueLine = "        [EnumMember(Value = \"".toList ++ literal ∧
        (Denotes plain literal v.value ↔ ∀ ch ∈ v.value.toList, IsEscaped ch ∨ plain ch = true) := by
  refine ⟨fun hr hs => ?_, fun text htext => memberLines_sublist_ofClass ht.1 hc htext,
    fun f _ _ => ⟨f.memberLiteral, f.memberLine_eq, f.denotes_memberLiteral_iff plain⟩,
    fun e text htext => ⟨valueLines_sublist_ofEnum ht.2 htext,
      fun v _ => ⟨v.valueLiteral, v.valueLine_eq, v.denotes_valueLiteral_iff plain⟩⟩⟩
  obtain ⟨view, hview⟩ := exists_classView hs (Resolver.worded_compileClass hr hc)
  exact ⟨_, (ofClass_ok_iff ht.1).mpr ⟨view, hview, rfl⟩⟩

/-- A quote in a wire name ends the literal, even where all characters may stand in one. The same name
as a value of an enumeration is read back. -/
theorem wireName_denoted_iff_quote :
    let r : Resolver := ⟨⟨[], [], Vocabulary.standard⟩, Settings.default⟩
    let f := { Field.ofType "name" "https://schema.org/Text" with memberName := .str "the \"name\"" }
    let v : EnumMember := ⟨"TheName", "the \"name\""⟩
    let e : EnumDefinition := ⟨.str "Kind", "Kind", .null, [v], [], false⟩
    BuiltIn .empty ∧ ∃ c text enumText literal literal',
      (r.compileClass (Resolver.eventOf [f])).outcome = .ok c ∧
      ofClass Settings.default .empty c = .ok text ∧ f.memberLine ∈ splitOn '\n' text.toList ∧
      f.memberLine = "        [DataMember(Name = \"".toList ++ literal ∧
      ¬Denotes (fun _ => true) literal "the \"name\"" ∧
      ofEnum Settings.default .empty e = .ok enumText ∧ v.valueLine ∈ splitOn '\n' enumText.toList ∧
      v.valueLine = "        [EnumMember(Value = \"".toList ++ literal' ∧
      Denotes (fun _ => true) literal' "the \"name\"" := by
  intro r f v e
  have ht : BuiltIn .empty := ⟨rfl, rfl⟩
  obtain ⟨c, hc⟩ : ∃ c, (r.compileClass (Resolver.eventOf [f])).outcome = .ok c :=
    Attempt.exists_ok_of_isSome (by decide +kernel)
  obtain ⟨hexists, hlines, hfields, henums⟩ := wireName_denoted_iff ht hc (fun _ => true)
  obtain ⟨text, htext⟩ := hexists Settings.typed_default Settings.typed_default
  obtain ⟨literal, hliteral, hiff⟩ := hfields f (by simp [Resolver.eventOf]) rfl
  obtain ⟨hvalues, hmembers⟩ := henums e _ ((ofEnum_ok_iff ht.2).mpr rfl)
  obtain ⟨literal', hliteral', hiff'⟩ := hmembers v (by simp [e])
  have hquote : ¬∀ ch ∈ f.wireName.display.toList,
      ch ≠ '"' ∧ ch ≠ '\\' ∧ ch ≠ '\n' ∧ (fun _ => true) ch = true :=
    fun h => (h '"' (by decide)).1 rfl
  refine ⟨ht, c, text, _, literal, literal', hc, htext, (hlines text htext).subset ?_, hliteral,
    fun h => hquote (hiff.mp h), (ofEnum_ok_iff ht.2).mpr rfl, hvalues.subset (by simp [e]), hliteral',
    hiff'.mpr fun ch _ => .inr rfl⟩
  simp [Resolver.eventOf, f, Field.ofType]

end SourceText

end TypedVocabulary
