import TypedVocabulary.Proofs.Classes.PlainProperties
import TypedVocabulary.Proofs.Classes.WordedType
import TypedVocabulary.Proofs.Generation.DocumentationSettings
import TypedVocabulary.Proofs.Naming.ConvertedName

/-! # Text of classes

The code of a class text is the header, the lines of each property in the order of the fields, and the
closing braces, as long as nothing that is written there has a line feed in it. Comments leave no line
behind, and as no two empty lines of code follow one another, layout keeps all of them.
-/
namespace TypedVocabulary
open Text

/-! ## Lines of code -/

def Text.tidy (line : String) : List Char := trimRight isMargin line.toList

/-- A line that shows something and has no slash in front of it. -/
structure Text.IsCode (line : String) : Prop where
  single : '\n' ∉ line.toList
  visible : ∃ c ∈ line.toList.find? (fun c => !isMargin c), c ≠ '/'

namespace Text.IsCode
variable {line : String}

instance : Decidable (IsCode line) :=
  decidable_of_iff
    ('\n' ∉ line.toList ∧ (line.toList.find? fun c => !isMargin c).any (· != '/') = true)
    ⟨fun h => ⟨h.1, by simpa [Option.any_eq_true] using h.2⟩,
      fun h => ⟨h.single, by simpa [Option.any_eq_true] using h.visible⟩⟩

theorem append {front rest : String} (hfront : IsCode front) (hrest : '\n' ∉ rest.toList) :
    IsCode (front ++ rest) := by
  obtain ⟨hsingle, c, hc, hslash⟩ := hfront
  refine ⟨?_, c, ?_, hslash⟩
  · rw [String.toList_append, List.mem_append, not_or]
    exact ⟨hsingle, hrest⟩
  · rw [String.toList_append, List.find?_append, Option.mem_def.mp hc, Option.some_or]
    rfl

theorem isComment_tidy (h : IsCode line) : isComment (tidy line) = false := by
  obtain ⟨-, c, hc, hslash⟩ := h
  have hhead : (trimLeft isMargin line.toList).head? = some c := by
    rw [trimLeft, ← List.find?_not_eq_head?_dropWhile]
    exact hc
  obtain ⟨rest, hrest⟩ := List.head?_eq_some_iff.mp hhead
  rw [tidy, isComment_trimRight, isComment, hrest, List.isPrefixOf_cons_cons]
  simp [Ne.symm hslash]

theorem tidy_ne_nil (h : IsCode line) : tidy line ≠ [] := by
  obtain ⟨-, c, hc, -⟩ := h
  intro hempty
  have hall := List.rdropWhile_eq_nil_iff.mp hempty c (List.mem_of_find?_eq_some hc)
  have hmargin := List.find?_some hc
  rw [hall] at hmargin
  cases hmargin

end Text.IsCode

/-- Lines of code with single empty lines between them; `gap` tells whether one has just gone by. -/
inductive Text.Spaced : Bool → List String → Prop
  | nil : Spaced false []
  | code {gap : Bool} {line : String} {rest : List String} (hline : IsCode line)
      (hrest : Spaced false rest) : Spaced gap (line :: rest)
  | empty {rest : List String} (hrest : Spaced true rest) : Spaced false ("" :: rest)

theorem Text.Spaced.of_true {lines : List String} (h : Spaced true lines) (gap : Bool) :
    Spaced gap lines := by
  cases h with
  | code hline hrest => exact .code hline hrest

namespace SourceText

theorem rowsOf_code_cons {line : String} (hline : '\n' ∉ line.toList) (rest : List SourceLine) :
    rowsOf (.code line :: rest) = tidy line :: rowsOf rest := by
  have hrows : rows (SourceLine.code line).text.toList = [tidy line] := by
    rw [rows, SourceLine.text, splitOn_of_not_mem hline]
    rfl
  rw [rowsOf, List.flatMap_cons, hrows, List.singleton_append, rowsOf]

theorem codeRows_cons {row : List Char} (hempty : row ≠ []) (hcode : isComment row = false)
    (gap : Bool) (rows : List (List Char)) :
    codeRows gap (row :: rows) = opening gap ++ row :: codeRows false rows := by
  have hsqueeze : squeeze false (row :: rows) = row :: squeeze false rows := by
    simp [squeeze, hempty]
  rw [codeRows_of_solid ⟨row, rows, rfl, hempty⟩, codeRows, hsqueeze, codeOf,
    List.filter_cons_of_pos (by simp [hcode]), codeRows, codeOf]

theorem codeRows_spaced {gap : Bool} {lines : List String} (h : Spaced gap lines) :
    codeRows gap (rowsOf (lines.map .code)) = opening gap ++ lines.map tidy := by
  induction h with
  | nil => rfl
  | @code gap line rest hline _ ih =>
    rw [List.map_cons, rowsOf_code_cons hline.single,
      codeRows_cons hline.tidy_ne_nil hline.isComment_tidy, ih]
    rfl
  | @empty rest _ ih =>
    -- The empty row is held back here and comes out as the opening of what follows.
    have hrow : tidy "" = [] := rfl
    have hstep (rows : List (List Char)) : codeRows false ([] :: rows) = codeRows true rows := rfl
    rw [List.map_cons, rowsOf_code_cons (by decide), hrow, hstep, ih, List.map_cons, hrow]
    rfl

theorem codeLines_spaced {line : String} {rest : List String} (hline : IsCode line)
    (h : Spaced false (line :: rest)) :
    codeLines (ofLines ((line :: rest).map .code)) = (line :: rest).map tidy ++ [[]] := by
  have hsolid : Solid (rowsOf ((line :: rest).map .code)) :=
    ⟨tidy line, _, rowsOf_code_cons hline.single _, hline.tidy_ne_nil⟩
  rw [codeLines_ofLines hsolid, codeRows_spaced h]
  rfl

end SourceText

/-! ## Texts on one line -/

theorem Text.not_mem_lowerFrom {cs : List Char} (hascii : ∀ c ∈ cs, c.toNat < 0x80)
    (hline : '\n' ∉ cs) (before : List Char) : '\n' ∉ lowerFrom before cs := by
  induction cs generalizing before with
  | nil => exact List.not_mem_nil
  | cons c cs ih =>
    have hc : c.toNat < 0x80 := hascii c List.mem_cons_self
    have hne : '\n' ≠ c := fun heq => hline (heq ▸ List.mem_cons_self)
    have hlower : '\n' ≠ c.toLower := by
      by_cases hupper : c.isUpper = true
      · have hsmall := Identifier.isLower_toLower hupper
        intro heq
        rw [← heq] at hsmall
        cases hsmall
      · rwa [Char.toLower_eq_of_not_isUpper hupper]
    rw [lowerFrom, if_neg (by omega), if_neg (by omega), lowerOne, if_pos hc, List.singleton_append,
      List.mem_cons, not_or]
    exact ⟨hlower, ih (fun d hd => hascii d (List.mem_cons_of_mem _ hd))
      (fun hmem => hline (List.mem_cons_of_mem _ hmem)) _⟩

theorem PlainName.not_mem_lower {name : String} (h : PlainName name) :
    '\n' ∉ (Text.lower name).toList := by
  rw [Text.lower, String.toList_ofList]
  refine not_mem_lowerFrom (fun c hc => ?_) (h.not_mem (by decide) (by decide)) []
  rcases h.chars c hc with halnum | rfl
  · rcases Identifier.isAlphanum_iff.mp halnum with hupper | hlower | hdigit
    · rw [Identifier.isUpper_iff] at hupper
      omega
    · rw [Identifier.isLower_iff] at hlower
      omega
    · have hcode : c.toNat ≤ 57 := (Char.isDigit_iff_toNat.mp hdigit).2
      omega
  · decide

theorem Text.not_mem_toString {c : Char} (hdigit : c.isDigit = false) (hsign : c ≠ '-') (n : Int) :
    c ∉ (toString n).toList := by
  have hnat (k : Nat) : c ∉ (toString k).toList := by
    intro hmem
    cases hdigit.symm.trans (isDigit_of_mem_toString hmem)
  cases n with
  | ofNat k => exact hnat k
  | negSucc k =>
    have htext : toString (Int.negSucc k) = "-" ++ toString (k + 1) := rfl
    rw [htext, String.toList_append, List.mem_append, not_or]
    exact ⟨fun hmem => hsign (List.mem_singleton.mp hmem), hnat (k + 1)⟩

/-- Nothing that is shown of a property has a line feed in it. -/
structure Property.OnOneLine (p : Property) : Prop where
  description : ∀ line ∈ p.description, '\n' ∉ line.toList
  wireName : '\n' ∉ p.wireName.display.toList
  type : ∀ type, p.type.text = .ok type → '\n' ∉ type.toList

/-- Nothing that is shown of a class or of the settings has a line feed in it. -/
structure ClassDefinition.OnOneLine (s : Settings) (c : ClassDefinition) : Prop where
  description : ∀ line ∈ c.description, '\n' ∉ line.toList
  type : '\n' ∉ c.type.display.toList
  base : ∀ base, c.base.render = .ok base → '\n' ∉ base.display.toList
  properties : ∀ p ∈ c.properties, p.OnOneLine
  «namespace» : '\n' ∉ s.namespace.display.toList
  docsUrlPrefix : '\n' ∉ s.docsUrlPrefix.display.toList
  converters : ∀ converters, SourceText.Converters.ofSettings s = .ok converters →
    ∀ p ∈ c.properties, '\n' ∉ (converters.get p.converter).display.toList

instance (p : Property) : Decidable p.OnOneLine :=
  decidable_of_iff
    ((∀ line ∈ p.description, '\n' ∉ line.toList) ∧ '\n' ∉ p.wireName.display.toList ∧
      ∀ type, p.type.text = .ok type → '\n' ∉ type.toList)
    ⟨fun h => ⟨h.1, h.2.1, h.2.2⟩, fun h => ⟨h.description, h.wireName, h.type⟩⟩

instance (s : Settings) (c : ClassDefinition) : Decidable (c.OnOneLine s) :=
  decidable_of_iff
    ((∀ line ∈ c.description, '\n' ∉ line.toList) ∧ '\n' ∉ c.type.display.toList ∧
      (∀ base, c.base.render = .ok base → '\n' ∉ base.display.toList) ∧
      (∀ p ∈ c.properties, p.OnOneLine) ∧ '\n' ∉ s.namespace.display.toList ∧
      '\n' ∉ s.docsUrlPrefix.display.toList ∧
      ∀ converters, SourceText.Converters.ofSettings s = .ok converters →
        ∀ p ∈ c.properties, '\n' ∉ (converters.get p.converter).display.toList)
    ⟨fun h => ⟨h.1, h.2.1, h.2.2.1, h.2.2.2.1, h.2.2.2.2.1, h.2.2.2.2.2.1, h.2.2.2.2.2.2⟩,
      fun h => ⟨h.description, h.type, h.base, h.properties, h.namespace, h.docsUrlPrefix,
        h.converters⟩⟩

theorem ClassDefinition.OnOneLine.contained {s : Settings} {c : ClassDefinition}
    (h : c.OnOneLine s) (hname : PlainName c.name) : c.Contained s := by
  have hlines {lines : List String} (hlines : ∀ line ∈ lines, '\n' ∉ line.toList) :
      ∀ line ∈ lines, Text.Contained (markup line) :=
    fun line hline => contained_of_not_mem (not_mem_markup (hlines line hline))
  refine ⟨hlines h.description, fun _ => ?_, fun p hp => hlines (h.properties p hp).description⟩
  rw [SourceText.docsLine, SourceText.commented_doc_iff]
  refine contained_of_not_mem ?_
  simp only [String.toList_append, List.mem_append, not_or]
  exact ⟨⟨⟨⟨by decide, not_mem_markup h.type⟩, by decide⟩, h.docsUrlPrefix, hname.not_mem_lower⟩,
    by decide⟩

/-! ## Code of a class -/

section
open SourceText
variable (s : Settings) (converters : Converters)

/-- The lines of a property. A disinherited one overrides and is marked for it, any other is serialized
under its wire name and at its position, by a converter if one is configured for it. -/
inductive Property.Code (p : Property) : List String → Prop
  | disinherited {type : String} (hp : p.disinherited = true) (htype : p.type.text = .ok type) :
    Code p
      ["        [Obsolete(\"This property is disinherited in this type, and must not be used.\", true)]",
       "        public override " ++ type ++ " " ++ p.name ++ " { get; set; }",
       ""]
  | serialized {type : String} {order : Int} (hp : p.disinherited = false)
      (htype : p.type.text = .ok type) (horder : p.order = some order) :
    Code p
      (("        [DataMember(Name = \"" ++ p.wireName.display ++ "\", EmitDefaultValue = false, Order = " ++
          toString order ++ ")]") ::
        (if (converters.get p.converter).truthy then
          ["        [JsonConverter(typeof(" ++ (converters.get p.converter).display ++ "))]"] else []) ++
        ["        public " ++ (if p.shadowing = .new then "new " else "") ++ "virtual " ++ type ++ " " ++
          p.name ++ " { get; set; }",
         ""])

/-- The lines of a class: its header, those of its properties in their order, and its end. -/
inductive ClassDefinition.Code (c : ClassDefinition) : List String → Prop
  | intro {converters : Converters} {base : Json} {bodies : List (List String)}
      (hconverters : Converters.ofSettings s = .ok converters) (hbase : c.base.render = .ok base)
      (hbodies : List.Forall₂ (Property.Code converters) c.properties bodies) :
    Code c
      (["using System;",
        "using System.Collections.Generic;",
        "using System.Runtime.Serialization;",
        "using Newtonsoft.Json;",
        "",
        "namespace " ++ s.namespace.display,
        "\x7b",
        "    [DataContract]",
        "    public partial class " ++ c.name ++ " : " ++ base.display,
        "    \x7b"] ++ bodies.flatten ++
       ["    \x7d",
        "\x7d"])

end

theorem Property.Code.unique {converters : SourceText.Converters} {p : Property}
    {lines lines' : List String} (h : p.Code converters lines) (h' : p.Code converters lines') :
    lines = lines' := by
  cases h with
  | disinherited hp htype =>
    cases h' with
    | disinherited _ htype' =>
      obtain rfl := Except.ok.inj (htype.symm.trans htype')
      rfl
    | serialized hp' => cases hp.symm.trans hp'
  | serialized hp htype horder =>
    cases h' with
    | disinherited hp' => cases hp.symm.trans hp'
    | serialized _ htype' horder' =>
      obtain rfl := Except.ok.inj (htype.symm.trans htype')
      obtain rfl := Option.some.inj (horder.symm.trans horder')
      rfl

theorem ClassDefinition.Code.unique {s : Settings} {c : ClassDefinition} {lines lines' : List String}
    (h : c.Code s lines) (h' : c.Code s lines') : lines = lines' := by
  obtain @⟨converters, base, bodies, hconverters, hbase, hbodies⟩ := h
  obtain ⟨hconverters', hbase', hbodies'⟩ := h'
  obtain rfl := Except.ok.inj (hconverters.symm.trans hconverters')
  obtain rfl := Except.ok.inj (hbase.symm.trans hbase')
  have hproperty : Relator.RightUnique (Property.Code converters) := fun _ _ _ => Property.Code.unique
  obtain rfl := hproperty.forall₂ hbodies hbodies'
  rfl

theorem Resolver.order_of_compileClass {r : Resolver} {m : Model} {c : ClassDefinition}
    (h : (r.compileClass m).outcome = .ok c) :
    ∀ p ∈ c.properties, p.disinherited = false → ∃ order, p.order = some order := by
  intro p hp hserialized
  obtain ⟨f, -, hcarries⟩ := exists_left_of_forall₂ (carries_of_compileClass h) hp
  exact ⟨_, hcarries.order_of_serialized (hcarries.disinherited.symm.trans hserialized)⟩

namespace SourceText
variable {s : Settings} {converters : Converters} {p : Property} {view : PropertyView}

theorem indented_memberAttribute {order : Int} (horder : p.order = some order) :
    "        " ++ memberAttribute p =
      "        [DataMember(Name = \"" ++ p.wireName.display ++ "\", EmitDefaultValue = false, Order = " ++
        toString order ++ ")]" := by
  have hfront : "        [DataMember(Name = \"" = "        " ++ "[DataMember(Name = \"" := by decide
  unfold memberAttribute
  rewrite [horder, Option.elim_some, hfront]
  simp only [String.append_assoc]

theorem indented_converterAttribute (converter : Json) :
    (converterAttribute converter).map (fun a => SourceLine.code ("        " ++ a)) =
      (if converter.truthy then
        ["        [JsonConverter(typeof(" ++ converter.display ++ "))]"] else []).map .code := by
  have hfront : "        [JsonConverter(typeof(" = "        " ++ "[JsonConverter(typeof(" := by decide
  unfold converterAttribute
  rewrite [hfront]
  cases converter.truthy with
  | true => simp only [if_true, List.map_cons, List.map_nil, String.append_assoc]
  | false => rfl

theorem indented_declaration (hp : p.disinherited = false) (type : String) :
    "        " ++ declaration p type =
      "        public " ++ (if p.shadowing = .new then "new " else "") ++ "virtual " ++ type ++ " " ++
        p.name ++ " { get; set; }" := by
  have hfront : "        public " = "        " ++ "public " := by decide
  unfold declaration accessors
  rewrite [hp, if_neg Bool.false_ne_true, hfront]
  by_cases hnew : p.shadowing = .new
  · have hmodifier : "public new virtual " = "public " ++ ("new " ++ "virtual ") := by decide
    rewrite [if_pos hnew, if_pos hnew, hmodifier]
    simp only [String.append_assoc]
  · have hmodifier : "public virtual " = "public " ++ ("" ++ "virtual ") := by decide
    rewrite [if_neg hnew, if_neg hnew, hmodifier]
    simp only [String.append_assoc]

theorem code_propertyView (horder : p.disinherited = false → ∃ order, p.order = some order)
    (h : propertyView s converters p = .ok view) :
    ∃ lines, p.Code converters lines ∧ (propertySection view).2 = lines.map .code := by
  obtain ⟨type, htype, rfl⟩ := propertyView_ok h
  cases hp : p.disinherited with
  | true =>
    refine ⟨_, .disinherited hp htype, ?_⟩
    simp only [propertySection, attributes, declaration, hp, if_true, List.map_cons, List.map_nil,
      ← String.append_assoc]
    rfl
  | false =>
    obtain ⟨order, horder⟩ := horder hp
    refine ⟨_, .serialized hp htype horder, ?_⟩
    simp only [propertySection, attributes, hp, Bool.false_eq_true, if_false, List.map_cons,
      List.map_append, List.cons_append, indented_memberAttribute horder, indented_converterAttribute,
      indented_declaration hp, List.map_nil]

theorem spaced_property {lines rest : List String} (h : p.Code converters lines) (hp : p.OnOneLine)
    (hname : PlainName p.name) (hconverter : '\n' ∉ (converters.get p.converter).display.toList)
    (hrest : Spaced true rest) (gap : Bool) : Spaced gap (lines ++ rest) := by
  have hname : '\n' ∉ p.name.toList := hname.not_mem (by decide) (by decide)
  cases h with
  | @disinherited type _ htype =>
    have hdeclaration : IsCode ("        public override " ++ type ++ " " ++ p.name ++
        " { get; set; }") :=
      (((IsCode.append (by decide) (hp.type _ htype)).append (by decide)).append hname).append
        (by decide)
    exact .code (by decide) (.code hdeclaration (.empty hrest))
  | @serialized type order _ htype _ =>
    have hmember : IsCode ("        [DataMember(Name = \"" ++ p.wireName.display ++
        "\", EmitDefaultValue = false, Order = " ++ toString order ++ ")]") :=
      (((IsCode.append (by decide) hp.wireName).append (by decide)).append
        (not_mem_toString (by decide) (by decide) order)).append (by decide)
    have hmodifier : '\n' ∉ (if p.shadowing = .new then "new " else "").toList := by
      split <;> decide
    have hdeclaration : IsCode ("        public " ++ (if p.shadowing = .new then "new " else "") ++
        "virtual " ++ type ++ " " ++ p.name ++ " { get; set; }") :=
      (((((IsCode.append (by decide) hmodifier).append (by decide)).append (hp.type _ htype)).append
        (by decide)).append hname).append (by decide)
    have hend : Spaced false (["        public " ++ (if p.shadowing = .new then "new " else "") ++
        "virtual " ++ type ++ " " ++ p.name ++ " { get; set; }", ""] ++ rest) :=
      .code hdeclaration (.empty hrest)
    rw [List.append_assoc, List.cons_append]
    refine .code hmember ?_
    split
    · have hattribute : IsCode ("        [JsonConverter(typeof(" ++
          (converters.get p.converter).display ++ "))]") :=
        (IsCode.append (by decide) hconverter).append (by decide)
      exact .code hattribute hend
    · exact hend

theorem spaced_properties {properties : List Property} {bodies : List (List String)}
    (h : List.Forall₂ (Property.Code converters) properties bodies)
    (hline : ∀ p ∈ properties, p.OnOneLine) (hname : ∀ p ∈ properties, PlainName p.name)
    (hconverter : ∀ p ∈ properties, '\n' ∉ (converters.get p.converter).display.toList)
    {rest : List String} (hrest : Spaced true rest) : Spaced true (bodies.flatten ++ rest) := by
  induction h with
  | nil => exact hrest
  | @cons p lines properties bodies hp _ ih =>
    rw [List.forall_mem_cons] at hline hname hconverter
    rw [List.flatten_cons, List.append_assoc]
    exact spaced_property hp hline.1 hname.1 hconverter.1
      (ih hline.2 hname.2 hconverter.2) true

theorem spaced_class {c : ClassDefinition} {lines : List String} (h : c.Code s lines)
    (hline : c.OnOneLine s) (hname : PlainName c.name) (hnames : ∀ p ∈ c.properties, PlainName p.name) :
    ∃ first rest, lines = first :: rest ∧ IsCode first ∧ Spaced false lines := by
  obtain @⟨converters, base, bodies, hconverters, hbase, hbodies⟩ := h
  have hnamespace : IsCode ("namespace " ++ s.namespace.display) :=
    IsCode.append (by decide) hline.namespace
  have hclass : IsCode ("    public partial class " ++ c.name ++ " : " ++ base.display) :=
    ((IsCode.append (by decide) (hname.not_mem (by decide) (by decide))).append (by decide)).append
      (hline.base _ hbase)
  have hclosing : Spaced true ["    \x7d", "\x7d"] :=
    .code (by decide) (.code (by decide) .nil)
  have hproperties := spaced_properties hbodies hline.properties hnames
    (hline.converters _ hconverters) hclosing
  have husing : IsCode "using System;" := by decide
  exact ⟨_, _, rfl, husing, .code husing (.code (by decide) (.code (by decide) (.code (by decide)
    (.empty (.code hnamespace (.code (by decide) (.code (by decide) (.code hclass
      (.code (by decide) (hproperties.of_true false))))))))))⟩

theorem code_propertyViews {properties : List Property} {views : List PropertyView}
    (h : List.Forall₂ (fun p view => propertyView s converters p = .ok view) properties views)
    (horder : ∀ p ∈ properties, p.disinherited = false → ∃ order, p.order = some order) :
    ∃ bodies, List.Forall₂ (Property.Code converters) properties bodies ∧
      views.flatMap (fun view => (propertySection view).2) = bodies.flatten.map .code := by
  induction h with
  | nil => exact ⟨[], .nil, rfl⟩
  | @cons p view properties views hp _ ih =>
    rw [List.forall_mem_cons] at horder
    obtain ⟨lines, hlines, hview⟩ := code_propertyView horder.1 hp
    obtain ⟨bodies, hbodies, hviews⟩ := ih horder.2
    refine ⟨lines :: bodies, .cons hlines hbodies, ?_⟩
    rw [List.flatMap_cons, hview, hviews, List.flatten_cons, List.map_append]

theorem code_classView {c : ClassDefinition} {view : ClassView}
    (horder : ∀ p ∈ c.properties, p.disinherited = false → ∃ order, p.order = some order)
    (h : classView s c = .ok view) : ∃ lines, c.Code s lines ∧ classLines view.bare = lines.map .code := by
  obtain ⟨converters, base, views, hconverters, hbase, hviews, rfl⟩ := classView_ok h
  obtain ⟨bodies, hbodies, hflat⟩ := code_propertyViews (Attempt.mapM_ok_iff.mp hviews) horder
  refine ⟨_, .intro hconverters hbase hbodies, ?_⟩
  rw [classLines_bare]
  simp only [classSections, classHeader, classSection, closing, List.flatMap_cons, List.flatMap_append,
    List.flatMap_map, hflat, List.map_append, List.flatMap_nil]
  rfl

/-- The text of a class that was compiled is its code with comments between, over any settings for
which nothing that is shown has a line feed in it. -/
theorem codeLines_ofClass {r : Resolver} {m : Model} {c : ClassDefinition} {t : TemplateStore}
    (ht : t.added? classTemplate = none) (hc : (r.compileClass m).outcome = .ok c)
    (hline : c.OnOneLine s) :
    (∀ text, ofClass s t c = .ok text →
      ∃ lines, c.Code s lines ∧ codeLines text = lines.map tidy ++ [[]]) ∧
    (r.settings.Typed → s.Typed → ∃ text, ofClass s t c = .ok text) := by
  obtain ⟨hname, hnames⟩ := Resolver.plainNames_of_compileClass hc
  constructor
  · intro text htext
    obtain ⟨view, hview, rfl⟩ := (ofClass_ok_iff ht).mp htext
    have hdocumented : classView (s.documented s.addComments s.addCodeExamples) c = .ok view := hview
    have hcontained : view.Contained :=
      (contained_classView_iff hdocumented).mpr fun _ => hline.contained hname
    -- Comments can be left out, and what is left of the text are lines of code.
    obtain ⟨lines, hlines, hbare⟩ := code_classView (Resolver.order_of_compileClass hc) hview
    obtain ⟨first, rest, rfl, hfirst, hspaced⟩ := spaced_class hlines hline hname hnames
    refine ⟨_, hlines, ?_⟩
    rw [(codeLines_class_iff (wellFormed_classView hview)).mpr hcontained, hbare,
      codeLines_spaced hfirst hspaced]
  · intro hr hs
    obtain ⟨view, hview⟩ := exists_classView hs (Resolver.worded_compileClass hr hc)
    exact ⟨_, (ofClass_ok_iff ht).mpr ⟨view, hview, rfl⟩⟩

/-- A property that hides an inherited one, one with a converter and a disinherited one, under some
documentation. -/
theorem codeLines_ofClass_event :
    let r : Resolver := ⟨⟨[], [], Vocabulary.standard⟩, Settings.default⟩
    let text := "https://schema.org/Text"
    let m := { Resolver.eventOf [
        { Field.ofType "name" text with derivedFromSchema := true, description := ["Its name."] },
        { Field.ofType "length" "https://schema.org/Duration" with order := 1 },
        { Field.ofType "level" text with obsolete := true }] with description := ["An event."] }
    let expected :=
      ["using System;",
       "using System.Collections.Generic;",
       "using System.Runtime.Serialization;",
       "using Newtonsoft.Json;",
       "",
       "namespace OpenActive.NET",
       "\x7b",
       "    [DataContract]",
       "    public partial class Event : Schema.NET.Event",
       "    \x7b",
       "        [DataMember(Name = \"name\", EmitDefaultValue = false, Order = 0)]",
       "        public new virtual string Name { get; set; }",
       "",
       "        [DataMember(Name = \"length\", EmitDefaultValue = false, Order = 1)]",
       "        [JsonConverter(typeof(OpenActiveTimeSpanToISO8601DurationValuesConverter))]",
       "        public virtual TimeSpan? Length { get; set; }",
       "",
       "        [Obsolete(\"This property is disinherited in this type, and must not be used.\", true)]",
       "        public override string Level { get; set; }",
       "",
       "    \x7d",
       "\x7d"]
    TemplateStore.empty.added? classTemplate = none ∧
      ∃ c text, (r.compileClass m).outcome = .ok c ∧ c.OnOneLine Settings.default ∧
        ofClass Settings.default .empty c = .ok text ∧ c.Code Settings.default expected ∧
        codeLines text = expected.map tidy ++ [[]] := by
  intro r text m expected
  obtain ⟨c, hc, hline, hexpected⟩ : ∃ c, (r.compileClass m).outcome = .ok c ∧
      c.OnOneLine Settings.default ∧ ∀ view, classView Settings.default c = .ok view →
        classLines view.bare = expected.map .code := Attempt.exists_ok_of_decide (by decide +kernel)
  obtain ⟨hcode, hexists⟩ := codeLines_ofClass (t := .empty) rfl hc hline
  obtain ⟨text, htext⟩ := hexists Settings.typed_default Settings.typed_default
  obtain ⟨lines, hlines, heq⟩ := hcode text htext
  obtain ⟨view, hview, -⟩ := (ofClass_ok_iff rfl).mp htext
  obtain ⟨lines', hlines', hbare⟩ := code_classView (Resolver.order_of_compileClass hc) hview
  have hinjective : Function.Injective SourceLine.code := fun _ _ => SourceLine.code.inj
  obtain rfl : lines' = expected := hinjective.list_map (hbare.symm.trans (hexpected view hview))
  rw [hlines.unique hlines'] at heq
  exact ⟨rfl, c, text, hc, hline, htext, hlines', heq⟩

end SourceText

end TypedVocabulary
