import TypedVocabulary.Classes.Definition
import TypedVocabulary.Classes.Example
import TypedVocabulary.Settings.Basic
import TypedVocabulary.Settings.Sources
import TypedVocabulary.Template
import TypedVocabulary.Text.Layout

/-! # Source text of definitions

A class or enumeration is first laid out as lines, each of them code or documentation, and then
written as one text. Settings decide on documentation, namespaces and converters. A template of the
same name that was added to the store takes the place of the built-in layout.
-/
namespace TypedVocabulary

inductive SourceLine
  | code (text : String)
  | doc (indent : Nat) (text : String)
  deriving DecidableEq

def SourceLine.text : SourceLine → String
  | code t => t
  | doc indent t => String.ofList (List.replicate indent ' ') ++ "/// " ++ t

namespace SourceText

def ofLines (lines : List SourceLine) : String :=
  Text.format (String.join (lines.map fun l => l.text ++ "\n"))

/-! ## What is shown of a definition -/

structure PropertyView where
  name : String
  type : String
  description : List String
  sample : Option (List String)
  attributes : List String
  declaration : String

structure ClassView where
  «namespace» : String
  name : String
  base : String
  type : String
  description : List String
  docsUrl : Option String
  properties : List PropertyView

structure EnumView where
  «namespace» : String
  name : String
  description : List String
  members : List EnumMember

structure Converters where
  duration : Json
  time : Json
  taggedUnion : Json

def Converters.ofSettings (s : Settings) : Attempt Converters := do
  let duration ← s.customValue "duration_converter" (.str Settings.durationConverterDefault)
  let time ← s.customValue "time_converter" (.str Settings.timeConverterDefault)
  let taggedUnion ← s.customValue "union_converter" (.str Settings.unionConverterDefault)
  return ⟨duration, time, taggedUnion⟩

def Converters.get (c : Converters) : Converter → Json
  | .none => .null
  | .duration => c.duration
  | .time => c.time
  | .taggedUnion => c.taggedUnion

def disinheritedMessage : String :=
  "This property is disinherited in this type, and must not be used."

def accessors : String := " { get; set; }"

def memberAttribute (p : Property) : String :=
  "[DataMember(Name = \"" ++ p.wireName.display ++ "\", EmitDefaultValue = false, Order = " ++
    (p.order.elim "None" toString) ++ ")]"

def converterAttribute (converter : Json) : List String :=
  if converter.truthy then ["[JsonConverter(typeof(" ++ converter.display ++ "))]"] else []

def attributes (c : Converters) (p : Property) : List String :=
  if p.disinherited then ["[Obsolete(\"" ++ disinheritedMessage ++ "\", true)]"]
  else memberAttribute p :: converterAttribute (c.get p.converter)

def declaration (p : Property) (type : String) : String :=
  (if p.disinherited then "public override "
    else if p.shadowing = .new then "public new virtual " else "public virtual ") ++
    type ++ " " ++ p.name ++ accessors

/-- Documentation that is switched off is empty. -/
def shownDescription (s : Settings) (description : List String) : List String :=
  if s.addComments.truthy then description else []

def shownSample (s : Settings) (p : Property) : Option (List String) :=
  if s.addCodeExamples.truthy then
    match p.sample with
    | .null => none
    | v => some (Sample.lines v p.fieldName ((p.requiredType.map Sample.isNumeric).getD false))
  else none

def propertyView (s : Settings) (c : Converters) (p : Property) : Attempt PropertyView := do
  let type ← p.type.text
  return ⟨p.name, type, shownDescription s p.description, shownSample s p, attributes c p,
    declaration p type⟩

def docsUrl (s : Settings) (name : String) : Option String :=
  if s.addComments.truthy && s.docsUrlPrefix.truthy then
    some (s.docsUrlPrefix.display ++ Text.lower name)
  else none

def classView (s : Settings) (c : ClassDefinition) : Attempt ClassView := do
  let converters ← Converters.ofSettings s
  let base ← c.base.render
  let properties ← c.properties.mapM (propertyView s converters)
  return ⟨s.namespace.display, c.name, base.display, c.type.display,
    shownDescription s c.description, docsUrl s c.name, properties⟩

def enumView (s : Settings) (e : EnumDefinition) : EnumView :=
  ⟨s.namespace.display, e.name, shownDescription s e.description, e.members⟩

/-! ## Lines -/

def docText (indent : Nat) (lines : List String) : List SourceLine :=
  lines.map fun l => .doc indent (Text.markup l)

def docBlock (indent : Nat) (tag : String) (lines : List SourceLine) : List SourceLine :=
  if lines.isEmpty then []
  else .doc indent ("<" ++ tag ++ ">") :: lines ++ [.doc indent ("</" ++ tag ++ ">")]

/-- The marks of a code block stay, all other lines are escaped. -/
def sampleLine (line : String) : SourceLine :=
  .doc 8 (if line = Sample.openTag ∨ line = Sample.closeTag then line else Text.markup line)

def docsLine (type url : String) : SourceLine :=
  .doc 4 ("This type is derived from " ++ Text.markup type ++ ", see <see href=\"" ++ url ++
    "\" /> for more information.")

def propertyLines (p : PropertyView) : List SourceLine :=
  docBlock 8 "summary" (docText 8 p.description) ++
    docBlock 8 "example" ((p.sample.getD []).map sampleLine) ++
    p.attributes.map (fun a => .code ("        " ++ a)) ++
    [.code ("        " ++ p.declaration), .code ""]

def classLines (c : ClassView) : List SourceLine :=
  [.code "using System;",
   .code "using System.Collections.Generic;",
   .code "using System.Runtime.Serialization;",
   .code "using Newtonsoft.Json;",
   .code "",
   .code ("namespace " ++ c.namespace),
   .code "\x7b"] ++
  docBlock 4 "summary" (docText 4 c.description ++ (c.docsUrl.map (docsLine c.type)).toList) ++
  [.code "    [DataContract]",
   .code ("    public partial class " ++ c.name ++ " : " ++ c.base),
   .code "    \x7b"] ++
  c.properties.flatMap propertyLines ++
  [.code "    \x7d",
   .code "\x7d"]

def memberLines (m : EnumMember) (mark : String) : List SourceLine :=
  [.code ("        [EnumMember(Value = " ++ Json.quote m.value ++ ")]"),
   .code ("        " ++ m.name ++ mark)]

/-- A comma follows every member but the last. -/
def allMemberLines : List EnumMember → List SourceLine
  | [] => []
  | [m] => memberLines m ""
  | m :: ms => memberLines m "," ++ allMemberLines ms

def enumLines (e : EnumView) : List SourceLine :=
  [.code "using System.Runtime.Serialization;",
   .code "using Newtonsoft.Json;",
   .code "using Newtonsoft.Json.Converters;",
   .code "",
   .code ("namespace " ++ e.namespace),
   .code "\x7b"] ++
  docBlock 4 "summary" (docText 4 e.description) ++
  [.code "    [JsonConverter(typeof(StringEnumConverter))]",
   .code ("    public enum " ++ e.name),
   .code "    \x7b"] ++
  allMemberLines e.members ++
  [.code "    \x7d",
   .code "\x7d"]

/-! ## The same views for templates -/

/-- A row of values in round brackets, with a comma after a single one. -/
def rowText : List String → String
  | [] => "()"
  | [x] => "(" ++ x ++ ",)"
  | xs => "(" ++ String.intercalate ", " xs ++ ")"

def textRow (lines : List String) : String := rowText (lines.map Json.literalText)

def textList (lines : List String) : String :=
  "[" ++ String.intercalate ", " (lines.map Json.literalText) ++ "]"

def propertyText (p : PropertyView) : String :=
  "\x7b'name': " ++ Json.literalText p.name ++ ", 'type': " ++ Json.literalText p.type ++
    ", 'description': " ++ textRow p.description ++
    ", 'code_example': " ++ (p.sample.elim "None" textList) ++
    ", 'decorators': " ++ textList p.attributes ++
    ", 'declaration': " ++ Json.literalText p.declaration ++ "\x7d"

def classContext (c : ClassView) : Template.Context :=
  [("namespace", c.namespace), ("class_name", c.name), ("base_class", c.base),
   ("type_name", c.type), ("description", textRow c.description),
   ("docs_url", c.docsUrl.getD "None"),
   ("properties", "[" ++ String.intercalate ", " (c.properties.map propertyText) ++ "]")]

def memberText (m : EnumMember) : String :=
  "EnumMember(member_name=" ++ Json.literalText m.name ++ ", value=" ++
    Json.literalText m.value ++ ")"

def enumContext (e : EnumView) : Template.Context :=
  [("namespace", e.namespace), ("enum_name", e.name), ("description", textRow e.description),
   ("members", rowText (e.members.map memberText))]

/-! ## Files -/

def classTemplate : String := "model.cs.j2"
def enumTemplate : String := "enum.cs.j2"

def ofClass (s : Settings) (t : TemplateStore) (c : ClassDefinition) : Attempt String := do
  let view ← classView s c
  match t.added? classTemplate with
  | some _ => return Text.format (← t.render classTemplate (classContext view))
  | none => return ofLines (classLines view)

def ofEnum (s : Settings) (t : TemplateStore) (e : EnumDefinition) : Attempt String := do
  let view := enumView s e
  match t.added? enumTemplate with
  | some _ => return Text.format (← t.render enumTemplate (enumContext view))
  | none => return ofLines (enumLines view)

def classPath (c : ClassDefinition) : String := "/models/" ++ c.name ++ ".cs"
def enumPath (e : EnumDefinition) : String := "/enums/" ++ e.name ++ ".cs"

end SourceText
end TypedVocabulary
