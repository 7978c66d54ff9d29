import TypedVocabulary.Json.Writer
import TypedVocabulary.Source.FileTree
import TypedVocabulary.Text.Digit

/-! # Templates

A template is literal text with placeholders between double braces: a name, which may be escaped for
markup or quoted as a string literal. Templates are kept in memory or lie in a directory; those in
memory come first. Placeholders are filled with the display text of values. A few names are
constants, and a few others mean something where the context has no value for them.
-/
namespace TypedVocabulary

/-! ## Escaping -/

def Text.markupChar (c : Char) : List Char :=
  if c = '&' then ['&', 'a', 'm', 'p', ';']
  else if c = '<' then ['&', 'l', 't', ';']
  else if c = '>' then ['&', 'g', 't', ';']
  else [c]

/-- A text in which no character is taken for markup. -/
def Text.markup (s : String) : String := String.ofList (s.toList.flatMap Text.markupChar)

inductive Escape
  | plain
  | markup
  | literal
  deriving DecidableEq

def Escape.apply : Escape → String → String
  | plain, s => s
  | markup, s => Text.markup s
  | literal, s => Json.quote s

/-! ## Templates as data -/

inductive Piece
  | text (s : String)
  | value (name : String) (escape : Escape)
  deriving DecidableEq

abbrev Template := List Piece

namespace Template

def trimBlanks (cs : List Char) : String := String.ofList (Text.trim Text.isSpace cs)

def placeholder (cs : List Char) : Piece :=
  match Text.cut? '|' cs with
  | none => .value (trimBlanks cs) .plain
  | some (name, escape) =>
    .value (trimBlanks name)
      (match trimBlanks escape with
      | "xml_text" => .markup
      | "cs_string" => .literal
      | _ => .plain)

def openMark : Char := '{'
def closeMark : Char := '}'

/-- Reads pieces; `passed` holds the characters of the current one, the last first. -/
def read (inside : Bool) (passed : List Char) : List Char → Template
  | [] =>
    if inside then [.text (String.ofList (openMark :: openMark :: passed.reverse))]
    else [.text (String.ofList passed.reverse)]
  | [c] => read inside (c :: passed) []
  | c :: d :: cs =>
    if !inside && c = openMark && d = openMark then
      .text (String.ofList passed.reverse) :: read true [] cs
    else if inside && c = closeMark && d = closeMark then
      placeholder passed.reverse :: read false [] cs
    else read inside (c :: passed) (d :: cs)

def ofText (s : String) : Template := read false [] (Text.unifyLineEnds s.toList)

abbrev Context := List (String × String)

def Context.find? (context : Context) (name : String) : Option String :=
  KeyedList.value? context name

/-- Names that no context changes. -/
def constant? : String → Option String
  | "true" => some "True"
  | "True" => some "True"
  | "false" => some "False"
  | "False" => some "False"
  | "none" => some "None"
  | "None" => some "None"
  | _ => none

/-- The name under which a template refers to itself; it is not free for a value. -/
def selfName : String := "self"

def selfText (title : Option String) : String :=
  "<TemplateReference " ++ title.elim "None" Json.literalText ++ ">"

/-- What names stand for where the context is silent. -/
def builtIn? (title : Option String) (name : String) : Option String :=
  if name = selfName then some (selfText title)
  else
    match name with
    | "range" => some "<class 'range'>"
    | "dict" => some "<class 'dict'>"
    | "cycler" => some "<class 'jinja2.utils.Cycler'>"
    | "joiner" => some "<class 'jinja2.utils.Joiner'>"
    | "namespace" => some "<class 'jinja2.utils.Namespace'>"
    | _ => none

/-- The text of a name: a constant, a value of the context, or a built-in meaning. -/
def meaning? (title : Option String) (context : Context) (name : String) : Option String :=
  constant? name <|> context.find? name <|> builtIn? title name

def fillPiece (title : Option String) (context : Context) : Piece → Except TemplateCause String
  | .text s => .ok s
  | .value name escape =>
    match meaning? title context name with
    | some s => .ok (escape.apply s)
    | none => .error (.undefinedName name)

def fill (title : Option String) (context : Context) (t : Template) :
    Except TemplateCause String :=
  return String.join (← t.mapM (fillPiece title context))

def fault (title : Option String) (cause : TemplateCause) : TemplateError :=
  title.elim (.inline cause) (.named · cause)

/-- The text of a template in a context, which has to leave the name of the template free. -/
def render (title : Option String) (context : Context) (t : Template) : Attempt String :=
  if (context.find? selfName).isSome then Attempt.wrongOperand
  else (t.fill title context).mapError fun cause => .template (fault title cause)

end Template

/-! ## Where templates are found -/

structure TemplateStore where
  /-- What is kept in memory is only asked to be a text when it is used. -/
  added : List (String × Json)
  files : FileTree
  directory : Option Path

namespace TemplateStore

def empty : TemplateStore := ⟨[], .empty, none⟩

def ofDirectory (files : FileTree) (directory : Path) : Attempt TemplateStore := do
  return ⟨[], files, if ← files.pathExists directory then some directory else none⟩

def add (s : TemplateStore) (name : String) (text : Json) : TemplateStore :=
  ⟨(name, text) :: s.added, s.files, s.directory⟩

def added? (s : TemplateStore) (name : String) : Option Json :=
  KeyedList.value? s.added name

/-- The path of a template name below the directory; none goes up. -/
def pathOf? (directory : Path) (name : String) : Option Path :=
  let names := (Text.splitOn '/' name.toList).map String.ofList
  if names.contains ".." then none
  else some (directory.append (names.filter fun n => n ≠ "" ∧ n ≠ "."))

def text? (s : TemplateStore) (name : String) : Attempt (Option String) :=
  match s.added? name with
  | some text => text.asOperand.map some
  | none =>
    match s.directory.bind fun d => pathOf? d name with
    | none => .ok none
    | some path =>
      if s.files.isFile path then
        match s.files.open path with
        | .ok content => (FileTree.decodeContent content).map some
        | .error _ => .ok none
      else .ok none

def get (s : TemplateStore) (name : String) : Attempt Template := do
  match ← s.text? name with
  | none => throw (.template (.named name (.notFound name)))
  | some text => return .ofText text

def render (s : TemplateStore) (name : String) (context : Template.Context) : Attempt String := do
  (← s.get name).render (some name) context

end TemplateStore
end TypedVocabulary
