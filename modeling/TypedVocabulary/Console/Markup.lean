import TypedVocabulary.Console.Emoji
import TypedVocabulary.Console.Handler
import TypedVocabulary.Console.Style
import TypedVocabulary.Failure

/-! # Console markup

Text for the console is marked up with tags in square brackets. A tag opens a style; a tag with a
slash closes the style it names, or the one opened last. Values are put into marked-up text as they
are, so tags in them count too. A backslash makes text of the tag behind it. Codes of emoji are
replaced in the text between tags. Without styles only that text remains.
-/
namespace TypedVocabulary.Markup

inductive Piece
  | text (cs : List Char)
  | tag (inside : List Char)

def startsTag (c : Char) : Bool :=
  ('a' ≤ c && c ≤ 'z') || c == '#' || c == '/' || c == '@'

def tag? : List Char → Option (List Char × List Char)
  | [] => none
  | c :: cs =>
    if startsTag c then
      match Text.cut? ']' cs with
      | some (inside, rest) => if inside.contains '[' then none else some (c :: inside, rest)
      | none => none
    else none

theorem cut?_length_lt {sep : Char} {cs before after : List Char}
    (h : Text.cut? sep cs = some (before, after)) : after.length < cs.length := by
  induction cs generalizing before with
  | nil => simp [Text.cut?] at h
  | cons c cs ih =>
    by_cases hc : c = sep
    · simp only [Text.cut?, hc, ↓reduceIte, Option.some.injEq, Prod.mk.injEq] at h
      simp [h.2]
    · simp only [Text.cut?, hc, ↓reduceIte, Option.map_eq_some_iff, Prod.mk.injEq] at h
      obtain ⟨⟨b, a⟩, hb, _, rfl⟩ := h
      exact Nat.lt_succ_of_lt (ih hb)

theorem tag?_length_lt {cs inside rest : List Char} (h : tag? cs = some (inside, rest)) :
    rest.length < cs.length := by
  cases cs with
  | nil => simp [tag?] at h
  | cons c cs =>
    simp only [tag?] at h
    split at h
    · split at h
      · next hcut =>
        split at h
        · simp at h
        · simp only [Option.some.injEq, Prod.mk.injEq] at h
          have := cut?_length_lt hcut
          rw [← h.2, List.length_cons]
          omega
      · simp at h
    · simp at h

def backslashes (n : Nat) : List Char := List.replicate n '\\'

/-- The pieces of a tag behind a run of characters, the last of them first. Of the backslashes in
front of a tag every two show one, and an odd one makes it text. -/
def tagPieces (run inside : List Char) : List Piece :=
  let passed := (run.takeWhile (· == '\\')).length
  [.text (run.drop passed).reverse, .text (backslashes (passed / 2)),
   if passed % 2 = 1 then .text ('[' :: inside ++ [']']) else .tag inside]

/-- A bracket that opens no tag; a backslash in front of it vanishes. -/
def addBracket : List Char → List Char
  | '\\' :: run => '[' :: run
  | run => '[' :: run

/-- Reads pieces; `run` holds the characters since the last tag, the last of them first. -/
def pieces (run : List Char) : List Char → List Piece
  | [] => [.text run.reverse]
  | '[' :: cs =>
    match h : tag? cs with
    | none => pieces (addBracket run) cs
    | some (inside, rest) =>
      have : rest.length < cs.length := tag?_length_lt h
      tagPieces run inside ++ pieces [] rest
  | c :: cs => pieces (c :: run) cs
  termination_by cs => cs.length

/-! ## Tags -/

structure Tag where
  name : String
  parameters : Option String

def unclosed {α : Type} : Attempt α := .error .markup

def ofStyle {α : Type} (x : Except Style.Fault α) : Attempt α :=
  match x with
  | .ok a => .ok a
  | .error _ => Attempt.outOfDomain

def splitTag (inside : List Char) : List Char × Option (List Char) :=
  match Text.cut? '=' inside with
  | some (name, parameters) => (name, some parameters)
  | none => (inside, none)

def namesHandler (t : Tag) : Bool := t.name.toList.head? = some '@'

/-- The style is looked up when the text is shown; one that is unknown changes nothing. -/
def checkStyle (t : Tag) : Attempt Unit :=
  match Style.read (t.name ++ (t.parameters.map (" " ++ ·)).getD "") with
  | .error .notNumber => Attempt.outOfDomain
  | _ => .ok ()

/-- The arguments of a handler are read when its tag is closed. -/
def checkClosed (t : Tag) : Attempt Unit :=
  if namesHandler t then
    let given := (t.parameters.getD "").toList
    if given.isEmpty || Handler.isWellFormed (Text.trim Text.isSpace given) then .ok ()
    else .error .markup
  else .ok ()

def closeNamed (name : String) : List Tag → Attempt (Tag × List Tag)
  | [] => unclosed
  | t :: tags =>
    if t.name = name then .ok (t, tags)
    else do
      let (closed, rest) ← closeNamed name tags
      return (closed, t :: rest)

def close (name : List Char) (tags : List Tag) : Attempt (Tag × List Tag) :=
  let name := Text.trim Text.isSpace name
  if name.isEmpty then
    match tags with
    | [] => unclosed
    | t :: tags => .ok (t, tags)
  else do closeNamed (← ofStyle (Style.normalName (String.ofList name))) tags

/-- The text of pieces. Styles are looked up at the end, after all tags have been read. -/
def textOf (tags seen : List Tag) : List Piece → Attempt (List Char)
  | [] => do
    (seen.filter (!namesHandler ·)).forM checkStyle
    return []
  | .text cs :: rest => return Console.withEmoji cs ++ (← textOf tags seen rest)
  | .tag inside :: rest => do
    match splitTag inside with
    | ('/' :: name, _) =>
      let (closed, tags) ← close name tags
      checkClosed closed
      textOf tags seen rest
    | (name, parameters) =>
      let name ← ofStyle (Style.normalName (String.ofList name))
      let tag : Tag := ⟨name, parameters.map String.ofList⟩
      textOf (tag :: tags) (tag :: seen) rest

def plain (s : String) : Attempt String :=
  return String.ofList (← textOf [] [] (pieces [] s.toList))

def styled (style text : String) : String := "[" ++ style ++ "]" ++ text ++ "[/" ++ style ++ "]"

end TypedVocabulary.Markup
