import TypedVocabulary.Console.EmojiCodes
import TypedVocabulary.KeyedList
import TypedVocabulary.Text.Digit
import TypedVocabulary.Text.Lowercase

/-! # Emoji in text for the console

A code between colons stands for an emoji. Behind a hyphen the code may ask for the variant that
looks like text or like a picture. A code that is not known stays as it is written.
-/
namespace TypedVocabulary.Console

def emojiOf? (code : String) : Option String :=
  emojiCodes.findSome? fun part => KeyedList.value? part code

/-- A code without the ending that asks for a variant, and the mark of that variant. -/
def splitVariant (code : List Char) : List Char × List Char :=
  if "-emoji".toList.isSuffixOf code then (code.take (code.length - 6), ['\ufe0f'])
  else if "-text".toList.isSuffixOf code then (code.take (code.length - 5), ['\ufe0e'])
  else (code, [])

def emojiChars? (code : List Char) : Option (List Char) :=
  let (name, mark) := splitVariant code
  (emojiOf? (Text.lower (String.ofList name))).map fun emoji => emoji.toList ++ mark

/-- What stands before the next colon, if there is one before any space, and what follows it. -/
def code? : List Char → Option (List Char × List Char)
  | [] => none
  | c :: cs =>
    if c = ':' then some ([], cs)
    else if Text.isSpace c then none
    else (code? cs).map fun (code, rest) => (c :: code, rest)

theorem code?_length_lt {cs code rest : List Char} (h : code? cs = some (code, rest)) :
    rest.length < cs.length := by
  induction cs generalizing code with
  | nil => simp [code?] at h
  | cons c cs ih =>
    simp only [code?] at h
    split at h
    · simp only [Option.some.injEq, Prod.mk.injEq] at h
      simp [h.2]
    · split at h
      · simp at h
      · simp only [Option.map_eq_some_iff, Prod.mk.injEq] at h
        obtain ⟨⟨b, a⟩, hb, _, rfl⟩ := h
        exact Nat.lt_succ_of_lt (ih hb)

def withEmoji : List Char → List Char
  | [] => []
  | c :: cs =>
    if c = ':' then
      match h : code? cs with
      | none => c :: withEmoji cs
      | some (code, rest) =>
        have : rest.length < cs.length := code?_length_lt h
        (emojiChars? code).getD (c :: code ++ [c]) ++ withEmoji rest
    else c :: withEmoji cs
  termination_by cs => cs.length

end TypedVocabulary.Console
