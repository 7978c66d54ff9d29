import TypedVocabulary.Failure
import TypedVocabulary.Text.Slice

/-! # Membership

What counts as a part of a value depends on the value: an object has member names, a list has
items, and a text has all texts that stand in it.
-/
namespace TypedVocabulary.Json

def occursIn (value : Json) : Json → Attempt Bool
  | .obj members =>
    if value.hashable then
      .ok (match value with
        | .str s => members.any (·.1 == s)
        | _ => false)
    else Attempt.wrongOperand
  | .arr items => .ok (items.any (value == ·))
  | .str s => return Text.occurs (← value.asOperand).toList s.toList
  | _ => Attempt.wrongOperand

end TypedVocabulary.Json
