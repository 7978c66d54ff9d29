/-! # Order of texts

Texts are ordered character by character, by code point.
-/
namespace TypedVocabulary.Text

def atMost (a b : String) : Bool := !decide (b < a)

def sort (texts : List String) : List String := texts.mergeSort atMost

def sortByKey {α : Type} (pairs : List (String × α)) : List (String × α) :=
  pairs.mergeSort fun a b => atMost a.1 b.1

end TypedVocabulary.Text
