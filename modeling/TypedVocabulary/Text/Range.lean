/-! # Ranges of code points -/
namespace TypedVocabulary.Text

def inRanges (ranges : List (Nat × Nat)) (n : Nat) : Bool :=
  ranges.any fun (a, b) => a ≤ n && n ≤ b

end TypedVocabulary.Text
