import TypedVocabulary.Json.Reader
import TypedVocabulary.Json.Writer
import TypedVocabulary.Source.FileTree

/-! # Reading back what is written

A value that is written to a file and read from it should be the same to the last detail: the members
of objects in their order, and whole numbers apart from doubles. Whether it is can be computed.
-/
namespace TypedVocabulary.Json

/-! ## Identity -/

mutual

/-- Equality of values without regard to what they stand for. -/
def identical : Json → Json → Bool
  | null, null => true
  | bool b, bool c => b == c
  | int m, int n => m == n
  | float x, float y => x = y
  | str s, str t => s == t
  | arr xs, arr ys => identicalItems xs ys
  | obj ms, obj ns => identicalMembers ms ns
  | _, _ => false

def identicalItems : List Json → List Json → Bool
  | [], [] => true
  | x :: xs, y :: ys => identical x y && identicalItems xs ys
  | _, _ => false

def identicalMembers : List (String × Json) → List (String × Json) → Bool
  | [], [] => true
  | (k, v) :: ms, (l, w) :: ns => k == l && identical v w && identicalMembers ms ns
  | _, _ => false

end

mutual

theorem identical_iff : ∀ v w : Json, identical v w = true ↔ v = w
  | null, w | bool _, w | int _, w | float _, w | str _, w => by
    cases w <;> simp [identical]
  | arr xs, w => by
    cases w with
    | arr ys => rw [identical, identicalItems_iff xs ys, arr.injEq]
    | null | bool | int | float | str | obj => simp [identical]
  | obj ms, w => by
    cases w with
    | obj ns => rw [identical, identicalMembers_iff ms ns, obj.injEq]
    | null | bool | int | float | str | arr => simp [identical]

theorem identicalItems_iff : ∀ xs ys, identicalItems xs ys = true ↔ xs = ys
  | [], ys => by cases ys <;> simp [identicalItems]
  | x :: xs, ys => by
    cases ys with
    | nil => simp [identicalItems]
    | cons y ys =>
      rw [identicalItems, Bool.and_eq_true, identical_iff x y, identicalItems_iff xs ys,
        List.cons.injEq]

theorem identicalMembers_iff : ∀ ms ns, identicalMembers ms ns = true ↔ ms = ns
  | [], ns => by cases ns <;> simp [identicalMembers]
  | (k, v) :: ms, ns => by
    cases ns with
    | nil => simp [identicalMembers]
    | cons n ns =>
      obtain ⟨l, w⟩ := n
      rw [identicalMembers, Bool.and_eq_true, Bool.and_eq_true, beq_iff_eq, identical_iff v w,
        identicalMembers_iff ms ns, List.cons.injEq, Prod.mk.injEq]

end

instance : DecidableEq Json := fun v w => decidable_of_iff _ (identical_iff v w)

/-! ## Files -/

/-- What is written for a value is read as that value. -/
def ReadsBack (v : Json) : Prop :=
  ∃ text, FileTree.decodeContent (.text v.write) = .ok text ∧ parse text = .ok v

theorem readsBack_of_chars {v : Json}
    (hends : Text.unifyLineEnds (writeChars 0 v) = writeChars 0 v)
    (hread : (Reader.document (writeChars 0 v)).toOption = some v) : v.ReadsBack := by
  refine ⟨v.write, ?_, ?_⟩
  · unfold write FileTree.decodeContent
    dsimp only
    rw [String.toList_ofList, hends]
  · unfold write parse
    rw [String.toList_ofList]
    cases hdocument : Reader.document (writeChars 0 v) with
    | error e => simp [hdocument, Except.toOption] at hread
    | ok w =>
      rw [hdocument] at hread
      cases hread
      rfl

end TypedVocabulary.Json
