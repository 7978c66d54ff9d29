import TypedVocabulary.KeyedList
import TypedVocabulary.Number.Binary64

/-! # JSON values

Objects keep the order of their members, and whole numbers are apart from doubles. Readers and
writers stand in their own modules; this one holds what other modules ask of a value.
-/
namespace TypedVocabulary

inductive Json
  | null
  | bool (b : Bool)
  | int (n : Int)
  | float (x : Binary64)
  | str (s : String)
  | arr (items : List Json)
  | obj (members : List (String × Json))
  deriving Inhabited

namespace Json

def find? (key : String) (members : List (String × Json)) : Option Json :=
  KeyedList.value? members key

/-- A missing member counts as null. -/
def field (members : List (String × Json)) (key : String) : Json := (find? key members).getD null

/-- Null, false, zero and empty values count as absent. -/
def truthy : Json → Bool
  | null => false
  | bool b => b
  | int n => n != 0
  | float x => !x.isZero
  | str s => !s.isEmpty
  | arr items => !items.isEmpty
  | obj members => !members.isEmpty

/-- The second value stands in for an absent first one. -/
def orElse (v w : Json) : Json := if v.truthy then v else w

def ofOption : Option String → Json
  | some s => str s
  | none => null

def text? : Json → Option String
  | str s => some s
  | _ => none

/-- Truth values count as one and zero where numbers are compared. -/
def number? : Json → Option (Int ⊕ Binary64)
  | bool b => some (.inl (if b then 1 else 0))
  | int n => some (.inl n)
  | float x => some (.inr x)
  | _ => none

/-- Equality by value, except that a NaN is the same as itself. -/
def sameNumber : Int ⊕ Binary64 → Int ⊕ Binary64 → Bool
  | .inl m, .inl n => m == n
  | .inl m, .inr y => y.compareInt m == some .eq
  | .inr x, .inl n => x.compareInt n == some .eq
  | .inr x, .inr y => x = y || x.sameValue y

mutual

def same : Json → Json → Bool
  | null, null => true
  | str s, str t => s == t
  | arr xs, arr ys => sameItems xs ys
  | obj ms, obj ns => ms.length == ns.length && sameMembers ms ns
  | v, w =>
    match v.number?, w.number? with
    | some x, some y => sameNumber x y
    | _, _ => false

def sameItems : List Json → List Json → Bool
  | [], [] => true
  | x :: xs, y :: ys => same x y && sameItems xs ys
  | _, _ => false

/-- Every member of the first list has an equal one in the second. -/
def sameMembers : List (String × Json) → List (String × Json) → Bool
  | [], _ => true
  | (k, v) :: rest, ns =>
    (match find? k ns with
    | some w => same v w
    | none => false) && sameMembers rest ns

end

instance : BEq Json := ⟨same⟩

/-- Where two values are compared by themselves, a NaN equals nothing. -/
def equals (v w : Json) : Bool :=
  match v with
  | float .nan => false
  | v => v == w

end Json
end TypedVocabulary
