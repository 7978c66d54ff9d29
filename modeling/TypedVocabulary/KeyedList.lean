/-! # Lists with keys

Objects, tables and files are lists of pairs that are looked up by key, where the first pair of a
key counts.
-/
namespace TypedVocabulary.KeyedList

variable {κ α : Type}

def keys (xs : List (κ × α)) : List κ := xs.map Prod.fst

section
variable [BEq κ]

/-- What the first pair of a key holds. -/
def value? (xs : List (κ × α)) (key : κ) : Option α := (xs.find? (·.1 == key)).map (·.2)

/-- A new key goes to the end; an old one keeps its place and takes the new value. -/
def put (key : κ) (a : α) : List (κ × α) → List (κ × α)
  | [] => [(key, a)]
  | (k, b) :: rest => if k == key then (k, a) :: rest else (k, b) :: put key a rest

def putAll (xs ys : List (κ × α)) : List (κ × α) := ys.foldl (fun xs y => put y.1 y.2 xs) xs

end

end TypedVocabulary.KeyedList
