import TypedVocabulary.Json.Table
import TypedVocabulary.Proofs.KeyedList

/-! # Members of objects

Members are looked up, replaced and merged as pairs with keys are. Where no name comes twice, a merged
object has the updates and, under all other names, what it had before.
-/
namespace TypedVocabulary.Json
open KeyedList (keys put putAll)

variable {members updates : List (String × Json)} {key name : String} {v : Json}

theorem find?_cons (m : String × Json) :
    find? name (m :: members) = if m.1 = name then some m.2 else find? name members :=
  KeyedList.value?_cons m

theorem find?_put (key : String) (v : Json) (members : List (String × Json)) (name : String) :
    find? name (put key v members) = if key = name then some v else find? name members :=
  KeyedList.value?_put key v members name

theorem find?_putAll (hn : (keys updates).Nodup) (members : List (String × Json)) (name : String) :
    find? name (putAll members updates) = (find? name updates).or (find? name members) :=
  KeyedList.value?_putAll hn members name

theorem find?_filter (keep : String → Bool) (members : List (String × Json)) (name : String) :
    find? name (members.filter fun m => keep m.1) =
      if keep name then find? name members else none :=
  KeyedList.value?_filter keep members name

theorem isSome_find?_iff : (find? name members).isSome = true ↔ name ∈ keys members :=
  KeyedList.isSome_value?_iff

theorem find?_eq_none_iff : find? name members = none ↔ name ∉ keys members :=
  KeyedList.value?_eq_none_iff

theorem exists_find?_of_mem (h : name ∈ keys members) : ∃ v, find? name members = some v :=
  Option.isSome_iff_exists.mp (isSome_find?_iff.mpr h)

theorem mem_of_find? (h : find? name members = some v) : (name, v) ∈ members :=
  KeyedList.mem_of_value? h

theorem find?_of_mem (hn : (keys members).Nodup) (h : (name, v) ∈ members) :
    find? name members = some v :=
  KeyedList.value?_of_mem hn h

theorem beq_str_iff {v : Json} {s : String} : (v == .str s) = true ↔ v = .str s := by
  cases v with
  | str t => simp [BEq.beq, same]
  | null | bool b | int n | float x | arr items | obj members =>
    simp [BEq.beq, same, number?]

theorem str_beq (s : String) (v : Json) : (.str s == v) = (v == .str s) := by
  cases v with
  | str t =>
    have htexts : (s == t) = (t == s) := BEq.comm
    simpa only [BEq.beq, same] using htexts
  | null | bool b | int n | float x | arr items | obj members => rfl

end TypedVocabulary.Json

/-! ## Tables of members -/

namespace TypedVocabulary.Table
open KeyedList (put putAll)

theorem put_ofMembers (key : String) (v : Json) (members : List (String × Json)) :
    put (.str key) v (ofMembers members) = ofMembers (put key v members) := by
  refine KeyedList.put_map (fun k => Bool.eq_iff_iff.mpr ?_) members
  rw [Json.beq_str_iff, beq_iff_eq, Json.str.injEq]

theorem putAll_ofMembers (members updates : List (String × Json)) :
    putAll (ofMembers members) (ofMembers updates) = ofMembers (putAll members updates) := by
  induction updates generalizing members with
  | nil => rfl
  | cons u rest ih =>
    have hstep : putAll (ofMembers members) (ofMembers (u :: rest)) =
        putAll (put (.str u.1) u.2 (ofMembers members)) (ofMembers rest) := rfl
    rw [hstep, put_ofMembers, ih]
    rfl

theorem toMembers_ofMembers (members : List (String × Json)) :
    toMembers (ofMembers members) = members := by
  unfold toMembers ofMembers
  rw [List.map_map]
  exact List.map_id members

end TypedVocabulary.Table
