import TypedVocabulary.Proofs.Json.Members
import TypedVocabulary.Proofs.Outcomes

/-! # Equality of values

Equal values nest equally deep, and a value lies less deep than a list or an object that holds it: no
value equals one that holds it. Objects are equal when look-ups by name give equal values in both, in
any order of their members.
-/
namespace TypedVocabulary.Json
open KeyedList (keys)

/-! ## Depth -/

mutual

/-- How many lists and objects lie in each other at most. -/
def depth : Json → Nat
  | arr items => depthItems items + 1
  | obj members => depthMembers members + 1
  | _ => 0

def depthItems : List Json → Nat
  | [] => 0
  | v :: vs => max (depth v) (depthItems vs)

def depthMembers : List (String × Json) → Nat
  | [] => 0
  | (_, v) :: ms => max (depth v) (depthMembers ms)

end

theorem depth_le_depthItems {items : List Json} {v : Json} (h : v ∈ items) :
    v.depth ≤ depthItems items := by
  induction items with
  | nil => cases h
  | cons w ws ih =>
    rw [depthItems]
    rcases List.mem_cons.mp h with rfl | h
    · exact Nat.le_max_left ..
    · exact Nat.le_trans (ih h) (Nat.le_max_right ..)

theorem depth_le_depthMembers {members : List (String × Json)} {m : String × Json}
    (h : m ∈ members) : m.2.depth ≤ depthMembers members := by
  induction members with
  | nil => cases h
  | cons n ns ih =>
    rw [depthMembers]
    rcases List.mem_cons.mp h with rfl | h
    · exact Nat.le_max_left ..
    · exact Nat.le_trans (ih h) (Nat.le_max_right ..)

theorem depth_le_of_visit {v : Json} {items : List Json} (h : v.visit = .ok items) {w : Json}
    (hw : w ∈ items) : w.depth ≤ v.depth := by
  cases v with
  | arr xs =>
    cases h
    rw [depth]
    exact Nat.le_succ_of_le (depth_le_depthItems hw)
  | str s =>
    cases h
    obtain ⟨c, -, rfl⟩ := List.mem_map.mp hw
    exact Nat.zero_le _
  | obj members =>
    cases h
    obtain ⟨m, -, rfl⟩ := List.mem_map.mp hw
    exact Nat.zero_le _
  | null | bool | int | float => cases h

theorem visit_of_entry {v : Json} {e : Json × Json} (h : Table.entry v = .ok e) :
    v.visit = .ok [e.1, e.2] := by
  obtain ⟨items, hitems, h⟩ := Attempt.bind_ok_iff.mp h
  split at h
  · split at h
    · cases h
      exact hitems
    · cases h
  · cases h

/-- A table of pairs has its values from the pairs. -/
theorem exists_pair_of_read {v : Json} {t : Table} (hv : ∀ members, v ≠ .obj members)
    (h : Table.read v = .ok t) {e : Json × Json} (he : e ∈ t) :
    ∃ items item key, v.visit = .ok items ∧ item ∈ items ∧ item.visit = .ok [key, e.2] := by
  have hread : (v.visit >>= fun items => items.mapM Table.entry >>= fun pairs =>
      pure (KeyedList.putAll [] pairs)) = .ok t := by
    rw [← h]
    cases v with
    | obj members => exact absurd rfl (hv members)
    | null | bool | int | float | str | arr => rfl
  obtain ⟨items, hitems, hread⟩ := Attempt.bind_ok_iff.mp hread
  obtain ⟨pairs, hpairs, hread⟩ := Attempt.bind_ok_iff.mp hread
  cases hread
  rcases KeyedList.mem_putAll_beq he with he | ⟨u, hu, hvalue, -⟩
  · cases he
  · obtain ⟨item, hitem, hentry⟩ := (Attempt.mem_mapM_iff hpairs).mp hu
    exact ⟨items, item, u.1, hitems, hitem, hvalue ▸ visit_of_entry hentry⟩

/-- The values of a table lie inside the value that it is read from. -/
theorem depth_lt_of_read {v : Json} {t : Table} (h : Table.read v = .ok t) {e : Json × Json}
    (he : e ∈ t) : e.2.depth < v.depth := by
  cases v with
  | obj members =>
    cases h
    obtain ⟨m, hm, rfl⟩ := List.mem_map.mp he
    rw [depth]
    exact Nat.lt_succ_of_le (depth_le_depthMembers hm)
  | arr items =>
    obtain ⟨_, item, key, hitems, hitem, hvisit⟩ := exists_pair_of_read (by simp) h he
    cases hitems
    have hvalue : e.2.depth ≤ item.depth := depth_le_of_visit hvisit (by simp)
    rw [depth]
    exact Nat.lt_succ_of_le (Nat.le_trans hvalue (depth_le_depthItems hitem))
  | str s =>
    -- A character is no pair.
    obtain ⟨_, item, key, hitems, hitem, hvisit⟩ := exists_pair_of_read (by simp) h he
    cases hitems
    obtain ⟨c, -, rfl⟩ := List.mem_map.mp hitem
    simp [visit] at hvisit
  | null | bool | int | float => cases h

/-! ## Equality -/

theorem sameMembers_iff {ms ns : List (String × Json)} :
    sameMembers ms ns = true ↔ ∀ m ∈ ms, ∃ w, find? m.1 ns = some w ∧ same m.2 w = true := by
  induction ms with
  | nil => simp [sameMembers]
  | cons m ms ih =>
    obtain ⟨k, v⟩ := m
    rw [sameMembers, Bool.and_eq_true, ih, List.forall_mem_cons]
    cases find? k ns <;> simp

mutual

theorem depth_le_of_same : ∀ v w : Json, same v w = true → v.depth ≤ w.depth
  | arr xs, w, h => by
    cases w with
    | arr ys =>
      rw [same] at h
      rw [depth, depth]
      exact Nat.succ_le_succ (depthItems_le_of_same xs ys h)
    | null | bool | int | float | str | obj => simp [same, number?] at h
  | obj ms, w, h => by
    cases w with
    | obj ns =>
      rw [same, Bool.and_eq_true] at h
      rw [depth, depth]
      exact Nat.succ_le_succ (depthMembers_le_of_same ms ns h.2)
    | null | bool | int | float | str | arr => simp [same, number?] at h
  | null, _, _ | bool _, _, _ | int _, _, _ | float _, _, _ | str _, _, _ => by simp [depth]

theorem depthItems_le_of_same : ∀ xs ys, sameItems xs ys = true → depthItems xs ≤ depthItems ys
  | [], _, _ => by simp [depthItems]
  | x :: xs, ys, h => by
    cases ys with
    | nil => simp [sameItems] at h
    | cons y ys =>
      rw [sameItems, Bool.and_eq_true] at h
      have hhead := depth_le_of_same x y h.1
      have htail := depthItems_le_of_same xs ys h.2
      rw [depthItems, depthItems]
      omega

theorem depthMembers_le_of_same :
    ∀ ms ns, sameMembers ms ns = true → depthMembers ms ≤ depthMembers ns
  | [], _, _ => by simp [depthMembers]
  | (k, v) :: ms, ns, h => by
    rw [sameMembers_iff, List.forall_mem_cons] at h
    obtain ⟨⟨w, hw, hvw⟩, hrest⟩ := h
    have hhead := depth_le_of_same v w hvw
    have hmember : w.depth ≤ depthMembers ns := depth_le_depthMembers (mem_of_find? hw)
    have htail := depthMembers_le_of_same ms ns (sameMembers_iff.mpr hrest)
    rw [depthMembers]
    omega

end

/-! ## Values as a reader gives them -/

mutual

/-- All doubles in it are finite, and no object gives a name twice. -/
def Regular : Json → Prop
  | float x => ∃ negative m e h, x = .finite negative m e h
  | arr items => RegularItems items
  | obj members => (keys members).Nodup ∧ RegularMembers members
  | _ => True

def RegularItems : List Json → Prop
  | [] => True
  | v :: vs => Regular v ∧ RegularItems vs

def RegularMembers : List (String × Json) → Prop
  | [] => True
  | (_, v) :: ms => Regular v ∧ RegularMembers ms

end

theorem regularMembers_iff {members : List (String × Json)} :
    RegularMembers members ↔ ∀ m ∈ members, Regular m.2 := by
  induction members with
  | nil => simp [RegularMembers]
  | cons m ms ih => rw [RegularMembers, ih, List.forall_mem_cons]

theorem regular_obj_iff {members : List (String × Json)} :
    Regular (.obj members) ↔ (keys members).Nodup ∧ RegularMembers members := by
  rw [Regular]

mutual

theorem same_self : ∀ v : Json, Regular v → same v v = true
  | null, _ => by simp [same]
  | bool b, _ => by simp [same, number?, sameNumber]
  | int n, _ => by simp [same, number?, sameNumber]
  | float x, _ => by simp [same, number?, sameNumber]
  | str s, _ => by simp [same]
  | arr items, h => by
    rw [Regular] at h
    rw [same]
    exact sameItems_self items h
  | obj members, h => by
    rw [Regular] at h
    rw [same, Bool.and_eq_true, beq_self_eq_true, eq_self, true_and, sameMembers_iff]
    intro m hm
    exact ⟨m.2, find?_of_mem h.1 hm, sameMembers_self members h.2 m hm⟩

theorem sameItems_self : ∀ items, RegularItems items → sameItems items items = true
  | [], _ => rfl
  | v :: vs, h => by
    rw [RegularItems] at h
    rw [sameItems, Bool.and_eq_true]
    exact ⟨same_self v h.1, sameItems_self vs h.2⟩

theorem sameMembers_self : ∀ members, RegularMembers members →
    ∀ m ∈ members, same m.2 m.2 = true
  | [], _ => fun _ hm => nomatch hm
  | (k, v) :: ms, h => by
    rw [RegularMembers] at h
    rw [List.forall_mem_cons]
    exact ⟨same_self v h.1, sameMembers_self ms h.2⟩

end

theorem same_of_find?_eq {ms ns : List (String × Json)} (hm : Regular (.obj ms))
    (hn : (keys ns).Nodup) (h : ∀ name, find? name ms = find? name ns) :
    same (.obj ms) (.obj ns) = true := by
  rw [regular_obj_iff] at hm
  have hperm : ms.Perm ns := KeyedList.perm_of_value?_eq hm.1 hn h
  rw [same, Bool.and_eq_true, beq_iff_eq, sameMembers_iff]
  refine ⟨hperm.length_eq, fun m hmem => ⟨m.2, ?_, ?_⟩⟩
  · rw [← h]
    exact find?_of_mem hm.1 hmem
  · exact same_self _ (regularMembers_iff.mp hm.2 m hmem)

theorem find?_of_same {ms ns : List (String × Json)} (h : same (.obj ms) (.obj ns) = true)
    {name : String} {v : Json} (hv : find? name ms = some v) :
    ∃ w, find? name ns = some w ∧ same v w = true := by
  rw [same, Bool.and_eq_true, sameMembers_iff] at h
  exact h.2 (name, v) (mem_of_find? hv)

end TypedVocabulary.Json
