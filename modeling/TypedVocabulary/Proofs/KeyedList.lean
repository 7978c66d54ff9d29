import Mathlib.Data.List.Dedup
import Mathlib.Data.List.Nodup
import Mathlib.Data.List.Perm.Basic
import TypedVocabulary.KeyedList

/-! # Laws of lists with keys

If no key comes twice, every pair is found and the order of the pairs makes no difference. Keys are
compared by a test that need not be equality: where one number can be written in two ways, both
are one key. The laws of the first section hold for any test, the others for equality.
-/
namespace TypedVocabulary.KeyedList

/-! ## Keys that are compared by a test -/

section
variable {κ α : Type} [BEq κ] {xs ys : List (κ × α)} {key k : κ} {a b : α}

@[simp] theorem value?_nil : value? ([] : List (κ × α)) key = none := rfl

theorem value?_cons_beq (x : κ × α) :
    value? (x :: xs) key = if x.1 == key then some x.2 else value? xs key := by
  unfold value?
  rw [List.find?_cons]
  cases x.1 == key <;> rfl

theorem value?_append : value? (xs ++ ys) key = (value? xs key).or (value? ys key) := by
  unfold value?
  rw [List.find?_append]
  cases List.find? (fun x => x.1 == key) xs <;> rfl

theorem put_cons (x : κ × α) (xs : List (κ × α)) :
    put key a (x :: xs) = if x.1 == key then (x.1, a) :: xs else x :: put key a xs := rfl

theorem putAll_append (zs : List (κ × α)) : putAll xs (ys ++ zs) = putAll (putAll xs ys) zs :=
  List.foldl_append

theorem value?_of_mem_beq (hkey : ∀ l, (l == key) = true ↔ l = key) (hn : (keys xs).Nodup)
    (h : (key, a) ∈ xs) : value? xs key = some a := by
  induction xs with
  | nil => cases h
  | cons x rest ih =>
    obtain ⟨hx, hrest⟩ := List.nodup_cons.mp hn
    rw [value?_cons_beq]
    rcases List.mem_cons.mp h with rfl | h
    · rw [if_pos ((hkey key).mpr rfl)]
    · have hne : x.1 ≠ key := fun hk => hx (hk ▸ List.mem_map_of_mem h)
      rw [if_neg fun hbeq => hne ((hkey x.1).mp hbeq)]
      exact ih hrest h

theorem value?_put_self (h : (key == key) = true) : value? (put key a xs) key = some a := by
  induction xs with
  | nil => rw [put, value?_cons_beq, if_pos h]
  | cons x rest ih =>
    rw [put_cons]
    split
    · rename_i hx
      rw [value?_cons_beq, if_pos hx]
    · rename_i hx
      rw [value?_cons_beq, if_neg hx, ih]

/-- A key leaves alone whatever no pair can be found by as well. -/
theorem value?_put_of_ne (h : (key == k) = false) (hkeys : ∀ l, (l == key) = true → (l == k) = false) :
    value? (put key a xs) k = value? xs k := by
  induction xs with
  | nil =>
    rw [put, value?_cons_beq, h]
    rfl
  | cons x rest ih =>
    rw [put_cons]
    split
    · rename_i hx
      rw [value?_cons_beq, value?_cons_beq, hkeys x.1 hx]
      rfl
    · rw [value?_cons_beq, value?_cons_beq, ih]

theorem value?_put_or (h : value? (put key a xs) k = some b) : b = a ∨ value? xs k = some b := by
  induction xs with
  | nil =>
    rw [put, value?_cons_beq] at h
    split at h
    · exact .inl (Option.some.inj h).symm
    · cases h
  | cons x rest ih =>
    rw [put_cons] at h
    split at h
    · rw [value?_cons_beq] at h ⊢
      split at h
      · exact .inl (Option.some.inj h).symm
      · rename_i hx
        rw [if_neg hx]
        exact .inr h
    · rw [value?_cons_beq] at h ⊢
      split at h
      · rename_i hx
        rw [if_pos hx]
        exact .inr h
      · rename_i hx
        rw [if_neg hx]
        exact ih h

theorem mem_put_beq {x : κ × α} (h : x ∈ put key a xs) :
    x ∈ xs ∨ x.2 = a ∧ (x.1 = key ∨ (x.1 == key) = true) := by
  induction xs with
  | nil =>
    cases List.mem_singleton.mp h
    exact .inr ⟨rfl, .inl rfl⟩
  | cons y rest ih =>
    rw [put_cons] at h
    split at h
    · rename_i hkey
      rcases List.mem_cons.mp h with rfl | h
      · exact .inr ⟨rfl, .inr hkey⟩
      · exact .inl (List.mem_cons_of_mem _ h)
    · rcases List.mem_cons.mp h with rfl | h
      · exact .inl List.mem_cons_self
      · exact (ih h).imp_left (List.mem_cons_of_mem _)

theorem mem_putAll_beq {x : κ × α} (h : x ∈ putAll xs ys) :
    x ∈ xs ∨ ∃ y ∈ ys, x.2 = y.2 ∧ (x.1 = y.1 ∨ (x.1 == y.1) = true) := by
  induction ys generalizing xs with
  | nil => exact .inl h
  | cons y rest ih =>
    rcases ih h with h | ⟨y', hy', hsame⟩
    · exact (mem_put_beq h).imp_right fun hy => ⟨y, List.mem_cons_self, hy⟩
    · exact .inr ⟨y', List.mem_cons_of_mem _ hy', hsame⟩

theorem put_map {κ' : Type} [BEq κ'] {f : κ → κ'} (hf : ∀ k, (f k == f key) = (k == key))
    (xs : List (κ × α)) :
    put (f key) a (xs.map fun x => (f x.1, x.2)) = (put key a xs).map fun x => (f x.1, x.2) := by
  induction xs with
  | nil => rfl
  | cons x rest ih =>
    rw [List.map_cons, put_cons, put_cons, hf, ih]
    split <;> rfl

end

/-! ## Lists that correspond -/

/-- Same keys in the same order, with values that correspond. -/
abbrev Related {κ α β : Type} (R : α → β → Prop) (xs : List (κ × α)) (ys : List (κ × β)) : Prop :=
  List.Forall₂ (fun x y => x.1 = y.1 ∧ R x.2 y.2) xs ys

section
variable {κ α β : Type} {R : α → β → Prop} {xs : List (κ × α)} {ys : List (κ × β)}

theorem keys_of_related (h : Related R xs ys) : keys ys = keys xs := by
  induction h with
  | nil => rfl
  | cons hxy _ ih => exact congrArg₂ List.cons hxy.1.symm ih

variable [BEq κ]

theorem related_put (h : Related R xs ys) (key : κ) {a : α} {b : β} (hab : R a b) :
    Related R (put key a xs) (put key b ys) := by
  induction h with
  | nil => exact .cons ⟨rfl, hab⟩ .nil
  | @cons x y _ _ hxy hrest ih =>
    rw [put_cons, put_cons, hxy.1]
    split
    · exact .cons ⟨rfl, hab⟩ hrest
    · exact .cons hxy ih

theorem related_putAll (h : Related R xs ys) {as : List (κ × α)} {bs : List (κ × β)}
    (hab : Related R as bs) : Related R (putAll xs as) (putAll ys bs) := by
  induction hab generalizing xs ys with
  | nil => exact h
  | @cons x y _ _ hxy _ ih =>
    obtain ⟨p, a⟩ := x
    obtain ⟨q, b⟩ := y
    obtain ⟨rfl, hr⟩ := hxy
    exact ih (related_put h p hr)

end

/-! ## Keys that are compared by equality -/

variable {κ α : Type} [BEq κ] [LawfulBEq κ] {xs ys : List (κ × α)} {key : κ} {a : α}

theorem value?_cons [DecidableEq κ] (x : κ × α) :
    value? (x :: xs) key = if x.1 = key then some x.2 else value? xs key := by
  rw [value?_cons_beq]
  simp only [beq_iff_eq]

theorem value?_cons_of_eq {x : κ × α} (h : x.1 = key) : value? (x :: xs) key = some x.2 := by
  rw [value?_cons_beq, if_pos (beq_iff_eq.mpr h)]

theorem value?_cons_of_ne {x : κ × α} (h : x.1 ≠ key) : value? (x :: xs) key = value? xs key := by
  rw [value?_cons_beq, if_neg fun hx => h (eq_of_beq hx)]

theorem mem_of_value? (h : value? xs key = some a) : (key, a) ∈ xs := by
  obtain ⟨⟨k, b⟩, hfind, rfl⟩ := Option.map_eq_some_iff.mp h
  have hk : k = key := by simpa using List.find?_some hfind
  exact hk ▸ List.mem_of_find?_eq_some hfind

theorem isSome_value?_iff : (value? xs key).isSome = true ↔ key ∈ keys xs := by
  induction xs with
  | nil => simp [value?, keys]
  | cons x rest ih =>
    rw [keys, List.map_cons, List.mem_cons]
    by_cases hx : x.1 = key
    · simp [value?_cons_of_eq hx, hx]
    · rw [value?_cons_of_ne hx, ih]
      simp [keys, Ne.symm hx]

theorem value?_of_mem (hn : (keys xs).Nodup) (h : (key, a) ∈ xs) : value? xs key = some a :=
  value?_of_mem_beq (fun _ => beq_iff_eq) hn h

theorem value?_eq_some_iff (hn : (keys xs).Nodup) : value? xs key = some a ↔ (key, a) ∈ xs :=
  ⟨mem_of_value?, value?_of_mem hn⟩

theorem value?_of_perm (hp : xs.Perm ys) (hn : (keys xs).Nodup) (key : κ) :
    value? xs key = value? ys key := by
  have hn' : (keys ys).Nodup := (hp.map Prod.fst).nodup_iff.mp hn
  ext a
  rw [value?_eq_some_iff hn, value?_eq_some_iff hn', hp.mem_iff]

theorem value?_eq_none_iff : value? xs key = none ↔ key ∉ keys xs := by
  rw [← isSome_value?_iff, Bool.not_eq_true, Option.isSome_eq_false_iff, Option.isNone_iff_eq_none]

omit [BEq κ] [LawfulBEq κ] in
theorem nodup_of_keys (hn : (keys xs).Nodup) : xs.Nodup := List.Nodup.of_map Prod.fst hn

theorem value?_filter (keep : κ → Bool) (xs : List (κ × α)) (key : κ) :
    value? (xs.filter fun x => keep x.1) key = if keep key then value? xs key else none := by
  induction xs with
  | nil => simp [value?]
  | cons x rest ih =>
    rw [List.filter_cons]
    by_cases hkeep : keep x.1 = true
    · rw [if_pos hkeep]
      by_cases hx : x.1 = key
      · rw [value?_cons_of_eq hx, value?_cons_of_eq hx, if_pos (hx ▸ hkeep)]
      · rw [value?_cons_of_ne hx, value?_cons_of_ne hx, ih]
    · rw [if_neg hkeep, ih]
      by_cases hx : x.1 = key
      · rw [if_neg (hx ▸ hkeep), if_neg (hx ▸ hkeep)]
      · rw [value?_cons_of_ne hx]

theorem perm_of_value?_eq (hx : (keys xs).Nodup) (hy : (keys ys).Nodup)
    (h : ∀ key, value? xs key = value? ys key) : xs.Perm ys := by
  rw [List.perm_ext_iff_of_nodup (nodup_of_keys hx) (nodup_of_keys hy)]
  rintro ⟨key, a⟩
  rw [← value?_eq_some_iff hx, ← value?_eq_some_iff hy, h key]

/-! ## Replacement -/

theorem value?_put_of_not_eq {k : κ} (h : key ≠ k) : value? (put key a xs) k = value? xs k := by
  refine value?_put_of_ne (beq_false_of_ne h) fun l hl => ?_
  rw [eq_of_beq hl]
  exact beq_false_of_ne h

theorem value?_put [DecidableEq κ] (key : κ) (a : α) (xs : List (κ × α)) (k : κ) :
    value? (put key a xs) k = if key = k then some a else value? xs k := by
  by_cases h : key = k
  · rw [if_pos h, ← h, value?_put_self (beq_self_eq_true key)]
  · rw [if_neg h, value?_put_of_not_eq h]

theorem mem_keys_put {k : κ} : k ∈ keys (put key a xs) ↔ k = key ∨ k ∈ keys xs := by
  rw [← isSome_value?_iff, ← isSome_value?_iff]
  by_cases hk : key = k
  · subst hk
    simp [value?_put_self]
  · simp [value?_put_of_not_eq hk, Ne.symm hk]

theorem put_of_not_mem (h : key ∉ keys xs) (a : α) : put key a xs = xs ++ [(key, a)] := by
  induction xs with
  | nil => rfl
  | cons x rest ih =>
    obtain ⟨k, b⟩ := x
    have hk : ¬(k == key) = true := fun hk => h (eq_of_beq hk ▸ List.mem_cons_self)
    have hrest : key ∉ keys rest := fun hmem => h (List.mem_cons_of_mem _ hmem)
    rw [put_cons, if_neg hk, ih hrest, List.cons_append]

theorem keys_put_of_mem (h : key ∈ keys xs) (a : α) : keys (put key a xs) = keys xs := by
  induction xs with
  | nil => cases h
  | cons x rest ih =>
    obtain ⟨k, b⟩ := x
    rw [put_cons]
    split
    · rfl
    · rename_i hk
      have hne : key ≠ k := fun heq => hk (beq_iff_eq.mpr heq.symm)
      exact congrArg (k :: ·) (ih ((List.mem_cons.mp h).resolve_left hne))

theorem nodup_keys_put (hn : (keys xs).Nodup) (key : κ) (a : α) :
    (keys (put key a xs)).Nodup := by
  by_cases h : key ∈ keys xs
  · rw [keys_put_of_mem h]
    exact hn
  · rw [put_of_not_mem h, keys, List.map_append]
    exact hn.append (List.nodup_singleton key) (List.disjoint_singleton.mpr h)

theorem nodup_keys_putAll (hn : (keys xs).Nodup) (ys : List (κ × α)) :
    (keys (putAll xs ys)).Nodup := by
  induction ys generalizing xs with
  | nil => exact hn
  | cons y rest ih => exact ih (nodup_keys_put hn y.1 y.2)

theorem nodup_keys_putAll_nil (ys : List (κ × α)) : (keys (putAll [] ys)).Nodup :=
  have hnil : (keys ([] : List (κ × α))).Nodup := List.nodup_nil
  nodup_keys_putAll hnil ys

/-- Among pairs that replace others, the first of a key is the one that stays if there is no second. -/
theorem value?_putAll (hn : (keys ys).Nodup) (xs : List (κ × α)) (key : κ) :
    value? (putAll xs ys) key = (value? ys key).or (value? xs key) := by
  induction ys generalizing xs with
  | nil => rfl
  | cons y rest ih =>
    obtain ⟨hy, hrest⟩ := List.nodup_cons.mp hn
    have hstep : putAll xs (y :: rest) = putAll (put y.1 y.2 xs) rest := rfl
    rw [hstep, ih hrest]
    by_cases hkey : y.1 = key
    · have hnone : value? rest key = none := value?_eq_none_iff.mpr (hkey ▸ hy)
      rw [value?_cons_of_eq hkey, hnone, ← hkey, value?_put_self (beq_self_eq_true y.1)]
      rfl
    · rw [value?_cons_of_ne hkey, value?_put_of_not_eq hkey]

theorem mem_putAll {x : κ × α} (h : x ∈ putAll xs ys) : x ∈ xs ∨ x ∈ ys := by
  rcases mem_putAll_beq h with h | ⟨y, hy, hvalue, hkey⟩
  · exact .inl h
  · obtain rfl : x = y := Prod.ext (hkey.elim id eq_of_beq) hvalue
    exact .inr hy

theorem mem_keys_putAll {key : κ} : key ∈ keys (putAll xs ys) ↔ key ∈ keys ys ∨ key ∈ keys xs := by
  induction ys generalizing xs with
  | nil => simp [putAll, keys]
  | cons y rest ih =>
    have hstep : putAll xs (y :: rest) = putAll (put y.1 y.2 xs) rest := rfl
    have hkeys : keys (y :: rest) = y.1 :: keys rest := rfl
    rw [hstep, ih, mem_keys_put, hkeys, List.mem_cons, or_left_comm, or_assoc]

/-- Of the pairs that are put under one key the last counts. -/
theorem value?_putAll_reverse (xs ys : List (κ × α)) (key : κ) :
    value? (putAll xs ys) key = (value? ys.reverse key).or (value? xs key) := by
  induction ys generalizing xs with
  | nil => rfl
  | cons y rest ih =>
    have hstep : putAll xs (y :: rest) = putAll (put y.1 y.2 xs) rest := rfl
    rw [hstep, ih, List.reverse_cons, value?_append, Option.or_assoc]
    by_cases hkey : y.1 = key
    · rw [value?_cons_of_eq hkey, ← hkey, value?_put_self (beq_self_eq_true y.1), Option.some_or]
    · rw [value?_cons_of_ne hkey, value?_put_of_not_eq hkey]
      rfl

theorem putAll_of_nodup (hn : (keys (xs ++ ys)).Nodup) : putAll xs ys = xs ++ ys := by
  induction ys generalizing xs with
  | nil => exact (List.append_nil xs).symm
  | cons y rest ih =>
    have hstep : putAll xs (y :: rest) = putAll (put y.1 y.2 xs) rest := rfl
    have hy : y.1 ∉ keys xs := by
      rw [keys, List.map_append, List.map_cons, List.nodup_middle, List.nodup_cons] at hn
      exact fun hmem => hn.1 (List.mem_append_left _ hmem)
    have hmoved : xs ++ y :: rest = xs ++ [(y.1, y.2)] ++ rest := List.append_cons xs y rest
    rw [hmoved] at hn ⊢
    rw [hstep, put_of_not_mem hy, ih hn]

/-- A list that is put together from pairs has one for each key, however often it comes up. -/
theorem length_putAll [DecidableEq κ] (ys : List (κ × α)) :
    (putAll [] ys).length = (keys ys).dedup.length := by
  have hperm : (keys (putAll [] ys)).Perm (keys ys).dedup := by
    rw [List.perm_ext_iff_of_nodup (nodup_keys_putAll_nil ys) (List.nodup_dedup _)]
    intro key
    rw [mem_keys_putAll, List.mem_dedup]
    simp [keys]
  have hlength := hperm.length_eq
  rwa [keys, List.length_map] at hlength

end TypedVocabulary.KeyedList
