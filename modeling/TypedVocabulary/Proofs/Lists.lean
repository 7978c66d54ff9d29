import Mathlib.Data.List.Nodup
import Mathlib.Data.List.Perm.Basic

/-! # Lists -/
namespace TypedVocabulary

/-! ## Elements that correspond -/

section
variable {α β : Type} {R : α → β → Prop} {xs : List α} {ys : List β}

theorem exists_right_of_forall₂ (h : List.Forall₂ R xs ys) {x : α} (hx : x ∈ xs) :
    ∃ y ∈ ys, R x y := by
  induction h with
  | nil => cases hx
  | cons hxy _ ih =>
    rcases List.mem_cons.mp hx with rfl | hx
    · exact ⟨_, List.mem_cons_self, hxy⟩
    · obtain ⟨y, hy, hr⟩ := ih hx
      exact ⟨y, List.mem_cons_of_mem _ hy, hr⟩

theorem exists_left_of_forall₂ (h : List.Forall₂ R xs ys) {y : β} (hy : y ∈ ys) :
    ∃ x ∈ xs, R x y :=
  exists_right_of_forall₂ h.flip hy

theorem map_eq_map_of_forall₂ {γ : Type} {f : α → γ} {g : β → γ} (h : List.Forall₂ R xs ys)
    (hstep : ∀ x y, R x y → g y = f x) : ys.map g = xs.map f := by
  induction h with
  | nil => rfl
  | cons hxy _ ih => rw [List.map_cons, List.map_cons, hstep _ _ hxy, ih]

theorem exists_forall₂_of_forall₂ {γ : Type} {S : α → γ → Prop} {T : β → γ → Prop}
    (h : List.Forall₂ R xs ys) (hstep : ∀ x y, R x y → ∃ z, S x z ∧ T y z) :
    ∃ zs, List.Forall₂ S xs zs ∧ List.Forall₂ T ys zs := by
  induction h with
  | nil => exact ⟨[], .nil, .nil⟩
  | cons hxy _ ih =>
    obtain ⟨z, hs, ht⟩ := hstep _ _ hxy
    obtain ⟨zs, hss, hts⟩ := ih
    exact ⟨z :: zs, .cons hs hss, .cons ht hts⟩

end

/-! ## Splits -/

section
variable {α : Type} {before after : List α} {x y : α}

theorem split_of_append_singleton {xs : List α}
    (h : xs ++ [x] = before ++ y :: after) :
    before = xs ∧ y = x ∨ ∃ rest, xs = before ++ y :: rest := by
  rcases List.eq_nil_or_concat after with rfl | ⟨rest, last, rfl⟩
  · obtain ⟨hxs, hx⟩ := List.append_inj' h rfl
    exact .inl ⟨hxs.symm, (List.cons.inj hx).1.symm⟩
  · rw [List.concat_eq_append, ← List.cons_append, ← List.append_assoc] at h
    exact .inr ⟨rest, (List.append_inj' h rfl).1⟩

theorem split_cases {before' after' : List α}
    (h : before ++ x :: after = before' ++ y :: after') :
    x = y ∨ (∃ rest, before' = before ++ x :: rest) ∨ ∃ rest, before = before' ++ y :: rest := by
  rcases List.append_eq_append_iff.mp h with ⟨between, hbefore, hrest⟩ | ⟨between, hbefore, hrest⟩
  · cases between with
    | nil => exact .inl (List.cons.inj hrest).1
    | cons z rest =>
      obtain ⟨rfl, -⟩ := List.cons.inj hrest
      exact .inr (.inl ⟨rest, hbefore⟩)
  · cases between with
    | nil => exact .inl (List.cons.inj hrest).1.symm
    | cons z rest =>
      obtain ⟨rfl, -⟩ := List.cons.inj hrest
      exact .inr (.inr ⟨rest, hbefore⟩)

end

/-! ## Duplicates -/

/-- Where keys differ, a value comes twice exactly if two keys have it. -/
theorem not_nodup_map_iff {α β γ : Type} {xs : List α} {key : α → β} {g : α → γ}
    (h : (xs.map key).Nodup) :
    ¬(xs.map g).Nodup ↔ ∃ x ∈ xs, ∃ y ∈ xs, key x ≠ key y ∧ g x = g y := by
  rw [List.nodup_map_iff_inj_on h.of_map]
  constructor
  · intro hnot
    by_contra hnone
    refine hnot fun x hx y hy hg => ?_
    by_contra hne
    exact hnone ⟨x, hx, y, hy, fun hkey => hne (List.inj_on_of_nodup_map h hx hy hkey), hg⟩
  · rintro ⟨x, hx, y, hy, hkey, hg⟩ hinj
    exact hkey (congrArg key (hinj x hx y hy hg))

theorem nodup_eraseDups {α : Type} [BEq α] [LawfulBEq α] (xs : List α) : xs.eraseDups.Nodup := by
  match xs with
  | [] => exact List.nodup_nil
  | x :: rest =>
    -- The first element strikes all that equal it, and what is left has no duplicates.
    have hrest := nodup_eraseDups (rest.filter fun y => !y == x)
    rw [List.eraseDups_cons, List.nodup_cons]
    exact ⟨by simp, hrest⟩
termination_by xs.length
decreasing_by exact Nat.lt_succ_of_le (List.length_filter_le _ _)

end TypedVocabulary
