import TypedVocabulary.Log
import TypedVocabulary.Proofs.Lists

/-! # Laws of outcomes

A computation that may fail is opened by what its success says of each of its steps. The outcome of
a logged computation follows the outcomes of its steps as if nothing were written, so that a loop
over logged steps succeeds exactly when the loop over their outcomes does.
-/
namespace TypedVocabulary

namespace Attempt
variable {α β : Type}

theorem bind_ok_iff {x : Attempt α} {f : α → Attempt β} {b : β} :
    (x >>= f) = .ok b ↔ ∃ a, x = .ok a ∧ f a = .ok b := by
  cases x with
  | error e => simp [bind, Except.bind]
  | ok a => simp [bind, Except.bind]

@[simp] theorem pure_ok_iff {a b : α} : (pure a : Attempt α) = .ok b ↔ a = b := by
  simp [pure, Except.pure]

@[simp] theorem throw_ne_ok {e : Failure} {a : α} : (throw e : Attempt α) ≠ .ok a := by
  simp [throw, throwThe, MonadExceptOf.throw]

theorem bind_error_iff {x : Attempt α} {f : α → Attempt β} {e : Failure} :
    (x >>= f) = .error e ↔ x = .error e ∨ ∃ a, x = .ok a ∧ f a = .error e := by
  cases x with
  | error e' => simp [bind, Except.bind]
  | ok a => simp [bind, Except.bind]

/-- What always succeeds after a step has no faults to add. -/
theorem bind_error_iff_of_total {x : Attempt α} {f : α → Attempt β} {e : Failure}
    (hf : ∀ a, ∃ b, f a = .ok b) : (x >>= f) = .error e ↔ x = .error e := by
  rw [bind_error_iff]
  refine or_iff_left ?_
  rintro ⟨a, -, herror⟩
  obtain ⟨b, hb⟩ := hf a
  cases hb.symm.trans herror

theorem exists_ok_iff_of_error_iff {x : Attempt α} {y : Attempt β}
    (h : ∀ e, x = .error e ↔ y = .error e) : (∃ a, x = .ok a) ↔ ∃ b, y = .ok b := by
  cases x with
  | ok a =>
    cases y with
    | ok b => exact ⟨fun _ => ⟨b, rfl⟩, fun _ => ⟨a, rfl⟩⟩
    | error e => cases (h e).mpr rfl
  | error e =>
    rw [(h e).mp rfl]
    simp

@[simp] theorem pure_ne_error {a : α} {e : Failure} : (pure a : Attempt α) ≠ .error e := by
  simp [pure, Except.pure]

@[simp] theorem throw_error_iff {e e' : Failure} :
    (throw e : Attempt α) = .error e' ↔ e = e' := by
  simp [throw, throwThe, MonadExceptOf.throw]

@[simp] theorem ok_bind (a : α) (f : α → Attempt β) : (Except.ok a >>= f) = f a := rfl

theorem error_bind (e : Failure) (f : α → Attempt β) : (Except.error e >>= f) = .error e := rfl

theorem mapM_ok_iff {f : α → Attempt β} {xs : List α} {ys : List β} :
    xs.mapM f = .ok ys ↔ List.Forall₂ (fun x y => f x = .ok y) xs ys := by
  induction xs generalizing ys with
  | nil =>
    rw [List.mapM_nil, pure_ok_iff, List.forall₂_nil_left_iff]
    exact eq_comm
  | cons x xs ih =>
    rw [List.mapM_cons, bind_ok_iff]
    constructor
    · rintro ⟨y, hy, hrest⟩
      obtain ⟨ys', hys, hcons⟩ := bind_ok_iff.mp hrest
      rw [pure_ok_iff] at hcons
      subst hcons
      exact .cons hy (ih.mp hys)
    · intro h
      cases h with
      | cons hy hys => exact ⟨_, hy, bind_ok_iff.mpr ⟨_, ih.mpr hys, rfl⟩⟩

theorem exists_of_mem_mapM {f : α → Attempt β} {xs : List α} {ys : List β}
    (h : xs.mapM f = .ok ys) {x : α} (hx : x ∈ xs) : ∃ y ∈ ys, f x = .ok y :=
  exists_right_of_forall₂ (mapM_ok_iff.mp h) hx

theorem mem_mapM_iff {f : α → Attempt β} {xs : List α} {ys : List β} (h : xs.mapM f = .ok ys)
    {y : β} : y ∈ ys ↔ ∃ x ∈ xs, f x = .ok y := by
  constructor
  · exact exists_left_of_forall₂ (mapM_ok_iff.mp h)
  · rintro ⟨x, hx, hxy⟩
    obtain ⟨y', hy', hxy'⟩ := exists_of_mem_mapM h hx
    rw [hxy] at hxy'
    cases hxy'
    exact hy'

theorem mapM_perm {f : α → Attempt β} {xs xs' : List α} (hxs : xs.Perm xs') {ys : List β}
    (h : xs.mapM f = .ok ys) : ∃ ys', xs'.mapM f = .ok ys' ∧ ys.Perm ys' := by
  obtain ⟨ys', hys', hperm⟩ := List.perm_comp_forall₂ hxs.symm (mapM_ok_iff.mp h)
  exact ⟨ys', mapM_ok_iff.mpr hys', hperm.symm⟩

/-- A loop over a list with one element replaced depends on that element alone. -/
theorem mapM_set {f : α → Attempt β} {xs : List α} {ys : List β}
    (h : xs.mapM f = .ok ys) {j : Nat} (hj : j < xs.length) (x : α) :
    (xs.set j x).mapM f = (ys.set j ·) <$> f x := by
  induction xs generalizing ys j with
  | nil => simp at hj
  | cons first rest ih =>
    rw [List.mapM_cons, bind_ok_iff] at h
    obtain ⟨y, hy, h⟩ := h
    obtain ⟨ys, hys, h⟩ := bind_ok_iff.mp h
    rw [pure_ok_iff] at h
    subst h
    cases j with
    | zero =>
      rw [List.set_cons_zero, List.mapM_cons, hys]
      cases f x <;> rfl
    | succ j =>
      have hrest := ih hys (Nat.lt_of_succ_lt_succ hj)
      rw [List.set_cons_succ, List.mapM_cons, hy, ok_bind, hrest]
      cases f x <;> rfl

theorem exists_mapM_ok {f : α → Attempt β} {xs : List α} (h : ∀ x ∈ xs, ∃ y, f x = .ok y) :
    ∃ ys, xs.mapM f = .ok ys := by
  induction xs with
  | nil => exact ⟨[], rfl⟩
  | cons x xs ih =>
    obtain ⟨y, hy⟩ := h x List.mem_cons_self
    obtain ⟨ys, hys⟩ := ih fun x hx => h x (List.mem_cons_of_mem _ hx)
    exact ⟨y :: ys, mapM_ok_iff.mpr (.cons hy (mapM_ok_iff.mp hys))⟩

theorem exists_mapM_iff {f : α → Attempt β} {xs : List α} :
    (∃ ys, xs.mapM f = .ok ys) ↔ ∀ x ∈ xs, ∃ y, f x = .ok y := by
  constructor
  · rintro ⟨ys, hys⟩ x hx
    obtain ⟨y, -, hy⟩ := exists_of_mem_mapM hys hx
    exact ⟨y, hy⟩
  · exact exists_mapM_ok

theorem exists_foldlM_ok {f : β → α → Attempt β} {xs : List α}
    (h : ∀ x ∈ xs, ∀ b, ∃ b', f b x = .ok b') (b : β) : ∃ b', xs.foldlM f b = .ok b' := by
  induction xs generalizing b with
  | nil => exact ⟨b, rfl⟩
  | cons x xs ih =>
    obtain ⟨b', hb'⟩ := h x List.mem_cons_self b
    obtain ⟨c, hc⟩ := ih (fun y hy => h y (List.mem_cons_of_mem _ hy)) b'
    exact ⟨c, bind_ok_iff.mpr ⟨b', hb', hc⟩⟩

/-- What each step carries on holds after the loop, of all elements that it went through. -/
theorem foldlM_invariant {f : β → α → Attempt β} {P : List α → β → Prop}
    (hstep : ∀ {done x b b'}, P done b → f b x = .ok b' → P (done ++ [x]) b') {xs done : List α}
    {b b' : β} (hb : P done b) (h : xs.foldlM f b = .ok b') : P (done ++ xs) b' := by
  induction xs generalizing done b with
  | nil =>
    obtain rfl : b = b' := Except.ok.inj h
    rw [List.append_nil]
    exact hb
  | cons x xs ih =>
    rw [List.foldlM_cons, bind_ok_iff] at h
    obtain ⟨b₁, hb₁, h⟩ := h
    have hrest := ih (hstep hb hb₁) h
    rw [List.append_assoc, List.singleton_append] at hrest
    exact hrest

theorem foldlM_congr {f : β → α → Attempt β} {R : α → α → Prop} {xs xs' : List α}
    (h : List.Forall₂ R xs xs') (hf : ∀ b x x', R x x' → f b x = f b x') (b : β) :
    xs.foldlM f b = xs'.foldlM f b := by
  induction h generalizing b with
  | nil => rfl
  | cons hx _ ih =>
    rw [List.foldlM_cons, List.foldlM_cons, hf b _ _ hx]
    exact bind_congr ih

theorem mapM_error_iff {f : α → Attempt β} {xs : List α} {e : Failure} :
    xs.mapM f = .error e ↔ ∃ before x after, xs = before ++ x :: after ∧
      (∀ y ∈ before, ∃ b, f y = .ok b) ∧ f x = .error e := by
  induction xs with
  | nil => simp
  | cons x xs ih =>
    rw [List.mapM_cons, bind_error_iff]
    constructor
    · rintro (hx | ⟨b, hb, hrest⟩)
      · exact ⟨[], x, xs, rfl, by simp, hx⟩
      · rcases bind_error_iff.mp hrest with hrest | ⟨bs, -, hcons⟩
        · obtain ⟨before, y, after, rfl, hbefore, hy⟩ := ih.mp hrest
          refine ⟨x :: before, y, after, rfl, ?_, hy⟩
          intro z hz
          rcases List.mem_cons.mp hz with rfl | hz
          · exact ⟨b, hb⟩
          · exact hbefore z hz
        · exact absurd hcons pure_ne_error
    · rintro ⟨before, y, after, hxs, hbefore, hy⟩
      cases before with
      | nil =>
        obtain ⟨rfl, -⟩ := List.cons.inj hxs
        exact .inl hy
      | cons z before =>
        obtain ⟨rfl, rfl⟩ := List.cons.inj hxs
        obtain ⟨b, hb⟩ := hbefore x List.mem_cons_self
        refine .inr ⟨b, hb, bind_error_iff.mpr (.inl (ih.mpr ⟨before, y, after, rfl, ?_, hy⟩))⟩
        exact fun w hw => hbefore w (List.mem_cons_of_mem _ hw)

/-- A success of which a check holds, found by running the computation. -/
theorem exists_ok_of_any {x : Attempt α} {check : α → Bool} (h : x.toOption.any check = true) :
    ∃ a, x = .ok a ∧ check a = true := by
  cases x with
  | error e => cases h
  | ok a => exact ⟨a, rfl, h⟩

theorem exists_ok_of_decide {x : Attempt α} {P : α → Prop} [DecidablePred P]
    (h : x.toOption.any (fun a => decide (P a)) = true) : ∃ a, x = .ok a ∧ P a := by
  obtain ⟨a, ha, hP⟩ := exists_ok_of_any h
  exact ⟨a, ha, of_decide_eq_true hP⟩

theorem exists_ok_of_isSome {x : Attempt α} (h : x.toOption.isSome = true) : ∃ a, x = .ok a := by
  cases x with
  | error e => cases h
  | ok a => exact ⟨a, rfl⟩

/-- Results of a computation that succeeded can be compared. -/
instance decidableEqOk [DecidableEq α] (x : Attempt α) (a : α) : Decidable (x = .ok a) :=
  match x with
  | .ok b => decidable_of_iff (b = a) (by simp)
  | .error _ => isFalse (by simp)

/-- What is said of a result can be decided by running the computation. -/
instance decidableForallOk (x : Attempt α) (P : α → Prop) [DecidablePred P] :
    Decidable (∀ a, x = .ok a → P a) :=
  match x with
  | .ok a => decidable_of_iff (P a) (by simp)
  | .error _ => isTrue (by simp)

end Attempt

namespace Json
variable {v : Json} {s : String}

theorem textOr_ok_iff {refusal : Misuse} : v.textOr refusal = .ok s ↔ v = .str s := by
  cases v with
  | str t => simp [textOr]
  | null | bool | int | float | arr | obj => simp [textOr]

theorem asText_ok_iff : v.asText = .ok s ↔ v = .str s := textOr_ok_iff

theorem asOperand_ok_iff : v.asOperand = .ok s ↔ v = .str s := textOr_ok_iff

@[simp] theorem asText_str (s : String) : (str s).asText = .ok s := rfl

@[simp] theorem asOperand_str (s : String) : (str s).asOperand = .ok s := rfl

end Json

namespace Logged
variable {α β : Type}

instance : LawfulMonad Logged := LawfulMonad.mk' Logged
  (by
    intro α x
    obtain ⟨entries, outcome⟩ := x
    cases outcome <;> simp [Functor.map, bind])
  (by intro α β a f; simp [Bind.bind, bind, pure])
  (by
    intro α β γ x f g
    obtain ⟨entries, outcome⟩ := x
    cases outcome with
    | error e => rfl
    | ok a =>
      cases h : (f a).outcome <;> simp [Bind.bind, bind, h])

theorem outcome_mapM (f : α → Logged β) (xs : List α) :
    (xs.mapM f).outcome = xs.mapM fun x => (f x).outcome := by
  induction xs with
  | nil => rfl
  | cons x xs ih => simp only [List.mapM_cons, outcome_bind, ih, outcome_pure]; rfl

theorem outcome_forM (f : α → Logged Unit) {xs : List α} (h : ∀ x ∈ xs, (f x).outcome = .ok ()) :
    (xs.forM f).outcome = .ok () := by
  induction xs with
  | nil => rfl
  | cons x xs ih =>
    rw [List.forM_eq_forM, List.forM_cons, outcome_bind, h x List.mem_cons_self]
    exact ih fun x hx => h x (List.mem_cons_of_mem _ hx)

end Logged
end TypedVocabulary
