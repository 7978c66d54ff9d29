import TypedVocabulary.Proofs.Outcomes

/-! # Requirements of computations

Values are not checked when they are read, so many a step asks more of its values than reading does.
A requirement says exactly what: met, it lets the step succeed, and unmet, the step is a misuse. The
requirements of a computation are those of its steps. For steps that have faults of other kinds it
is said what these are.
-/
namespace TypedVocabulary

namespace Json

def IsText (v : Json) : Prop := ∃ s, v = .str s

/-- A text, or a value that counts as absent. -/
def AbsentOrText (v : Json) : Prop := v.truthy = true → v.IsText

theorem IsText.absentOrText {v : Json} (h : v.IsText) : v.AbsentOrText := fun _ => h

theorem absentOrText_null : null.AbsentOrText := fun h => nomatch h

end Json

namespace Attempt
variable {α β : Type}

/-- Exactly what makes a computation succeed that is a misuse without it. -/
structure Requires (x : Attempt α) (p : Prop) : Prop where
  met : p → ∃ a, x = .ok a
  unmet : ¬p → ∃ m, x = .error (.misuse m)

section
variable {x : Attempt α} {f : α → Attempt β} {p q : Prop}

theorem Requires.ok_iff (h : Requires x p) : (∃ a, x = .ok a) ↔ p := by
  constructor
  · rintro ⟨a, ha⟩
    by_contra hp
    obtain ⟨m, hm⟩ := h.unmet hp
    cases ha.symm.trans hm
  · exact h.met

theorem Requires.congr (h : Requires x p) (hpq : p ↔ q) : Requires x q :=
  ⟨fun hq => h.met (hpq.mpr hq), fun hq => h.unmet fun hp => hq (hpq.mp hp)⟩

theorem requires_of_ok {a : α} (h : x = .ok a) (hp : p) : Requires x p :=
  ⟨fun _ => ⟨a, h⟩, fun hnot => absurd hp hnot⟩

/-- The second step is only asked if the first has what it requires. -/
theorem Requires.bind (hx : Requires x p) (hf : p → ∀ a, x = .ok a → Requires (f a) q) :
    Requires (x >>= f) (p ∧ q) := by
  constructor
  · rintro ⟨hp, hq⟩
    obtain ⟨a, ha⟩ := hx.met hp
    obtain ⟨b, hb⟩ := (hf hp a ha).met hq
    exact ⟨b, bind_ok_iff.mpr ⟨a, ha, hb⟩⟩
  · intro hnot
    by_cases hp : p
    · obtain ⟨a, ha⟩ := hx.met hp
      have hq : ¬q := fun hq => hnot ⟨hp, hq⟩
      obtain ⟨m, hm⟩ := (hf hp a ha).unmet hq
      exact ⟨m, bind_error_iff.mpr (.inr ⟨a, ha, hm⟩)⟩
    · obtain ⟨m, hm⟩ := hx.unmet hp
      exact ⟨m, bind_error_iff.mpr (.inl hm)⟩

theorem Requires.bind_ok (hx : Requires x p) (hf : p → ∀ a, x = .ok a → ∃ b, f a = .ok b) :
    Requires (x >>= f) p := by
  have hboth : Requires (x >>= f) (p ∧ True) := by
    refine hx.bind fun hp a ha => ?_
    obtain ⟨b, hb⟩ := hf hp a ha
    exact requires_of_ok hb trivial
  exact hboth.congr (and_iff_left trivial)

theorem Requires.map (hx : Requires x p) (g : α → β) : Requires (x.map g) p := by
  constructor
  · intro hp
    obtain ⟨a, rfl⟩ := hx.met hp
    exact ⟨g a, rfl⟩
  · intro hp
    obtain ⟨m, rfl⟩ := hx.unmet hp
    exact ⟨m, rfl⟩

end

theorem requires_mapM {f : α → Attempt β} {p : α → Prop} {xs : List α}
    (h : ∀ x ∈ xs, Requires (f x) (p x)) : Requires (xs.mapM f) (∀ x ∈ xs, p x) := by
  induction xs with
  | nil => exact requires_of_ok rfl fun _ hx => nomatch hx
  | cons x xs ih =>
    have hfirst := h x List.mem_cons_self
    have hrest := ih fun y hy => h y (List.mem_cons_of_mem _ hy)
    rw [List.mapM_cons]
    refine (hfirst.bind (q := ∀ y ∈ xs, p y) fun _ y _ => ?_).congr List.forall_mem_cons.symm
    exact hrest.bind_ok fun _ ys _ => ⟨y :: ys, rfl⟩

def FailsBy (P : Failure → Prop) (x : Attempt α) : Prop := ∀ e, x = .error e → P e

variable {P : Failure → Prop}

theorem failsBy_ok {x : Attempt α} {a : α} (h : x = .ok a) : FailsBy P x := by
  intro e he
  cases h.symm.trans he

theorem failsBy_pure (a : α) : FailsBy P (pure a : Attempt α) := failsBy_ok rfl

theorem FailsBy.bind {x : Attempt α} {f : α → Attempt β} (hx : FailsBy P x)
    (hf : ∀ a, x = .ok a → FailsBy P (f a)) : FailsBy P (x >>= f) := by
  intro e he
  rcases bind_error_iff.mp he with he | ⟨a, ha, he⟩
  · exact hx e he
  · exact hf a ha e he

theorem FailsBy.map {x : Attempt α} (h : FailsBy P x) (g : α → β) : FailsBy P (x.map g) := by
  intro e he
  cases x with
  | ok a => cases he
  | error e' => exact h e (congrArg Except.error (Except.error.inj he))

theorem FailsBy.imp {Q : Failure → Prop} {x : Attempt α} (h : FailsBy P x) (hPQ : ∀ e, P e → Q e) :
    FailsBy Q x :=
  fun e he => hPQ e (h e he)

theorem failsBy_mapM {f : α → Attempt β} {xs : List α} (h : ∀ x ∈ xs, FailsBy P (f x)) :
    FailsBy P (xs.mapM f) := by
  intro e he
  obtain ⟨before, x, after, rfl, -, hx⟩ := mapM_error_iff.mp he
  exact h x (by simp) e hx

def IsMisuse (e : Failure) : Prop := ∃ m, e = .misuse m

/-- What fails only for want of its requirement fails by a misuse. -/
theorem Requires.failsBy {x : Attempt α} {p : Prop} (h : Requires x p) : FailsBy IsMisuse x := by
  intro e he
  by_cases hp : p
  · obtain ⟨a, ha⟩ := h.met hp
    cases ha.symm.trans he
  · obtain ⟨m, hm⟩ := h.unmet hp
    exact ⟨m, Except.error.inj (he.symm.trans hm)⟩

/-- Conversely, what fails by misuses alone requires its own success. -/
theorem FailsBy.requires {x : Attempt α} (h : FailsBy IsMisuse x) : Requires x (∃ a, x = .ok a) := by
  refine ⟨id, fun hnot => ?_⟩
  cases hx : x with
  | ok a => exact absurd ⟨a, hx⟩ hnot
  | error e =>
    obtain ⟨m, rfl⟩ := h e hx
    exact ⟨m, rfl⟩

end Attempt

/-! ## Requirements of single values -/

namespace Json
open Attempt

theorem requires_textOr (refusal : Misuse) (v : Json) : Requires (v.textOr refusal) v.IsText := by
  cases v with
  | str s => exact requires_of_ok rfl ⟨s, rfl⟩
  | null | bool | int | float | arr | obj =>
    refine ⟨fun h => ?_, fun _ => ⟨_, rfl⟩⟩
    obtain ⟨s, hs⟩ := h
    cases hs

theorem requires_asText (v : Json) : Requires v.asText v.IsText := requires_textOr _ v

theorem requires_asOperand (v : Json) : Requires v.asOperand v.IsText := requires_textOr _ v

end Json
end TypedVocabulary
