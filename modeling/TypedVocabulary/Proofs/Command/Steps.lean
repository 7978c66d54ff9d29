import TypedVocabulary.Command.Run
import TypedVocabulary.Proofs.Outcomes

/-! # What steps do to the files

A step of a command is described by the files before it and those after it, for its success with the
result and for its failure apart. The description of a command follows from those of its steps. What
a step keeps, also if it fails, is the case in which all three descriptions are one.
-/
namespace TypedVocabulary.Command.Step

variable {α β : Type} {P P' : FileTree → Prop} {Q Q' : α → FileTree → Prop}
  {R : β → FileTree → Prop} {E E' : FileTree → Prop}

/-- From files with `P` the step comes to files with `Q` for its result, or it fails and leaves
files with `E`. -/
def Triple (P : FileTree → Prop) (x : Step α) (Q : α → FileTree → Prop) (E : FileTree → Prop) :
    Prop :=
  ∀ session : Session, P session.files →
    match StateT.run (ExceptT.run x) session with
    | (.ok a, after) => Q a after.files
    | (.error _, after) => E after.files

theorem Triple.conseq {x : Step α} (h : Triple P x Q E) (hP : ∀ t, P' t → P t)
    (hQ : ∀ a t, Q a t → Q' a t) (hE : ∀ t, E t → E' t) : Triple P' x Q' E' := by
  intro session hsession
  have hstep := h session (hP _ hsession)
  cases hrun : StateT.run (ExceptT.run x) session with
  | mk outcome after =>
    rw [hrun] at hstep
    cases outcome with
    | ok a => exact hQ a _ hstep
    | error e => exact hE _ hstep

theorem Triple.pre {x : Step α} (h : Triple P x Q E) (hP : ∀ t, P' t → P t) : Triple P' x Q E :=
  h.conseq hP (fun _ _ ht => ht) fun _ ht => ht

theorem Triple.post {x : Step α} (h : Triple P x Q E) (hQ : ∀ a t, Q a t → Q' a t) :
    Triple P x Q' E :=
  h.conseq (fun _ ht => ht) hQ fun _ ht => ht

theorem triple_pure {a : α} (h : ∀ t, P t → Q a t) : Triple P (pure a : Step α) Q E :=
  fun _ hsession => h _ hsession

theorem triple_throw {e : Failure} (h : ∀ t, P t → E t) : Triple P (throw e : Step α) Q E :=
  fun _ hsession => h _ hsession

/-- What holds after the first step is what the second starts from. -/
theorem Triple.bind {x : Step α} {f : α → Step β} (hx : Triple P x Q E)
    (hf : ∀ a, Triple (Q a) (f a) R E) : Triple P (x >>= f) R E := by
  intro session hsession
  have hstep := hx session hsession
  rw [ExceptT.run_bind, StateT.run_bind]
  cases hrun : StateT.run (ExceptT.run x) session with
  | mk outcome after =>
    rw [hrun] at hstep
    cases outcome with
    | ok a => exact hf a after hstep
    | error e => exact hstep

/-- A failure is answered from the files that it leaves. -/
theorem Triple.tryCatch {x : Step α} {f : Failure → Step α} (hx : Triple P x Q E)
    (hf : ∀ e, Triple E (f e) Q E') : Triple P (tryCatch x f) Q E' := by
  intro session hsession
  have hstep := hx session hsession
  rw [ExceptT.run_tryCatch, StateT.run_bind]
  cases hrun : StateT.run (ExceptT.run x) session with
  | mk outcome after =>
    rw [hrun] at hstep
    cases outcome with
    | ok a => exact hstep
    | error e => exact hf e after hstep

/-- A loop whose body takes the invariant from the elements before to those with the next. -/
theorem triple_forM (I : List α → FileTree → Prop) {f : α → Step Unit} {xs : List α}
    (h : ∀ before x after, xs = before ++ x :: after →
      Triple (I before) (f x) (fun _ => I (before ++ [x])) E) :
    Triple (I []) (xs.forM f) (fun _ => I xs) E := by
  have hrest (rest before : List α) (hxs : xs = before ++ rest) :
      Triple (I before) (rest.forM f) (fun _ => I xs) E := by
    induction rest generalizing before with
    | nil =>
      rw [hxs, List.append_nil]
      exact triple_pure fun _ ht => ht
    | cons x rest ih =>
      refine (h before x rest hxs).bind fun _ => ih (before ++ [x]) ?_
      rw [hxs, List.append_assoc, List.singleton_append]
  exact hrest xs [] rfl

/-- What is known of a result beside the files can be used from then on. -/
theorem Triple.bind_result {x : Step α} {f : α → Step β} {φ : α → Prop}
    (hx : Triple P x (fun a t => P t ∧ φ a) E) (hf : ∀ a, φ a → Triple P (f a) R E) :
    Triple P (x >>= f) R E := by
  refine hx.bind fun a session hsession => ?_
  exact hf a hsession.2 session hsession.1

/-! ## Results -/

theorem triple_get (files : FileTree) :
    Triple (· = files) (get : Step Session) (fun session t => t = files ∧ session.files = files) E :=
  fun _ hsession => ⟨hsession, hsession⟩

theorem triple_lift (x : Attempt α) (hE : ∀ t, P t → E t) :
    Triple P (liftM x : Step α) (fun a t => P t ∧ x = .ok a) E := by
  intro session hsession
  cases x with
  | ok a => exact ⟨hsession, rfl⟩
  | error e => exact hE _ hsession

theorem outcome_of_readAt {x : Logged α} {level : Level} {a : α} (h : (x.readAt level).2 = .ok a) :
    x.outcome = .ok a := by
  obtain ⟨entries, outcome⟩ := x
  unfold Logged.readAt at h
  dsimp only at h ⊢
  induction entries with
  | nil => exact h
  | cons entry rest ih =>
    rw [Logged.readEntries] at h
    split at h
    · split at h
      · exact ih h
      · cases h
    · exact ih h

theorem triple_changeFiles {change : FileTree → FileTree.Change}
    (hok : ∀ t t', P t → change t = (t', .ok ()) → P' t')
    (herror : ∀ t t' e, P t → change t = (t', .error e) → E t') :
    Triple P (changeFiles change) (fun _ => P') E := by
  intro session hsession
  have hrun : StateT.run (ExceptT.run (changeFiles change)) session =
      StateT.run (ExceptT.run (changeFiles fun _ => change session.files)) session := rfl
  rw [hrun]
  cases hchange : change session.files with
  | mk files outcome =>
    cases outcome with
    | ok u => exact hok _ _ hsession hchange
    | error e => exact herror _ _ e hsession hchange

/-! ## Steps that keep a property of the files -/

/-- The files have the property after the step, also if it fails. -/
abbrev Keeps (P : FileTree → Prop) (x : Step α) : Prop := Triple P x (fun _ => P) P

theorem Keeps.triple {x : Step α} (h : Keeps P x) (hE : ∀ t, P t → E t) :
    Triple P x (fun _ => P) E :=
  h.conseq (fun _ ht => ht) (fun _ _ ht => ht) hE

theorem Keeps.run {x : Step α} (h : Keeps P x) {session : Session} (hsession : P session.files) :
    P (StateT.run (ExceptT.run x) session).2.files := by
  have hstep := h session hsession
  cases hrun : StateT.run (ExceptT.run x) session with
  | mk outcome after =>
    rw [hrun] at hstep
    cases outcome <;> exact hstep

theorem keeps_pure (a : α) : Keeps P (pure a : Step α) := triple_pure fun _ ht => ht

theorem keeps_get : Keeps P (get : Step Session) := fun _ h => h

theorem keeps_lift (x : Attempt α) : Keeps P (liftM x : Step α) :=
  (triple_lift x fun _ ht => ht).post fun _ _ ht => ht.1

theorem keeps_forM {xs : List α} {f : α → Step Unit} (h : ∀ x ∈ xs, Keeps P (f x)) :
    Keeps P (xs.forM f) :=
  triple_forM (fun _ => P) fun _ x _ hxs => h x (by simp [hxs])

theorem keeps_showLines (lines : List String) : Keeps P (showLines lines) := fun _ h => h

theorem keeps_print (text : String) : Keeps P (print text) :=
  (keeps_lift _).bind fun _ => keeps_showLines _

theorem triple_perform (x : Logged α) (hE : ∀ t, P t → E t) :
    Triple P (perform x) (fun a t => P t ∧ x.outcome = .ok a) E := by
  refine (keeps_get.triple hE).bind fun session => ?_
  dsimp only
  refine ((keeps_showLines _).triple hE).bind fun _ => ?_
  cases houtcome : (x.readAt session.threshold).2 with
  | ok a => exact triple_pure fun t ht => ⟨ht, outcome_of_readAt houtcome⟩
  | error e => exact triple_throw hE

theorem keeps_perform (x : Logged α) : Keeps P (perform x) :=
  (triple_perform x fun _ ht => ht).post fun _ _ ht => ht.1

theorem keeps_changeFiles {change : FileTree → FileTree.Change} (h : ∀ t, P t → P (change t).1) :
    Keeps P (changeFiles change) := by
  refine triple_changeFiles (fun t t' ht hchange => ?_) fun t t' e ht hchange => ?_
  · simpa only [hchange] using h t ht
  · simpa only [hchange] using h t ht

end TypedVocabulary.Command.Step
