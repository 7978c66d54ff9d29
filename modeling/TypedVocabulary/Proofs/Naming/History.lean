import TypedVocabulary.Proofs.Naming.Sanitizer

/-! # Histories of a scope

A scope answers requests, takes names that come from outside, and forgets everything when it is
reset. It tells requests apart by their keys. Since the last reset, two requests have the same answer
if and only if they have the same key, and a request with a new key gets a name that was neither handed
out nor taken. Requests with one suffix may have one key although they differ: a name in capitals is
then written like the name with `_upper` behind it that is to start with a small letter.
-/
namespace TypedVocabulary.Sanitizer

/-! ## Keys of requests -/

structure Request where
  name : String
  style : NamingCase
  suffix : String
  deriving DecidableEq

namespace Request
variable {q q' : Request}

def key (q : Request) : String := requestKey q.name q.style q.suffix

/-- The second request asks in small letters for what the first asks for, with `_upper` behind it. -/
def Lowers (q q' : Request) : Prop :=
  q.style = .upperCamel ∧ q'.style = .camel ∧ q'.name = q.name ++ "_upper"

theorem Lowers.key_eq (h : q.Lowers q') (hs : q.suffix = q'.suffix) : q.key = q'.key := by
  obtain ⟨hstyle, hstyle', hname⟩ := h
  unfold key requestKey
  rw [hstyle, hstyle', hname, hs]
  simp only [NamingCase.label, String.append_assoc]
  rfl

/-- Names that are written alike in front of the two cases differ by the low line with `upper`. -/
theorem lowers_of_key_eq (hs : q.suffix = q'.suffix) (hstyle : q.style = .upperCamel)
    (hstyle' : q'.style = .camel) (h : q.key = q'.key) : q.Lowers q' := by
  refine ⟨hstyle, hstyle', ?_⟩
  unfold key requestKey at h
  rw [hstyle, hstyle', hs, String.append_left_inj, String.append_left_inj] at h
  have hlabel : "_" ++ NamingCase.upperCamel.label = "_upper" ++ ("_" ++ NamingCase.camel.label) := rfl
  rw [String.append_assoc, String.append_assoc, hlabel, ← String.append_assoc,
    String.append_left_inj] at h
  exact h.symm

theorem key_eq_iff (hs : q.suffix = q'.suffix) :
    q.key = q'.key ↔ q = q' ∨ q.Lowers q' ∨ q'.Lowers q := by
  constructor
  · intro h
    obtain ⟨name, style, suffix⟩ := q
    obtain ⟨name', style', suffix'⟩ := q'
    obtain rfl : suffix = suffix' := hs
    by_cases hstyle : style = style'
    · subst hstyle
      obtain rfl : name = name' := requestKey_injective style suffix h
      exact .inl rfl
    · cases style <;> cases style'
      · exact absurd rfl hstyle
      · exact .inr (.inl (lowers_of_key_eq rfl rfl rfl h))
      · exact .inr (.inr (lowers_of_key_eq rfl rfl rfl h.symm))
      · exact absurd rfl hstyle
  · rintro (rfl | h | h)
    · rfl
    · exact h.key_eq hs
    · exact (h.key_eq hs.symm).symm

end Request

/-! ## Runs -/

inductive Step
  | sanitize (q : Request)
  | add (name : String)
  | reset

/-- A scope, with the requests it answered and the names it was given since the last reset. -/
structure History where
  scope : Sanitizer
  answered : List (Request × String)
  added : List String

namespace History
variable {h h' : History} {q : Request}

def ofRules (rules : NamingRules) : History := ⟨.ofRules rules, [], []⟩

def step (h : History) : Step → Attempt History
  | .sanitize q => do
    let (name, scope) ← h.scope.sanitize (.str q.name) q.style q.suffix
    return ⟨scope, (q, name) :: h.answered, h.added⟩
  | .add name => return ⟨h.scope.use name, h.answered, name :: h.added⟩
  | .reset => return ⟨h.scope.reset, [], []⟩

def run (rules : NamingRules) (steps : List Step) : Attempt History :=
  steps.foldlM step (ofRules rules)

/-- The scope remembers just the answers it gave, and avoids them and the names it was given. -/
structure Kept (h : History) : Prop where
  sound : h.scope.Sound []
  added : ∀ name ∈ h.added, name ∈ h.scope.used
  remembered : ∀ q name, (q, name) ∈ h.answered → h.scope.answer? q.key = some name
  asked : ∀ key name, h.scope.answer? key = some name → ∃ q, q.key = key ∧ (q, name) ∈ h.answered

theorem kept_reset (rules : NamingRules) : (ofRules rules).Kept where
  sound := @sound_of_noAnswers (.ofRules rules) rfl
  added := fun _ hname => nomatch hname
  remembered := fun _ _ hanswered => nomatch hanswered
  asked := fun _ _ hanswer => nomatch hanswer

theorem Kept.sanitize (hk : h.Kept) {name : String} {scope : Sanitizer}
    (hs : h.scope.sanitize (.str q.name) q.style q.suffix = .ok (name, scope)) :
    Kept ⟨scope, (q, name) :: h.answered, h.added⟩ where
  sound := hk.sound.sanitize hs
  added := by
    intro taken htaken
    have hused := hk.added taken htaken
    rcases sanitize_ok hs with ⟨-, rfl⟩ | ⟨-, -, -, -, hscope, -⟩
    · exact hused
    · exact (hscope taken).mpr (.inr hused)
  remembered := by
    intro q' name' hanswered
    rcases List.mem_cons.mp hanswered with heq | hanswered
    · cases heq
      exact (answer?_sanitize hs q.key).trans (if_pos rfl)
    · exact answer?_sanitize_of_some hs (hk.remembered q' name' hanswered)
  asked := by
    intro key name' hanswer
    rw [answer?_sanitize hs] at hanswer
    split at hanswer
    · rename_i hkey
      cases hanswer
      exact ⟨q, hkey, List.mem_cons_self⟩
    · obtain ⟨q', hkey, hanswered⟩ := hk.asked key name' hanswer
      exact ⟨q', hkey, List.mem_cons_of_mem _ hanswered⟩

theorem Kept.add (hk : h.Kept) (name : String) :
    Kept ⟨h.scope.use name, h.answered, name :: h.added⟩ where
  sound := hk.sound.use name
  added := by
    intro taken htaken
    rcases List.mem_cons.mp htaken with rfl | htaken
    · exact mem_use.mpr (.inl rfl)
    · exact mem_use.mpr (.inr (hk.added taken htaken))
  remembered := by
    intro q name' hanswered
    rw [answer?_use]
    exact hk.remembered q name' hanswered
  asked := by
    intro key name' hanswer
    rw [answer?_use] at hanswer
    exact hk.asked key name' hanswer

theorem exists_sanitize (s : Sanitizer) (q : Request) :
    ∃ name scope, s.sanitize (.str q.name) q.style q.suffix = .ok (name, scope) := by
  unfold sanitize
  dsimp only
  split
  · exact ⟨_, _, rfl⟩
  · exact ⟨_, _, rfl⟩

/-- Every step can be taken, and what is kept before it is kept after it. -/
theorem Kept.step (hk : h.Kept) (x : Step) : ∃ h', h.step x = .ok h' ∧ h'.Kept := by
  cases x with
  | sanitize q =>
    obtain ⟨name, scope, hs⟩ := exists_sanitize h.scope q
    exact ⟨_, Attempt.bind_ok_iff.mpr ⟨_, hs, rfl⟩, hk.sanitize hs⟩
  | add name => exact ⟨_, rfl, hk.add name⟩
  | reset => exact ⟨_, rfl, kept_reset h.scope.rules⟩

theorem Kept.foldlM (hk : h.Kept) (steps : List Step) :
    ∃ h', steps.foldlM History.step h = .ok h' ∧ h'.Kept := by
  induction steps generalizing h with
  | nil => exact ⟨h, rfl, hk⟩
  | cons x rest ih =>
    obtain ⟨h₁, hstep, hk₁⟩ := hk.step x
    obtain ⟨h₂, hrest, hk₂⟩ := ih hk₁
    exact ⟨h₂, Attempt.bind_ok_iff.mpr ⟨h₁, hstep, hrest⟩, hk₂⟩

/-! ## Answers -/

theorem Kept.answer_eq_iff (hk : h.Kept) {q' : Request} {name name' : String}
    (hq : (q, name) ∈ h.answered) (hq' : (q', name') ∈ h.answered) :
    name = name' ↔ q.key = q'.key := by
  have hname := hk.remembered q name hq
  have hname' := hk.remembered q' name' hq'
  constructor
  · rintro rfl
    exact hk.sound.injective q.key q'.key name hname hname'
  · intro hkey
    rw [hkey, hname'] at hname
    exact (Option.some.inj hname).symm

theorem Kept.answer_fresh (hk : h.Kept) {name : String} {scope : Sanitizer}
    (hs : h.scope.sanitize (.str q.name) q.style q.suffix = .ok (name, scope))
    (hnew : ∀ x ∈ h.answered, x.1.key ≠ q.key) :
    name ∉ h.added ∧ ∀ x ∈ h.answered, x.2 ≠ name := by
  rcases sanitize_ok hs with ⟨hold, -⟩ | ⟨-, -, hfree, -⟩
  · obtain ⟨q', hkey, hanswered⟩ := hk.asked q.key name hold
    exact absurd hkey (hnew (q', name) hanswered)
  · refine ⟨fun hadded => hfree (hk.added name hadded), ?_⟩
    rintro ⟨q', name'⟩ hanswered rfl
    exact hfree (hk.sound.taken _ _ (hk.remembered q' name' hanswered))

/-- In every history, the answers since the last reset are told apart by the keys of their requests: they
are the same name for requests with the same key, and different names for all others, and the next
request gets a name that was neither handed out nor taken since if its key is new. Requests with the
same suffix have the same key if they are the same, and else only where one of them lowers the other. -/
theorem answers_told_apart_by_key (rules : NamingRules) (steps : List Step) :
    ∃ h, run rules steps = .ok h ∧
      (∀ q name q' name', (q, name) ∈ h.answered → (q', name') ∈ h.answered →
        (name = name' ↔ q.key = q'.key)) ∧
      (∀ q : Request, ∃ name scope,
        h.scope.sanitize (.str q.name) q.style q.suffix = .ok (name, scope) ∧
        ((∀ x ∈ h.answered, x.1.key ≠ q.key) → name ∉ h.added ∧ ∀ x ∈ h.answered, x.2 ≠ name)) ∧
      ∀ q q' : Request, q.suffix = q'.suffix →
        (q.key = q'.key ↔ q = q' ∨ q.Lowers q' ∨ q'.Lowers q) := by
  obtain ⟨h, hrun, hk⟩ := (kept_reset rules).foldlM steps
  refine ⟨h, hrun, fun q name q' name' hq hq' => hk.answer_eq_iff hq hq', ?_,
    fun q q' hs => Request.key_eq_iff hs⟩
  intro q
  obtain ⟨name, scope, hs⟩ := exists_sanitize h.scope q
  exact ⟨name, scope, hs, hk.answer_fresh hs⟩

def startRequest : Request := ⟨"start", .upperCamel, "_"⟩

def lowerStartRequest : Request := ⟨"start_upper", .camel, "_"⟩

/-- Two requests with one key get one name, and a third one with a new key avoids it. -/
theorem answers_told_apart_by_key_start :
    ∃ h, run Keyword.rules [.sanitize startRequest, .add "End", .sanitize lowerStartRequest] = .ok h ∧
      startRequest ≠ lowerStartRequest ∧ startRequest.key = lowerStartRequest.key ∧
      (startRequest, "Start") ∈ h.answered ∧ (lowerStartRequest, "Start") ∈ h.answered ∧
      ∃ name scope, h.scope.sanitize (.str "end") .upperCamel "_" = .ok (name, scope) ∧
        name ∉ h.added ∧ ∀ x ∈ h.answered, x.2 ≠ name := by
  obtain ⟨h, hrun, hsame, hnext, hkeys⟩ := answers_told_apart_by_key Keyword.rules
    [.sanitize startRequest, .add "End", .sanitize lowerStartRequest]
  have hanswered : (run Keyword.rules
      [.sanitize startRequest, .add "End", .sanitize lowerStartRequest]).map History.answered =
      .ok [(lowerStartRequest, "Start"), (startRequest, "Start")] := by decide +kernel
  rw [hrun] at hanswered
  have hlist : h.answered = [(lowerStartRequest, "Start"), (startRequest, "Start")] :=
    Except.ok.inj hanswered
  have hstart : (startRequest, "Start") ∈ h.answered := by simp [hlist]
  have hlower : (lowerStartRequest, "Start") ∈ h.answered := by simp [hlist]
  have hkey : startRequest.key = lowerStartRequest.key := (hsame _ _ _ _ hstart hlower).mp rfl
  obtain ⟨name, scope, hname, hfresh⟩ := hnext ⟨"end", .upperCamel, "_"⟩
  refine ⟨h, hrun, by decide, hkey, hstart, hlower, name, scope, hname, hfresh ?_⟩
  rw [hlist]
  decide +kernel

end History
end TypedVocabulary.Sanitizer
