import TypedVocabulary.Proofs.Registry.Edits

/-! # Consistency of a registry

The two tables of a registry and the aliases in its entries tell the same story: the aliases of a
language are those that the alias table gives it, and none of them is a language itself. Requests
that are refused change nothing and the others keep the tables in step, so every history of requests
ends in a consistent registry. In such a registry a name is supported if and only if it resolves.
-/
namespace TypedVocabulary.Registry
open KeyedList Attempt

variable {r r' : Registry} {key language name : String} {b : Backend} {names : List String}

structure Consistent (r : Registry) : Prop where
  languages : (r.entries.map Entry.language).Nodup
  aliases : (keys r.aliases).Nodup
  owned : ∀ name language, r.owner? name = some language ↔
    ∃ e, r.entry? language = some e ∧ name ∈ e.aliases
  apart : ∀ name, r.entry? name = none ∨ r.owner? name = none
  ordered : ∀ language e, r.entry? language = some e → e.aliases.Pairwise (· < ·)

theorem consistent_empty : empty.Consistent where
  languages := List.nodup_nil
  aliases := List.nodup_nil
  owned := by simp [owner?, entry?, empty]
  apart := fun _ => .inl rfl
  ordered := by simp [empty, entry?]

theorem Consistent.mem_formerAliases_iff (h : r.Consistent) :
    name ∈ r.formerAliases key ↔ r.owner? name = some key := by
  unfold formerAliases
  rw [h.owned]
  cases r.entry? key <;> simp

/-! ## Steps -/

theorem Consistent.entered (h : r.Consistent) (ha : r.Accepts key names) (hk : key ∉ names) :
    (r.entered key b names).Consistent where
  languages := by
    rw [Registry.entered, ← keys_keyed, keyed_putEntry]
    refine nodup_keys_put ?_ _ _
    rw [keys_keyed]
    exact h.languages
  aliases := nodup_keys_putAliases key names h.aliases
  owned := by
    intro name language
    rw [owner?_entered, entry?_entered]
    by_cases hkey : key = language
    · subst hkey
      have hmem : name ∈ distinct (names ++ r.formerAliases key) ↔
          name ∈ names ∨ r.owner? name = some key := by
        rw [mem_distinct, List.mem_append, h.mem_formerAliases_iff]
      by_cases hname : name ∈ names <;> simp [hname, hmem]
    · rw [if_neg hkey, ← h.owned]
      by_cases hname : name ∈ names
      · -- An alias that is accepted for `key` belongs to no other language.
        have howner := (ha.aliases name hname).2
        rw [if_pos hname]
        rcases howner with hnone | hsome
        · simp [hnone, hkey]
        · simp [hsome]
      · rw [if_neg hname]
  apart := by
    intro name
    rw [owner?_entered, entry?_entered]
    by_cases hkey : key = name
    · subst hkey
      exact .inr ((if_neg hk).trans ha.language)
    · rw [if_neg hkey]
      by_cases hname : name ∈ names
      · exact .inl (ha.aliases name hname).1
      · rw [if_neg hname]
        exact h.apart name
  ordered := by
    intro language e he
    rw [entry?_entered] at he
    by_cases hkey : key = language
    · rw [if_pos hkey] at he
      obtain rfl := Option.some.inj he
      exact pairwise_distinct _
    · rw [if_neg hkey] at he
      exact h.ordered language e he

theorem Consistent.without {e : Entry} (h : r.Consistent) (he : r.entry? key = some e) :
    (r.without key e.aliases).Consistent where
  languages := h.languages.sublist (List.filter_sublist.map Entry.language)
  aliases := h.aliases.sublist (List.filter_sublist.map Prod.fst)
  owned := by
    intro name language
    have hname : r.owner? name = some key ↔ name ∈ e.aliases := by simp [h.owned, he]
    rw [owner?_without, entry?_without]
    by_cases hkey : key = language
    · subst hkey
      by_cases hmem : name ∈ e.aliases
      · simp [hmem]
      · simp [hmem, hname]
    · rw [if_neg hkey, ← h.owned]
      by_cases hmem : name ∈ e.aliases
      · simp [hmem, hname.mpr hmem, hkey]
      · rw [if_neg hmem]
  apart := by
    intro name
    rw [owner?_without, entry?_without]
    rcases h.apart name with hnone | hnone <;> simp [hnone]
  ordered := by
    intro language f hf
    rw [entry?_without] at hf
    by_cases hkey : key = language
    · simp [hkey] at hf
    · rw [if_neg hkey] at hf
      exact h.ordered language f hf

theorem Consistent.register {aliases : List String} (h : r.Consistent)
    (hr : r.register language b aliases = .ok r') : r'.Consistent := by
  obtain ⟨ha, rfl⟩ := register_ok_iff.mp hr
  exact h.entered ha (key_not_mem_aliasKeys _ aliases)

theorem Consistent.unregister (h : r.Consistent) (language : String) :
    (r.unregister language).Consistent := by
  cases he : r.entry? (Text.lower language) with
  | none =>
    rw [unregister_of_none he]
    exact h
  | some e =>
    rw [unregister_of_some he]
    exact h.without he

/-! ## Histories -/

inductive Request
  | register (language : Json) (b : Option Backend) (aliases : Json)
  | unregister (language : String)

def Request.edit : Request → Edit Unit
  | register language b aliases => registerIn language b aliases
  | unregister language => unregisterIn language

/-- What a request leaves, whether or not it succeeds. -/
def after (r : Registry) (q : Request) : Registry := (perform q.edit r).2

def history (requests : List Request) : Registry := requests.foldl after empty

theorem Consistent.after (h : r.Consistent) (q : Request) : (r.after q).Consistent := by
  cases q with
  | register language b aliases =>
    unfold Registry.after Request.edit
    rw [perform_registerIn]
    cases hr : r.registerValue language b aliases with
    | error e => exact h
    | ok r' =>
      obtain ⟨name, backend, given, -, -, -, hr⟩ := registerValue_ok_iff.mp hr
      exact h.register hr
  | unregister language =>
    unfold Registry.after Request.edit
    rw [perform_unregisterIn]
    exact h.unregister language

theorem Consistent.foldl_after (h : r.Consistent) (requests : List Request) :
    (requests.foldl Registry.after r).Consistent := by
  induction requests generalizing r with
  | nil => exact h
  | cons q rest ih => exact ih (h.after q)

theorem consistent_history (requests : List Request) : (history requests).Consistent :=
  consistent_empty.foldl_after requests

/-! ## Look-up -/

theorem mem_languages_iff : language ∈ r.languages ↔ ∃ e, r.entry? language = some e := by
  have hkeys : language ∈ keys (keyed r.entries) ↔ language ∈ r.languages := by
    rw [keys_keyed, languages, (Text.sort_perm _).mem_iff]
  rw [← hkeys, ← isSome_value?_iff, ← entry?_eq, Option.isSome_iff_exists]

theorem resolve_ok_iff : r.resolve name = .ok language ↔
    ∃ e, r.entry? ((r.owner? (Text.lower name)).getD (Text.lower name)) = some e ∧
      e.language = language := by
  unfold resolve find
  simp only
  cases r.entry? ((r.owner? (Text.lower name)).getD (Text.lower name)) <;> simp [Except.map]

theorem mem_languages_of_resolve (h : r.resolve name = .ok language) : language ∈ r.languages := by
  obtain ⟨e, he, hlanguage⟩ := resolve_ok_iff.mp h
  rw [mem_languages_iff]
  exact ⟨e, hlanguage ▸ language_of_entry? he ▸ he⟩

theorem Consistent.isSupported_iff (h : r.Consistent) :
    r.isSupported name = true ↔ ∃ language, r.resolve name = .ok language := by
  have hresolve : (∃ language, r.resolve name = .ok language) ↔
      ∃ e, r.entry? ((r.owner? (Text.lower name)).getD (Text.lower name)) = some e := by
    simp [resolve_ok_iff]
  rw [hresolve]
  unfold isSupported
  cases howner : r.owner? (Text.lower name) with
  | none => simp [howner, Option.isSome_iff_exists]
  | some language =>
    obtain ⟨e, he, -⟩ := (h.owned _ _).mp howner
    simp [howner, he]

/-- Every history of requests leaves tables that agree, and a registration that fails leaves what
was there. -/
theorem tables_in_step :
    (∀ requests : List Request, let r := history requests
      (∀ name, name ∈ r.languages → r.owner? name = none) ∧
      (∀ name language, r.owner? name = some language ↔
        ∃ e, r.entry? language = some e ∧ name ∈ e.aliases) ∧
      (∀ language e, r.entry? language = some e → e.aliases.Pairwise (· < ·)) ∧
      (∀ name, r.isSupported name = true ↔ ∃ language, r.resolve name = .ok language) ∧
      (∀ name language, r.resolve name = .ok language → language ∈ r.languages)) ∧
    (∀ (r r' : Registry) (language : Json) (b : Option Backend) (aliases : Json) (e : Failure),
      perform (registerIn language b aliases) r = (.error e, r') → r' = r) := by
  constructor
  · intro requests r
    have h : r.Consistent := consistent_history requests
    refine ⟨?_, h.owned, h.ordered, fun _ => h.isSupported_iff, fun _ _ => mem_languages_of_resolve⟩
    intro name hname
    obtain ⟨e, he⟩ := mem_languages_iff.mp hname
    exact (h.apart name).resolve_left (by simp [he])
  · intro r r' language b aliases e h
    rw [perform_registerIn] at h
    cases hr : r.registerValue language b aliases with
    | error e' =>
      rw [hr] at h
      exact (congrArg Prod.snd h).symm
    | ok s =>
      rw [hr] at h
      exact nomatch congrArg Prod.fst h

end TypedVocabulary.Registry
