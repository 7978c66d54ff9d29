import TypedVocabulary.Generation.Registry
import TypedVocabulary.Proofs.KeyedList
import TypedVocabulary.Proofs.Requirements
import TypedVocabulary.Proofs.Text.Order

/-! # Look-ups in a registry

A registry is looked up in two tables, its languages and its aliases. A registration is accepted if
its language is no alias and each of its aliases is no language and belongs to no other language. It
is then entered in both tables, which changes the answers for its own names and no others.
-/
namespace TypedVocabulary.Registry
open KeyedList Attempt

variable {r r' : Registry} {key language name : String} {b : Backend} {names : List String}

/-! ## Names in order -/

theorem mem_distinct : name ∈ distinct names ↔ name ∈ names := by
  unfold distinct
  rw [(Text.sort_perm _).mem_iff, List.mem_eraseDups]

theorem pairwise_distinct (names : List String) : (distinct names).Pairwise (· < ·) :=
  Text.pairwise_lt_sort (nodup_eraseDups names)

theorem nodup_distinct (names : List String) : (distinct names).Nodup := by
  refine (pairwise_distinct names).imp ?_
  rintro a b hlt rfl
  exact String.lt_irrefl a hlt

theorem key_not_mem_aliasKeys (key : String) (aliases : List String) :
    key ∉ aliasKeys key aliases := by
  unfold aliasKeys
  rw [mem_distinct]
  simp

/-! ## Tables of a registry -/

def keyed (entries : List Entry) : List (String × Entry) := entries.map fun e => (e.language, e)

theorem keys_keyed (entries : List Entry) : keys (keyed entries) = entries.map Entry.language := by
  unfold keys keyed
  rw [List.map_map]
  rfl

theorem values_keyed (entries : List Entry) : (keyed entries).map Prod.snd = entries := by
  unfold keyed
  rw [List.map_map]
  exact List.map_id entries

theorem entry?_eq (r : Registry) (key : String) : r.entry? key = value? (keyed r.entries) key := by
  unfold entry?
  generalize r.entries = entries
  induction entries with
  | nil => rfl
  | cons e rest ih =>
    have hcons : keyed (e :: rest) = (e.language, e) :: keyed rest := rfl
    rw [hcons, value?_cons, List.find?_cons, ih]
    by_cases he : e.language = key
    · rw [if_pos he, he, beq_self_eq_true]
    · rw [if_neg he, beq_false_of_ne he]

theorem keyed_putEntry (e : Entry) (entries : List Entry) :
    keyed (putEntry e entries) = put e.language e (keyed entries) := by
  induction entries with
  | nil => rfl
  | cons f rest ih =>
    have hcons : keyed (f :: rest) = (f.language, f) :: keyed rest := rfl
    rw [hcons, put_cons, putEntry]
    by_cases hf : f.language = e.language
    · rw [if_pos hf, if_pos (beq_iff_eq.mpr hf), hf]
      rfl
    · rw [if_neg hf, if_neg fun hbeq => hf (eq_of_beq hbeq), ← ih]
      rfl

def putAliases (key : String) (names : List String) (table : List (String × String)) :
    List (String × String) :=
  names.foldl (fun table name => put name key table) table

theorem value?_putAliases (key : String) (names : List String) (table : List (String × String))
    (name : String) :
    value? (putAliases key names table) name = if name ∈ names then some key else value? table name := by
  unfold putAliases
  induction names generalizing table with
  | nil => simp
  | cons first rest ih =>
    rw [List.foldl_cons, ih, value?_put]
    by_cases hrest : name ∈ rest
    · rw [if_pos hrest, if_pos (List.mem_cons_of_mem _ hrest)]
    · rw [if_neg hrest]
      by_cases hfirst : first = name
      · rw [if_pos hfirst, if_pos (hfirst ▸ List.mem_cons_self)]
      · have hnot : name ∉ first :: rest := by simp [hrest, Ne.symm hfirst]
        rw [if_neg hfirst, if_neg hnot]

theorem nodup_keys_putAliases (key : String) (names : List String)
    {table : List (String × String)} (h : (keys table).Nodup) :
    (keys (putAliases key names table)).Nodup := by
  unfold putAliases
  induction names generalizing table with
  | nil => exact h
  | cons first rest ih =>
    exact ih (nodup_keys_put h first key)

theorem putAliases_of_new (key : String) (hn : names.Nodup) {table : List (String × String)}
    (h : ∀ name ∈ names, name ∉ keys table) :
    putAliases key names table = table ++ names.map fun name => (name, key) := by
  unfold putAliases
  induction names generalizing table with
  | nil => simp
  | cons first rest ih =>
    obtain ⟨hfirst, hrest⟩ := List.nodup_cons.mp hn
    have hnew : first ∉ keys table := h first List.mem_cons_self
    rw [List.foldl_cons, put_of_not_mem hnew, ih hrest, List.map_cons,
      List.append_assoc, List.singleton_append]
    intro name hname hmem
    unfold keys at hmem h
    rw [List.map_append, List.mem_append] at hmem
    rcases hmem with hmem | hmem
    · exact h name (List.mem_cons_of_mem _ hname) hmem
    · obtain rfl : name = first := by simpa using hmem
      exact hfirst hname

/-! ## Registration -/

def formerAliases (r : Registry) (key : String) : List String :=
  ((r.entry? key).map Entry.aliases).getD []

def entered (r : Registry) (key : String) (b : Backend) (names : List String) : Registry :=
  ⟨putEntry ⟨key, b, distinct (names ++ r.formerAliases key)⟩ r.entries,
    putAliases key names r.aliases⟩

theorem entry?_entered (r : Registry) (key : String) (b : Backend) (names : List String)
    (language : String) :
    entry? (r.entered key b names) language =
      if key = language then some ⟨key, b, distinct (names ++ r.formerAliases key)⟩
      else r.entry? language := by
  rw [entry?_eq, entry?_eq, ← value?_put, entered, keyed_putEntry]

theorem owner?_entered (r : Registry) (key : String) (b : Backend) (names : List String)
    (name : String) :
    (r.entered key b names).owner? name =
      if name ∈ names then some key else r.owner? name :=
  value?_putAliases key names r.aliases name

structure Accepts (r : Registry) (key : String) (names : List String) : Prop where
  language : r.owner? key = none
  aliases : ∀ name ∈ names, r.entry? name = none ∧ (r.owner? name = none ∨ r.owner? name = some key)

theorem checkLanguage_ok_iff : r.checkLanguage key = .ok () ↔ r.owner? key = none := by
  unfold checkLanguage
  cases r.owner? key <;> simp

theorem checkAlias_ok_iff : r.checkAlias key name = .ok () ↔
    r.entry? name = none ∧ (r.owner? name = none ∨ r.owner? name = some key) := by
  unfold checkAlias
  cases r.entry? name with
  | some e => simp
  | none =>
    cases r.owner? name with
    | none => simp
    | some owner => by_cases howner : owner = key <;> simp [howner]

theorem forM_ok_iff {ε : Type} {f : String → Except ε Unit} :
    names.forM f = .ok () ↔ ∀ name ∈ names, f name = .ok () := by
  induction names with
  | nil => simp [pure, Except.pure]
  | cons first rest ih =>
    have hcons : (first :: rest).forM f = (f first >>= fun _ => rest.forM f) := rfl
    rw [hcons, List.forall_mem_cons, ← ih]
    cases f first <;> simp [bind, Except.bind]

theorem register_eq (r : Registry) (language : String) (b : Backend) (aliases : List String) :
    r.register language b aliases = (do
      let key := Text.lower language
      let names := aliasKeys key aliases
      r.checkLanguage key
      names.forM (r.checkAlias key)
      return r.entered key b names) := rfl

theorem register_ok_iff {aliases : List String} : r.register language b aliases = .ok r' ↔
    r.Accepts (Text.lower language) (aliasKeys (Text.lower language) aliases) ∧
      r' = r.entered (Text.lower language) b (aliasKeys (Text.lower language) aliases) := by
  rw [register_eq]
  constructor
  · intro h
    cases hlanguage : r.checkLanguage (Text.lower language) with
    | error e => simp [hlanguage, bind, Except.bind] at h
    | ok u =>
      cases haliases : (aliasKeys (Text.lower language) aliases).forM
          (r.checkAlias (Text.lower language)) with
      | error e => simp [hlanguage, haliases, bind, Except.bind] at h
      | ok u =>
        have hfree := forM_ok_iff.mp haliases
        simp only [hlanguage, haliases, bind, Except.bind, pure, Except.pure,
          Except.ok.injEq] at h
        refine ⟨⟨checkLanguage_ok_iff.mp hlanguage, fun name hname => ?_⟩, h.symm⟩
        exact checkAlias_ok_iff.mp (hfree name hname)
  · rintro ⟨⟨hlanguage, haliases⟩, rfl⟩
    have hfree : (aliasKeys (Text.lower language) aliases).forM
        (r.checkAlias (Text.lower language)) = .ok () :=
      forM_ok_iff.mpr fun name hname => checkAlias_ok_iff.mpr (haliases name hname)
    simp [checkLanguage_ok_iff.mpr hlanguage, hfree, bind, Except.bind, pure, Except.pure]

def aliasTexts (aliases : Json) : Attempt (List String) :=
  if aliases.truthy then do (← aliases.visit).mapM Json.asText else return []

theorem registerValue_some (r : Registry) (language : Json) (b : Backend) (aliases : Json) :
    r.registerValue language (some b) aliases = (do
      let name ← language.asText
      (r.checkLanguage (Text.lower name)).mapError .registry
      let given ← aliasTexts aliases
      (r.register name b given).mapError .registry) := rfl

theorem mapError_ok_iff {α : Type} {x : Except RegistryError α} {a : α} :
    (x.mapError .registry : Attempt α) = .ok a ↔ x = .ok a := by
  cases x <;> simp [Except.mapError]

theorem registerValue_ok_iff {language aliases : Json} {b : Option Backend} :
    r.registerValue language b aliases = .ok r' ↔ ∃ name backend given,
      language = .str name ∧ b = some backend ∧ aliasTexts aliases = .ok given ∧
        r.register name backend given = .ok r' := by
  cases b with
  | none =>
    have hfault : r.registerValue language none aliases = .error (.registry .notGenerator) := rfl
    simp [hfault]
  | some backend =>
    rw [registerValue_some]
    constructor
    · intro h
      obtain ⟨name, hname, h⟩ := bind_ok_iff.mp h
      obtain ⟨-, -, h⟩ := bind_ok_iff.mp h
      obtain ⟨given, hgiven, h⟩ := bind_ok_iff.mp h
      exact ⟨name, backend, given, Json.asText_ok_iff.mp hname, rfl, hgiven, mapError_ok_iff.mp h⟩
    · rintro ⟨name, b, given, rfl, hb, hgiven, h⟩
      obtain rfl := Option.some.inj hb
      have hlanguage : r.checkLanguage (Text.lower name) = .ok () :=
        checkLanguage_ok_iff.mpr (register_ok_iff.mp h).1.language
      refine bind_ok_iff.mpr ⟨name, rfl, bind_ok_iff.mpr ⟨(), mapError_ok_iff.mpr hlanguage, ?_⟩⟩
      exact bind_ok_iff.mpr ⟨given, hgiven, mapError_ok_iff.mpr h⟩

/-! ## Removal -/

theorem language_of_entry? {e : Entry} (h : r.entry? key = some e) : e.language = key := by
  simpa using List.find?_some h

def without (r : Registry) (key : String) (names : List String) : Registry :=
  ⟨r.entries.filter (·.language ≠ key), r.aliases.filter fun a => !names.contains a.1⟩

theorem unregister_of_none (h : r.entry? (Text.lower language) = none) :
    r.unregister language = r := by
  unfold unregister
  rw [h]

theorem unregister_of_some {e : Entry} (h : r.entry? (Text.lower language) = some e) :
    r.unregister language = r.without (Text.lower language) e.aliases := by
  have he : e.language = Text.lower language := language_of_entry? h
  unfold unregister without
  rw [h, ← he]

theorem keyed_filter (keep : String → Bool) (entries : List Entry) :
    keyed (entries.filter fun e => keep e.language) = (keyed entries).filter fun x => keep x.1 := by
  unfold keyed
  rw [List.filter_map]
  rfl

theorem entry?_without (r : Registry) (key : String) (names : List String) (language : String) :
    entry? (r.without key names) language =
      if key = language then none else r.entry? language := by
  rw [entry?_eq, entry?_eq, without, keyed_filter fun k => k ≠ key, value?_filter fun k => k ≠ key]
  by_cases hkey : key = language
  · simp [hkey]
  · simp [hkey, Ne.symm hkey]

theorem owner?_without (r : Registry) (key : String) (names : List String) (name : String) :
    (r.without key names).owner? name = if name ∈ names then none else r.owner? name := by
  unfold owner? without
  rw [value?_filter fun n => !names.contains n]
  by_cases hname : name ∈ names
  · simp [hname]
  · simp [hname]

end TypedVocabulary.Registry
