import TypedVocabulary.Generation.DotNet
import TypedVocabulary.Proofs.Registry.Consistency

/-! # Registrations in either order

A registration looks at what an earlier one has written, but what it may find there comes down to a
condition on the two requests that does not tell them apart. So two registrations of different
languages go through in both orders or in neither, with the same tables in the end. A registration of
a new language is undone by the removal of that language.
-/
namespace TypedVocabulary.Registry
open KeyedList Attempt

variable {r s : Registry} {key key' : String} {b b' : Backend} {names names' : List String}

/-! ## Two registrations -/

/-- Names of two languages that do not get in each other's way. -/
structure Separate (key : String) (names : List String) (key' : String) (names' : List String) :
    Prop where
  keys : key ≠ key'
  left : key' ∉ names
  right : key ∉ names'
  aliases : names.Disjoint names'

theorem Separate.symm (h : Separate key names key' names') : Separate key' names' key names where
  keys := h.keys.symm
  left := h.right
  right := h.left
  aliases := fun _ hmem hmem' => h.aliases hmem' hmem

theorem accepts_entered_iff (hkey : key ≠ key') : (r.entered key b names).Accepts key' names' ↔
    r.Accepts key' names' ∧ Separate key names key' names' := by
  constructor
  · rintro ⟨hlanguage, haliases⟩
    rw [owner?_entered] at hlanguage
    have hleft : key' ∉ names := fun hmem => by simp [hmem] at hlanguage
    rw [if_neg hleft] at hlanguage
    -- The first entry answers under its own names only, and none of these can be an alias now.
    have hname : ∀ name ∈ names', key ≠ name ∧ name ∉ names ∧ r.entry? name = none ∧
        (r.owner? name = none ∨ r.owner? name = some key') := by
      intro name hname
      obtain ⟨hentry, howner⟩ := haliases name hname
      rw [entry?_entered] at hentry
      rw [owner?_entered] at howner
      have hne : key ≠ name := fun heq => by simp [heq] at hentry
      have hnot : name ∉ names := fun hmem => by simp [hmem, hkey] at howner
      rw [if_neg hne] at hentry
      rw [if_neg hnot] at howner
      exact ⟨hne, hnot, hentry, howner⟩
    refine ⟨⟨hlanguage, fun name hmem => (hname name hmem).2.2⟩, hkey, hleft, ?_, ?_⟩
    · exact fun hmem => (hname key hmem).1 rfl
    · exact fun name hmem hmem' => (hname name hmem').2.1 hmem
  · rintro ⟨⟨hlanguage, haliases⟩, hsep⟩
    constructor
    · rw [owner?_entered, if_neg hsep.left, hlanguage]
    · intro name hname
      have hne : key ≠ name := fun heq => hsep.right (heq ▸ hname)
      have hnot : name ∉ names := fun hmem => hsep.aliases hmem hname
      rw [entry?_entered, owner?_entered, if_neg hne, if_neg hnot]
      exact haliases name hname

def AcceptsBoth (r : Registry) (key : String) (names : List String) (key' : String)
    (names' : List String) : Prop :=
  r.Accepts key names ∧ r.Accepts key' names' ∧ Separate key names key' names'

theorem AcceptsBoth.symm (h : r.AcceptsBoth key names key' names') :
    r.AcceptsBoth key' names' key names :=
  ⟨h.2.1, h.1, h.2.2.symm⟩

/-! ## Tables up to order -/

/-- Languages and aliases with the same contents, whichever came first. -/
structure SameTables (r s : Registry) : Prop where
  entries : r.entries.Perm s.entries
  aliases : r.aliases.Perm s.aliases

theorem SameTables.of_look_ups (hr : r.Consistent) (hs : s.Consistent)
    (hentry : ∀ language, r.entry? language = s.entry? language)
    (howner : ∀ name, r.owner? name = s.owner? name) : SameTables r s := by
  constructor
  · have hkeyed : (keyed r.entries).Perm (keyed s.entries) := by
      refine perm_of_value?_eq ?_ ?_ fun language => ?_
      · rw [keys_keyed]
        exact hr.languages
      · rw [keys_keyed]
        exact hs.languages
      · rw [← entry?_eq, ← entry?_eq, hentry]
    rw [← values_keyed r.entries, ← values_keyed s.entries]
    exact hkeyed.map Prod.snd
  · exact perm_of_value?_eq hr.aliases hs.aliases howner

theorem formerAliases_entered (hkey : key ≠ key') :
    (r.entered key b names).formerAliases key' = r.formerAliases key' := by
  unfold formerAliases
  rw [entry?_entered, if_neg hkey]

theorem entry?_entered_comm (hkey : key ≠ key') (language : String) :
    entry? ((r.entered key b names).entered key' b' names') language =
      entry? ((r.entered key' b' names').entered key b names) language := by
  simp only [entry?_entered, formerAliases_entered hkey, formerAliases_entered hkey.symm]
  by_cases hlanguage : key = language
  · have hne : key' ≠ language := fun heq => hkey (hlanguage.trans heq.symm)
    simp [hlanguage, hne]
  · simp [hlanguage]

theorem owner?_entered_comm (h : names.Disjoint names') (name : String) :
    ((r.entered key b names).entered key' b' names').owner? name =
      ((r.entered key' b' names').entered key b names).owner? name := by
  simp only [owner?_entered]
  by_cases hname : name ∈ names
  · have hnot : name ∉ names' := fun hmem => h hname hmem
    simp [hname, hnot]
  · simp [hname]

/-! ## Requests -/

theorem registerValue_str_ok_iff {text : String} {given : Option Backend} {aliases : Json} :
    r.registerValue (.str text) given aliases = .ok s ↔ ∃ backend texts,
      given = some backend ∧ aliasTexts aliases = .ok texts ∧
        r.Accepts (Text.lower text) (aliasKeys (Text.lower text) texts) ∧
        s = r.entered (Text.lower text) backend (aliasKeys (Text.lower text) texts) := by
  rw [registerValue_ok_iff]
  constructor
  · rintro ⟨name, backend, texts, hname, hb, htexts, h⟩
    obtain rfl := Json.str.inj hname
    exact ⟨backend, texts, hb, htexts, register_ok_iff.mp h⟩
  · rintro ⟨backend, texts, hb, htexts, h⟩
    exact ⟨text, backend, texts, rfl, hb, htexts, register_ok_iff.mpr h⟩

def registerBoth (r : Registry) (text : String) (given : Option Backend) (aliases : Json)
    (text' : String) (given' : Option Backend) (aliases' : Json) : Attempt Registry := do
  let s ← r.registerValue (.str text) given aliases
  s.registerValue (.str text') given' aliases'

section
variable {text text' : String} {given given' : Option Backend} {aliases aliases' : Json}

theorem registerBoth_ok_iff (hne : Text.lower text ≠ Text.lower text') :
    r.registerBoth text given aliases text' given' aliases' = .ok s ↔
      ∃ backend backend' texts texts', given = some backend ∧ given' = some backend' ∧
        aliasTexts aliases = .ok texts ∧ aliasTexts aliases' = .ok texts' ∧
        let names := aliasKeys (Text.lower text) texts
        let names' := aliasKeys (Text.lower text') texts'
        r.AcceptsBoth (Text.lower text) names (Text.lower text') names' ∧
        s = (r.entered (Text.lower text) backend names).entered
          (Text.lower text') backend' names' := by
  unfold registerBoth AcceptsBoth
  constructor
  · intro h
    obtain ⟨first, hfirst, hsecond⟩ := bind_ok_iff.mp h
    obtain ⟨backend, texts, hb, htexts, ha, rfl⟩ := registerValue_str_ok_iff.mp hfirst
    obtain ⟨backend', texts', hb', htexts', ha', rfl⟩ := registerValue_str_ok_iff.mp hsecond
    obtain ⟨ha', hsep⟩ := (accepts_entered_iff hne).mp ha'
    exact ⟨backend, backend', texts, texts', hb, hb', htexts, htexts', ⟨ha, ha', hsep⟩, rfl⟩
  · rintro ⟨backend, backend', texts, texts', hb, hb', htexts, htexts', ⟨ha, ha', hsep⟩, rfl⟩
    refine bind_ok_iff.mpr ⟨_, registerValue_str_ok_iff.mpr ⟨backend, texts, hb, htexts, ha, rfl⟩, ?_⟩
    have ha'' := (accepts_entered_iff (b := backend) hne).mpr ⟨ha', hsep⟩
    exact registerValue_str_ok_iff.mpr ⟨backend', texts', hb', htexts', ha'', rfl⟩

theorem exists_registerBoth_of_swapped (hne : Text.lower text ≠ Text.lower text')
    (h : r.registerBoth text given aliases text' given' aliases' = .ok s) :
    ∃ t, r.registerBoth text' given' aliases' text given aliases = .ok t := by
  obtain ⟨backend, backend', texts, texts', hb, hb', htexts, htexts', ha, rfl⟩ :=
    (registerBoth_ok_iff hne).mp h
  exact ⟨_, (registerBoth_ok_iff hne.symm).mpr
    ⟨backend', backend, texts', texts, hb', hb, htexts', htexts, ha.symm, rfl⟩⟩

theorem Consistent.registerBoth (h : r.Consistent)
    (hs : r.registerBoth text given aliases text' given' aliases' = .ok s) : s.Consistent := by
  obtain ⟨first, hfirst, hsecond⟩ := bind_ok_iff.mp hs
  obtain ⟨_, _, _, -, -, -, hfirst⟩ := registerValue_ok_iff.mp hfirst
  obtain ⟨_, _, _, -, -, -, hsecond⟩ := registerValue_ok_iff.mp hsecond
  exact (h.register hfirst).register hsecond

theorem Consistent.sameTables_swapped {t : Registry} (h : r.Consistent)
    (hne : Text.lower text ≠ Text.lower text')
    (hs : r.registerBoth text given aliases text' given' aliases' = .ok s)
    (ht : r.registerBoth text' given' aliases' text given aliases = .ok t) : SameTables s t := by
  have hcs := h.registerBoth hs
  have hct := h.registerBoth ht
  obtain ⟨backend, backend', texts, texts', rfl, rfl, htexts, htexts', ⟨-, -, hsep⟩, rfl⟩ :=
    (registerBoth_ok_iff hne).mp hs
  obtain ⟨_, _, _, _, hb, hb', htexts₂, htexts₂', -, rfl⟩ := (registerBoth_ok_iff hne.symm).mp ht
  obtain rfl := Option.some.inj hb
  obtain rfl := Option.some.inj hb'
  obtain rfl := Except.ok.inj (htexts.symm.trans htexts₂')
  obtain rfl := Except.ok.inj (htexts'.symm.trans htexts₂)
  exact .of_look_ups hcs hct (entry?_entered_comm hne) (owner?_entered_comm hsep.aliases)

end

/-! ## Removal of a new language -/

theorem Consistent.owner?_ne (h : r.Consistent) (hkey : r.entry? key = none) (name : String) :
    r.owner? name ≠ some key := by
  intro howner
  obtain ⟨e, he, -⟩ := (h.owned name key).mp howner
  cases hkey.symm.trans he

theorem formerAliases_of_new (hkey : r.entry? key = none) : r.formerAliases key = [] := by
  unfold formerAliases
  rw [hkey]
  rfl

theorem putEntry_of_new (hkey : r.entry? key = none) (aliases : List String) :
    putEntry ⟨key, b, aliases⟩ r.entries = r.entries ++ [⟨key, b, aliases⟩] := by
  have hnot : key ∉ keys (keyed r.entries) := by
    rw [← value?_eq_none_iff, ← entry?_eq, hkey]
  have hkeyed : keyed (putEntry ⟨key, b, aliases⟩ r.entries) =
      keyed (r.entries ++ [⟨key, b, aliases⟩]) := by
    rw [keyed_putEntry, put_of_not_mem hnot]
    unfold keyed
    rw [List.map_append]
    rfl
  rw [← values_keyed (putEntry ⟨key, b, aliases⟩ r.entries), hkeyed, values_keyed]

theorem Consistent.without_entered (h : r.Consistent) (hkey : r.entry? key = none)
    (ha : r.Accepts key names) (hn : names.Nodup) :
    (r.entered key b names).without key (distinct names) = r := by
  -- An alias of the language itself would be accepted too, but a new language has none.
  have hnew : ∀ name ∈ names, name ∉ keys r.aliases := by
    intro name hname
    have howner := (ha.aliases name hname).2.resolve_right (h.owner?_ne hkey name)
    exact value?_eq_none_iff.mp howner
  have hlanguages : ∀ e ∈ r.entries, e.language ≠ key := by
    have hnone := List.find?_eq_none.mp hkey
    exact fun e he => by simpa using hnone e he
  have hentries : (r.entries ++ [(⟨key, b, distinct names⟩ : Entry)]).filter (·.language ≠ key) =
      r.entries := by
    rw [List.filter_append, List.filter_eq_self.mpr (by simpa using hlanguages)]
    simp
  have haliases : (r.aliases ++ names.map fun name => (name, key)).filter
      (fun a => !(distinct names).contains a.1) = r.aliases := by
    have hold : ∀ a ∈ r.aliases, (!(distinct names).contains a.1) = true := by
      intro a hmem
      have hnot : a.1 ∉ names := fun hname => hnew a.1 hname (List.mem_map_of_mem hmem)
      simp [mem_distinct, hnot]
    have hadded : ∀ a ∈ names.map fun name => (name, key),
        ¬(!(distinct names).contains a.1) = true := by
      intro a hmem
      obtain ⟨name, hname, rfl⟩ := List.mem_map.mp hmem
      simp [mem_distinct, hname]
    rw [List.filter_append, List.filter_eq_self.mpr hold, List.filter_eq_nil_iff.mpr hadded,
      List.append_nil]
  unfold Registry.entered Registry.without
  rw [formerAliases_of_new hkey, List.append_nil, putEntry_of_new hkey,
    putAliases_of_new key hn hnew, hentries, haliases]

/-- A registration of a new language leaves nothing behind once the language is removed. -/
theorem Consistent.unregister_registerValue {text spelling : String} {given : Option Backend}
    {aliases : Json} (h : r.Consistent) (hkey : r.entry? (Text.lower text) = none)
    (hr : r.registerValue (.str text) given aliases = .ok s)
    (hspelling : Text.lower spelling = Text.lower text) : s.unregister spelling = r := by
  obtain ⟨backend, texts, -, -, ha, rfl⟩ := registerValue_str_ok_iff.mp hr
  have hn : (aliasKeys (Text.lower text) texts).Nodup := nodup_distinct _
  have hentry := entry?_entered r (Text.lower text) backend
    (aliasKeys (Text.lower text) texts) (Text.lower spelling)
  rw [if_pos hspelling.symm, formerAliases_of_new hkey, List.append_nil] at hentry
  rw [unregister_of_some hentry, hspelling]
  exact h.without_entered hkey ha hn

/-- In every registry that requests can lead to, registrations of two languages have the same outcome
in both orders, and the removal of a language that was new undoes its registration. -/
theorem registrations_commute (requests : List Request) : let r := history requests
    (∀ (text text' : String) (given given' : Option Backend) (aliases aliases' : Json),
      Text.lower text ≠ Text.lower text' →
      let forth := r.registerBoth text given aliases text' given' aliases'
      let back := r.registerBoth text' given' aliases' text given aliases
      ((∃ s, forth = .ok s) ↔ ∃ t, back = .ok t) ∧
        ∀ s t, forth = .ok s → back = .ok t → SameTables s t) ∧
    (∀ (text spelling : String) (given : Option Backend) (aliases : Json) (s : Registry),
      r.entry? (Text.lower text) = none → r.registerValue (.str text) given aliases = .ok s →
      Text.lower spelling = Text.lower text → s.unregister spelling = r) := by
  intro r
  have h : r.Consistent := consistent_history requests
  constructor
  · intro text text' given given' aliases aliases' hne forth back
    refine ⟨⟨?_, ?_⟩, fun s t hs ht => h.sameTables_swapped hne hs ht⟩
    · rintro ⟨s, hs⟩
      exact exists_registerBoth_of_swapped hne hs
    · rintro ⟨t, ht⟩
      exact exists_registerBoth_of_swapped hne.symm ht
  · intro text spelling given aliases s hkey hs hspelling
    exact h.unregister_registerValue hkey hs hspelling

theorem registrations_commute_java_python :
    let r := history [.register (.str "DotNet") (some DotNet.backend) (.arr [.str "cs"])]
    (∃ s t,
      r.registerBoth "Java" (some DotNet.backend) (.arr [.str "JVM"]) "Python"
        (some DotNet.backend) (.arr [.str "py", .str "PY"]) = .ok s ∧
      r.registerBoth "Python" (some DotNet.backend) (.arr [.str "py", .str "PY"]) "Java"
        (some DotNet.backend) (.arr [.str "JVM"]) = .ok t ∧ SameTables s t) ∧
    ∃ s, r.registerValue (.str "Java") (some DotNet.backend) (.arr [.str "JVM"]) = .ok s ∧
      s.unregister "JAVA" = r := by
  intro r
  obtain ⟨hcommute, hundo⟩ :=
    registrations_commute [.register (.str "DotNet") (some DotNet.backend) (.arr [.str "cs"])]
  constructor
  · obtain ⟨s, hs⟩ := Attempt.exists_ok_of_isSome
      (x := r.registerBoth "Java" (some DotNet.backend) (.arr [.str "JVM"]) "Python"
        (some DotNet.backend) (.arr [.str "py", .str "PY"])) (by decide +kernel)
    have hne : Text.lower "Java" ≠ Text.lower "Python" := by decide +kernel
    obtain ⟨hiff, hsame⟩ := hcommute _ _ (some DotNet.backend) (some DotNet.backend)
      (.arr [.str "JVM"]) (.arr [.str "py", .str "PY"]) hne
    obtain ⟨t, ht⟩ := hiff.mp ⟨s, hs⟩
    exact ⟨s, t, hs, ht, hsame s t hs ht⟩
  · obtain ⟨s, hs⟩ := Attempt.exists_ok_of_isSome
      (x := r.registerValue (.str "Java") (some DotNet.backend) (.arr [.str "JVM"]))
      (by decide +kernel)
    have hnew : r.entry? (Text.lower "Java") = none :=
      Option.isNone_iff_eq_none.mp (by decide +kernel)
    exact ⟨s, hs, hundo _ "JAVA" _ _ s hnew hs (by decide +kernel)⟩

end TypedVocabulary.Registry
