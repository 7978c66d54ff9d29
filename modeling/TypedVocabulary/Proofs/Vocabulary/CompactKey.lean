import TypedVocabulary.Proofs.Outcomes
import TypedVocabulary.Proofs.Vocabulary.LastSegment
import TypedVocabulary.Settings.Basic

/-! # Compact keys

A compact key keeps the last segment of its reference, as long as namespaces end in separators: all
that compaction drops or puts in front of a name ends in one. Over a table of texts compaction
always succeeds, and the namespace it takes is the longest of those that begin the reference.
-/
namespace TypedVocabulary.Vocabulary
open Reference

/-! ## Search for a namespace -/

/-- The namespace of an entry is a text, ranked by its length. -/
def Entry.Spans (e : Entry) (space : String) : Prop := e.space = .str space ∧ e.size = space.length

theorem insertEntry_perm (e : Entry) (es : List Entry) : (insertEntry e es).Perm (e :: es) := by
  induction es with
  | nil => exact .refl _
  | cons f rest ih =>
    unfold insertEntry
    split
    · exact .refl _
    · exact (ih.cons f).trans (List.Perm.swap e f rest)

theorem longestFirst_perm (es : List Entry) : (longestFirst es).Perm es := by
  induction es with
  | nil => exact .refl _
  | cons e rest ih => exact (insertEntry_perm e _).trans (ih.cons e)

theorem insertEntry_sorted (e : Entry) {es : List Entry}
    (h : es.Pairwise fun a b => b.size ≤ a.size) :
    (insertEntry e es).Pairwise fun a b => b.size ≤ a.size := by
  induction es with
  | nil => simp [insertEntry]
  | cons f rest ih =>
    obtain ⟨hf, hrest⟩ := List.pairwise_cons.mp h
    unfold insertEntry
    split
    · rename_i hle
      refine List.pairwise_cons.mpr ⟨?_, h⟩
      intro b hb
      rcases List.mem_cons.mp hb with rfl | hb
      · exact hle
      · exact (hf b hb).trans hle
    · rename_i hlt
      refine List.pairwise_cons.mpr ⟨?_, ih hrest⟩
      intro b hb
      rcases List.mem_cons.mp ((insertEntry_perm e rest).mem_iff.mp hb) with rfl | hb
      · omega
      · exact hf b hb

theorem longestFirst_sorted (es : List Entry) :
    (longestFirst es).Pairwise fun a b => b.size ≤ a.size := by
  induction es with
  | nil => exact .nil
  | cons e rest ih => exact insertEntry_sorted e ih

theorem Entry.Spans.eq {e : Entry} {space other : String} (h : e.Spans space) (h' : e.Spans other) :
    other = space :=
  Json.str.inj (h'.1.symm.trans h.1)

theorem matchEntry_cons_append {e : Entry} {space : String} (h : e.space = .str space)
    (name : List Char) (es : List Entry) :
    matchEntry (space.toList ++ name) (e :: es) = .ok (some (e.key, name)) := by
  have hname : space.toList.isPrefixOf? (space.toList ++ name) = some name :=
    List.isPrefixOf?_eq_some_iff_append_eq.mpr rfl
  simp [matchEntry, h, Json.asOperand_str, hname]

theorem matchEntry_cons_of_not {e : Entry} {space : String} (h : e.space = .str space)
    {cs : List Char} (hnot : ¬space.toList <+: cs) (es : List Entry) :
    matchEntry cs (e :: es) = matchEntry cs es := by
  have hnone : space.toList.isPrefixOf? cs = none := by
    rw [← Option.not_isSome_iff_eq_none, List.isSome_isPrefixOf?_eq_isPrefixOf,
      List.isPrefixOf_iff_prefix]
    exact hnot
  simp [matchEntry, h, Json.asOperand_str, hnone]

theorem matchEntry_some {cs name : List Char} {es : List Entry} {key : String}
    (h : matchEntry cs es = .ok (some (key, name))) :
    ∃ e ∈ es, ∃ space : String, e.space = .str space ∧ e.key = key ∧ cs = space.toList ++ name := by
  induction es with
  | nil => cases h
  | cons e rest ih =>
    obtain ⟨space, hspace, -⟩ := Attempt.bind_ok_iff.mp h
    have hs : e.space = .str space := Json.asOperand_ok_iff.mp hspace
    by_cases hp : space.toList <+: cs
    · obtain ⟨name', rfl⟩ := hp
      rw [matchEntry_cons_append hs] at h
      cases h
      exact ⟨e, List.mem_cons_self, space, hs, rfl, rfl⟩
    · rw [matchEntry_cons_of_not hs hp] at h
      obtain ⟨e', he', hrest⟩ := ih h
      exact ⟨e', List.mem_cons_of_mem _ he', hrest⟩

/-- Over texts the search answers with the first of the longest that begin the reference, and is
silent only where none begins it. -/
theorem matchEntry_longest {es : List Entry} (hsorted : es.Pairwise fun a b => b.size ≤ a.size)
    (htexts : ∀ e ∈ es, ∃ space, e.Spans space) (cs : List Char) :
    (∃ e ∈ es, ∃ space name, e.Spans space ∧ cs = space.toList ++ name ∧
      matchEntry cs es = .ok (some (e.key, name)) ∧
      ∀ f ∈ es, ∀ other, f.Spans other → other.toList <+: cs → other.length ≤ space.length) ∨
    (matchEntry cs es = .ok none ∧ ∀ f ∈ es, ∀ other, f.Spans other → ¬ other.toList <+: cs) := by
  induction es with
  | nil => exact .inr ⟨rfl, by simp⟩
  | cons e rest ih =>
    obtain ⟨hle, hsorted⟩ := List.pairwise_cons.mp hsorted
    obtain ⟨space, hspace⟩ := htexts e List.mem_cons_self
    by_cases hp : space.toList <+: cs
    · obtain ⟨name, rfl⟩ := hp
      refine .inl ⟨e, List.mem_cons_self, space, name, hspace, rfl,
        matchEntry_cons_append hspace.1 name rest, ?_⟩
      intro f hf other hother _
      rcases List.mem_cons.mp hf with rfl | hf
      · rw [hspace.eq hother]
      · rw [← hother.2, ← hspace.2]
        exact hle f hf
    · rw [matchEntry_cons_of_not hspace.1 hp]
      rcases ih hsorted (fun f hf => htexts f (List.mem_cons_of_mem _ hf)) with
        ⟨f, hf, space', name, hspans, hcs, hmatch, hlongest⟩ | ⟨hmatch, hnone⟩
      · refine .inl ⟨f, List.mem_cons_of_mem _ hf, space', name, hspans, hcs, hmatch, ?_⟩
        intro g hg other hother hpre
        rcases List.mem_cons.mp hg with rfl | hg
        · exact absurd (hspace.eq hother ▸ hpre) hp
        · exact hlongest g hg other hother hpre
      · refine .inr ⟨hmatch, ?_⟩
        intro g hg other hother hpre
        rcases List.mem_cons.mp hg with rfl | hg
        · exact hp (hspace.eq hother ▸ hpre)
        · exact hnone g hg other hother hpre

/-! ## Keys of references -/

variable {v : Vocabulary}

/-- Every namespace is a text. -/
def HasTexts (v : Vocabulary) : Prop :=
  ∀ prefixName space, (prefixName, space) ∈ v.namespaces → ∃ s : String, space = .str s

/-- Every namespace that is a text ends in a separator. -/
def EndsSeparated (v : Vocabulary) : Prop :=
  ∀ prefixName space, (prefixName, .str space) ∈ v.namespaces →
    endsInSeparator space.toList = true

theorem mem_entries {es : List Entry} (h : v.entries = .ok es) {e : Entry} :
    e ∈ es ↔ ∃ prefixName, (prefixName, e.space) ∈ v.namespaces ∧ e.key = prefixName.display ∧
      namespaceSize e.space = .ok e.size := by
  rw [Attempt.mem_mapM_iff h]
  obtain ⟨key, space, size⟩ := e
  simp only [Attempt.bind_ok_iff, Attempt.pure_ok_iff, Entry.mk.injEq]
  constructor
  · rintro ⟨⟨p, s⟩, hp, n, hn, rfl, rfl, rfl⟩
    exact ⟨p, hp, rfl, hn⟩
  · rintro ⟨p, hp, rfl, hn⟩
    exact ⟨(p, space), hp, size, hn, rfl, rfl, rfl⟩

theorem entries_ok (h : v.HasTexts) : ∃ es, v.entries = .ok es := by
  refine Attempt.exists_mapM_ok ?_
  rintro ⟨prefixName, space⟩ hp
  obtain ⟨s, rfl⟩ := h prefixName space hp
  exact ⟨_, rfl⟩

theorem compactChars_cases {cs : List Char} {key : String} (h : v.compactChars cs = .ok key) :
    (∃ name, stripMark cs = '#' :: name ∧
      key = v.localPrefix.display ++ ":" ++ String.ofList name) ∨
    (∃ prefixName space name, (prefixName, .str space) ∈ v.namespaces ∧
      stripMark cs = space.toList ++ name ∧
      key = prefixName.display ++ ":" ++ String.ofList name) ∨
    key = String.ofList (stripMark cs) := by
  unfold compactChars at h
  split at h
  · rename_i name hname
    cases h
    exact .inl ⟨name, hname, rfl⟩
  · obtain ⟨es, hes, h⟩ := Attempt.bind_ok_iff.mp h
    obtain ⟨found, hfound, h⟩ := Attempt.bind_ok_iff.mp h
    cases found with
    | none =>
      cases h
      exact .inr (.inr rfl)
    | some m =>
      obtain ⟨prefixText, name⟩ := m
      cases h
      obtain ⟨e, he, space, hspace, rfl, hcs⟩ := matchEntry_some hfound
      rw [(longestFirst_perm es).mem_iff, mem_entries hes, hspace] at he
      obtain ⟨prefixName, hp, hkey, -⟩ := he
      exact .inr (.inl ⟨prefixName, space, name, hp, hcs, by rw [hkey]⟩)

theorem lastSegment_key (prefixName : String) (name : List Char) :
    lastSegment (prefixName ++ ":" ++ String.ofList name).toList = lastSegment name := by
  simp only [String.toList_append, String.toList_ofList, List.append_assoc]
  exact lastSegment_append_cons prefixName.toList rfl name

theorem lastSegment_compactChars (hv : v.EndsSeparated) {cs : List Char} {key : String}
    (h : v.compactChars cs = .ok key) : lastSegment key.toList = shortChars cs := by
  rw [shortChars_eq]
  rcases compactChars_cases h with ⟨name, hs, rfl⟩ | ⟨p, space, name, hp, hs, rfl⟩ | rfl
  · rw [hs, lastSegment_key]
    exact (lastSegment_append_cons [] rfl name).symm
  · rw [hs, lastSegment_key, lastSegment_append (hv p space hp)]
  · rw [String.toList_ofList]

theorem compactChars_local {cs name : List Char} (h : stripMark cs = localMark :: name) :
    v.compactChars cs = .ok (v.localPrefix.display ++ ":" ++ String.ofList name) := by
  unfold compactChars
  rw [h]
  rfl

theorem compactChars_of_not_local {cs : List Char} {es : List Entry} (hes : v.entries = .ok es)
    (hl : (stripMark cs).head? ≠ some localMark) {found : Option (String × List Char)}
    (hfound : matchEntry (stripMark cs) (longestFirst es) = .ok found) :
    v.compactChars cs = .ok (found.elim (String.ofList (stripMark cs)) fun m =>
      m.1 ++ ":" ++ String.ofList m.2) := by
  unfold compactChars
  split
  · rename_i name hname
    simp [hname, localMark] at hl
  · rw [hes, Attempt.ok_bind, hfound, Attempt.ok_bind]
    cases found <;> rfl

/-- Over texts a reference that is not a local name takes the prefix of the longest namespace that
begins it, and stays as it is where none does. -/
theorem compactChars_longest (hv : v.HasTexts) {cs : List Char}
    (hl : (stripMark cs).head? ≠ some localMark) :
    (∃ prefixName space name, (prefixName, .str space) ∈ v.namespaces ∧
      stripMark cs = space.toList ++ name ∧
      v.compactChars cs = .ok (prefixName.display ++ ":" ++ String.ofList name) ∧
      ∀ other s, (other, .str s) ∈ v.namespaces → s.toList <+: stripMark cs →
        s.length ≤ space.length) ∨
    (v.compactChars cs = .ok (String.ofList (stripMark cs)) ∧
      ∀ other s, (other, .str s) ∈ v.namespaces → ¬ s.toList <+: stripMark cs) := by
  obtain ⟨es, hes⟩ := entries_ok hv
  have hmem (e : Entry) : e ∈ longestFirst es ↔ e ∈ es := (longestFirst_perm es).mem_iff
  have htexts (e : Entry) (he : e ∈ longestFirst es) : ∃ space, e.Spans space := by
    obtain ⟨p, hp, -, hsize⟩ := (mem_entries hes).mp ((hmem e).mp he)
    obtain ⟨s, hs⟩ := hv p e.space hp
    rw [hs] at hsize
    exact ⟨s, hs, (Except.ok.inj hsize).symm⟩
  -- Every declared namespace has its entry, so what holds of all entries holds of all namespaces.
  have hentry (p : Json) (s : String) (hp : (p, .str s) ∈ v.namespaces) :
      ∃ e ∈ longestFirst es, e.Spans s :=
    ⟨⟨p.display, .str s, s.length⟩, (hmem _).mpr ((mem_entries hes).mpr ⟨p, hp, rfl, rfl⟩), rfl, rfl⟩
  rcases matchEntry_longest (longestFirst_sorted es) htexts (stripMark cs) with
    ⟨e, he, space, name, hspans, hcs, hmatch, hlongest⟩ | ⟨hmatch, hnone⟩
  · obtain ⟨p, hp, hkey, -⟩ := (mem_entries hes).mp ((hmem e).mp he)
    rw [hspans.1] at hp
    refine .inl ⟨p, space, name, hp, hcs, ?_, ?_⟩
    · rw [compactChars_of_not_local hes hl hmatch, Option.elim_some, hkey]
    · intro other s hs hpre
      obtain ⟨f, hf, hspan⟩ := hentry other s hs
      exact hlongest f hf s hspan hpre
  · refine .inr ⟨compactChars_of_not_local hes hl hmatch, ?_⟩
    intro other s hs
    obtain ⟨f, hf, hspan⟩ := hentry other s hs
    exact hnone f hf s hspan

theorem exists_compact (hv : v.HasTexts) (s : String) : ∃ key, v.compact s = .ok key := by
  by_cases hs : (stripMark s.toList).head? = some localMark
  · obtain ⟨name, hname⟩ := List.head?_eq_some_iff.mp hs
    exact ⟨_, compactChars_local hname⟩
  · rcases compactChars_longest hv hs with ⟨_, _, _, -, -, hkey, -⟩ | ⟨hkey, -⟩
    · exact ⟨_, hkey⟩
    · exact ⟨_, hkey⟩

theorem exists_prefixOf_of_compact {s key : String} (h : v.compact s = .ok key) :
    ∃ found, v.prefixOf s = .ok found := by
  unfold prefixOf
  rw [h, Attempt.ok_bind]
  split
  · exact ⟨_, rfl⟩
  · exact ⟨none, rfl⟩

theorem exists_isFoundationNamespace_of_compact {s key : String} (h : v.compact s = .ok key) :
    ∃ found, v.isFoundationNamespace (.str s) = .ok found := by
  obtain ⟨known, hknown⟩ := exists_prefixOf_of_compact h
  unfold isFoundationNamespace
  split
  · rw [Json.asText_str, Attempt.ok_bind, hknown]
    exact ⟨_, rfl⟩
  · exact ⟨false, rfl⟩

theorem exists_prefixOf (hv : v.HasTexts) (s : String) : ∃ found, v.prefixOf s = .ok found := by
  obtain ⟨key, hkey⟩ := exists_compact hv s
  exact exists_prefixOf_of_compact hkey

theorem exists_isFoundationNamespace (hv : v.HasTexts) (s : String) :
    ∃ found, v.isFoundationNamespace (.str s) = .ok found := by
  obtain ⟨key, hkey⟩ := exists_compact hv s
  exact exists_isFoundationNamespace_of_compact hkey

theorem exists_isFoundation (hv : v.HasTexts) (s : String) :
    ∃ found, v.isFoundation (.str s) = .ok found := by
  obtain ⟨inside, hinside⟩ := exists_isFoundationNamespace hv s
  unfold isFoundation
  rw [hinside, Attempt.ok_bind]
  cases inside with
  | false => exact ⟨false, rfl⟩
  | true => cases v.foundationTypes <;> exact ⟨_, rfl⟩

/-! ## The standard vocabulary -/

def standard : Vocabulary :=
  ⟨Table.ofMembers defaultNamespaces, .str "oa", .str "schema", none⟩

theorem default_vocabulary : Settings.default.vocabulary = .ok standard := rfl

theorem standard_cases {prefixName space : Json} (h : (prefixName, space) ∈ standard.namespaces) :
    (prefixName = .str "schema" ∧ space = .str "https://schema.org/") ∨
    (prefixName = .str "oa" ∧ space = .str "https://openactive.io/") ∨
    (prefixName = .str "beta" ∧ space = .str "https://openactive.io/ns-beta#") ∨
    (prefixName = .str "skos" ∧ space = .str "http://www.w3.org/2004/02/skos/core#") := by
  simpa [standard, Table.ofMembers, defaultNamespaces] using h

theorem endsSeparated_standard : standard.EndsSeparated := by
  intro _ _ h
  rcases standard_cases h with ⟨-, h⟩ | ⟨-, h⟩ | ⟨-, h⟩ | ⟨-, h⟩ <;> cases h <;> decide

end TypedVocabulary.Vocabulary
