import TypedVocabulary.Proofs.Schema.DeclarationOrder
import TypedVocabulary.Proofs.Vocabulary.CanonicalKey

/-! # External enumerations

Whether an enumeration is external is asked of its namespace, and it is looked up by its key. The short
name behind a namespace neither completes a longer one nor brings in a colon, so the key belongs where the
namespace does. Enumerations with one key therefore agree on it, and a later one leaves it as it was.
-/
namespace TypedVocabulary
open Reference

/-! ## Names behind namespaces -/

namespace Vocabulary
variable {v : Vocabulary} {key space name s : String} {cs rest : List Char}

theorem CompactsTo.append (hs : v.EndsSeparated) (hrest : Unseparated rest) (h : v.CompactsTo cs key) :
    v.CompactsTo (cs ++ rest) (key ++ String.ofList rest) := by
  have hbegins {other : Json} {s : String} (ho : (other, .str s) ∈ v.namespaces)
      (hpre : s.toList <+: cs ++ rest) : s.toList <+: cs :=
    prefix_of_prefix_append_unseparated (hs other s ho) hrest hpre
  cases h with
  | @known p space name hp hcs hlongest =>
    have hkey : p.display ++ ":" ++ String.ofList name ++ String.ofList rest =
        p.display ++ ":" ++ String.ofList (name ++ rest) := by
      rw [String.append_assoc, String.ofList_append]
    rw [hkey]
    refine .known hp (by rw [hcs, List.append_assoc]) ?_
    intro other s ho hpre
    exact hlongest other s ho (hbegins ho hpre)
  | unknown hnone =>
    rw [← String.ofList_append]
    refine .unknown ?_
    intro other s ho hpre
    exact hnone other s ho (hbegins ho hpre)

theorem compact_append (hv : v.HasTexts) (hs : v.EndsSeparated)
    (hd : (v.namespaces.map Prod.snd).Nodup) (hm : isMarked (space ++ name).toList = false)
    (hn : Unseparated name.toList) (h : v.compact space = .ok key) :
    v.compact (space ++ name) = .ok (key ++ name) := by
  have hboth : (space ++ name).toList = space.toList ++ name.toList := String.toList_append
  have hstrip' := stripMark_of_not_marked hm
  rw [hboth] at hm hstrip'
  have hstrip := stripMark_of_not_marked (isMarked_front (List.prefix_append _ _) hm)
  by_cases hl : space.toList.head? = some localMark
  · obtain ⟨rest, hrest⟩ := List.head?_eq_some_iff.mp hl
    rw [compact, compactChars_local (hstrip.trans hrest)] at h
    cases h
    rw [hrest, List.cons_append] at hstrip'
    rw [compact, hboth, hrest, List.cons_append, compactChars_local hstrip', String.ofList_append,
      String.ofList_toList, ← String.append_assoc]
  · have hl' : (space.toList ++ name.toList).head? ≠ some localMark := by
      cases hspace : space.toList with
      | cons c cs => rwa [hspace] at hl
      | nil =>
        intro hname
        have hmark := hn localMark (List.mem_of_mem_head? hname)
        cases hmark
    obtain ⟨short, hshort, hcompacts⟩ := exists_compactsTo (v := v) (s := space) hv (by rwa [hstrip])
    obtain ⟨long, hlong, hcompacts'⟩ :=
      exists_compactsTo (v := v) (s := space ++ name) hv (by rwa [hboth, hstrip'])
    obtain rfl : short = key := Except.ok.inj (hshort.symm.trans h)
    rw [hboth, hstrip'] at hcompacts'
    rw [hstrip] at hcompacts
    rw [hlong, hcompacts'.unique hd (hcompacts.append hs hn), String.ofList_toList]

theorem isFoundationNamespace_append (hv : v.HasTexts) (hs : v.EndsSeparated)
    (hd : (v.namespaces.map Prod.snd).Nodup) (hm : isMarked (space ++ name).toList = false)
    (hne : space ≠ "") (hn : Unseparated name.toList) :
    v.isFoundationNamespace (.str (space ++ name)) = v.isFoundationNamespace (.str space) := by
  obtain ⟨key, hkey⟩ := exists_compact hv space
  have hcolon : ':' ∉ name.toList := fun hmem => nomatch hn ':' hmem
  have hprefix : v.prefixOf (space ++ name) = v.prefixOf space := by
    unfold prefixOf
    rw [hkey, compact_append hv hs hd hm hn hkey, Attempt.ok_bind, Attempt.ok_bind,
      String.toList_append, Text.cut?_append hcolon]
    cases Text.cut? ':' key.toList <;> rfl
  have htruthy {t : String} (ht : t ≠ "") : (Json.str t).truthy = true := by
    simpa [Json.truthy] using ht
  have hne' : space ++ name ≠ "" := by simp [hne]
  unfold isFoundationNamespace
  rw [htruthy hne, htruthy hne', Json.asText_str, Json.asText_str, Attempt.ok_bind, Attempt.ok_bind, hprefix]

theorem exists_unseparated_key (hv : v.HasTexts) (hs : v.EndsSeparated) (h : Unseparated s.toList) :
    ∃ key, v.compact s = .ok key ∧ Unseparated key.toList := by
  have hstrip : Unseparated (stripMark s.toList) := fun c hc => h c ((stripMark_suffix _).subset hc)
  have hl : (stripMark s.toList).head? ≠ some localMark := by
    intro hmark
    cases hstrip localMark (List.mem_of_mem_head? hmark)
  rcases compactChars_longest hv hl with ⟨p, space, rest, hp, hcs, -⟩ | ⟨hkey, -⟩
  · obtain ⟨front, c, hc, hsep⟩ := endsInSeparator_iff.mp (hs p space hp)
    have hfree := hstrip c (by simp [hcs, hc])
    rw [hsep] at hfree
    cases hfree
  · exact ⟨_, hkey, by rwa [String.toList_ofList]⟩

theorem isFoundationNamespace_of_unseparated (hv : v.HasTexts) (hk : v.KeepsKeys)
    (h : Unseparated s.toList) : v.isFoundationNamespace (.str s) = .ok false := by
  obtain ⟨key, hkey, hfree⟩ := exists_unseparated_key hv hk.separated h
  exact isFoundationNamespace_of_not_mem hk.foundationPrefix hkey fun hmem => nomatch hfree ':' hmem

theorem isFoundationNamespace_key (hv : v.HasTexts) (hk : v.KeepsKeys)
    (hd : (v.namespaces.map Prod.snd).Nodup) (hm : isMarked space.toList = false)
    (hn : Unseparated name.toList) (h : v.compact (space ++ name) = .ok key) :
    v.isFoundationNamespace (.str key) = v.isFoundationNamespace (.str space) := by
  by_cases hspace : Unseparated space.toList
  · -- The name may complete an array mark here, but no separator comes in.
    have hboth : Unseparated (space ++ name).toList := by
      rw [String.toList_append]
      exact unseparated_append.mpr ⟨hspace, hn⟩
    obtain ⟨key', hkey', hfree⟩ := exists_unseparated_key hv hk.separated hboth
    obtain rfl : key' = key := Except.ok.inj (hkey'.symm.trans h)
    rw [isFoundationNamespace_of_unseparated hv hk hfree,
      isFoundationNamespace_of_unseparated hv hk hspace]
  · obtain ⟨front, c, tail, hsplit, hsep⟩ := exists_separator_of_not_unseparated hspace
    have hmarked : isMarked (space ++ name).toList = false := by
      rw [hsplit] at hm
      rw [String.toList_append, hsplit, List.append_assoc, List.cons_append]
      exact isMarked_append_cons (isMarked_front (List.prefix_append _ _) hm) hsep _
    have hne : space ≠ "" := by
      rintro rfl
      simp at hsplit
    have hstrip := stripMark_of_not_marked hmarked
    have hcompacted := compacted_of_compact hv hk (by rwa [hstrip]) h
    rw [isFoundationNamespace_compact hv hk hcompacted h,
      isFoundationNamespace_append hv hk.separated hd hmarked hne hn]

end Vocabulary

/-! ## Entries -/

/-- The type and the namespace are texts, and the namespace has no array mark in front. -/
structure Enumeration.Placed (e : Enumeration) : Prop where
  type : e.type.IsText
  space : ∃ space, e.namespace = .str space ∧ isMarked space.toList = false

namespace LookupTables
variable {v : Vocabulary} {s : SchemaSet} {tables : LookupTables} {e : Enumeration} {x : String × EnumEntry}

theorem exists_readTables (hv : v.HasTexts) (hmodels : ∀ m ∈ s.models, m.type.IsText)
    (henums : ∀ e ∈ s.enums, e.Placed) : ∃ tables, readTables s v = .ok tables := by
  refine (requires_readTables hv s).met ⟨?_, hmodels⟩
  intro e he
  obtain ⟨space, hspace, -⟩ := (henums e he).space
  exact ⟨(henums e he).type, Json.IsText.absentOrText ⟨space, hspace⟩⟩

theorem isExternal_of_enumEntry (hv : v.HasTexts) (hk : v.KeepsKeys)
    (hd : (v.namespaces.map Prod.snd).Nodup) (he : e.Placed) (h : enumEntry v e = .ok x) :
    v.isFoundationNamespace (.str x.1) = .ok x.2.isExternal := by
  obtain ⟨space, hspace, hm⟩ := he.space
  obtain ⟨name, hname, hkey, hexternal⟩ := enumEntry_ok h
  rw [hspace] at hkey hexternal
  rw [Vocabulary.isFoundationNamespace_key hv hk hd hm (unseparated_shortName hname) hkey, hexternal]

theorem isExternal_of_mem (hv : v.HasTexts) (hk : v.KeepsKeys) (hd : (v.namespaces.map Prod.snd).Nodup)
    (henums : ∀ e ∈ s.enums, e.Placed) (h : readTables s v = .ok tables) (hx : x ∈ tables.enums) :
    v.isFoundationNamespace (.str x.1) = .ok x.2.isExternal := by
  obtain ⟨e, he, hentry⟩ := exists_of_mem h hx
  exact isExternal_of_enumEntry hv hk hd (henums e he) hentry

/-- Under the key of an enumeration a later one may have put its own entry, which says the same. -/
theorem exists_entry_of_enumEntry (hv : v.HasTexts) (hk : v.KeepsKeys)
    (hd : (v.namespaces.map Prod.snd).Nodup) (henums : ∀ e ∈ s.enums, e.Placed)
    (h : readTables s v = .ok tables) (he : e ∈ s.enums) (hx : enumEntry v e = .ok x) :
    ∃ entry, (x.1, entry) ∈ tables.enums ∧ entry.isExternal = x.2.isExternal := by
  have hsome := (isSome_enum?_iff h).mpr ⟨e, he, key_of_enumEntry hx⟩
  obtain ⟨entry, hentry⟩ := Option.isSome_iff_exists.mp hsome
  have hmem : (x.1, entry) ∈ tables.enums := mem_of_enum? hentry
  have hfound := isExternal_of_mem hv hk hd henums h hmem
  rw [isExternal_of_enumEntry hv hk hd (henums e he) hx] at hfound
  exact ⟨entry, hmem, (Except.ok.inj hfound).symm⟩

/-- Over a vocabulary that keeps keys apart there are tables, and their entries are external if their keys
are. So each enumeration finds under its key what its own namespace says, whichever declaration of the
key was the last, and no later declaration changes it. -/
theorem external_by_key (hv : v.HasTexts) (hk : v.KeepsKeys) (hd : (v.namespaces.map Prod.snd).Nodup)
    (hmodels : ∀ m ∈ s.models, m.type.IsText) (henums : ∀ e ∈ s.enums, e.Placed) :
    ∃ tables, (build s v).outcome = .ok tables ∧
      (∀ x ∈ tables.enums, v.isFoundationNamespace (.str x.1) = .ok x.2.isExternal) ∧
      (∀ e ∈ s.enums, ∃ key entry, e.key v = .ok key ∧ (key, entry) ∈ tables.enums ∧
        v.isFoundationNamespace e.namespace = .ok entry.isExternal) ∧
      ∀ earlier later, s.enums = earlier ++ later →
        ∃ tables', (build ⟨s.models, earlier⟩ v).outcome = .ok tables' ∧
          ∀ x ∈ tables'.enums, ∃ entry, (x.1, entry) ∈ tables.enums ∧
            entry.isExternal = x.2.isExternal := by
  obtain ⟨tables, htables⟩ := exists_readTables hv hmodels henums
  refine ⟨tables, by rw [outcome_build, htables], ?_, ?_, ?_⟩
  · intro x hx
    exact isExternal_of_mem hv hk hd henums htables hx
  · intro e he
    obtain ⟨entries, hentries, -⟩ := exists_entries htables
    obtain ⟨x, -, hx⟩ := Attempt.exists_of_mem_mapM hentries he
    obtain ⟨entry, hmem, hsame⟩ := exists_entry_of_enumEntry hv hk hd henums htables he hx
    obtain ⟨-, -, -, hnamespace⟩ := enumEntry_ok hx
    exact ⟨x.1, entry, key_of_enumEntry hx, hmem, by rw [hsame, hnamespace]⟩
  · intro earlier later hsplit
    have hearlier : ∀ e ∈ earlier, e ∈ s.enums := by
      intro e he
      rw [hsplit]
      exact List.mem_append_left later he
    obtain ⟨tables', htables'⟩ := exists_readTables (s := ⟨s.models, earlier⟩) hv hmodels
      fun e he => henums e (hearlier e he)
    refine ⟨tables', by rw [outcome_build, htables'], ?_⟩
    intro x hx
    obtain ⟨e, he, hentry⟩ := exists_of_mem htables' hx
    exact exists_entry_of_enumEntry hv hk hd henums htables (hearlier e he) hentry

def repeatedDays : SchemaSet :=
  ⟨[⟨.str "Event", [], .null, .null, []⟩],
    [⟨.str "DayOfWeek", .str "https://schema.org/", [], [], .null⟩,
      ⟨.str "#Status", .str "#", [], [], .null⟩,
      ⟨.str "schema:DayOfWeek", .str "schema:", [], [], .null⟩]⟩

/-- The days are declared twice, by the address of their namespace and by its prefix. -/
theorem external_by_key_days :
    (Vocabulary.standard.HasTexts ∧ Vocabulary.standard.KeepsKeys ∧
      (Vocabulary.standard.namespaces.map Prod.snd).Nodup ∧
      (∀ m ∈ repeatedDays.models, m.type.IsText) ∧ ∀ e ∈ repeatedDays.enums, e.Placed) ∧
    ∃ tables, (build repeatedDays .standard).outcome = .ok tables ∧
      tables.enums.map (fun x => (x.1, x.2.isExternal)) =
        [("schema:DayOfWeek", true), ("oa:Status", false)] ∧
      ∀ x ∈ tables.enums,
        Vocabulary.standard.isFoundationNamespace (.str x.1) = .ok x.2.isExternal := by
  have hmodels : ∀ m ∈ repeatedDays.models, m.type.IsText := by simp [repeatedDays, Json.IsText]
  have henums : ∀ e ∈ repeatedDays.enums, e.Placed := by
    simp only [repeatedDays, List.forall_mem_cons]
    exact ⟨⟨⟨_, rfl⟩, ⟨_, rfl, by decide⟩⟩, ⟨⟨_, rfl⟩, ⟨_, rfl, by decide⟩⟩,
      ⟨⟨_, rfl⟩, ⟨_, rfl, by decide⟩⟩, List.forall_mem_nil _⟩
  obtain ⟨tables, htables, hentries, -⟩ := external_by_key Vocabulary.hasTexts_standard
    Vocabulary.keepsKeys_standard Vocabulary.distinct_standard hmodels henums
  have hlist : (readTables repeatedDays .standard).map
      (fun t => t.enums.map fun x => (x.1, x.2.isExternal)) =
        .ok [("schema:DayOfWeek", true), ("oa:Status", false)] := by decide +kernel
  rw [← outcome_build, htables] at hlist
  exact ⟨⟨Vocabulary.hasTexts_standard, Vocabulary.keepsKeys_standard, Vocabulary.distinct_standard,
    hmodels, henums⟩, tables, htables, Except.ok.inj hlist, hentries⟩

end LookupTables
end TypedVocabulary
