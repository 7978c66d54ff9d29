import Mathlib.Data.List.Nodup
import TypedVocabulary.Proofs.Text.Slice
import TypedVocabulary.Proofs.Vocabulary.CompactKey

/-! # Canonical keys

Where namespaces are distinct, one of those that begin a reference is the longest, so the order in
which they were declared is without effect. The key of a reference starts with a prefix, or it is the
reference itself if no namespace begins it. As long as no namespace begins with a prefix and a colon,
compaction has nothing left to do on either of them, and the key answers every question about where a
type belongs as its reference does.
-/
namespace TypedVocabulary.Vocabulary
open Reference
variable {v : Vocabulary} {p s key key' : String} {cs : List Char}

/-! ## The longest namespace -/

/-- The key of a reference that is no local name, by the longest namespace that begins it. -/
inductive CompactsTo (v : Vocabulary) (cs : List Char) : String → Prop
  | known {prefixName : Json} {space : String} {rest : List Char}
      (hp : (prefixName, .str space) ∈ v.namespaces) (hcs : cs = space.toList ++ rest)
      (hlongest : ∀ other s, (other, .str s) ∈ v.namespaces → s.toList <+: cs →
        s.length ≤ space.length) :
      CompactsTo v cs (prefixName.display ++ ":" ++ String.ofList rest)
  | unknown (hnone : ∀ other s, (other, .str s) ∈ v.namespaces → ¬ s.toList <+: cs) :
      CompactsTo v cs (String.ofList cs)

theorem exists_compactsTo (hv : v.HasTexts)
    (hl : (stripMark s.toList).head? ≠ some localMark) :
    ∃ key, v.compact s = .ok key ∧ v.CompactsTo (stripMark s.toList) key := by
  rcases compactChars_longest hv hl with ⟨_, _, _, hp, hcs, hkey, hlongest⟩ | ⟨hkey, hnone⟩
  · exact ⟨_, hkey, .known hp hcs hlongest⟩
  · exact ⟨_, hkey, .unknown hnone⟩

theorem prefix_unique (hd : (v.namespaces.map Prod.snd).Nodup) {prefixName other space : Json}
    (h : (prefixName, space) ∈ v.namespaces) (h' : (other, space) ∈ v.namespaces) :
    prefixName = other :=
  congrArg Prod.fst (List.inj_on_of_nodup_map hd h h' rfl)

theorem CompactsTo.unique (hd : (v.namespaces.map Prod.snd).Nodup) (h : v.CompactsTo cs key)
    (h' : v.CompactsTo cs key') : key = key' := by
  cases h with
  | @known _ space rest hp hcs hlongest =>
    have hpre : space.toList <+: cs := ⟨rest, hcs.symm⟩
    cases h' with
    | @known _ space' rest' hp' hcs' hlongest' =>
      have hlength : space.length = space'.length :=
        le_antisymm (hlongest' _ _ hp hpre) (hlongest _ _ hp' ⟨rest', hcs'.symm⟩)
      rw [← String.length_toList, ← String.length_toList] at hlength
      obtain ⟨hspace, rfl⟩ := List.append_inj (hcs.symm.trans hcs') hlength
      rw [String.toList_inj] at hspace
      subst hspace
      rw [prefix_unique hd hp hp']
    | unknown hnone => exact absurd hpre (hnone _ _ hp)
  | unknown hnone =>
    cases h' with
    | known hp hcs => exact absurd ⟨_, hcs.symm⟩ (hnone _ _ hp)
    | unknown => rfl

/-- Only what is declared counts, not in which order. -/
theorem CompactsTo.of_perm {namespaces : Table} (hperm : namespaces.Perm v.namespaces)
    (h : v.CompactsTo cs key) : ({ v with namespaces }).CompactsTo cs key := by
  cases h with
  | known hp hcs hlongest =>
    exact .known (hperm.mem_iff.mpr hp) hcs fun other s hs => hlongest other s (hperm.mem_iff.mp hs)
  | unknown hnone => exact .unknown fun other s hs => hnone other s (hperm.mem_iff.mp hs)

theorem compact_perm (hv : v.HasTexts) (hd : (v.namespaces.map Prod.snd).Nodup)
    (hl : (stripMark s.toList).head? ≠ some localMark) {namespaces : Table}
    (hperm : namespaces.Perm v.namespaces) (h : v.CompactsTo (stripMark s.toList) key) :
    ({ v with namespaces }).compact s = .ok key := by
  have hv' : ({ v with namespaces }).HasTexts := fun prefixName space hp =>
    hv prefixName space (hperm.mem_iff.mp hp)
  have hd' : (namespaces.map Prod.snd).Nodup := (hperm.map Prod.snd).nodup_iff.mpr hd
  obtain ⟨key', hkey', hcompacts⟩ := exists_compactsTo hv' hl
  rw [hkey', hcompacts.unique hd' (h.of_perm hperm)]

/-! ## Keys of keys -/

/-- A text on which compaction has nothing to do. -/
structure Compacted (v : Vocabulary) (key : String) : Prop where
  unmarked : isMarked key.toList = false
  notLocal : key.toList.head? ≠ some localMark
  outside : ∀ prefixName s, (prefixName, .str s) ∈ v.namespaces → ¬ s.toList <+: key.toList

/-- What makes every key of a prefix compacted. -/
structure KeyPrefix (v : Vocabulary) (p : String) : Prop where
  unseparated : Unseparated p.toList
  unmarked : isMarked p.toList = false
  free : ∀ prefixName s, (prefixName, .str s) ∈ v.namespaces → ¬ (p ++ ":").toList <+: s.toList

@[simp] theorem toList_key (p name : String) :
    (p ++ ":" ++ name).toList = p.toList ++ ':' :: name.toList := by
  simp

theorem Compacted.compact_eq (hv : v.HasTexts) (h : v.Compacted key) : v.compact key = .ok key := by
  have hstrip := stripMark_of_not_marked h.unmarked
  have hl : (stripMark key.toList).head? ≠ some localMark := by
    rw [hstrip]
    exact h.notLocal
  rcases compactChars_longest hv hl with ⟨prefixName, space, rest, hp, hcs, -⟩ | ⟨hkey, -⟩
  · rw [hstrip] at hcs
    exact absurd ⟨rest, hcs.symm⟩ (h.outside prefixName space hp)
  · rw [compact, hkey, hstrip, String.ofList_toList]

theorem KeyPrefix.compacted (hs : v.EndsSeparated) (h : v.KeyPrefix p) (name : String) :
    v.Compacted (p ++ ":" ++ name) where
  unmarked := by
    rw [toList_key]
    exact isMarked_append_cons h.unmarked rfl _
  notLocal := by
    rw [toList_key]
    cases hc : p.toList with
    | nil => simp [localMark]
    | cons c rest =>
      have hfirst := h.unseparated c (by simp [hc])
      rw [List.cons_append, List.head?_cons]
      rintro ⟨⟩
      cases hfirst
  outside := by
    intro prefixName space hp hpre
    have hcolon : (p ++ ":").toList = p.toList ++ [':'] := by simp
    have hkey : (p ++ ":").toList <+: (p ++ ":" ++ name).toList :=
      ⟨name.toList, String.toList_append.symm⟩
    rcases List.prefix_or_prefix_of_prefix hpre hkey with hshort | hlong
    · rw [hcolon] at hshort
      rcases List.prefix_concat_iff.mp hshort with heq | hshort
      · exact h.free prefixName space hp (hcolon.trans heq.symm ▸ List.prefix_rfl)
      · -- The separator that ends the namespace would lie inside the prefix.
        obtain ⟨front, c, hc, hsep⟩ := endsInSeparator_iff.mp (hs prefixName space hp)
        have hfree := h.unseparated c (hshort.subset (by simp [hc]))
        rw [hsep] at hfree
        cases hfree
    · exact h.free prefixName space hp hlong

/-- What keeps keys apart from all other references. -/
structure KeepsKeys (v : Vocabulary) : Prop where
  separated : v.EndsSeparated
  declared : ∀ prefixName space, (prefixName, space) ∈ v.namespaces → v.KeyPrefix prefixName.display
  localPrefix : v.KeyPrefix v.localPrefix.display
  /-- With null as the foundation prefix all that has no prefix would belong to the foundation. -/
  foundationPrefix : v.foundationPrefix ≠ .null

theorem compacted_of_compact (hv : v.HasTexts) (hk : v.KeepsKeys)
    (hm : isMarked (stripMark s.toList) = false) (h : v.compact s = .ok key) :
    v.Compacted key := by
  by_cases hl : (stripMark s.toList).head? = some localMark
  · obtain ⟨name, hname⟩ := List.head?_eq_some_iff.mp hl
    rw [compact, compactChars_local hname] at h
    cases h
    exact hk.localPrefix.compacted hk.separated _
  · obtain ⟨key', hkey', hcompacts⟩ := exists_compactsTo hv hl
    cases h.symm.trans hkey'
    cases hcompacts with
    | known hp => exact (hk.declared _ _ hp).compacted hk.separated _
    | unknown hnone =>
      constructor <;> rw [String.toList_ofList]
      · exact hm
      · exact hl
      · exact hnone

/-! ## Questions to keys -/

theorem shortName_compact (hs : v.EndsSeparated) (hc : v.Compacted key)
    (h : v.compact s = .ok key) : Reference.shortName key = Reference.shortName s := by
  have hlast : lastSegment key.toList = shortChars s.toList := lastSegment_compactChars hs h
  rw [Reference.shortName, Reference.shortName, shortChars_eq key.toList,
    stripMark_of_not_marked hc.unmarked, hlast]

theorem compacted_empty (hs : v.EndsSeparated) : v.Compacted "" where
  unmarked := rfl
  notLocal := by simp
  outside := by
    intro prefixName space hp hpre
    obtain ⟨c, rest, hc⟩ := exists_cons_of_endsInSeparator (hs prefixName space hp)
    rw [hc] at hpre
    cases List.prefix_nil.mp hpre

/-- A key without a colon has no prefix, as the empty key of the array mark alone. -/
theorem isFoundationNamespace_of_not_mem (hf : v.foundationPrefix ≠ .null)
    (h : v.compact s = .ok key) (hcolon : ':' ∉ key.toList) :
    v.isFoundationNamespace (.str s) = .ok false := by
  have hprefix : v.prefixOf s = .ok none := by
    unfold prefixOf
    rw [h, Attempt.ok_bind, Text.cut?_of_not_mem hcolon]
    rfl
  have hnull : (Json.null == v.foundationPrefix) = false := by
    cases hfp : v.foundationPrefix with
    | null => exact absurd hfp hf
    | bool | int | float | str | arr | obj => rfl
  unfold isFoundationNamespace
  split
  · rw [Json.asText_str, Attempt.ok_bind, hprefix, Attempt.ok_bind]
    exact congrArg Except.ok hnull
  · rfl

theorem isFoundationNamespace_compact (hv : v.HasTexts) (hk : v.KeepsKeys) (hc : v.Compacted key)
    (h : v.compact s = .ok key) :
    v.isFoundationNamespace (.str key) = v.isFoundationNamespace (.str s) := by
  have hkey := hc.compact_eq hv
  by_cases hempty : key = ""
  · subst hempty
    have hcolon : ':' ∉ "".toList := by simp
    rw [isFoundationNamespace_of_not_mem hk.foundationPrefix h hcolon,
      isFoundationNamespace_of_not_mem hk.foundationPrefix hkey hcolon]
  · have hs : s ≠ "" := by
      rintro rfl
      have := h.symm.trans ((compacted_empty hk.separated).compact_eq hv)
      exact hempty (Except.ok.inj this)
    have hprefix : v.prefixOf key = v.prefixOf s := by
      unfold prefixOf
      rw [h, hkey]
    have htruthy {t : String} (ht : t ≠ "") : (Json.str t).truthy = true := by
      simpa [Json.truthy] using ht
    unfold isFoundationNamespace
    rw [htruthy hempty, htruthy hs, Json.asText_str, Json.asText_str, Attempt.ok_bind, Attempt.ok_bind,
      hprefix]

theorem isFoundation_compact (hv : v.HasTexts) (hk : v.KeepsKeys) (hc : v.Compacted key)
    (h : v.compact s = .ok key) (foundationTypes : Option (List String)) :
    ({ v with foundationTypes }).isFoundation (.str key) =
      ({ v with foundationTypes }).isFoundation (.str s) := by
  -- The choice of types is only looked at inside the foundation vocabulary.
  have hinside (value : Json) : ({ v with foundationTypes }).isFoundationNamespace value =
      v.isFoundationNamespace value := rfl
  unfold isFoundation
  rw [hinside, hinside, isFoundationNamespace_compact hv hk hc h]
  simp only [Json.asText_str, Attempt.ok_bind, shortName_compact hk.separated hc h]

/-! ## The standard vocabulary -/

theorem hasTexts_standard : standard.HasTexts := by
  intro _ _ h
  rcases standard_cases h with ⟨-, h⟩ | ⟨-, h⟩ | ⟨-, h⟩ | ⟨-, h⟩ <;> exact ⟨_, h⟩

theorem distinct_standard : (standard.namespaces.map Prod.snd).Nodup := by
  simp [standard, Table.ofMembers, defaultNamespaces]

/-- One namespace of the table lies inside another, but none begins with a prefix. -/
theorem keyPrefix_standard (hp : p = "schema" ∨ p = "oa" ∨ p = "beta" ∨ p = "skos") :
    standard.KeyPrefix p where
  unseparated := by
    rcases hp with rfl | rfl | rfl | rfl <;> exact unseparated_of_all (by decide)
  unmarked := by
    rcases hp with rfl | rfl | rfl | rfl <;> decide
  free _ _ h := by
    rw [← List.isPrefixOf_iff_prefix]
    rcases hp with rfl | rfl | rfl | rfl <;>
      rcases standard_cases h with ⟨-, h⟩ | ⟨-, h⟩ | ⟨-, h⟩ | ⟨-, h⟩ <;> cases h <;> decide

theorem keepsKeys_standard : standard.KeepsKeys where
  separated := endsSeparated_standard
  declared _ _ h := by
    rcases standard_cases h with ⟨rfl, -⟩ | ⟨rfl, -⟩ | ⟨rfl, -⟩ | ⟨rfl, -⟩ <;>
      exact keyPrefix_standard (by decide)
  localPrefix := keyPrefix_standard (by decide)
  foundationPrefix := nofun

/-! ## Canonicity -/

/-- Compaction is canonical. A reference has one key, by the longest of the namespaces that begin it
and whatever their order. Where prefixes keep keys apart, the key is its own key, and it has the short
name and the place of its reference, under any choice of foundation types. -/
theorem compaction_canonical (hv : v.HasTexts) (hd : (v.namespaces.map Prod.snd).Nodup) :
    (∀ s : String, (stripMark s.toList).head? ≠ some localMark →
      ∃ key, v.compact s = .ok key ∧
        (∀ key', v.CompactsTo (stripMark s.toList) key' ↔ key' = key) ∧
        ∀ namespaces : Table, namespaces.Perm v.namespaces →
          ({ v with namespaces }).compact s = .ok key) ∧
    (v.KeepsKeys → ∀ s : String, isMarked (stripMark s.toList) = false →
      ∃ key, v.compact s = .ok key ∧ v.compact key = .ok key ∧
        Reference.shortName key = Reference.shortName s ∧
        (∃ inside, v.isFoundationNamespace (.str s) = .ok inside ∧
          v.isFoundationNamespace (.str key) = .ok inside) ∧
        ∀ foundationTypes, ∃ inside,
          ({ v with foundationTypes }).isFoundation (.str s) = .ok inside ∧
          ({ v with foundationTypes }).isFoundation (.str key) = .ok inside) := by
  constructor
  · intro s hl
    obtain ⟨key, hkey, hcompacts⟩ := exists_compactsTo hv hl
    refine ⟨key, hkey, fun key' => ?_, fun _ hperm => compact_perm hv hd hl hperm hcompacts⟩
    constructor
    · exact fun h => h.unique hd hcompacts
    · rintro rfl
      exact hcompacts
  · intro hk s hm
    obtain ⟨key, hkey⟩ := exists_compact hv s
    have hc := compacted_of_compact hv hk hm hkey
    obtain ⟨inside, hinside⟩ := exists_isFoundationNamespace hv s
    refine ⟨key, hkey, hc.compact_eq hv, shortName_compact hk.separated hc hkey,
      ⟨inside, hinside, (isFoundationNamespace_compact hv hk hc hkey).trans hinside⟩, ?_⟩
    intro foundationTypes
    obtain ⟨found, hfound⟩ := @exists_isFoundation { v with foundationTypes } hv s
    exact ⟨found, hfound, (isFoundation_compact hv hk hc hkey foundationTypes).trans hfound⟩

/-- A list of a type in the longer of two namespaces, one of which lies inside the other. -/
theorem compaction_canonical_beta :
    let s := "ArrayOf#https://openactive.io/ns-beta#Course"
    let key := "beta:Course"
    (standard.HasTexts ∧ (standard.namespaces.map Prod.snd).Nodup ∧ standard.KeepsKeys ∧
      (stripMark s.toList).head? ≠ some localMark ∧ isMarked (stripMark s.toList) = false) ∧
    (∀ key', standard.CompactsTo (stripMark s.toList) key' ↔ key' = key) ∧
    (∀ namespaces : Table, namespaces.Perm standard.namespaces →
      ({ standard with namespaces }).compact s = .ok key) ∧
    standard.compact key = .ok key ∧ Reference.shortName key = Reference.shortName s ∧
    ∃ inside, standard.isFoundationNamespace (.str s) = .ok inside ∧
      standard.isFoundationNamespace (.str key) = .ok inside := by
  intro s key
  have hl : (stripMark s.toList).head? ≠ some localMark := by decide
  have hm : isMarked (stripMark s.toList) = false := by decide
  have hcompact : standard.compact s = .ok key := by decide
  obtain ⟨hone, hkeys⟩ := compaction_canonical hasTexts_standard distinct_standard
  obtain ⟨_, hkey, hcompacts, hperm⟩ := hone s hl
  cases hkey.symm.trans hcompact
  obtain ⟨_, hkey, hself, hname, hinside, -⟩ := hkeys keepsKeys_standard s hm
  cases hkey.symm.trans hcompact
  exact ⟨⟨hasTexts_standard, distinct_standard, keepsKeys_standard, hl, hm⟩, hcompacts, hperm,
    hself, hname, hinside⟩

end TypedVocabulary.Vocabulary
