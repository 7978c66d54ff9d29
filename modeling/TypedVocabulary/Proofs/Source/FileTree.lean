import TypedVocabulary.Proofs.KeyedList
import TypedVocabulary.Proofs.Outcomes
import TypedVocabulary.Source.FileTree

/-! # Laws of file trees

A file that is written stands in the directory that its path leads to, under the last name of the path.
No other place changes, and every path that led to a directory still leads there.
-/
namespace TypedVocabulary.FileTree
open Attempt

variable {t t' : FileTree} {place q d : Place} {c : FileContent} {p : Path} {name s : String}
  {names : List String}

/-! ## Files at places -/

def put (t : FileTree) (place : Place) (c : FileContent) : FileTree :=
  ⟨KeyedList.put place c t.files, t.dirs⟩

theorem file?_put (t : FileTree) (place : Place) (c : FileContent) (q : Place) :
    (t.put place c).file? q = if place = q then some c else t.file? q :=
  KeyedList.value?_put place c t.files q

theorem nodeAt_put (t : FileTree) (place : Place) (c : FileContent) (q : Place) :
    (t.put place c).nodeAt q = if place = q then .ok (.file q c) else t.nodeAt q := by
  unfold nodeAt
  rw [file?_put]
  by_cases h : place = q
  · rw [if_pos h, if_pos h]
  · rw [if_neg h, if_neg h]
    rfl

/-! ## Ways -/

theorem walk_append (t : FileTree) (n : Node) (names rest : List String) :
    t.walk n (names ++ rest) = t.walk n names >>= fun m => t.walk m rest := by
  induction names generalizing n with
  | nil => cases n <;> rfl
  | cons name names ih =>
    cases n with
    | file place c => rfl
    | directory place =>
      rw [List.cons_append, walk, walk]
      split
      · exact ih _
      · split
        · rfl
        · rw [bind_assoc]
          exact bind_congr ih

theorem walk_cons_ok_iff {n : Node} : t.walk (.directory q) (name :: names) = .ok n ↔
    name = ".." ∧ t.walk (.directory q.up) names = .ok n ∨
      name ≠ ".." ∧ name.utf8ByteSize ≤ Path.maxNameBytes ∧
        ∃ m, t.nodeAt (q ++ [name]) = .ok m ∧ t.walk m names = .ok n := by
  rw [walk]
  by_cases hup : name = ".."
  · simp [hup]
  · rw [if_neg hup]
    by_cases hlong : Path.maxNameBytes < name.utf8ByteSize
    · simp [hup, if_pos hlong, Nat.not_le.mpr hlong]
    · rw [if_neg hlong]
      cases t.nodeAt (q ++ [name]) with
      | error cause => simp [bind, Except.bind, hup]
      | ok m => simp [bind, Except.bind, hup, Nat.not_lt.mp hlong]

theorem nodeAt_ok {n : Node} (h : t.nodeAt q = .ok n) :
    (∃ c, n = .file q c) ∨ n = .directory q := by
  unfold nodeAt at h
  split at h
  · cases h
    exact .inl ⟨_, rfl⟩
  · split at h
    · cases h
      exact .inr rfl
    · cases h

theorem nodeAt_of_file? (h : t.file? q = some c) : t.nodeAt q = .ok (.file q c) := by
  unfold nodeAt
  rw [h]

theorem file?_of_nodeAt (h : t.nodeAt q = .ok (.file place c)) : q = place ∧ t.file? q = some c := by
  unfold nodeAt at h
  split at h
  · rename_i b hb
    cases h
    exact ⟨rfl, hb⟩
  · split at h <;> cases h

theorem file?_of_nodeAt_missing (h : t.nodeAt q = .error .missing) : t.file? q = none := by
  unfold nodeAt at h
  split at h
  · cases h
  · assumption

theorem nodeAt_of_mem_dirs (hfile : t.file? q = none) (hdir : q ∈ t.dirs) :
    t.nodeAt q = .ok (.directory q) := by
  unfold nodeAt
  rw [hfile]
  exact if_pos (List.contains_iff_mem.mpr hdir)

theorem walk_file_ok {n : Node} (h : t.walk (.file q c) names = .ok n) :
    names = [] ∧ n = .file q c := by
  cases names with
  | nil =>
    cases h
    exact ⟨rfl, rfl⟩
  | cons name rest => cases h

/-- Every directory is still there. -/
def KeepsDirectories (t t' : FileTree) : Prop :=
  ∀ q, t.nodeAt q = .ok (.directory q) → t'.nodeAt q = .ok (.directory q)

theorem KeepsDirectories.reaches (h : t.KeepsDirectories t') {n : Node}
    (hn : ∀ q, t.nodeAt q = .ok n → t'.nodeAt q = .ok n)
    (hw : t.walk (.directory q) names = .ok n) : t'.walk (.directory q) names = .ok n := by
  induction names generalizing q with
  | nil => exact hw
  | cons name rest ih =>
    rw [walk_cons_ok_iff] at hw ⊢
    rcases hw with ⟨hup, hw⟩ | ⟨hup, hlong, m, hm, hw⟩
    · exact .inl ⟨hup, ih hw⟩
    · rcases nodeAt_ok hm with ⟨b, rfl⟩ | rfl
      · obtain ⟨rfl, rfl⟩ := walk_file_ok hw
        exact .inr ⟨hup, hlong, _, hn _ hm, rfl⟩
      · exact .inr ⟨hup, hlong, _, h _ hm, ih hw⟩

theorem KeepsDirectories.walk (h : t.KeepsDirectories t')
    (hw : t.walk (.directory q) names = .ok (.directory d)) :
    t'.walk (.directory q) names = .ok (.directory d) := by
  refine h.reaches (fun r hr => ?_) hw
  rcases nodeAt_ok hr with ⟨b, hfile⟩ | hdir
  · cases hfile
  · cases hdir
    exact h d hr

theorem file?_of_walk (h : t.walk (.directory q) names = .ok (.file place c)) :
    t.file? place = some c := by
  induction names generalizing q with
  | nil => cases h
  | cons name rest ih =>
    rcases walk_cons_ok_iff.mp h with ⟨-, h⟩ | ⟨-, -, m, hm, h⟩
    · exact ih h
    · rcases nodeAt_ok hm with ⟨b, rfl⟩ | rfl
      · cases (walk_file_ok h).2
        exact (file?_of_nodeAt hm).2
      · exact ih h

theorem keepsDirectories_put (h : t.nodeAt place ≠ .ok (.directory place)) (c : FileContent) :
    t.KeepsDirectories (t.put place c) := by
  intro q hq
  rw [nodeAt_put, if_neg, hq]
  rintro rfl
  exact h hq

/-! ## Writing -/

def start (p : Path) : Place := if p.absolute then Place.root else []

/-- A path leads to a name in a directory. -/
structure Leads (t : FileTree) (p : Path) (d : Place) (name : String) : Prop where
  usable : p.isUsable = true
  size : p.text.utf8ByteSize ≤ Path.maxBytes
  last : p.names.getLast? = some name
  above : t.walk (.directory (start p)) p.names.dropLast = .ok (.directory d)
  down : name ≠ ".."
  nameSize : name.utf8ByteSize ≤ Path.maxNameBytes

theorem node_ok_iff {n : Node} : t.node p = .ok n ↔
    p.text.utf8ByteSize ≤ Path.maxBytes ∧ t.walk (.directory (start p)) p.names = .ok n := by
  unfold node
  split
  · rename_i h
    simp [Nat.not_le.mpr h]
  · rename_i h
    simp [Nat.not_lt.mp h, start]

theorem KeepsDirectories.node (h : t.KeepsDirectories t') (hp : t.node p = .ok (.directory d)) :
    t'.node p = .ok (.directory d) :=
  node_ok_iff.mpr ⟨(node_ok_iff.mp hp).1, h.walk (node_ok_iff.mp hp).2⟩

theorem KeepsDirectories.node_file (h : t.KeepsDirectories t') (hfile : t'.file? place = some c)
    (hp : t.node p = .ok (.file place c)) : t'.node p = .ok (.file place c) :=
  have hn (q : Place) (hq : t.nodeAt q = .ok (.file place c)) : t'.nodeAt q = .ok (.file place c) := by
    obtain ⟨rfl, -⟩ := file?_of_nodeAt hq
    exact nodeAt_of_file? hfile
  node_ok_iff.mpr ⟨(node_ok_iff.mp hp).1, h.reaches hn (node_ok_iff.mp hp).2⟩

theorem file?_of_node (h : t.node p = .ok (.file place c)) : t.file? place = some c :=
  file?_of_walk (node_ok_iff.mp h).2

/-- A path of two steps below a directory leads to what has just these names there. -/
theorem place_of_node {dir : Path} {a b : String} (ha : a ≠ "..")
    (h : t.node (dir.append [a, b]) = .ok (.file place c)) :
    ∃ d, t.walk (.directory (start dir)) dir.names = .ok (.directory d) ∧ place = d ++ [a, b] := by
  have hwalk : t.walk (.directory (start dir)) (dir.names ++ [a, b]) = .ok (.file place c) :=
    (node_ok_iff.mp h).2
  rw [walk_append] at hwalk
  cases hdir : t.walk (.directory (start dir)) dir.names with
  | error cause =>
    rw [hdir] at hwalk
    cases hwalk
  | ok m =>
    rw [hdir] at hwalk
    change t.walk m [a, b] = _ at hwalk
    cases m with
    | file q b => cases (walk_file_ok hwalk).1
    | directory d =>
      refine ⟨d, rfl, ?_⟩
      rcases walk_cons_ok_iff.mp hwalk with ⟨hup, -⟩ | ⟨-, -, m, hm, hwalk⟩
      · exact absurd hup ha
      · rcases nodeAt_ok hm with ⟨b, rfl⟩ | rfl
        · cases (walk_file_ok hwalk).1
        · rcases walk_cons_ok_iff.mp hwalk with ⟨-, hup⟩ | ⟨-, -, n, hn, hend⟩
          · cases hup
          · cases hend
            rw [← (file?_of_nodeAt hn).1]
            simp

theorem names_eq (h : p.names.getLast? = some name) : p.names = p.names.dropLast ++ [name] :=
  (List.dropLast_append_getLast? name h).symm

theorem text_of_ne_nil (h : p.names ≠ []) : p.text = p.lead ++ String.intercalate "/" p.names := by
  unfold Path.text
  rw [if_neg fun hp => h hp.2]

theorem size_parent (h : p.names.getLast? = some name)
    (hsize : p.text.utf8ByteSize ≤ Path.maxBytes) :
    p.parent.text.utf8ByteSize ≤ Path.maxBytes := by
  have hnames := names_eq h
  have hsome : p.names ≠ [] := by
    rw [hnames]
    simp
  rw [text_of_ne_nil hsome, String.utf8ByteSize_append, hnames] at hsize
  by_cases hinit : p.names.dropLast = []
  · by_cases hlead : p.lead = ""
    · have hdot : p.parent.text = "." := if_pos ⟨hlead, hinit⟩
      rw [hdot]
      decide
    · have hroot : p.parent.text = p.lead := by
        unfold Path.text
        rw [if_neg fun hp => hlead hp.1]
        change p.lead ++ String.intercalate "/" p.names.dropLast = p.lead
        rw [hinit, String.intercalate_nil, String.append_empty]
      rw [hroot]
      omega
  · have hparent : p.parent.names ≠ [] := hinit
    rw [String.intercalate_append_of_ne_nil hinit (List.cons_ne_nil _ _)] at hsize
    simp only [String.utf8ByteSize_append] at hsize
    rw [text_of_ne_nil hparent, String.utf8ByteSize_append]
    change p.lead.utf8ByteSize + (String.intercalate "/" p.names.dropLast).utf8ByteSize ≤ _
    omega

theorem Leads.parent (h : t.Leads p d name) : t.node p.parent = .ok (.directory d) :=
  node_ok_iff.mpr ⟨size_parent h.last h.size, h.above⟩

theorem Leads.node_eq (h : t.Leads p d name) : t.node p = t.nodeAt (d ++ [name]) := by
  unfold node
  rw [if_neg (Nat.not_lt.mpr h.size), names_eq h.last, walk_append]
  have habove : t.walk (.directory (if p.absolute then Place.root else [])) p.names.dropLast =
      .ok (.directory d) := h.above
  rw [habove]
  change t.walk (.directory d) [name] = _
  rw [walk, if_neg h.down, if_neg (Nat.not_lt.mpr h.nameSize)]
  cases t.nodeAt (d ++ [name]) with
  | error cause => rfl
  | ok n => cases n <;> rfl

theorem Leads.keeps (h : t.Leads p d name) (hk : t.KeepsDirectories t') : t'.Leads p d name :=
  { h with above := hk.walk h.above }

theorem Leads.put (h : t.Leads p d name) (hplace : t.nodeAt place ≠ .ok (.directory place))
    (c : FileContent) : (t.put place c).Leads p d name :=
  h.keeps (keepsDirectories_put hplace c)

theorem leads_of_node (husable : p.isUsable = true) (h : t.node p = .ok (.file place c)) :
    ∃ d name, t.Leads p d name ∧ place = d ++ [name] := by
  obtain ⟨hsize, hwalk⟩ := node_ok_iff.mp h
  cases hlast : p.names.getLast? with
  | none =>
    rw [List.getLast?_eq_none_iff.mp hlast] at hwalk
    cases hwalk
  | some name =>
    rw [names_eq hlast, walk_append] at hwalk
    cases habove : t.walk (.directory (start p)) p.names.dropLast with
    | error cause =>
      rw [habove] at hwalk
      cases hwalk
    | ok m =>
      rw [habove] at hwalk
      cases m with
      | file q b => cases (walk_file_ok hwalk).1
      | directory d =>
        rcases walk_cons_ok_iff.mp hwalk with ⟨-, hup⟩ | ⟨hdown, hname, n, hn, hend⟩
        · cases hup
        · cases hend
          rcases nodeAt_ok hn with ⟨b, hb⟩ | hb
          · cases hb
            exact ⟨d, name, ⟨husable, hsize, hlast, habove, hdown, hname⟩, rfl⟩
          · cases hb

theorem placeOf_ok (h : t.placeOf p = .ok place) : ∃ d name, p.names.getLast? = some name ∧
    t.node p.parent = .ok (.directory d) ∧ place = d ++ [name] := by
  unfold placeOf at h
  cases hlast : p.names.getLast? with
  | none =>
    simp only [hlast] at h
    cases h
  | some name =>
    simp only [hlast] at h
    cases hparent : t.node p.parent with
    | error cause =>
      rw [hparent] at h
      cases h
    | ok m =>
      rw [hparent] at h
      cases m with
      | file q b => cases h
      | directory d =>
        cases h
        exact ⟨d, name, rfl, rfl, rfl⟩

theorem walk_last_missing (h : t.walk (.directory d) [name] = .error .missing) :
    name ≠ ".." ∧ name.utf8ByteSize ≤ Path.maxNameBytes := by
  rw [walk] at h
  split at h
  · cases h
  · rename_i hdown
    split at h
    · cases h
    · rename_i hname
      exact ⟨hdown, Nat.not_lt.mp hname⟩

/-- A new entry comes where its path leads to, and nothing has been there. -/
theorem leads_of_placeOf (husable : p.isUsable = true) (h : t.node p = .error .missing)
    (hplace : t.placeOf p = .ok place) :
    ∃ d name, t.Leads p d name ∧ place = d ++ [name] ∧
      t.nodeAt (d ++ [name]) = .error .missing := by
  obtain ⟨d, name, hlast, hparent, rfl⟩ := placeOf_ok hplace
  have hsize : p.text.utf8ByteSize ≤ Path.maxBytes := by
    by_contra hlong
    unfold node at h
    rw [if_pos (Nat.not_le.mp hlong)] at h
    cases h
  have habove : t.walk (.directory (start p)) p.names.dropLast = .ok (.directory d) :=
    (node_ok_iff.mp hparent).2
  have hwalk : t.walk (.directory d) [name] = .error .missing := by
    unfold node at h
    rw [if_neg (Nat.not_lt.mpr hsize), names_eq hlast, walk_append] at h
    change t.walk (.directory (start p)) p.names.dropLast >>= _ = _ at h
    rwa [habove] at h
  obtain ⟨hdown, hname⟩ := walk_last_missing hwalk
  have hleads : t.Leads p d name := ⟨husable, hsize, hlast, habove, hdown, hname⟩
  exact ⟨d, name, hleads, rfl, hleads.node_eq ▸ h⟩

/-- A write changes nothing, or it leaves one more or one other file, where its path leads to. -/
theorem write_cases (t : FileTree) (p : Path) (s : String) :
    (∃ e, t.write p s = (t, .error e)) ∨ ∃ d name, t.Leads p d name ∧
      t.nodeAt (d ++ [name]) ≠ .ok (.directory (d ++ [name])) ∧
      t.write p s = (t.put (d ++ [name]) (.text s), .ok ()) := by
  unfold write onUsable
  by_cases husable : p.isUsable = true
  · rw [if_pos husable]
    unfold writeText
    split
    · rename_i place b hnode
      obtain ⟨d, name, hleads, rfl⟩ := leads_of_node husable hnode
      refine .inr ⟨d, name, hleads, ?_, rfl⟩
      rw [← hleads.node_eq, hnode]
      exact fun hne => by cases hne
    · exact .inl ⟨_, rfl⟩
    · rename_i hnode
      split
      · rename_i place hplace
        obtain ⟨d, name, hleads, rfl, hmissing⟩ := leads_of_placeOf husable hnode hplace
        refine .inr ⟨d, name, hleads, ?_, rfl⟩
        rw [hmissing]
        exact fun hne => by cases hne
      · exact .inl ⟨_, rfl⟩
    · exact .inl ⟨_, rfl⟩
  · rw [if_neg husable]
    exact .inl ⟨_, rfl⟩

theorem Leads.node_put (h : t.Leads p d name)
    (hplace : t.nodeAt (d ++ [name]) ≠ .ok (.directory (d ++ [name]))) (c : FileContent) :
    (t.put (d ++ [name]) c).node p = .ok (.file (d ++ [name]) c) := by
  rw [(h.put hplace c).node_eq, nodeAt_put, if_pos rfl]

theorem open_of_write (h : t.write p s = (t', .ok ())) :
    t'.pathExists p = .ok true ∧ t'.open p = .ok (.text s) := by
  rcases write_cases t p s with ⟨e, he⟩ | ⟨d, name, hleads, hplace, hput⟩
  · cases he.symm.trans h
  cases hput.symm.trans h
  have hnode := hleads.node_put hplace (.text s)
  constructor
  · unfold pathExists
    rw [hleads.usable, hnode]
    rfl
  · unfold «open»
    rw [hnode]

/-! ## Directories -/

/-- Directories have been added, and nothing else has changed. -/
structure Grown (t t' : FileTree) : Prop where
  files : t'.files = t.files
  dirs : t.dirs ⊆ t'.dirs

theorem Grown.refl (t : FileTree) : t.Grown t := ⟨rfl, fun _ hd => hd⟩

theorem Grown.trans {t'' : FileTree} (h : t.Grown t') (h' : t'.Grown t'') : t.Grown t'' :=
  ⟨h'.files.trans h.files, fun _ hd => h'.dirs (h.dirs hd)⟩

theorem Grown.file? (h : t.Grown t') (q : Place) : t'.file? q = t.file? q := by
  unfold FileTree.file?
  rw [h.files]

theorem Grown.keeps (h : t.Grown t') : t.KeepsDirectories t' := by
  intro q hq
  unfold nodeAt at hq ⊢
  rw [h.file?]
  split at hq
  · cases hq
  · split at hq
    · rename_i hdir
      rw [if_pos (List.contains_iff_mem.mpr (h.dirs (List.contains_iff_mem.mp hdir)))]
    · cases hq

theorem Grown.node_file (h : t.Grown t') (hp : t.node p = .ok (.file place c)) :
    t'.node p = .ok (.file place c) := by
  refine h.keeps.node_file ?_ hp
  rw [h.file?]
  exact file?_of_node hp

theorem grown_makeDirectory (h : t.makeDirectory p = .ok t') : t.Grown t' := by
  unfold makeDirectory at h
  split at h
  · cases h
  · cases hplace : t.placeOf p with
    | error cause =>
      rw [hplace] at h
      cases h
    | ok place =>
      rw [hplace] at h
      cases h
      exact ⟨rfl, fun _ hd => List.mem_append_left _ hd⟩
  · cases h

theorem grown_settleDirectory {x : Except AccessCause FileTree} (h : ∀ t', x = .ok t' → t.Grown t') :
    t.Grown (t.settleDirectory p x).1 := by
  unfold settleDirectory
  split
  · exact h _ rfl
  · split
    · exact .refl t
    · exact .refl t

theorem grown_makeDirectories (t : FileTree) (depth : Nat) (p : Path) :
    t.Grown (t.makeDirectories depth p).1 := by
  induction depth generalizing p with
  | zero =>
    unfold makeDirectories
    split
    · rename_i h
      exact grown_makeDirectory h
    · exact .refl t
    · exact grown_settleDirectory fun _ h => by cases h
  | succ depth ih =>
    unfold makeDirectories
    split
    · rename_i h
      exact grown_makeDirectory h
    · dsimp only
      split
      · rename_i above habove
        have hgrown := ih p.parent
        rw [habove] at hgrown
        exact hgrown.trans (grown_settleDirectory fun _ h => grown_makeDirectory h)
      · exact ih p.parent
    · exact grown_settleDirectory fun _ h => by cases h

theorem grown_ensureDirectory (t : FileTree) (p : Path) : t.Grown (t.ensureDirectory p).1 := by
  unfold ensureDirectory onUsable
  split
  · exact grown_makeDirectories t _ p
  · exact .refl t

theorem node_of_makeDirectory (husable : p.isUsable = true) (h : t.makeDirectory p = .ok t') :
    ∃ d, t'.node p = .ok (.directory d) := by
  have hgrown := grown_makeDirectory h
  unfold makeDirectory at h
  split at h
  · cases h
  · rename_i hmissing
    cases hplace : t.placeOf p with
    | error cause =>
      rw [hplace] at h
      cases h
    | ok place =>
      rw [hplace] at h
      obtain ⟨d, name, hleads, rfl, hfree⟩ := leads_of_placeOf husable hmissing hplace
      have hfile : t'.file? (d ++ [name]) = none := by
        rw [hgrown.file?]
        exact file?_of_nodeAt_missing hfree
      refine ⟨d ++ [name], ?_⟩
      rw [(hleads.keeps hgrown.keeps).node_eq]
      refine nodeAt_of_mem_dirs hfile ?_
      cases h
      exact List.mem_append_right _ (List.mem_singleton_self _)
  · cases h

theorem node_of_settleDirectory {x : Except AccessCause FileTree}
    (hx : ∀ made, x = .ok made → ∃ d, made.node p = .ok (.directory d))
    (h : t.settleDirectory p x = (t', .ok ())) : ∃ d, t'.node p = .ok (.directory d) := by
  unfold settleDirectory at h
  split at h
  · cases h
    exact hx _ rfl
  · split at h
    · rename_i hdir
      cases h
      unfold isDirectory at hdir
      split at hdir
      · rename_i d hd
        exact ⟨d, hd⟩
      · cases hdir
    · cases h

theorem node_of_makeDirectories {depth : Nat} (husable : p.isUsable = true)
    (h : t.makeDirectories depth p = (t', .ok ())) : ∃ d, t'.node p = .ok (.directory d) := by
  unfold makeDirectories at h
  split at h
  · rename_i made hmade
    cases h
    exact node_of_makeDirectory husable hmade
  · split at h
    · cases h
    · split at h
      · rename_i above _
        exact node_of_settleDirectory (fun made hmade => node_of_makeDirectory husable hmade) h
      · rename_i hfailed
        exact absurd h (hfailed t')
  · exact node_of_settleDirectory (fun made hmade => by cases hmade) h

theorem node_of_ensureDirectory (h : t.ensureDirectory p = (t', .ok ())) :
    ∃ d, t'.node p = .ok (.directory d) := by
  unfold ensureDirectory onUsable at h
  split at h
  · rename_i husable
    exact node_of_makeDirectories husable h
  · cases h

end TypedVocabulary.FileTree
