import TypedVocabulary.Proofs.Json.Limits
import TypedVocabulary.Proofs.Text.StringLiteral

/-! # Reading written values

A written value is read from left to right by the steps in which it was written, for one opening of a list
or an object, one item and one member each. What follows a value is a comma, a line feed or nothing, so
that no number goes on. Values within the limits of the reader are read as themselves, and the others are
refused for their size, never for their syntax.
-/
namespace TypedVocabulary.Json.Reader

/-! ## Texts -/

section
variable {start : Nat} {tail rest : List Char}

theorem textBody_skip (xs : List Char) (pos : Nat) (ys : List Char) :
    textBody start xs.length pos (xs ++ ys) = textBody start 0 (pos + xs.length) ys := by
  induction xs generalizing pos with
  | nil => rfl
  | cons x xs ih =>
    rw [List.length_cons, List.cons_append, textBody, ih, Nat.add_assoc, Nat.add_comm 1]

theorem textBody_escape {cs : List Char} {c : Char} (hescape : escape (cs ++ tail) = .char c cs.length)
    (pos : Nat) :
    textBody start 0 pos ('\\' :: cs ++ tail) =
      prepend c (textBody start 0 (pos + ('\\' :: cs).length) tail) := by
  rw [List.cons_append, textBody, if_neg (by decide), if_pos rfl, hescape]
  dsimp only
  rw [textBody_skip, List.length_cons, Nat.add_assoc, Nat.add_comm 1]

theorem escape_hexDigits {c : Char} (hc : c.toNat < 0x20) (htail : tail ≠ []) :
    escape ('u' :: hexDigits 4 c.toNat ++ tail) = .char c 5 := by
  obtain ⟨e, tail, rfl⟩ := List.exists_cons_of_ne_nil htail
  have hunit := StringLiteral.hexUnit?_hexDigits (n := c.toNat) (by omega)
  have hhigh : isHighSurrogate c.toNat = false := by
    simp only [isHighSurrogate, Bool.and_eq_false_iff, decide_eq_false_iff_not]
    omega
  have hlow : isLowSurrogate c.toNat = false := by
    simp only [isLowSurrogate, Bool.and_eq_false_iff, decide_eq_false_iff_not]
    omega
  have hchar : unitChar c.toNat = c := by
    simp [unitChar, hhigh, hlow]
  simp [hexDigits, escape, unicodeEscape, hunit, hhigh, hchar]

theorem escape_short {letter c : Char} (h : (letter, c) ∈ StringLiteral.shortEscapes) :
    escape (letter :: tail) = .char c 1 := by
  have hall : ∀ x ∈ StringLiteral.shortEscapes, x.1 ≠ 'u' ∧ shortEscape? x.1 = some x.2 := by decide
  obtain ⟨hu, hshort⟩ := hall _ h
  rw [escape, hshort]
  exact hu

theorem textBody_quoteChar (c : Char) (htail : tail ≠ []) (pos : Nat) :
    textBody start 0 pos (quoteChar c ++ tail) =
      prepend c (textBody start 0 (pos + (quoteChar c).length) tail) := by
  have hw := StringLiteral.written_quoteChar c
  generalize quoteChar c = w at hw
  cases hw with
  | @short letter hmem =>
    have hescape : escape ([letter] ++ tail) = .char c [letter].length := escape_short hmem
    exact textBody_escape hescape pos
  | code hcontrol =>
    have hcode : escape ('u' :: hexDigits 4 c.toNat ++ tail) =
        .char c ('u' :: hexDigits 4 c.toNat).length := escape_hexDigits hcontrol htail
    exact textBody_escape hcode pos
  | plain hplain =>
    simp only [StringLiteral.IsEscaped, not_or] at hplain
    obtain ⟨hquote, hslash, hcontrol⟩ := hplain
    rw [List.singleton_append, textBody, if_neg hquote, if_neg hslash, if_neg hcontrol]
    rfl

theorem textBody_quoted (start pos : Nat) (cs rest : List Char) :
    ∃ pos', textBody start 0 pos (cs.flatMap quoteChar ++ '"' :: rest) = .ok (cs, pos', rest) := by
  induction cs generalizing pos with
  | nil => exact ⟨pos + 1, by simp [textBody]⟩
  | cons c cs ih =>
    obtain ⟨pos', hread⟩ := ih (pos + (quoteChar c).length)
    refine ⟨pos', ?_⟩
    rw [List.flatMap_cons, List.append_assoc, textBody_quoteChar c (by simp), hread]
    rfl

theorem text_quoted (s : String) (pos : Nat) (rest : List Char) :
    ∃ pos', text pos (s.toList.flatMap quoteChar ++ '"' :: rest) = .ok (s, pos', rest) := by
  obtain ⟨pos', hread⟩ := textBody_quoted (pos - 1) pos s.toList rest
  refine ⟨pos', ?_⟩
  rw [text, hread]
  simp [Except.map]

end

/-! ## Blanks -/

theorem skipBlanks_of_not_blank {c : Char} (hc : isBlank c = false) (pos : Nat) (cs : List Char) :
    skipBlanks pos (c :: cs) = (pos, c :: cs) := by
  simp [skipBlanks, hc]

theorem skipBlanks_append {blanks : List Char} (h : ∀ b ∈ blanks, isBlank b = true) {c : Char}
    (hc : isBlank c = false) (pos : Nat) (cs : List Char) :
    skipBlanks pos (blanks ++ c :: cs) = (pos + blanks.length, c :: cs) := by
  induction blanks generalizing pos with
  | nil => exact skipBlanks_of_not_blank hc pos cs
  | cons b blanks ih =>
    obtain ⟨hb, hblanks⟩ := List.forall_mem_cons.mp h
    rw [List.cons_append, skipBlanks, if_pos hb, ih hblanks, List.length_cons, Nat.add_assoc, Nat.add_comm 1]

theorem isBlank_newLine (level : Nat) : ∀ b ∈ newLine level, isBlank b = true := by
  intro b h
  rcases List.mem_cons.mp h with rfl | h
  · rfl
  · rw [List.eq_of_mem_replicate h]
    rfl

/-- Text that can begin a value: no blank, no end of a list and no mark of byte order. -/
def BeginsValue (cs : List Char) : Prop :=
  ∃ c rest, cs = c :: rest ∧ isBlank c = false ∧ c ≠ ']' ∧ c ≠ Char.ofNat 0xFEFF

theorem BeginsValue.append {cs : List Char} (h : BeginsValue cs) (rest : List Char) :
    BeginsValue (cs ++ rest) := by
  obtain ⟨c, cs, rfl, hc⟩ := h
  exact ⟨c, cs ++ rest, rfl, hc⟩

theorem skipBlanks_newLine {cs : List Char} (h : BeginsValue cs) (pos level : Nat) :
    ∃ pos', skipBlanks pos (newLine level ++ cs) = (pos', cs) := by
  obtain ⟨c, cs, rfl, hc, -⟩ := h
  exact ⟨_, skipBlanks_append (isBlank_newLine level) hc pos cs⟩

theorem BeginsWithDigit.value {cs : List Char} (h : BeginsWithDigit cs) : BeginsValue cs := by
  obtain ⟨c, rest, rfl, hc⟩ := h
  have hne {d : Char} (hd : d.isDigit = false) : c ≠ d := ne_of_isDigit hc hd
  refine ⟨c, rest, rfl, ?_, hne (by decide), hne (by decide)⟩
  simp [isBlank, hne (d := ' ') rfl, hne (d := '\t') rfl, hne (d := '\n') rfl, hne (d := '\r') rfl]

theorem beginsValue_signText {cs : List Char} (h : BeginsWithDigit cs) (negative : Bool) :
    BeginsValue (signText negative ++ cs) := by
  cases negative with
  | true => exact ⟨'-', cs, rfl, rfl, by decide, by decide⟩
  | false => exact h.value

theorem writeChars_int (level : Nat) (n : Int) :
    writeChars level (int n) = signText (decide (n < 0)) ++ Nat.toDigits 10 n.natAbs :=
  toString_int_toList n

theorem beginsValue_writeChars {v : Json} (hv : v.Regular) (level : Nat) :
    BeginsValue (writeChars level v) := by
  cases v with
  | null => exact ⟨'n', _, rfl, rfl, by decide, by decide⟩
  | bool b => cases b <;> exact ⟨_, _, rfl, rfl, by decide, by decide⟩
  | int n =>
    rw [writeChars_int]
    exact beginsValue_signText (begins_toDigits _) _
  | float x =>
    obtain ⟨negative, m, e, h, rfl⟩ := hv
    exact beginsValue_signText (begins_sizeText h) negative
  | str s => exact ⟨'"', _, rfl, rfl, by decide, by decide⟩
  | arr items => cases items <;> exact ⟨'[', _, rfl, rfl, by decide, by decide⟩
  | obj members => cases members <;> exact ⟨'{', _, rfl, rfl, by decide, by decide⟩

/-! ## Values -/

/-- The reader gives up because of the size of a value. -/
def Fault.IsLimit : Fault → Prop
  | .syntaxError .. => False
  | .longInteger _ | .tooDeep => True

/-- What fits is read, and anything else meets a limit. -/
def Answers {α : Type} (fits : Prop) (a : α) (rest : List Char) (r : Read α) : Prop :=
  (fits ∧ ∃ pos, r = .ok (a, pos, rest)) ∨ (¬fits ∧ ∃ fault, r = .error fault ∧ fault.IsLimit)

theorem Answers.map {α β : Type} {fits : Prop} {a : α} {rest : List Char} {r : Read α}
    (h : Answers fits a rest r) (f : α → β) : Answers fits (f a) rest (r.map fun x => (f x.1, x.2)) := by
  rcases h with ⟨hfits, pos, rfl⟩ | ⟨hfits, fault, rfl, hlimit⟩
  · exact .inl ⟨hfits, pos, rfl⟩
  · exact .inr ⟨hfits, fault, rfl, hlimit⟩

theorem value_signText {cs : List Char} (h : BeginsWithDigit cs) (negative : Bool) (fuel depth pos : Nat)
    (rest : List Char) :
    value (fuel + 1) depth pos (signText negative ++ cs ++ rest) =
      number pos (signText negative ++ cs ++ rest) := by
  obtain ⟨c, cs, rfl, hc⟩ := h
  have hne {d : Char} (hd : d.isDigit = false) : c ≠ d := ne_of_isDigit hc hd
  cases negative with
  | true => simp [signText, value, hne (d := 'I') rfl]
  | false =>
    simp [signText, value, hne (d := '"') rfl, hne (d := '[') rfl, hne (d := '{') rfl, hne (d := 'n') rfl,
      hne (d := 't') rfl, hne (d := 'f') rfl, hne (d := 'N') rfl, hne (d := 'I') rfl, hne (d := '-') rfl]

section
variable (fuel depth pos : Nat) (cs : List Char)

theorem value_bracket :
    value (fuel + 1) depth pos ('[' :: cs) =
      match depth, skipBlanks (pos + 1) cs with
      | 0, _ => .error .tooDeep
      | _, (pos, ']' :: rest) => .ok (.arr [], pos + 1, rest)
      | depth + 1, (pos, rest) => (items fuel depth pos rest).map fun (vs, rest) => (.arr vs, rest) := by
  unfold value
  rfl

theorem value_brace :
    value (fuel + 1) depth pos ('{' :: cs) =
      match depth, skipBlanks (pos + 1) cs with
      | 0, _ => .error .tooDeep
      | _, (pos, '}' :: rest) => .ok (.obj [], pos + 1, rest)
      | depth + 1, (pos, rest) =>
        (members fuel depth pos rest).map fun (ms, rest) => (.obj (KeyedList.putAll [] ms), rest) := by
  unfold value
  rfl

end

section
variable {fuel depth l : Nat} (level pos : Nat) {fits fitsRest : Prop} {v : Json} {cs more rest : List Char}

theorem value_list {vs : List Json} (hcs : BeginsValue cs)
    (h : ∀ pos, Answers fits vs rest (items fuel depth pos cs)) :
    Answers fits (arr vs) rest (value (fuel + 1) (depth + 1) pos ('[' :: newLine level ++ cs)) := by
  obtain ⟨pos', hskip⟩ := skipBlanks_newLine hcs (pos + 1) level
  obtain ⟨c, cs, rfl, -, hc, -⟩ := hcs
  have hread : value (fuel + 1) (depth + 1) pos ('[' :: (newLine level ++ c :: cs)) =
      (items fuel depth pos' (c :: cs)).map fun x => (arr x.1, x.2) := by
    rw [value_bracket, hskip]
    simp [hc]
  exact hread ▸ (h pos').map arr

theorem items_last (h : Answers fits v (newLine l ++ ']' :: rest) (value fuel depth pos cs)) :
    Answers fits [v] rest (items (fuel + 1) depth pos cs) := by
  rcases h with ⟨hfits, pos', hread⟩ | ⟨hfits, fault, hread, hlimit⟩
  · have hskip := skipBlanks_append (c := ']') (isBlank_newLine l) rfl pos' rest
    refine .inl ⟨hfits, pos' + (newLine l).length + 1, ?_⟩
    rw [items, hread]
    simp only [bind, Except.bind, hskip]
    rfl
  · refine .inr ⟨hfits, fault, ?_, hlimit⟩
    rw [items, hread]
    rfl

theorem items_more {vs : List Json} (hmore : BeginsValue more)
    (h : Answers fits v (',' :: newLine level ++ more) (value fuel depth pos cs))
    (hvs : ∀ pos, Answers fitsRest vs rest (items fuel depth pos more)) :
    Answers (fits ∧ fitsRest) (v :: vs) rest (items (fuel + 1) depth pos cs) := by
  rcases h with ⟨hfits, pos', hread⟩ | ⟨hfits, fault, hread, hlimit⟩
  · obtain ⟨next, hnext⟩ := skipBlanks_newLine hmore (pos' + 1) level
    have hcomma := skipBlanks_of_not_blank (c := ',') rfl pos' (newLine level ++ more)
    rcases hvs next with ⟨hrest, last, hlast⟩ | ⟨hrest, fault, hlast, hlimit⟩
    · refine .inl ⟨⟨hfits, hrest⟩, last, ?_⟩
      rw [items, hread]
      simp only [bind, Except.bind, List.cons_append, hcomma, hnext, hlast]
      rfl
    · refine .inr ⟨fun h => hrest h.2, fault, ?_, hlimit⟩
      rw [items, hread]
      simp only [bind, Except.bind, List.cons_append, hcomma, hnext, hlast]
  · refine .inr ⟨fun h => hfits h.1, fault, ?_, hlimit⟩
    rw [items, hread]
    rfl

/-! ### Members -/

theorem quoteChars_append (cs tail : List Char) :
    quoteChars cs ++ tail = '"' :: (cs.flatMap quoteChar ++ '"' :: tail) := by
  simp [quoteChars]

theorem beginsValue_quoteChars (cs tail : List Char) : BeginsValue (quoteChars cs ++ tail) :=
  ⟨'"', _, quoteChars_append .., rfl, by decide, by decide⟩

theorem value_object {ms : List (String × Json)} (hms : (KeyedList.keys ms).Nodup) {key : String}
    (h : ∀ pos, Answers fits ms rest (members fuel depth pos (quoteChars key.toList ++ cs))) :
    Answers fits (obj ms) rest
      (value (fuel + 1) (depth + 1) pos ('{' :: newLine level ++ (quoteChars key.toList ++ cs))) := by
  obtain ⟨pos', hskip⟩ := skipBlanks_newLine (beginsValue_quoteChars key.toList cs) (pos + 1) level
  have hkeys : (KeyedList.keys ([] ++ ms)).Nodup := hms
  have hdistinct : KeyedList.putAll [] ms = ms := KeyedList.putAll_of_nodup hkeys
  have hread : value (fuel + 1) (depth + 1) pos ('{' :: (newLine level ++ (quoteChars key.toList ++ cs))) =
      (members fuel depth pos' (quoteChars key.toList ++ cs)).map fun x => (obj (KeyedList.putAll [] x.1), x.2) := by
    rw [quoteChars_append] at hskip ⊢
    rw [value_brace, hskip]
    rfl
  have hanswer := (h pos').map fun ms => obj (KeyedList.putAll [] ms)
  rw [hdistinct, ← hread] at hanswer
  exact hanswer

theorem exists_behind_name (key : String) (hcs : BeginsValue cs) (pos : Nat) :
    ∃ before behind, text (pos + 1) (key.toList.flatMap quoteChar ++ '"' :: ':' :: ' ' :: cs) =
        .ok (key, before, ':' :: ' ' :: cs) ∧
      skipBlanks before (':' :: ' ' :: cs) = (before, ':' :: ' ' :: cs) ∧
      skipBlanks (before + 1) (' ' :: cs) = (behind, cs) := by
  obtain ⟨before, htext⟩ := text_quoted key (pos + 1) (':' :: ' ' :: cs)
  obtain ⟨c, cs, rfl, hc, -⟩ := hcs
  have hblank : ∀ b ∈ [' '], isBlank b = true := List.forall_mem_singleton.mpr rfl
  exact ⟨before, _, htext, skipBlanks_of_not_blank rfl before _, skipBlanks_append hblank hc _ cs⟩

theorem members_last (key : String) (hcs : BeginsValue cs)
    (h : ∀ pos, Answers fits v (newLine l ++ '}' :: rest) (value fuel depth pos cs)) :
    Answers fits [(key, v)] rest
      (members (fuel + 1) depth pos (quoteChars key.toList ++ ':' :: ' ' :: cs)) := by
  obtain ⟨before, behind, htext, hcolon, hblank⟩ := exists_behind_name key hcs pos
  rw [quoteChars_append]
  rcases h behind with ⟨hfits, pos', hread⟩ | ⟨hfits, fault, hread, hlimit⟩
  · have hskip := skipBlanks_append (c := '}') (isBlank_newLine l) rfl pos' rest
    refine .inl ⟨hfits, pos' + (newLine l).length + 1, ?_⟩
    simp only [members, bind, Except.bind, htext, hcolon, hblank, hread, hskip]
    rfl
  · refine .inr ⟨hfits, fault, ?_, hlimit⟩
    simp only [members, bind, Except.bind, htext, hcolon, hblank, hread]

theorem members_more {ms : List (String × Json)} (key : String) (hcs : BeginsValue cs)
    (hmore : BeginsValue more)
    (h : ∀ pos, Answers fits v (',' :: newLine level ++ more) (value fuel depth pos cs))
    (hms : ∀ pos, Answers fitsRest ms rest (members fuel depth pos more)) :
    Answers (fits ∧ fitsRest) ((key, v) :: ms) rest
      (members (fuel + 1) depth pos (quoteChars key.toList ++ ':' :: ' ' :: cs)) := by
  obtain ⟨before, behind, htext, hcolon, hblank⟩ := exists_behind_name key hcs pos
  rw [quoteChars_append]
  rcases h behind with ⟨hfits, pos', hread⟩ | ⟨hfits, fault, hread, hlimit⟩
  · obtain ⟨next, hnext⟩ := skipBlanks_newLine hmore (pos' + 1) level
    have hcomma := skipBlanks_of_not_blank (c := ',') rfl pos' (newLine level ++ more)
    rcases hms next with ⟨hrest, last, hlast⟩ | ⟨hrest, fault, hlast, hlimit⟩
    · refine .inl ⟨⟨hfits, hrest⟩, last, ?_⟩
      simp only [members, bind, Except.bind, htext, hcolon, hblank, hread, List.cons_append, hcomma, hnext,
        hlast]
      rfl
    · refine .inr ⟨fun h => hrest h.2, fault, ?_, hlimit⟩
      simp only [members, bind, Except.bind, htext, hcolon, hblank, hread, List.cons_append, hcomma, hnext,
        hlast]
  · refine .inr ⟨fun h => hfits h.1, fault, ?_, hlimit⟩
    simp only [members, bind, Except.bind, htext, hcolon, hblank, hread]

end

/-! ## Written values -/

def itemsText (level : Nat) : List Json → List Char
  | [] => []
  | v :: vs => writeChars level v ++ writeItems level vs

def membersText (level : Nat) : List (String × Json) → List Char
  | [] => []
  | (key, v) :: ms => quoteChars key.toList ++ ':' :: ' ' :: writeChars level v ++ writeMembers level ms

theorem numberEnds_newLine (level : Nat) (cs : List Char) : NumberEnds (newLine level ++ cs) := by
  intro c hc
  obtain rfl : '\n' = c := by simpa [newLine] using hc
  decide

theorem numberEnds_comma (cs : List Char) : NumberEnds (',' :: cs) := by
  intro c hc
  obtain rfl : ',' = c := by simpa using hc
  decide

theorem Answers.congr {α : Type} {p q : Prop} {a : α} {rest : List Char} {r : Read α} (h : Answers p a rest r)
    (hpq : p ↔ q) : Answers q a rest r := propext hpq ▸ h

section
variable {depth : Nat} {rest : List Char}

theorem value_int (n : Int) (hrest : NumberEnds rest) (level fuel pos : Nat) :
    Answers (Fits depth (int n)) (int n) rest
      (value (fuel + 1) depth pos (writeChars level (int n) ++ rest)) := by
  have hread := number_int n hrest pos
  rw [toString_int_toList] at hread
  rw [writeChars_int, value_signText (begins_toDigits n.natAbs), hread]
  simp only [Fits]
  split
  · rename_i hlong
    exact .inr ⟨not_le.mpr hlong, _, rfl, trivial⟩
  · rename_i hshort
    exact .inl ⟨not_lt.mp hshort, _, rfl⟩

theorem value_float {x : Binary64} (hx : (float x).Regular) (hrest : NumberEnds rest) (level fuel pos : Nat) :
    Answers (Fits depth (float x)) (float x) rest
      (value (fuel + 1) depth pos (writeChars level (float x) ++ rest)) := by
  obtain ⟨negative, m, e, h, rfl⟩ := hx
  have htext : writeChars level (float (.finite negative m e h)) = signText negative ++ sizeText m e :=
    finiteText_eq negative m e
  have hread := number_finiteText negative h hrest pos
  rw [finiteText_eq] at hread
  rw [htext, value_signText (begins_sizeText h), hread]
  exact .inl ⟨by simp [Fits], _, rfl⟩

theorem value_str (s : String) (level fuel pos : Nat) :
    Answers (Fits depth (str s)) (str s) rest
      (value (fuel + 1) depth pos (writeChars level (str s) ++ rest)) := by
  obtain ⟨pos', hread⟩ := text_quoted s (pos + 1) rest
  have htext : writeChars level (str s) = quoteChars s.toList := rfl
  refine .inl ⟨by simp [Fits], pos', ?_⟩
  rw [htext, quoteChars_append]
  unfold value
  exact congrArg (Except.map fun x => (str x.1, x.2)) hread

end

section
variable (level : Nat)

theorem length_writeChars_arr (v : Json) (vs : List Json) :
    2 * (itemsText (level + 1) (v :: vs)).length + 8 ≤ 2 * (writeChars level (arr (v :: vs))).length := by
  simp only [writeChars, itemsText, newLine, List.length_append, List.length_cons]
  omega

theorem length_writeChars_obj (m : String × Json) (ms : List (String × Json)) :
    2 * (membersText (level + 1) (m :: ms)).length + 8 ≤ 2 * (writeChars level (obj (m :: ms))).length := by
  simp only [writeChars, membersText, newLine, List.length_append, List.length_cons]
  omega

end

-- Fuel goes down by one at every call. A list spends two steps on each item, which with its comma has two
-- characters at least, so twice the length is enough.
mutual

/-- Values of all kinds, by recursion on the value; the text that follows stays open. -/
theorem value_writeChars : ∀ v : Json, v.Regular → ∀ (level fuel depth pos : Nat) (rest : List Char),
    NumberEnds rest → 2 * (writeChars level v).length ≤ fuel + 2 →
    Answers (Fits depth v) v rest (value (fuel + 1) depth pos (writeChars level v ++ rest))
  | null, _, _, _, _, pos, _, _, _ => .inl ⟨by simp [Fits], pos + 4, by unfold value; rfl⟩
  | bool true, _, _, _, _, pos, _, _, _ => .inl ⟨by simp [Fits], pos + 4, by unfold value; rfl⟩
  | bool false, _, _, _, _, pos, _, _, _ => .inl ⟨by simp [Fits], pos + 5, by unfold value; rfl⟩
  | int n, _, level, fuel, _, pos, _, hrest, _ => value_int n hrest level fuel pos
  | float _, hv, level, fuel, _, pos, _, hrest, _ => value_float hv hrest level fuel pos
  | str s, _, level, fuel, _, pos, _, _, _ => value_str s level fuel pos
  | arr vs, hv, level, fuel, 0, pos, rest, _, _ => by
    refine .inr ⟨by simp [Fits], .tooDeep, ?_, trivial⟩
    cases vs <;> exact value_bracket ..
  | arr [], _, level, fuel, depth + 1, pos, rest, _, _ => by
    have hread : value (fuel + 1) (depth + 1) pos ('[' :: ']' :: rest) = .ok (arr [], pos + 2, rest) :=
      value_bracket ..
    exact .inl ⟨by simp [Fits, FitsItems], pos + 2, by simpa [writeChars] using hread⟩
  | arr (v :: vs), hv, level, fuel, depth + 1, pos, rest, _, hfuel => by
    have hlength := length_writeChars_arr level v vs
    have hbegins : BeginsValue (itemsText (level + 1) (v :: vs)) := (beginsValue_writeChars hv.1 _).append _
    have hitems (pos : Nat) := items_itemsText (v :: vs) hv (level + 1) fuel depth pos level rest
      (by simp) (by omega)
    have hanswer := value_list (level + 1) pos (hbegins.append _) hitems
    simpa [writeChars, itemsText, Fits] using hanswer
  | obj ms, hv, level, fuel, 0, pos, rest, _, _ => by
    refine .inr ⟨by simp [Fits], .tooDeep, ?_, trivial⟩
    cases ms <;> exact value_brace ..
  | obj [], _, level, fuel, depth + 1, pos, rest, _, _ => by
    have hread : value (fuel + 1) (depth + 1) pos ('{' :: '}' :: rest) =
        .ok (obj [], pos + 2, rest) := value_brace ..
    exact .inl ⟨by simp [Fits, FitsMembers], pos + 2, by simpa [writeChars] using hread⟩
  | obj ((key, v) :: ms), hv, level, fuel, depth + 1, pos, rest, _, hfuel => by
    have hlength := length_writeChars_obj level (key, v) ms
    have hmembers (pos : Nat) := members_membersText ((key, v) :: ms) hv.2 (level + 1) fuel depth pos
      level rest (by simp) (by omega)
    simp only [membersText, List.append_assoc] at hmembers
    have hanswer := value_object (level + 1) pos hv.1 hmembers
    simpa [writeChars, Fits] using hanswer

theorem items_itemsText : ∀ vs : List Json, RegularItems vs →
    ∀ (level fuel depth pos l : Nat) (rest : List Char), vs ≠ [] →
    2 * (itemsText level vs).length + 2 ≤ fuel →
    Answers (FitsItems depth vs) vs rest
      (items fuel depth pos (itemsText level vs ++ (newLine l ++ ']' :: rest)))
  | [], _, _, _, _, _, _, _, hne, _ => (hne rfl).elim
  | _ :: _, _, _, 0, _, _, _, _, _, hfuel => by omega
  | _ :: _, _, _, 1, _, _, _, _, _, hfuel => by omega
  | [v], hvs, level, fuel + 2, depth, pos, l, rest, _, hfuel => by
    simp only [itemsText, writeItems, List.append_nil] at hfuel ⊢
    have hv := value_writeChars v hvs.1 level fuel depth pos _
      (numberEnds_newLine l (']' :: rest)) (by omega)
    exact (items_last pos hv).congr (by simp [FitsItems])
  | v :: w :: ws, hvs, level, fuel + 2, depth, pos, l, rest, _, hfuel => by
    have htext : itemsText level (v :: w :: ws) =
        writeChars level v ++ ',' :: newLine level ++ itemsText level (w :: ws) := by
      simp [itemsText, writeItems]
    rw [htext] at hfuel ⊢
    simp only [List.length_append, List.length_cons, newLine] at hfuel
    have hmore : BeginsValue (itemsText level (w :: ws) ++ (newLine l ++ ']' :: rest)) :=
      ((beginsValue_writeChars hvs.2.1 level).append _).append _
    have hends := numberEnds_comma (newLine level ++ (itemsText level (w :: ws) ++ (newLine l ++ ']' :: rest)))
    have hv := value_writeChars v hvs.1 level fuel depth pos _ hends (by omega)
    have hws (pos : Nat) := items_itemsText (w :: ws) hvs.2 level (fuel + 1) depth pos l rest
      (by simp) (by omega)
    have hanswer := items_more level pos hmore hv hws
    simpa [FitsItems] using hanswer

theorem members_membersText : ∀ ms : List (String × Json), RegularMembers ms →
    ∀ (level fuel depth pos l : Nat) (rest : List Char), ms ≠ [] →
    2 * (membersText level ms).length + 2 ≤ fuel →
    Answers (FitsMembers depth ms) ms rest
      (members fuel depth pos (membersText level ms ++ (newLine l ++ '}' :: rest)))
  | [], _, _, _, _, _, _, _, hne, _ => (hne rfl).elim
  | _ :: _, _, _, 0, _, _, _, _, _, hfuel => by omega
  | _ :: _, _, _, 1, _, _, _, _, _, hfuel => by omega
  | [(key, v)], hms, level, fuel + 2, depth, pos, l, rest, _, hfuel => by
    simp only [membersText, writeMembers, List.append_nil, List.length_append, List.length_cons] at hfuel ⊢
    have hv (pos : Nat) := value_writeChars v hms.1 level fuel depth pos _
      (numberEnds_newLine l ('}' :: rest)) (by omega)
    have hanswer := members_last pos key ((beginsValue_writeChars hms.1 level).append _) hv
    simpa [FitsMembers] using hanswer
  | (key, v) :: (key', w) :: ms, hms, level, fuel + 2, depth, pos, l, rest, _, hfuel => by
    have htext : membersText level ((key, v) :: (key', w) :: ms) =
        quoteChars key.toList ++ ':' :: ' ' :: writeChars level v ++ ',' :: newLine level ++
          membersText level ((key', w) :: ms) := by
      simp [membersText, writeMembers]
    rw [htext] at hfuel ⊢
    simp only [List.length_append, List.length_cons, newLine] at hfuel
    have hmore : BeginsValue (membersText level ((key', w) :: ms) ++ (newLine l ++ '}' :: rest)) :=
      ((beginsValue_quoteChars key'.toList _).append _).append _
    have hends := numberEnds_comma
      (newLine level ++ (membersText level ((key', w) :: ms) ++ (newLine l ++ '}' :: rest)))
    have hv (pos : Nat) := value_writeChars v hms.1 level fuel depth pos _ hends (by omega)
    have hrest (pos : Nat) := members_membersText ((key', w) :: ms) hms.2 level (fuel + 1) depth pos l
      rest (by simp) (by omega)
    have hanswer := members_more level pos key ((beginsValue_writeChars hms.1 level).append _) hmore hv hrest
    simpa [FitsMembers] using hanswer

end

theorem document_writeChars {v : Json} (hv : v.Regular) :
    (v.Fits maxDepth ∧ document (writeChars 0 v) = .ok v) ∨
      (¬v.Fits maxDepth ∧ ∃ fault, document (writeChars 0 v) = .error fault ∧ fault.IsLimit) := by
  have hends : NumberEnds [] := fun _ hc => nomatch hc
  have hvalue := value_writeChars v hv 0 (2 * (writeChars 0 v).length) maxDepth 0 [] hends (by omega)
  have hbegins := beginsValue_writeChars hv 0
  rw [List.append_nil] at hvalue
  generalize writeChars 0 v = cs at hvalue hbegins ⊢
  obtain ⟨c, cs, rfl, hblank, -, hmark⟩ := hbegins
  have hskip := skipBlanks_of_not_blank hblank 0 cs
  unfold document
  rw [List.head?_cons, if_neg (by simpa using hmark)]
  rcases hvalue with ⟨hfits, pos, hread⟩ | ⟨hfits, fault, hread, hlimit⟩
  · refine .inl ⟨hfits, ?_⟩
    simp only [bind, Except.bind, hskip, hread]
    rfl
  · refine .inr ⟨hfits, fault, ?_, hlimit⟩
    simp only [bind, Except.bind, hskip, hread]

end TypedVocabulary.Json.Reader

/-- A value is read from its own text if it is within the limits of the reader. -/
theorem TypedVocabulary.Json.parse_write {v : Json} (hv : v.Regular) :
    (v.Fits Reader.maxDepth ∧ parse v.write = .ok v) ∨
      (¬v.Fits Reader.maxDepth ∧ (parse v.write = .error .tooDeep ∨
        ∃ digits, parse v.write = .error (.longInteger Reader.maxDigits digits))) := by
  unfold parse write
  rw [String.toList_ofList]
  rcases Reader.document_writeChars hv with ⟨hfits, hread⟩ | ⟨hfits, fault, hread, hlimit⟩
  · exact .inl ⟨hfits, by rw [hread]; rfl⟩
  · refine .inr ⟨hfits, ?_⟩
    rw [hread]
    cases fault with
    | syntaxError => exact hlimit.elim
    | longInteger digits => exact .inr ⟨digits, rfl⟩
    | tooDeep => exact .inl rfl
