import Mathlib.Data.List.DropRight
import TypedVocabulary.Json.Reader
import TypedVocabulary.Json.Writer

/-! # String literals

A literal is read from behind its opening quote up to the first quote that no backslash stands in front
of. An escape stands for code units of UTF-16, any other character for itself; `plain` tells which
characters may do so, as there are line ends that a literal cannot hold. An escape is longer than what it
stands for, so a text between quotes is its own value only if there is no escape in it.
-/
namespace TypedVocabulary.StringLiteral

/-- A code point in UTF-16. -/
def codeUnits (n : Nat) : List Nat :=
  if n < 0x10000 then [n] else [0xD800 + (n - 0x10000) / 0x400, 0xDC00 + (n - 0x10000) % 0x400]

def units (cs : List Char) : List Nat := cs.flatMap fun c => codeUnits c.toNat

/-- The code units of the escapes of one letter. -/
def simpleEscape? : Char → Option Nat
  | '\'' => some 0x27
  | '"' => some 0x22
  | '\\' => some 0x5C
  | '0' => some 0x00
  | 'a' => some 0x07
  | 'b' => some 0x08
  | 'f' => some 0x0C
  | 'n' => some 0x0A
  | 'r' => some 0x0D
  | 't' => some 0x09
  | 'v' => some 0x0B
  | _ => none

/-- The hexadecimal digits in front of a text, up to a number of them. -/
def hexRun : Nat → List Char → List Nat × List Char
  | n + 1, c :: cs =>
    match Json.Reader.hexValue? c with
    | some d => (d :: (hexRun n cs).1, (hexRun n cs).2)
    | none => ([], c :: cs)
  | _, cs => ([], cs)

def number (digits : List Nat) : Nat := digits.foldl (fun n d => n * 16 + d) 0

def hexEscape? (least most : Nat) (cs : List Char) : Option (List Nat × List Char) :=
  let digits := (hexRun most cs).1
  if least ≤ digits.length ∧ number digits < 0x110000 then
    some (codeUnits (number digits), (hexRun most cs).2)
  else none

/-- What an escape stands for, and what follows it, from behind its backslash. -/
def escape? : List Char → Option (List Nat × List Char)
  | [] => none
  | 'x' :: cs => hexEscape? 1 4 cs
  | 'u' :: cs => hexEscape? 4 4 cs
  | 'U' :: cs => hexEscape? 8 8 cs
  | c :: cs => (simpleEscape? c).map fun unit => ([unit], cs)

theorem exists_hexRun (n : Nat) (cs : List Char) :
    ∃ front, cs = front ++ (hexRun n cs).2 ∧ front.length = (hexRun n cs).1.length := by
  induction n generalizing cs with
  | zero => exact ⟨[], rfl, rfl⟩
  | succ n ih =>
    cases cs with
    | nil => exact ⟨[], rfl, rfl⟩
    | cons c cs =>
      cases hc : Json.Reader.hexValue? c with
      | none => exact ⟨[], by simp [hexRun, hc]⟩
      | some d =>
        obtain ⟨front, hcs, hlength⟩ := ih cs
        refine ⟨c :: front, ?_, ?_⟩
        · rw [hexRun, hc, List.cons_append, ← hcs]
        · rw [hexRun, hc, List.length_cons, List.length_cons, hlength]

theorem length_codeUnits (n : Nat) : 1 ≤ (codeUnits n).length ∧ (codeUnits n).length ≤ 2 := by
  unfold codeUnits
  split <;> simp

theorem length_le_units (cs : List Char) : cs.length ≤ (units cs).length := by
  induction cs with
  | nil => exact le_rfl
  | cons c cs ih =>
    have hc := (length_codeUnits c.toNat).1
    simp only [units, List.flatMap_cons, List.length_append, List.length_cons] at ih ⊢
    omega

theorem units_append (xs ys : List Char) : units (xs ++ ys) = units xs ++ units ys :=
  List.flatMap_append

theorem exists_hexEscape {least most : Nat} {cs : List Char} {us : List Nat} {rest : List Char}
    (hleast : 1 ≤ least) (h : hexEscape? least most cs = some (us, rest)) :
    ∃ front, cs = front ++ rest ∧ us.length ≤ front.length + 1 := by
  obtain ⟨front, hcs, hlength⟩ := exists_hexRun most cs
  unfold hexEscape? at h
  dsimp only at h
  split at h
  · rename_i hdigits
    cases h
    have hus := (length_codeUnits (number (hexRun most cs).1)).2
    exact ⟨front, hcs, by omega⟩
  · cases h

theorem exists_escape {cs : List Char} {us : List Nat} {rest : List Char}
    (h : escape? cs = some (us, rest)) : ∃ front, cs = front ++ rest ∧ us.length ≤ front.length := by
  unfold escape? at h
  split at h
  · cases h
  · obtain ⟨front, rfl, hlength⟩ := exists_hexEscape (by decide) h
    exact ⟨'x' :: front, rfl, hlength⟩
  · obtain ⟨front, rfl, hlength⟩ := exists_hexEscape (by decide) h
    exact ⟨'u' :: front, rfl, hlength⟩
  · obtain ⟨front, rfl, hlength⟩ := exists_hexEscape (by decide) h
    exact ⟨'U' :: front, rfl, hlength⟩
  · rename_i c cs _ _ _
    obtain ⟨unit, -, heq⟩ := Option.map_eq_some_iff.mp h
    cases heq
    exact ⟨[c], rfl, le_rfl⟩

theorem escape?_length_le {cs : List Char} {us : List Nat} {rest : List Char}
    (h : escape? cs = some (us, rest)) : rest.length ≤ cs.length := by
  obtain ⟨front, rfl, -⟩ := exists_escape h
  simp

/-- The code units that a literal stands for, and what follows its closing quote. -/
def read? (plain : Char → Bool) : List Char → Option (List Nat × List Char)
  | [] => none
  | '"' :: rest => some ([], rest)
  | '\\' :: cs =>
    match _ : escape? cs with
    | some (us, rest) => (read? plain rest).map fun value => (us ++ value.1, value.2)
    | none => none
  | c :: cs =>
    if plain c then (read? plain cs).map fun value => (codeUnits c.toNat ++ value.1, value.2)
    else none
termination_by cs => cs.length
decreasing_by
  · have := escape?_length_le ‹escape? cs = some _›
    simp only [List.length_cons]
    omega
  · simp

section
variable {plain : Char → Bool} {cs rest : List Char}

theorem read?_quote : read? plain ('"' :: rest) = some ([], rest) := by
  rw [read?]

theorem read?_escape {us : List Nat} (h : escape? cs = some (us, rest)) :
    read? plain ('\\' :: cs) = (read? plain rest).map fun value => (us ++ value.1, value.2) := by
  rw [read?]
  split
  · rename_i us' rest' h'
    cases h.symm.trans h'
    rfl
  · rename_i h'
    cases h.symm.trans h'

theorem read?_other {c : Char} (hquote : c ≠ '"') (hslash : c ≠ '\\') :
    read? plain (c :: cs) =
      if plain c then (read? plain cs).map fun value => (codeUnits c.toNat ++ value.1, value.2)
      else none := by
  rw [read?]
  · exact hquote
  · exact hslash

/-- Characters that stand for themselves. -/
def Clean (plain : Char → Bool) (cs : List Char) : Prop :=
  ∀ c ∈ cs, c ≠ '"' ∧ c ≠ '\\' ∧ plain c = true

theorem read?_clean (h : Clean plain cs) : read? plain (cs ++ '"' :: rest) = some (units cs, rest) := by
  induction cs with
  | nil => exact read?_quote
  | cons c cs ih =>
    obtain ⟨⟨hquote, hslash, hplain⟩, hcs⟩ := List.forall_mem_cons.mp h
    rw [List.cons_append, read?_other hquote hslash, if_pos hplain, ih hcs]
    rfl

/-- What is read up to a quote stands for itself, or for fewer code units than it has. -/
theorem exists_read {value : List Nat} (h : read? plain cs = some (value, rest)) :
    ∃ body, cs = body ++ '"' :: rest ∧
      (Clean plain body ∧ value = units body ∨ value.length < (units body).length) := by
  induction cs using read?.induct plain generalizing value with
  | case1 => simp [read?] at h
  | case2 cs =>
    rw [read?_quote] at h
    cases h
    exact ⟨[], rfl, .inl ⟨fun c hc => (List.not_mem_nil hc).elim, rfl⟩⟩
  | case3 cs us behind hescape ih =>
    rw [read?_escape hescape] at h
    obtain ⟨⟨value', rest'⟩, hread, heq⟩ := Option.map_eq_some_iff.mp h
    cases heq
    obtain ⟨front, rfl, hus⟩ := exists_escape hescape
    obtain ⟨body, rfl, hbody⟩ := ih hread
    -- The backslash itself stands for nothing, which makes the value shorter.
    refine ⟨'\\' :: front ++ body, by simp, .inr ?_⟩
    have hfront := length_le_units ('\\' :: front)
    have hvalue : value'.length ≤ (units body).length := by
      rcases hbody with ⟨-, rfl⟩ | hlt
      · exact le_rfl
      · exact hlt.le
    dsimp only
    rw [units_append, List.length_append, List.length_append]
    rw [List.length_cons] at hfront
    omega
  | case4 cs hescape =>
    rw [read?] at h
    split at h
    · rename_i hsome
      cases hescape.symm.trans hsome
    · cases h
  | case5 c cs hquote hslash hplain ih =>
    rw [read?_other hquote hslash, if_pos hplain] at h
    obtain ⟨⟨value', rest'⟩, hread, heq⟩ := Option.map_eq_some_iff.mp h
    cases heq
    obtain ⟨body, rfl, hbody⟩ := ih hread
    refine ⟨c :: body, rfl, ?_⟩
    rcases hbody with ⟨hclean, rfl⟩ | hlt
    · exact .inl ⟨List.forall_mem_cons.mpr ⟨⟨hquote, hslash, hplain⟩, hclean⟩, rfl⟩
    · refine .inr ?_
      rw [← List.singleton_append, units_append, List.length_append, List.length_append]
      simpa [units] using hlt
  | case6 c cs hquote hslash hplain =>
    rw [read?_other hquote hslash, if_neg hplain] at h
    cases h

/-! ## Escaped texts -/

theorem hexValue?_digitChar {d : Nat} (h : d < 16) : Json.Reader.hexValue? (Nat.digitChar d) = some d := by
  have hall : ∀ d < 16, Json.Reader.hexValue? (Nat.digitChar d) = some d := by decide
  exact hall d h

theorem hexEscape?_hexDigits {n : Nat} (h : n < 0x10000) :
    hexEscape? 4 4 (Json.hexDigits 4 n ++ cs) = some (codeUnits n, cs) := by
  have hdigit (m : Nat) : Json.Reader.hexValue? (Nat.digitChar (m % 16)) = some (m % 16) :=
    hexValue?_digitChar (Nat.mod_lt m (by decide))
  have hrun : hexRun 4 (Json.hexDigits 4 n ++ cs) =
      ([n / 16 / 16 / 16 % 16, n / 16 / 16 % 16, n / 16 % 16, n % 16], cs) := by
    simp [Json.hexDigits, hexRun, hdigit]
  have hnumber : number [n / 16 / 16 / 16 % 16, n / 16 / 16 % 16, n / 16 % 16, n % 16] = n := by
    simp only [number, List.foldl_cons, List.foldl_nil]
    omega
  unfold hexEscape?
  rw [hrun]
  dsimp only
  rw [hnumber, if_pos ⟨by simp, by omega⟩]

theorem hexUnit?_hexDigits {n : Nat} (h : n < 0x10000) :
    Json.Reader.hexUnit? (Nat.digitChar (n / 16 / 16 / 16 % 16)) (Nat.digitChar (n / 16 / 16 % 16))
      (Nat.digitChar (n / 16 % 16)) (Nat.digitChar (n % 16)) = some n := by
  have hdigit (m : Nat) : Json.Reader.hexValue? (Nat.digitChar (m % 16)) = some (m % 16) :=
    hexValue?_digitChar (Nat.mod_lt m (by decide))
  simp only [Json.Reader.hexUnit?, hdigit, Option.bind_eq_bind, Option.bind_some, Option.pure_def,
    Option.some.injEq]
  omega

theorem mem_hexDigits {d : Char} {width n : Nat} (h : d ∈ Json.hexDigits width n) :
    ∃ digit < 16, d = Nat.digitChar digit := by
  induction width generalizing n with
  | zero => cases h
  | succ width ih =>
    rcases List.mem_append.mp h with h | h
    · exact ih h
    · exact ⟨n % 16, Nat.mod_lt n (by decide), List.mem_singleton.mp h⟩

/-- A character that is escaped between quotes. -/
def IsEscaped (c : Char) : Prop := c = '"' ∨ c = '\\' ∨ c.toNat < 0x20

instance (c : Char) : Decidable (IsEscaped c) := inferInstanceAs (Decidable (_ ∨ _ ∨ _))

/-- The letters of short escapes, with what they are written for. -/
def shortEscapes : List (Char × Char) :=
  [('"', '"'), ('\\', '\\'), ('n', '\n'), ('r', '\r'), ('t', '\t'), ('f', '\x0c'), ('b', '\x08')]

/-- How a character is written between quotes. -/
inductive Written (c : Char) : List Char → Prop
  | short {letter : Char} (h : (letter, c) ∈ shortEscapes) : Written c ['\\', letter]
  | code (h : c.toNat < 0x20) : Written c ('\\' :: 'u' :: Json.hexDigits 4 c.toNat)
  | plain (h : ¬IsEscaped c) : Written c [c]

theorem written_quoteChar (c : Char) : Written c (Json.quoteChar c) := by
  unfold Json.quoteChar
  split_ifs with hquote hslash hfeed hreturn htab hform hback hcontrol
  · exact .short (by simp [shortEscapes, hquote])
  · exact .short (by simp [shortEscapes, hslash])
  · exact .short (by simp [shortEscapes, hfeed])
  · exact .short (by simp [shortEscapes, hreturn])
  · exact .short (by simp [shortEscapes, htab])
  · exact .short (by simp [shortEscapes, hform])
  · exact .short (by simp [shortEscapes, hback])
  · exact .code hcontrol
  · refine .plain ?_
    rintro (h | h | h)
    · exact hquote h
    · exact hslash h
    · exact hcontrol h

theorem isEscaped_of_mem {letter c : Char} (h : (letter, c) ∈ shortEscapes) : IsEscaped c := by
  have hall : ∀ x ∈ shortEscapes, IsEscaped x.2 := by decide
  exact hall _ h

theorem Written.eq_of_not_escaped {c : Char} {w : List Char} (hw : Written c w) (h : ¬IsEscaped c) :
    w = [c] := by
  cases hw with
  | short hmem => exact absurd (isEscaped_of_mem hmem) h
  | code hcontrol => exact absurd (.inr (.inr hcontrol)) h
  | plain => rfl

theorem quoteChar_of_not_escaped {c : Char} (h : ¬IsEscaped c) : Json.quoteChar c = [c] :=
  (written_quoteChar c).eq_of_not_escaped h

theorem escape?_short {letter c : Char} (h : (letter, c) ∈ shortEscapes) :
    escape? (letter :: cs) = some (codeUnits c.toNat, cs) := by
  have hall : ∀ x ∈ shortEscapes, x.1 ≠ 'x' ∧ x.1 ≠ 'u' ∧ x.1 ≠ 'U' ∧
      simpleEscape? x.1 = some x.2.toNat ∧ codeUnits x.2.toNat = [x.2.toNat] := by decide
  obtain ⟨hx, hu, hU, hsimple, hunits⟩ := hall _ h
  rw [escape?, hsimple, Option.map_some, hunits]
  · exact hx
  · exact hu
  · exact hU

theorem read?_quoteChar_escaped {c : Char} (h : IsEscaped c) :
    read? plain (Json.quoteChar c ++ cs) =
      (read? plain cs).map fun value => (codeUnits c.toNat ++ value.1, value.2) := by
  have hw := written_quoteChar c
  generalize Json.quoteChar c = w at hw
  cases hw with
  | short hmem => exact read?_escape (escape?_short hmem)
  | code hcontrol =>
    have hcode : c.toNat < 0x10000 := by omega
    exact read?_escape (hexEscape?_hexDigits hcode)
  | plain hnot => exact absurd h hnot

theorem Written.le_toNat {c d : Char} {w : List Char} (hw : Written c w) (h : d ∈ w) :
    0x20 ≤ d.toNat := by
  cases hw with
  | @short letter hmem =>
    have hall : ∀ x ∈ shortEscapes, 0x20 ≤ x.1.toNat := by decide
    have hletter := hall _ hmem
    rcases List.mem_pair.mp h with rfl | rfl
    · decide
    · exact hletter
  | code =>
    have hdigits : ∀ digit < 16, 0x20 ≤ (Nat.digitChar digit).toNat := by decide
    rcases List.mem_cons.mp h with rfl | h
    · decide
    · rcases List.mem_cons.mp h with rfl | h
      · decide
      · obtain ⟨digit, hdigit, rfl⟩ := mem_hexDigits h
        exact hdigits digit hdigit
  | plain hnot =>
    obtain rfl := List.mem_singleton.mp h
    simp only [IsEscaped, not_or] at hnot
    omega

theorem lineFeed_not_mem_quoteChar (c : Char) : '\n' ∉ Json.quoteChar c := by
  intro hmem
  have hcontrol := (written_quoteChar c).le_toNat hmem
  exact absurd hcontrol (by decide)

/-- A text that is written with escapes is read back, as long as what is left as it is may stand there. -/
theorem read?_quoted (h : ∀ c ∈ cs, IsEscaped c ∨ plain c = true) :
    read? plain (cs.flatMap Json.quoteChar ++ '"' :: rest) = some (units cs, rest) := by
  induction cs with
  | nil => exact read?_quote
  | cons c cs ih =>
    obtain ⟨hc, hcs⟩ := List.forall_mem_cons.mp h
    rw [List.flatMap_cons, List.append_assoc]
    by_cases hescaped : IsEscaped c
    · rw [read?_quoteChar_escaped hescaped, ih hcs]
      rfl
    · have hplain : plain c = true := hc.resolve_left hescaped
      rw [quoteChar_of_not_escaped hescaped, List.singleton_append,
        read?_other (fun h => hescaped (.inl h)) (fun h => hescaped (.inr (.inl h))), if_pos hplain,
        ih hcs]
      rfl

theorem read?_quoted_eq_none {c : Char} (hc : c ∈ cs) (hescaped : ¬IsEscaped c)
    (hplain : plain c = false) : read? plain (cs.flatMap Json.quoteChar ++ rest) = none := by
  induction cs with
  | nil => cases hc
  | cons d cs ih =>
    rw [List.flatMap_cons, List.append_assoc]
    by_cases hd : IsEscaped d
    · have hmem : c ∈ cs := (List.mem_cons.mp hc).resolve_left fun h => hescaped (h ▸ hd)
      rw [read?_quoteChar_escaped hd, ih hmem]
      rfl
    · rw [quoteChar_of_not_escaped hd, List.singleton_append,
        read?_other (fun h => hd (.inl h)) (fun h => hd (.inr (.inl h)))]
      rcases List.mem_cons.mp hc with rfl | hmem
      · rw [if_neg (by simp [hplain])]
      · rw [ih hmem]
        exact ite_self none

/-! ## Values -/

/-- A literal that begins behind its opening quote stands for a text. -/
def Denotes (plain : Char → Bool) (cs : List Char) (text : String) : Prop :=
  (read? plain cs).map Prod.fst = some (units text.toList)

theorem denotes_quoted_iff {text : String} :
    Denotes plain (text.toList.flatMap Json.quoteChar ++ '"' :: rest) text ↔
      ∀ c ∈ text.toList, IsEscaped c ∨ plain c = true := by
  constructor
  · intro h c hc
    by_cases hescaped : IsEscaped c
    · exact .inl hescaped
    · cases hplain : plain c with
      | true => exact .inr rfl
      | false =>
        rw [Denotes, read?_quoted_eq_none hc hescaped hplain] at h
        cases h
  · intro h
    rw [Denotes, read?_quoted h]
    rfl

theorem denotes_of_clean {text : String} (h : Clean plain text.toList) :
    Denotes plain (text.toList ++ '"' :: rest) text := by
  rw [Denotes, read?_clean h]
  rfl

theorem eq_of_prefix_of_length_units_le {xs ys : List Char} (h : xs <+: ys)
    (hlength : (units ys).length ≤ (units xs).length) : xs = ys := by
  obtain ⟨more, rfl⟩ := h
  have hmore := length_le_units more
  rw [units_append, List.length_append] at hlength
  have hnil : more = [] := List.length_eq_zero_iff.mp (by omega)
  rw [hnil, List.append_nil]

/-- A line that begins with a text and a quote, and has no other quote, stands for the text only if
nothing in the text ends the literal or begins an escape. -/
theorem clean_of_denotes {text : String} {line tail : List Char}
    (hline : line <+: text.toList ++ '"' :: tail) (htail : '"' ∉ tail) (h : Denotes plain line text) :
    Clean plain text.toList ∧ text.toList <+: line := by
  obtain ⟨⟨value, rest⟩, hread, hvalue⟩ := Option.map_eq_some_iff.mp h
  obtain rfl : value = units text.toList := hvalue
  obtain ⟨body, rfl, hbody⟩ := exists_read hread
  have hle : (units text.toList).length ≤ (units body).length := by
    rcases hbody with ⟨-, heq⟩ | hlt
    · exact le_of_eq (congrArg List.length heq)
    · exact hlt.le
  have htext : text.toList = body := by
    rcases List.prefix_or_prefix_of_prefix ((List.prefix_append body _).trans hline)
      (List.prefix_append text.toList _) with hprefix | ⟨more, hmore⟩
    · exact (eq_of_prefix_of_length_units_le hprefix hle).symm
    · -- What the literal holds beyond the text begins with the quote, so there would be another one.
      rw [← hmore, List.append_assoc, List.prefix_append_right_inj] at hline
      cases more with
      | nil => rw [← hmore, List.append_nil]
      | cons c more =>
        obtain ⟨-, hrest⟩ := List.cons_prefix_cons.mp hline
        exact absurd (hrest.subset (by simp)) htail
  rcases hbody with ⟨hclean, -⟩ | hlt
  · exact ⟨htext ▸ hclean, htext ▸ List.prefix_append body _⟩
  · rw [htext] at hlt
    exact absurd hlt (lt_irrefl _)

end

end TypedVocabulary.StringLiteral
