import Mathlib.Algebra.Ring.Parity
import TypedVocabulary.Proofs.Text.StringLiteral

/-! # Quoted texts

A quoted text keeps to its quotes. A quote between them has an odd number of backslashes in front, so that
the last of these escapes it, and the quote at the end has an even number, so that it is free. Each
backslash that is left begins an escape, and undoing the escapes from left to right gives the text back.
-/
namespace TypedVocabulary.StringLiteral

/-! ## Undoing escapes -/

/-- What a letter behind a backslash is written for. -/
def shortEscape? (letter : Char) : Option Char := shortEscapes.lookup letter

/-- Undoes the escapes from left to right; any other character stands for itself. The code of half a
surrogate pair is no character. -/
def unescape? : List Char → Option (List Char)
  | [] => some []
  | '\\' :: 'u' :: a :: b :: c :: d :: cs => do
    let code ← Json.Reader.hexUnit? a b c d
    if code.isValidChar then return Char.ofNat code :: (← unescape? cs) else none
  | '\\' :: letter :: cs => do
    let c ← shortEscape? letter
    return c :: (← unescape? cs)
  | c :: cs => if c = '\\' then none else (unescape? cs).map (c :: ·)

variable {c : Char} {cs front w : List Char}

theorem shortEscape?_of_mem {letter : Char} (h : (letter, c) ∈ shortEscapes) :
    letter ≠ 'u' ∧ shortEscape? letter = some c := by
  have hall : ∀ x ∈ shortEscapes, x.1 ≠ 'u' ∧ shortEscape? x.1 = some x.2 := by decide
  exact hall _ h

theorem Written.unescape?_append (hw : Written c w) (cs : List Char) :
    unescape? (w ++ cs) = (unescape? cs).map (c :: ·) := by
  cases hw with
  | @short letter hmem =>
    obtain ⟨hu, hshort⟩ := shortEscape?_of_mem hmem
    have hread : unescape? ('\\' :: letter :: cs) = (unescape? cs).map (c :: ·) := by
      rw [unescape?, hshort]
      · cases unescape? cs <;> rfl
      · intro a b c' d rest hletter
        exact absurd hletter hu
    exact hread
  | code hcontrol =>
    have hunit := hexUnit?_hexDigits (n := c.toNat) (by omega)
    have hvalid : c.toNat.isValidChar := .inl (by omega)
    simp only [Json.hexDigits, List.nil_append, List.cons_append, unescape?, hunit]
    cases unescape? cs <;> simp [hvalid]
  | plain hplain =>
    have hslash : c ≠ '\\' := fun h => hplain (.inr (.inl h))
    rw [List.singleton_append, unescape?, if_neg hslash]
    · intro _ _ _ _ _ h
      exact absurd h hslash
    · intro _ _ h
      exact absurd h hslash

theorem unescape?_quoted (cs : List Char) : unescape? (cs.flatMap Json.quoteChar) = some cs := by
  induction cs with
  | nil => rfl
  | cons c cs ih => rw [List.flatMap_cons, (written_quoteChar c).unescape?_append, ih, Option.map_some]

/-! ## Backslashes in a row -/

/-- How many backslashes a text ends in. -/
def slashRun (cs : List Char) : Nat := (cs.rtakeWhile (· == '\\')).length

theorem slashRun_slash (cs : List Char) : slashRun (cs ++ ['\\']) = slashRun cs + 1 := by
  rw [slashRun, List.rtakeWhile_concat_pos _ _ _ rfl, List.length_append, List.length_singleton, slashRun]

theorem slashRun_of_ne (cs : List Char) (h : c ≠ '\\') : slashRun (cs ++ [c]) = 0 := by
  rw [slashRun, List.rtakeWhile_concat_neg _ _ _ (by simpa using h), List.length_nil]

/-- A quote in a text that is to come has an odd number of backslashes in front. -/
def Guarded (front cs : List Char) : Prop :=
  ∀ before after, cs = before ++ '"' :: after → Odd (slashRun (front ++ before))

theorem guarded_of_not_mem (front : List Char) (h : '"' ∉ cs) : Guarded front cs := by
  rintro before after rfl
  exact absurd (by simp) h

theorem Guarded.append {xs ys : List Char} (hxs : Guarded front xs) (hys : Guarded (front ++ xs) ys) :
    Guarded front (xs ++ ys) := by
  intro before after hsplit
  rcases List.append_eq_append_iff.mp hsplit with ⟨more, rfl, hmore⟩ | ⟨more, rfl, hmore⟩
  · rw [← List.append_assoc]
    exact hys more after hmore
  · cases more with
    | nil =>
      have hfirst := hys [] after hmore.symm
      simpa using hfirst
    | cons d more =>
      obtain ⟨rfl, -⟩ := List.cons.inj hmore
      exact hxs before more rfl

/-- What a character is written as leaves an even number of backslashes even, and is guarded by it. -/
theorem Written.guarded (hw : Written c w) (h : Even (slashRun front)) :
    Even (slashRun (front ++ w)) ∧ Guarded front w := by
  cases hw with
  | @short letter hmem =>
    have hodd : Odd (slashRun (front ++ ['\\'])) := by
      rw [slashRun_slash]
      exact h.add_one
    have hsplit : front ++ ['\\', letter] = front ++ ['\\'] ++ [letter] := by simp
    constructor
    · rw [hsplit]
      by_cases hletter : letter = '\\'
      · rw [hletter, slashRun_slash]
        exact hodd.add_one
      · rw [slashRun_of_ne _ hletter]
        exact Even.zero
    · -- Only the letter may be a quote, and the backslash stands in front of it.
      intro before after hquote
      rcases before with _ | ⟨b, _ | ⟨b', before⟩⟩
      · simp at hquote
      · obtain ⟨rfl, -⟩ := List.cons.inj hquote
        exact hodd
      · simp at hquote
  | code hcontrol =>
    have hdigits : ∀ digit < 16, Nat.digitChar digit ≠ '\\' ∧ Nat.digitChar digit ≠ '"' := by decide
    have hlast : front ++ '\\' :: 'u' :: Json.hexDigits 4 c.toNat =
        front ++ '\\' :: 'u' :: Json.hexDigits 3 (c.toNat / 16) ++ [Nat.digitChar (c.toNat % 16)] := by
      simp [Json.hexDigits]
    constructor
    · rw [hlast, slashRun_of_ne _ (hdigits _ (Nat.mod_lt _ (by decide))).1]
      exact Even.zero
    · apply guarded_of_not_mem
      intro hmem
      have hdigit : '"' ∈ Json.hexDigits 4 c.toNat := by simpa using hmem
      obtain ⟨digit, hlt, heq⟩ := mem_hexDigits hdigit
      exact (hdigits digit hlt).2 heq.symm
  | plain hplain =>
    simp only [IsEscaped, not_or] at hplain
    constructor
    · rw [slashRun_of_ne _ hplain.2.1]
      exact Even.zero
    · apply guarded_of_not_mem
      simpa using Ne.symm hplain.1

theorem guarded_quoted (h : Even (slashRun front)) (cs : List Char) :
    Even (slashRun (front ++ cs.flatMap Json.quoteChar)) ∧ Guarded front (cs.flatMap Json.quoteChar) := by
  induction cs generalizing front with
  | nil => exact ⟨by simpa using h, guarded_of_not_mem front List.not_mem_nil⟩
  | cons c cs ih =>
    obtain ⟨heven, hguarded⟩ := (written_quoteChar c).guarded h
    obtain ⟨hend, hrest⟩ := ih heven
    rw [List.flatMap_cons, ← List.append_assoc]
    exact ⟨hend, hguarded.append hrest⟩

/-! ## Quoted texts -/

/-- A quoted text stands between two quotes. What is between them has no control characters, and a quote
only behind an odd number of backslashes; an even number of them stands in front of the quote at the end.
Undoing the escapes between the quotes from left to right gives the text. -/
theorem quoting_reversible (s : String) :
    ∃ body, (Json.quote s).toList = '"' :: body ++ ['"'] ∧ (∀ d ∈ body, 0x20 ≤ d.toNat) ∧
      (∀ before after, body = before ++ '"' :: after → Odd (slashRun before)) ∧ Even (slashRun body) ∧
      unescape? body = some s.toList := by
  have hstart : Even (slashRun []) := Even.zero
  obtain ⟨heven, hguarded⟩ := guarded_quoted hstart s.toList
  refine ⟨s.toList.flatMap Json.quoteChar, String.toList_ofList, ?_, hguarded, heven, ?_⟩
  · intro d hd
    obtain ⟨c, -, hmem⟩ := List.mem_flatMap.mp hd
    exact (written_quoteChar c).le_toNat hmem
  · exact unescape?_quoted s.toList

end TypedVocabulary.StringLiteral
