import TypedVocabulary.Proofs.Json.WrittenNumber
import TypedVocabulary.Proofs.Text.Lines
import TypedVocabulary.Proofs.Text.StringLiteral

/-! # Lines of written values

A written value has line feeds only between its parts, as texts hide theirs. So each of its lines begins
with a blank, a bracket, a quote or a number, and never with an angle bracket.
-/
namespace TypedVocabulary

namespace Text

/-- No line begins with an angle bracket; `start` tells whether a line has just begun. -/
def PlainStarts (start : Bool) : List Char → Prop
  | [] => True
  | c :: cs => (start = true → c ≠ '<') ∧ PlainStarts (c == '\n') cs

namespace PlainStarts
variable {start : Bool} {xs ys cs : List Char}

theorem weaken (h : PlainStarts true cs) : PlainStarts start cs := by
  cases cs with
  | nil => trivial
  | cons c cs => exact ⟨fun _ => h.1 rfl, h.2⟩

theorem append (hxs : PlainStarts start xs) (hys : PlainStarts true ys) : PlainStarts start (xs ++ ys) := by
  induction xs generalizing start with
  | nil => exact hys.weaken
  | cons x xs ih => exact ⟨hxs.1, ih hxs.2⟩

theorem of_not_mem (h : '<' ∉ cs) : PlainStarts start cs := by
  induction cs generalizing start with
  | nil => trivial
  | cons c cs ih =>
    rw [List.mem_cons, not_or] at h
    exact ⟨fun _ => Ne.symm h.1, ih h.2⟩

theorem of_single (h : '\n' ∉ cs) : PlainStarts false cs := by
  induction cs with
  | nil => trivial
  | cons c cs ih =>
    rw [List.mem_cons, not_or] at h
    have hc : (c == '\n') = false := beq_eq_false_iff_ne.mpr (Ne.symm h.1)
    refine ⟨nofun, ?_⟩
    rw [hc]
    exact ih h.2

theorem of_quote {rest : List Char} (h : '\n' ∉ rest) : PlainStarts start ('"' :: rest) :=
  ⟨fun _ => by decide, of_single h⟩

theorem head_splitOn (h : PlainStarts start cs) {piece : List Char} {pieces : List (List Char)}
    (hcs : splitOn '\n' cs = piece :: pieces) :
    (start = true → piece.head? ≠ some '<') ∧ ∀ q ∈ pieces, q.head? ≠ some '<' := by
  induction cs generalizing start piece pieces with
  | nil =>
    cases hcs
    simp
  | cons c cs ih =>
    obtain ⟨first, rest, hrest⟩ := exists_splitOn_cons '\n' cs
    rw [splitOn] at hcs
    by_cases hc : c = '\n'
    · rw [if_pos hc, hrest] at hcs
      cases hcs
      obtain ⟨hhead, htail⟩ := ih h.2 hrest
      exact ⟨fun _ => by simp, List.forall_mem_cons.mpr ⟨hhead (by simp [hc]), htail⟩⟩
    · rw [if_neg hc, hrest] at hcs
      cases hcs
      exact ⟨fun hstart => by simpa using h.1 hstart, (ih h.2 hrest).2⟩

theorem head_lines {s : String} (h : PlainStarts true s.toList) {line : String} (hline : line ∈ lines s) :
    line.toList.head? ≠ some '<' := by
  obtain ⟨piece, hpiece, rfl⟩ := List.mem_map.mp hline
  obtain ⟨first, rest, hrest⟩ := exists_splitOn_cons '\n' s.toList
  obtain ⟨hhead, htail⟩ := h.head_splitOn hrest
  rw [String.toList_ofList]
  rw [hrest] at hpiece
  rcases List.mem_cons.mp hpiece with rfl | hpiece
  · exact hhead rfl
  · exact htail piece hpiece

end PlainStarts

end Text

namespace Json
open Text

theorem bracket_not_mem_toDigits (n : Nat) : '<' ∉ Nat.toDigits 10 n := by
  intro hmem
  cases Nat.isDigit_of_mem_toDigits (by decide) (by decide) hmem

theorem bracket_not_mem_signText (negative : Bool) : '<' ∉ Reader.signText negative := by
  cases negative <;> decide

theorem bracket_not_mem_int (n : Int) : '<' ∉ (toString n).toList := by
  rw [Reader.toString_int_toList]
  exact List.not_mem_append (bracket_not_mem_signText _) (bracket_not_mem_toDigits _)

theorem bracket_not_mem_layout (d : Binary64.Decimal) : '<' ∉ d.layout := by
  have hdigits := bracket_not_mem_toDigits
  have htake (n k : Nat) : '<' ∉ (Nat.toDigits 10 n).take k := fun h => hdigits n (List.mem_of_mem_take h)
  have hdrop (n k : Nat) : '<' ∉ (Nat.toDigits 10 n).drop k := fun h => hdigits n (List.mem_of_mem_drop h)
  have htail (n : Nat) : '<' ∉ (Nat.toDigits 10 n).tail := fun h => hdigits n (List.mem_of_mem_tail h)
  unfold Binary64.Decimal.layout
  dsimp only
  split_ifs <;> simp [hdigits, htake, hdrop, htail]

theorem bracket_not_mem_writeFloat (x : Binary64) : '<' ∉ writeFloat x := by
  cases x with
  | finite negative m e h =>
    rw [writeFloat, Reader.finiteText_eq, Reader.sizeText]
    refine List.not_mem_append (bracket_not_mem_signText negative) ?_
    split
    · decide
    · exact bracket_not_mem_layout (Binary64.shortest m e)
  | infinite negative => cases negative <;> decide
  | nan => decide

theorem plainStarts_quoteChars (cs : List Char) (start : Bool) : PlainStarts start (quoteChars cs) := by
  have hsingle : '\n' ∉ cs.flatMap quoteChar ++ ['"'] := by
    rw [List.mem_append, List.mem_flatMap, not_or]
    exact ⟨fun ⟨c, _, hc⟩ => StringLiteral.lineFeed_not_mem_quoteChar c hc, by decide⟩
  exact PlainStarts.of_quote hsingle

theorem plainStarts_newLine (level : Nat) (start : Bool) : PlainStarts start (newLine level) :=
  PlainStarts.of_not_mem (by simp [newLine])

mutual

/-- Lines of a written value begin with a blank, a bracket or the value itself, as texts hide line feeds. -/
theorem plainStarts_writeChars : ∀ (v : Json) (level : Nat) (start : Bool),
    PlainStarts start (writeChars level v)
  | .null, _, _ => PlainStarts.of_not_mem (by simp [writeChars])
  | .bool b, _, _ => PlainStarts.of_not_mem (by cases b <;> simp [writeChars])
  | .int n, _, _ => PlainStarts.of_not_mem (bracket_not_mem_int n)
  | .float x, _, _ => PlainStarts.of_not_mem (bracket_not_mem_writeFloat x)
  | .str s, _, start => plainStarts_quoteChars s.toList start
  | .arr [], _, _ => PlainStarts.of_not_mem (by simp [writeChars])
  | .arr (v :: vs), level, start => by
    have hopen : PlainStarts start ('[' :: newLine (level + 1)) := PlainStarts.of_not_mem (by simp [newLine])
    have hclose : PlainStarts true [']'] := PlainStarts.of_not_mem (by decide)
    rw [writeChars]
    exact (((hopen.append (plainStarts_writeChars v _ true)).append (plainStarts_writeItems vs _ true)).append
      (plainStarts_newLine level true)).append hclose
  | .obj [], _, _ => PlainStarts.of_not_mem (by simp [writeChars])
  | .obj ((key, v) :: ms), level, start => by
    have hopen : PlainStarts start ('{' :: newLine (level + 1)) :=
      PlainStarts.of_not_mem (by simp [newLine])
    have hclose : PlainStarts true ['}'] := PlainStarts.of_not_mem (by decide)
    have hvalue : PlainStarts true ([':', ' '] ++ writeChars (level + 1) v) :=
      (PlainStarts.of_not_mem (by decide)).append (plainStarts_writeChars v _ true)
    rw [writeChars]
    exact ((((hopen.append (plainStarts_quoteChars _ true)).append hvalue).append
      (plainStarts_writeMembers ms _ true)).append (plainStarts_newLine level true)).append hclose

theorem plainStarts_writeItems : ∀ (vs : List Json) (level : Nat) (start : Bool),
    PlainStarts start (writeItems level vs)
  | [], _, _ => trivial
  | v :: vs, level, start => by
    have hcomma : PlainStarts start (',' :: newLine level) := PlainStarts.of_not_mem (by simp [newLine])
    rw [writeItems]
    exact (hcomma.append (plainStarts_writeChars v level true)).append (plainStarts_writeItems vs level true)

theorem plainStarts_writeMembers : ∀ (ms : List (String × Json)) (level : Nat) (start : Bool),
    PlainStarts start (writeMembers level ms)
  | [], _, _ => trivial
  | (key, v) :: ms, level, start => by
    have hcomma : PlainStarts start (',' :: newLine level) := PlainStarts.of_not_mem (by simp [newLine])
    have hvalue : PlainStarts true ([':', ' '] ++ writeChars level v) :=
      (PlainStarts.of_not_mem (by decide)).append (plainStarts_writeChars v level true)
    rw [writeMembers]
    exact ((hcomma.append (plainStarts_quoteChars _ true)).append hvalue).append
      (plainStarts_writeMembers ms level true)

end

end Json
end TypedVocabulary
