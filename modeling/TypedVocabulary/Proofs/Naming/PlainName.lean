import Mathlib
import TypedVocabulary.Proofs.Naming.Sanitizer
import TypedVocabulary.Proofs.Text.Slice

/-! # Plain names

Whatever characters a vocabulary name is made of, the name of its class is made of ASCII letters, digits
and low lines, has at least one of them and begins with none of the digits. It begins with a capital or
a low line, so it is no keyword and needs no escape.
-/
namespace TypedVocabulary

/-- ASCII letters, digits and low lines, or nothing. -/
def IsPlain (s : String) : Prop := ∀ c ∈ s.toList, c.isAlphanum = true ∨ c = '_'

instance (s : String) : Decidable (IsPlain s) :=
  List.decidableBAll (fun c : Char => c.isAlphanum = true ∨ c = '_') s.toList

structure PlainName (s : String) : Prop where
  chars : ∀ c ∈ s.toList, c.isAlphanum = true ∨ c = '_'
  first : ∃ c, s.toList.head? = some c ∧ c.isDigit = false

namespace PlainName
variable {s : String}

theorem not_mem (h : PlainName s) {c : Char} (hc : c.isAlphanum = false) (hlow : c ≠ '_') :
    c ∉ s.toList := by
  intro hmem
  rcases h.chars c hmem with halnum | rfl
  · rw [hc] at halnum
    cases halnum
  · exact hlow rfl

theorem append (h : PlainName s) {more : String} (hmore : IsPlain more) : PlainName (s ++ more) := by
  obtain ⟨c, hc, hdigit⟩ := h.first
  refine ⟨fun d hd => ?_, c, ?_, hdigit⟩
  · rw [String.toList_append] at hd
    exact (List.mem_append.mp hd).elim (h.chars d) (hmore d)
  · rw [String.toList_append, List.head?_append, hc]
    rfl

end PlainName

namespace Identifier

/-! ## Letters and digits -/

section
variable {c : Char}

theorem isLower_iff : c.isLower = true ↔ 97 ≤ c.toNat ∧ c.toNat ≤ 122 := by
  rw [Char.isLower, Bool.and_eq_true, decide_eq_true_iff, decide_eq_true_iff]
  exact Iff.rfl

theorem isUpper_iff : c.isUpper = true ↔ 65 ≤ c.toNat ∧ c.toNat ≤ 90 := decide_eq_true_iff

theorem not_isLower_of_isDigit (h : c.isDigit = true) : ¬c.isLower = true := by
  have hcode : c.toNat ≤ 57 := (Char.isDigit_iff_toNat.mp h).2
  rw [isLower_iff]
  omega

theorem not_isUpper_of_isDigit (h : c.isDigit = true) : ¬c.isUpper = true := by
  have hcode : c.toNat ≤ 57 := (Char.isDigit_iff_toNat.mp h).2
  rw [isUpper_iff]
  omega

theorem isAlphanum_iff : c.isAlphanum = true ↔
    c.isUpper = true ∨ c.isLower = true ∨ c.isDigit = true := by
  rw [Char.isAlphanum, Char.isAlpha, Bool.or_eq_true, Bool.or_eq_true, or_assoc]

theorem isAlphanum_toUpper (h : c.isAlphanum = true) : c.toUpper.isAlphanum = true := by
  rw [Char.isAlphanum, Bool.or_eq_true] at h ⊢
  rcases h with halpha | hdigit
  · rw [Char.isAlpha_toUpper_eq_isAlpha]
    exact .inl halpha
  · rw [Char.toUpper_eq_of_not_isLower (not_isLower_of_isDigit hdigit)]
    exact .inr hdigit

end

/-! ## Upper camel case -/

theorem keep_spec (c : Char) : (keep c).isAlphanum = true ∨ isSeparator (keep c) = true := by
  unfold keep
  by_cases h : (c.isAlphanum || isSeparator c) = true
  · rw [if_pos h]
    exact Bool.or_eq_true_iff.mp h
  · rw [if_neg h]
    exact .inr rfl

theorem mem_clean {cs : List Char} {c : Char} (h : c ∈ clean cs) :
    c.isAlphanum = true ∨ isSeparator c = true := by
  unfold clean at h
  split at h
  · simp only [List.mem_cons, List.not_mem_nil, or_false] at h
    rcases h with rfl | rfl | rfl | rfl | rfl <;> exact .inl rfl
  · obtain ⟨b, -, rfl⟩ := List.mem_map.mp (Text.mem_trim h)
    exact keep_spec b

theorem isAlphanum_of_mem_joinWords {cs : List Char}
    (hcs : ∀ c ∈ cs, c.isAlphanum = true ∨ isSeparator c = true) {atStart : Bool} {c : Char}
    (h : c ∈ joinWords atStart cs) : c.isAlphanum = true := by
  induction cs generalizing atStart with
  | nil => cases h
  | cons b cs ih =>
    obtain ⟨hb, hcs⟩ := List.forall_mem_cons.mp hcs
    rw [joinWords] at h
    split at h
    · exact ih hcs h
    · rename_i hsep
      have halnum : b.isAlphanum = true := hb.resolve_right hsep
      rcases List.mem_cons.mp h with rfl | h
      · split
        · exact isAlphanum_toUpper halnum
        · exact halnum
      · exact ih hcs h

theorem mem_guardDigit {cs : List Char} {c : Char} (h : c ∈ guardDigit cs) : c = '_' ∨ c ∈ cs := by
  cases cs with
  | nil => cases h
  | cons b cs =>
    rw [guardDigit] at h
    split at h
    · exact List.mem_cons.mp h
    · exact .inr h

/-- A capital, or the low line in front of a digit. -/
theorem exists_head_upperCamel (cs : List Char) : ∃ c, (upperCamel cs).head? = some c ∧
    c.isDigit = false ∧ c.isLower = false := by
  obtain ⟨c, rest, hclean, hc⟩ := clean_cons cs
  unfold upperCamel
  rw [hclean, joinWords, if_neg (by simp [hc]), if_pos rfl, guardDigit]
  by_cases hdigit : c.toUpper.isDigit = true
  · rw [if_pos hdigit]
    exact ⟨'_', rfl, rfl, rfl⟩
  · rw [if_neg hdigit]
    exact ⟨c.toUpper, rfl, by simpa using hdigit, Char.isLower_toUpper_eq_false c⟩

theorem plainName_upperCamel (name : String) : PlainName (convert .upperCamel name) := by
  have hchars : (convert .upperCamel name).toList = upperCamel name.toList := String.toList_ofList
  refine ⟨fun c hc => ?_, ?_⟩
  · rw [hchars] at hc
    rcases mem_guardDigit hc with rfl | hc
    · exact .inr rfl
    · exact .inl (isAlphanum_of_mem_joinWords (fun b hb => mem_clean hb) hc)
  · obtain ⟨c, hc, hdigit, -⟩ := exists_head_upperCamel name.toList
    exact ⟨c, hchars ▸ hc, hdigit⟩

end Identifier

/-- No class name is a keyword, since keywords begin with a small letter. -/
theorem isReserved_upperCamel (name : String) :
    Keyword.rules.isReserved (Identifier.convert .upperCamel name) = false := by
  have hkeywords : ∀ word ∈ Keyword.all, word.toList.head?.any Char.isLower = true := by decide
  refine Bool.eq_false_iff.mpr fun hreserved => ?_
  obtain ⟨c, hc, -, hlower⟩ := Identifier.exists_head_upperCamel name.toList
  have hword := hkeywords _ (List.contains_iff_mem.mp hreserved)
  have hchars : (Identifier.convert .upperCamel name).toList.head? = some c := by
    rw [← hc]
    exact congrArg List.head? String.toList_ofList
  have hsensitive : Keyword.rules.caseSensitive = true := rfl
  rw [if_pos hsensitive, hchars, Option.any_some, hlower] at hword
  cases hword

theorem typeName_eq (name : String) : typeName name = Identifier.convert .upperCamel name := by
  unfold typeName
  exact if_neg (Bool.eq_false_iff.mp (isReserved_upperCamel name))

theorem plainName_typeName (name : String) : PlainName (typeName name) :=
  typeName_eq name ▸ Identifier.plainName_upperCamel name

end TypedVocabulary
