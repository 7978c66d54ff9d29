import TypedVocabulary.Proofs.Json.Equality
import TypedVocabulary.Proofs.Json.WrittenNumber

/-! # Limits of the reader

The reader refuses whole numbers of very many digits and lists and objects that lie too deep in each other.
Values that are within its limits are all that it ever gives.
-/
namespace TypedVocabulary.Json
open Reader (maxDigits)

mutual

/-- Lists and objects lie at most `depth` deep in each other, and no whole number is too long. -/
def Fits : Nat → Json → Prop
  | _, int n => (Nat.toDigits 10 n.natAbs).length ≤ maxDigits
  | 0, arr _ => False
  | depth + 1, arr items => FitsItems depth items
  | 0, obj _ => False
  | depth + 1, obj members => FitsMembers depth members
  | _, _ => True

def FitsItems : Nat → List Json → Prop
  | _, [] => True
  | depth, v :: vs => Fits depth v ∧ FitsItems depth vs

def FitsMembers : Nat → List (String × Json) → Prop
  | _, [] => True
  | depth, (_, v) :: ms => Fits depth v ∧ FitsMembers depth ms

end

theorem fitsMembers_iff {depth : Nat} {members : List (String × Json)} :
    FitsMembers depth members ↔ ∀ m ∈ members, Fits depth m.2 := by
  induction members with
  | nil => simp [FitsMembers]
  | cons m ms ih => rw [FitsMembers, ih, List.forall_mem_cons]

end TypedVocabulary.Json

namespace TypedVocabulary.Json.Reader

theorem bind_ok_iff {α β : Type} {x : Except Fault α} {f : α → Except Fault β} {b : β} :
    (x >>= f) = .ok b ↔ ∃ a, x = .ok a ∧ f a = .ok b := by
  cases x <;> simp [bind, Except.bind]

theorem map_ok_iff {α β : Type} {x : Except Fault α} {f : α → β} {b : β} :
    x.map f = .ok b ↔ ∃ a, x = .ok a ∧ f a = b := by
  cases x <;> simp [Except.map]

section
variable {ds : List Char} {depth : Nat}

theorem digitsValue_lt (h : AllDigits ds) : digitsValue ds < 10 ^ ds.length := by
  induction ds with
  | nil => decide
  | cons c ds ih =>
    obtain ⟨hc, hds⟩ := List.forall_mem_cons.mp h
    have hrest := ih hds
    have hdigit : c.toNat - '0'.toNat ≤ 9 := by
      have hmost : c.toNat ≤ 57 := (Char.isDigit_iff_toNat.mp hc).2
      exact Nat.sub_le_sub_right hmost 48
    rw [digitsValue_eq] at hrest ⊢
    rw [Nat.ofDigitChars_cons, Nat.ofDigitChars_eq_ofDigitChars_zero, List.length_cons, Nat.pow_succ]
    nlinarith

theorem length_toDigits_digitsValue_le (h : AllDigits ds) (hlength : ds.length ≤ maxDigits) :
    (Nat.toDigits 10 (digitsValue ds)).length ≤ maxDigits := by
  rw [Nat.length_toDigits_le_iff (by decide) (by decide)]
  exact (digitsValue_lt h).trans_le (Nat.pow_le_pow_right (by decide) hlength)

theorem allDigits_takeWhile (cs : List Char) : AllDigits (cs.takeWhile Char.isDigit) :=
  fun _ hc => List.mem_takeWhile_imp hc

theorem allDigits_wholePart {cs rest : List Char} (h : wholePart cs = some (ds, rest)) : AllDigits ds := by
  unfold wholePart at h
  split at h
  · cases h
    exact allDigits_zeros 1
  · rename_i c cs _
    split at h
    · rename_i hc
      cases h
      exact List.forall_mem_cons.mpr ⟨hc, allDigits_takeWhile cs⟩
    · cases h
  · cases h

theorem fits_of_unsigned {negative : Bool} {cs rest : List Char} {v : Json}
    (h : unsigned negative cs = some (.ok v, rest)) : v.Fits depth := by
  unfold unsigned at h
  obtain ⟨⟨whole, behind⟩, hwhole, h⟩ := Option.bind_eq_some_iff.mp h
  have hdigits := allDigits_wholePart hwhole
  dsimp only at h
  split at h
  · split at h
    · cases h
    · rename_i hlong
      cases h
      have hlength := length_toDigits_digitsValue_le hdigits (not_lt.mp hlong)
      rw [Fits]
      split <;> simpa using hlength
  · cases h
    simp [Fits]

theorem fits_of_number {pos : Nat} {cs : List Char} {v : Json} {r : Nat × List Char}
    (h : number pos cs = .ok (v, r)) : v.Fits depth := by
  unfold number at h
  dsimp only at h
  split at h
  · rename_i hread
    obtain ⟨w, rfl, hw⟩ := map_ok_iff.mp h
    cases hw
    split at hread
    · exact fits_of_unsigned hread
    · exact fits_of_unsigned hread
  · cases h

end

/-- With that much fuel, nothing is read that goes beyond the limits. -/
structure FitsWithin (fuel : Nat) : Prop where
  ofValue : ∀ {depth pos : Nat} {cs : List Char} {v : Json} {r : Nat × List Char},
    value fuel depth pos cs = .ok (v, r) → v.Fits depth
  ofItems : ∀ {depth pos : Nat} {cs : List Char} {vs : List Json} {r : Nat × List Char},
    items fuel depth pos cs = .ok (vs, r) → FitsItems depth vs
  ofMembers : ∀ {depth pos : Nat} {cs : List Char} {ms : List (String × Json)} {r : Nat × List Char},
    members fuel depth pos cs = .ok (ms, r) → FitsMembers depth ms

section
variable {fuel depth pos : Nat} {cs : List Char} {r : Nat × List Char}

theorem fitsMembers_putAll {ms : List (String × Json)} (h : FitsMembers depth ms) :
    FitsMembers depth (KeyedList.putAll [] ms) := by
  rw [fitsMembers_iff] at h ⊢
  intro m hm
  rcases KeyedList.mem_putAll hm with hm | hm
  · cases hm
  · exact h m hm

theorem FitsWithin.value_succ (h : FitsWithin fuel) {v : Json}
    (hread : value (fuel + 1) depth pos cs = .ok (v, r)) :
    v.Fits depth := by
  unfold value at hread
  -- a case for each way to begin: the end of the text, a text, a list, an object, the words, a number
  split at hread
  · cases hread
  · obtain ⟨_, -, hv⟩ := map_ok_iff.mp hread
    cases hv
    simp [Fits]
  · split at hread
    · cases hread
    · rename_i hdepth _
      obtain ⟨depth, rfl⟩ := Nat.exists_eq_succ_of_ne_zero hdepth
      cases hread
      simp [Fits, FitsItems]
    · obtain ⟨_, hitems, hv⟩ := map_ok_iff.mp hread
      cases hv
      exact h.ofItems hitems
  · split at hread
    · cases hread
    · rename_i hdepth _
      obtain ⟨depth, rfl⟩ := Nat.exists_eq_succ_of_ne_zero hdepth
      cases hread
      simp [Fits, FitsMembers]
    · obtain ⟨_, hmembers, hv⟩ := map_ok_iff.mp hread
      cases hv
      exact fitsMembers_putAll (h.ofMembers hmembers)
  · cases hread
    simp [Fits]
  · cases hread
    simp [Fits]
  · cases hread
    simp [Fits]
  · cases hread
    simp [Fits]
  · cases hread
    simp [Fits]
  · cases hread
    simp [Fits]
  · exact fits_of_number hread

theorem FitsWithin.items_succ (h : FitsWithin fuel) {vs : List Json}
    (hread : items (fuel + 1) depth pos cs = .ok (vs, r)) : FitsItems depth vs := by
  unfold items at hread
  obtain ⟨⟨v, _⟩, hv, hread⟩ := bind_ok_iff.mp hread
  dsimp only at hread
  split at hread
  · cases hread
    exact ⟨h.ofValue hv, trivial⟩
  · obtain ⟨⟨ws, _⟩, hws, hread⟩ := bind_ok_iff.mp hread
    cases hread
    exact ⟨h.ofValue hv, h.ofItems hws⟩
  · cases hread

theorem FitsWithin.members_succ (h : FitsWithin fuel) {ms : List (String × Json)}
    (hread : members (fuel + 1) depth pos cs = .ok (ms, r)) : FitsMembers depth ms := by
  unfold members at hread
  split at hread
  · obtain ⟨⟨key, _⟩, -, hread⟩ := bind_ok_iff.mp hread
    dsimp only at hread
    split at hread
    · obtain ⟨⟨v, _⟩, hv, hread⟩ := bind_ok_iff.mp hread
      dsimp only at hread
      split at hread
      · cases hread
        exact ⟨h.ofValue hv, trivial⟩
      · obtain ⟨⟨rest, _⟩, hrest, hread⟩ := bind_ok_iff.mp hread
        cases hread
        exact ⟨h.ofValue hv, h.ofMembers hrest⟩
      · cases hread
    · cases hread
  · cases hread

end

theorem fitsWithin (fuel : Nat) : FitsWithin fuel := by
  induction fuel with
  | zero =>
    refine ⟨fun h => ?_, fun h => ?_, fun h => ?_⟩
    · unfold value at h
      cases h
    · unfold items at h
      cases h
    · unfold members at h
      cases h
  | succ fuel ih => exact ⟨ih.value_succ, ih.items_succ, ih.members_succ⟩

theorem fits_of_document {cs : List Char} {v : Json} (h : document cs = .ok v) : v.Fits maxDepth := by
  unfold document at h
  -- the blanks in front, then the mark of byte order
  split at h
  split at h
  · cases h
  · obtain ⟨⟨w, _⟩, hw, h⟩ := bind_ok_iff.mp h
    dsimp only at h
    split at h
    · cases h
      exact (fitsWithin _).ofValue hw
    · cases h

end TypedVocabulary.Json.Reader

/-- Whatever text it is read from, a value is within the limits of the reader. -/
theorem TypedVocabulary.Json.fits_of_parse {s : String} {v : Json} (h : parse s = .ok v) :
    v.Fits Reader.maxDepth := by
  unfold parse at h
  cases hread : Reader.document s.toList with
  | error fault =>
    rw [hread] at h
    cases h
  | ok w =>
    rw [hread] at h
    cases h
    exact Reader.fits_of_document hread
