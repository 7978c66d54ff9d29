import Mathlib.Data.List.TakeWhile
import TypedVocabulary.Json.Reader
import TypedVocabulary.Json.Writer
import TypedVocabulary.Proofs.Number.ShortestDigits

/-! # Reading written numbers

A number is written with digits, a point and an exponent in one of four layouts, and all of them are read
as the digits and the power of ten that were laid out. Thus a whole number is read as itself if it is not
too long, and a finite double in any case. The reader stops where the text of the number ends if what
follows cannot go on with it.
-/
namespace TypedVocabulary.Json.Reader

/-! ## Digits -/

def AllDigits (ds : List Char) : Prop := ∀ c ∈ ds, c.isDigit = true

/-- Digits that stand in front of a point: no zero comes first, unless it is alone. -/
def WholeDigits (ds : List Char) : Prop :=
  AllDigits ds ∧ ∃ c cs, ds = c :: cs ∧ (c = '0' → cs = [])

/-- Text that does not go on with a number. -/
def NumberEnds (rest : List Char) : Prop :=
  ∀ c ∈ rest.head?, c.isDigit = false ∧ c ≠ '.' ∧ c ≠ 'e' ∧ c ≠ 'E'

section
variable {ds rest : List Char}

theorem allDigits_toDigits (n : Nat) : AllDigits (Nat.toDigits 10 n) :=
  fun _ hc => Nat.isDigit_of_mem_toDigits (by decide) (by decide) hc

theorem AllDigits.append {xs ys : List Char} (hxs : AllDigits xs) (hys : AllDigits ys) :
    AllDigits (xs ++ ys) := by
  intro c hc
  rcases List.mem_append.mp hc with hc | hc
  · exact hxs c hc
  · exact hys c hc

theorem allDigits_zeros (n : Nat) : AllDigits (List.replicate n '0') := by
  intro c hc
  rw [List.eq_of_mem_replicate hc]
  rfl

theorem digitsValue_eq (cs : List Char) : digitsValue cs = Nat.ofDigitChars 10 cs 0 := by
  simp only [digitsValue, Nat.ofDigitChars_eq_foldl, Nat.mul_comm]
  rfl

theorem digitsValue_toDigits (n : Nat) : digitsValue (Nat.toDigits 10 n) = n := by
  rw [digitsValue_eq, Nat.ofDigitChars_ten_toDigits]

theorem digitsValue_append_zeros (ds : List Char) (n : Nat) :
    digitsValue (ds ++ List.replicate n '0') = digitsValue ds * 10 ^ n := by
  rw [digitsValue_eq, Nat.ofDigitChars_append, Nat.ofDigitChars_replicate_zero, digitsValue_eq, Nat.mul_comm]

theorem digitsValue_zeros_append (n : Nat) (ds : List Char) :
    digitsValue (List.replicate n '0' ++ ds) = digitsValue ds := by
  rw [digitsValue_eq, Nat.ofDigitChars_append, Nat.ofDigitChars_replicate_zero, Nat.mul_zero, digitsValue_eq]

theorem takeWhile_digits (hds : AllDigits ds) (hrest : ∀ c ∈ rest.head?, c.isDigit = false) :
    (ds ++ rest).takeWhile Char.isDigit = ds := by
  rw [List.takeWhile_append_of_pos hds]
  cases rest with
  | nil => simp
  | cons c cs => simp [hrest c (by simp)]

theorem dropWhile_digits (hds : AllDigits ds) (hrest : ∀ c ∈ rest.head?, c.isDigit = false) :
    (ds ++ rest).dropWhile Char.isDigit = rest := by
  have hsplit := List.takeWhile_append_dropWhile (p := Char.isDigit) (l := ds ++ rest)
  rw [takeWhile_digits hds hrest] at hsplit
  exact List.append_cancel_left hsplit

theorem head_toDigits {n : Nat} (hn : 0 < n) : ∃ c cs, Nat.toDigits 10 n = c :: cs ∧ c ≠ '0' := by
  induction n using Nat.strong_induction_on with
  | h n ih =>
    by_cases hlt : n < 10
    · have hne : ∀ d < 10, 0 < d → Nat.digitChar d ≠ '0' := by decide
      exact ⟨n.digitChar, [], Nat.toDigits_of_lt_base hlt, hne n hlt hn⟩
    · obtain ⟨c, cs, hcs, hc⟩ := ih (n / 10) (by omega) (by omega)
      refine ⟨c, cs ++ [(n % 10).digitChar], ?_, hc⟩
      rw [Nat.toDigits_of_base_le (by decide) (by omega), hcs, List.cons_append]

theorem wholeDigits_toDigits (n : Nat) : WholeDigits (Nat.toDigits 10 n) := by
  refine ⟨allDigits_toDigits n, ?_⟩
  rcases Nat.eq_zero_or_pos n with rfl | hn
  · exact ⟨'0', [], rfl, fun _ => rfl⟩
  · obtain ⟨c, cs, hcs, hc⟩ := head_toDigits hn
    exact ⟨c, cs, hcs, fun h => (hc h).elim⟩

theorem wholePart_append (hds : WholeDigits ds) (hrest : ∀ c ∈ rest.head?, c.isDigit = false) :
    wholePart (ds ++ rest) = some (ds, rest) := by
  obtain ⟨hdigits, c, cs, rfl, hzero⟩ := hds
  obtain ⟨hc, hcs⟩ := List.forall_mem_cons.mp hdigits
  rw [List.cons_append]
  by_cases h0 : c = '0'
  · obtain rfl := hzero h0
    rw [h0]
    rfl
  · rw [wholePart]
    · rw [if_pos hc, takeWhile_digits hcs hrest, dropWhile_digits hcs hrest]
    · exact h0

end

/-! ## Points and exponents -/

def pointText (decimals : List Char) : List Char := if decimals = [] then [] else '.' :: decimals

def scaleText (power : Int) : List Char :=
  let scale := Nat.toDigits 10 power.natAbs
  'e' :: (if power < 0 then '-' else '+') :: (if scale.length < 2 then '0' :: scale else scale)

section
variable {rest : List Char}

theorem fraction_append {decimals : List Char} (hdecimals : AllDigits decimals)
    (hrest : ∀ c ∈ rest.head?, c.isDigit = false ∧ c ≠ '.') :
    fraction (pointText decimals ++ rest) = (decimals, rest) := by
  have hends : ∀ c ∈ rest.head?, c.isDigit = false := fun c hc => (hrest c hc).1
  unfold pointText
  split
  · rename_i hnone
    rw [hnone, List.nil_append]
    cases rest with
    | nil => rfl
    | cons c cs =>
      have hpoint : c ≠ '.' := (hrest c (by simp)).2
      simp [fraction, hpoint]
  · rename_i hsome
    rw [List.cons_append, fraction, takeWhile_digits hdecimals hends, dropWhile_digits hdecimals hends]
    split
    · exact (hsome rfl).elim
    · rfl

theorem exponent_of_ends (hrest : NumberEnds rest) : exponent rest = (none, rest) := by
  cases rest with
  | nil => rfl
  | cons c cs =>
    obtain ⟨-, -, hlower, hupper⟩ := hrest c (by simp)
    simp [exponent, hlower, hupper]

theorem exponent_scaleText (power : Int) (hrest : ∀ c ∈ rest.head?, c.isDigit = false) :
    exponent (scaleText power ++ rest) = (some power, rest) := by
  have hpad : ∃ n, (if (Nat.toDigits 10 power.natAbs).length < 2 then '0' :: Nat.toDigits 10 power.natAbs
      else Nat.toDigits 10 power.natAbs) = List.replicate n '0' ++ Nat.toDigits 10 power.natAbs := by
    split
    · exact ⟨1, rfl⟩
    · exact ⟨0, rfl⟩
  obtain ⟨n, hscale⟩ := hpad
  have hdigits : AllDigits (List.replicate n '0' ++ Nat.toDigits 10 power.natAbs) :=
    (allDigits_zeros n).append (allDigits_toDigits _)
  have hvalue : digitsValue (List.replicate n '0' ++ Nat.toDigits 10 power.natAbs) = power.natAbs := by
    rw [digitsValue_zeros_append, digitsValue_toDigits]
  have hsome : List.replicate n '0' ++ Nat.toDigits 10 power.natAbs ≠ [] := by
    simp [Nat.toDigits_ne_nil]
  have hsign : exponentSign ((if power < 0 then '-' else '+') ::
      (List.replicate n '0' ++ Nat.toDigits 10 power.natAbs ++ rest)) =
        (decide (power < 0), List.replicate n '0' ++ Nat.toDigits 10 power.natAbs ++ rest) := by
    by_cases hneg : power < 0 <;> simp [hneg, exponentSign]
  unfold scaleText
  dsimp only
  rw [hscale, List.cons_append, List.cons_append, exponent, if_pos (.inl rfl), hsign]
  dsimp only
  rw [takeWhile_digits hdigits hrest, dropWhile_digits hdigits hrest]
  split
  · rename_i hnone
    exact (hsome hnone).elim
  · rw [hvalue]
    by_cases hneg : power < 0
    · simp [hneg, abs_of_neg hneg]
    · simp [hneg, abs_of_nonneg (not_lt.mp hneg)]

end

/-! ## Layouts -/

section
variable {ds decimals tail rest : List Char} {power : Option Int} (negative : Bool)

/-- A number is read from its digits, those after the point, and the exponent. -/
theorem unsigned_append (hds : WholeDigits ds) (hdecimals : AllDigits decimals)
    (htail : ∀ c ∈ tail.head?, c.isDigit = false ∧ c ≠ '.') (hpower : exponent tail = (power, rest)) :
    unsigned negative (ds ++ (pointText decimals ++ tail)) =
      some (if decimals = [] ∧ power = none then
          if maxDigits < ds.length then .error (.longInteger ds.length)
          else .ok (.int (if negative then -digitsValue ds else digitsValue ds))
        else .ok (.float (.ofDecimal negative (digitsValue (ds ++ decimals))
          (power.getD 0 - decimals.length))), rest) := by
  have hpoint : ∀ c ∈ (pointText decimals ++ tail).head?, c.isDigit = false := by
    intro c hc
    unfold pointText at hc
    split at hc
    · exact (htail c hc).1
    · obtain rfl : '.' = c := by simpa using hc
      rfl
  simp only [unsigned, wholePart_append hds hpoint, fraction_append hdecimals htail, hpower,
    Option.bind_eq_bind, Option.bind_some, List.isEmpty_iff, Option.isNone_iff_eq_none, Bool.and_eq_true]
  split
  · split <;> rfl
  · rfl

theorem unsigned_whole (hds : WholeDigits ds) (hrest : NumberEnds rest) :
    unsigned negative (ds ++ rest) =
      some (if maxDigits < ds.length then .error (.longInteger ds.length)
        else .ok (.int (if negative then -digitsValue ds else digitsValue ds)), rest) := by
  have hnone : AllDigits [] := fun _ h => (List.not_mem_nil h).elim
  have hread := unsigned_append negative hds hnone
    (fun c hc => ⟨(hrest c hc).1, (hrest c hc).2.1⟩) (exponent_of_ends hrest)
  simpa [pointText] using hread

theorem unsigned_decimals (hds : WholeDigits ds) (hdecimals : AllDigits decimals) (hsome : decimals ≠ [])
    (hrest : NumberEnds rest) :
    unsigned negative (ds ++ '.' :: decimals ++ rest) =
      some (.ok (.float (.ofDecimal negative (digitsValue (ds ++ decimals)) (-decimals.length))), rest) := by
  have hread := unsigned_append negative hds hdecimals
    (fun c hc => ⟨(hrest c hc).1, (hrest c hc).2.1⟩) (exponent_of_ends hrest)
  simpa [pointText, hsome] using hread

theorem unsigned_scale (hds : WholeDigits ds) (hdecimals : AllDigits decimals) (hrest : NumberEnds rest)
    (scale : Int) :
    unsigned negative (ds ++ pointText decimals ++ scaleText scale ++ rest) =
      some (.ok (.float (.ofDecimal negative (digitsValue (ds ++ decimals)) (scale - decimals.length))),
        rest) := by
  have htail : ∀ c ∈ (scaleText scale ++ rest).head?, c.isDigit = false ∧ c ≠ '.' := by
    intro c hc
    obtain rfl : 'e' = c := by simpa [scaleText] using hc
    decide
  have hread := unsigned_append negative hds hdecimals htail
    (exponent_scaleText scale fun c hc => (hrest c hc).1)
  simpa using hread

/-- Digits of which the first is no zero. -/
def LeadingDigits (ds : List Char) : Prop := AllDigits ds ∧ ∃ c cs, ds = c :: cs ∧ c ≠ '0'

theorem leadingDigits_toDigits {n : Nat} (hn : 0 < n) : LeadingDigits (Nat.toDigits 10 n) :=
  ⟨allDigits_toDigits n, head_toDigits hn⟩

theorem LeadingDigits.whole (h : LeadingDigits ds) : WholeDigits ds := by
  obtain ⟨hdigits, c, cs, hcs, hc⟩ := h
  exact ⟨hdigits, c, cs, hcs, fun h0 => (hc h0).elim⟩

theorem LeadingDigits.append {ys : List Char} (h : LeadingDigits ds) (hys : AllDigits ys) :
    LeadingDigits (ds ++ ys) := by
  obtain ⟨hdigits, c, cs, rfl, hc⟩ := h
  exact ⟨hdigits.append hys, c, cs ++ ys, rfl, hc⟩

theorem LeadingDigits.take {n : Nat} (h : LeadingDigits ds) (hn : 0 < n) : LeadingDigits (ds.take n) := by
  obtain ⟨hdigits, c, cs, rfl, hc⟩ := h
  obtain ⟨k, rfl⟩ : ∃ k, n = k + 1 := ⟨n - 1, by omega⟩
  exact ⟨fun a ha => hdigits a (List.mem_of_mem_take ha), c, cs.take k, rfl, hc⟩

theorem AllDigits.drop (h : AllDigits ds) (n : Nat) : AllDigits (ds.drop n) :=
  fun c hc => h c (List.mem_of_mem_drop hc)

theorem unsigned_zeros {power : Int} (hds : LeadingDigits ds) (hleast : 0 ≤ power) (hmost : power ≤ 400)
    (hrest : NumberEnds rest) :
    unsigned negative (ds ++ List.replicate power.toNat '0' ++ ['.', '0'] ++ rest) =
      some (.ok (.float (.ofDecimal negative (digitsValue ds) power)), rest) := by
  have hzero : AllDigits ['0'] := allDigits_zeros 1
  have hread := unsigned_decimals negative (hds.append (allDigits_zeros power.toNat)).whole hzero
    (by decide) hrest
  have hzeros : ds ++ List.replicate power.toNat '0' ++ ['0'] =
      ds ++ List.replicate (power.toNat + 1) '0' := by
    rw [List.replicate_succ', List.append_assoc]
  have hone : -((['0'].length : Nat) : Int) = power - ((power.toNat + 1 : Nat) : Int) := by
    rw [List.length_singleton]
    omega
  rw [hzeros, digitsValue_append_zeros, hone, Binary64.ofDecimal_mul_ten_pow hleast hmost] at hread
  exact hread

theorem unsigned_point {n : Nat} (hds : LeadingDigits ds) (hn : 0 < n) (hlt : n < ds.length)
    (hrest : NumberEnds rest) :
    unsigned negative (ds.take n ++ '.' :: ds.drop n ++ rest) =
      some (.ok (.float (.ofDecimal negative (digitsValue ds) (n - ds.length))), rest) := by
  have hsome : ds.drop n ≠ [] := by
    rw [Ne, List.drop_eq_nil_iff]
    omega
  have hread := unsigned_decimals negative (hds.take hn).whole (hds.1.drop n) hsome hrest
  have hscale : -((ds.drop n).length : Int) = n - ds.length := by
    rw [List.length_drop]
    omega
  rw [List.take_append_drop, hscale] at hread
  exact hread

theorem unsigned_small (n : Nat) (hds : LeadingDigits ds) (hrest : NumberEnds rest) :
    unsigned negative ('0' :: '.' :: List.replicate n '0' ++ ds ++ rest) =
      some (.ok (.float (.ofDecimal negative (digitsValue ds) (-(n + ds.length : Nat)))), rest) := by
  have hsome : List.replicate n '0' ++ ds ≠ [] := by
    obtain ⟨-, c, cs, rfl, -⟩ := hds
    simp
  have hread := unsigned_decimals negative (wholeDigits_toDigits 0) ((allDigits_zeros n).append hds.1)
    hsome hrest
  have hzeros : Nat.toDigits 10 0 ++ (List.replicate n '0' ++ ds) = List.replicate (n + 1) '0' ++ ds := rfl
  rw [hzeros, digitsValue_zeros_append, List.length_append, List.length_replicate] at hread
  exact hread

theorem unsigned_scaled (x : Int) (hds : LeadingDigits ds) (hrest : NumberEnds rest) :
    unsigned negative (ds.take 1 ++ pointText (ds.drop 1) ++ scaleText x ++ rest) =
      some (.ok (.float (.ofDecimal negative (digitsValue ds) (x - (ds.length - 1)))), rest) := by
  have hread := unsigned_scale negative (hds.take (n := 1) (by decide)).whole (hds.1.drop 1) hrest x
  have hscale : x - ((ds.drop 1).length : Int) = x - (ds.length - 1) := by
    obtain ⟨-, c, cs, rfl, -⟩ := hds
    simp
  rw [List.take_append_drop, hscale] at hread
  exact hread

/-- All layouts are read as the number that was laid out. -/
theorem unsigned_layout {d : Binary64.Decimal} (hd : 0 < d.digits) (hrest : NumberEnds rest) :
    unsigned negative (d.layout ++ rest) =
      some (.ok (.float (.ofDecimal negative d.digits d.power)), rest) := by
  have hds := leadingDigits_toDigits hd
  have hvalue := digitsValue_toDigits d.digits
  have hx : d.exponent = (Nat.toDigits 10 d.digits).length - 1 + d.power := rfl
  have hlength : 0 < (Nat.toDigits 10 d.digits).length := Nat.length_toDigits_pos
  unfold Binary64.Decimal.layout
  dsimp only
  split
  · rename_i hrange
    split
    · rename_i hwhole
      rw [unsigned_zeros negative hds hwhole (by omega) hrest, hvalue]
    · rename_i hfraction
      split
      · rename_i hpoint
        have hscale : ((d.exponent + 1).toNat : Int) - (Nat.toDigits 10 d.digits).length = d.power := by omega
        rw [unsigned_point negative hds (by omega) (by omega) hrest, hvalue, hscale]
      · rename_i hsmall
        have hscale :
            -(((-d.exponent - 1).toNat + (Nat.toDigits 10 d.digits).length : Nat) : Int) = d.power := by
          omega
        rw [unsigned_small negative _ hds hrest, hvalue, hscale]
  · have hpoint : (if (Nat.toDigits 10 d.digits).length ≤ 1 then []
        else '.' :: (Nat.toDigits 10 d.digits).drop 1) = pointText ((Nat.toDigits 10 d.digits).drop 1) := by
      simp only [pointText, List.drop_eq_nil_iff]
    have hscale : d.exponent - ((Nat.toDigits 10 d.digits).length - 1) = d.power := by omega
    have hread := unsigned_scaled negative d.exponent hds hrest
    rw [hvalue, hscale, ← hpoint] at hread
    exact hread

end

/-! ## Numbers with a sign -/

def signText (negative : Bool) : List Char := if negative then ['-'] else []

def BeginsWithDigit (cs : List Char) : Prop := ∃ c rest, cs = c :: rest ∧ c.isDigit = true

theorem ne_of_isDigit {c d : Char} (hc : c.isDigit = true) (hd : d.isDigit = false) : c ≠ d := by
  rintro rfl
  rw [hc] at hd
  cases hd

theorem begins_toDigits (n : Nat) : BeginsWithDigit (Nat.toDigits 10 n) := by
  obtain ⟨hdigits, c, cs, hcs, -⟩ := wholeDigits_toDigits n
  exact ⟨c, cs, hcs, hdigits c (hcs ▸ List.mem_cons_self)⟩

theorem LeadingDigits.begins {ds : List Char} (h : LeadingDigits ds) : BeginsWithDigit ds := by
  obtain ⟨hdigits, c, cs, rfl, -⟩ := h
  exact ⟨c, cs, rfl, hdigits c List.mem_cons_self⟩

theorem BeginsWithDigit.append {cs : List Char} (h : BeginsWithDigit cs) (rest : List Char) :
    BeginsWithDigit (cs ++ rest) := by
  obtain ⟨c, cs, rfl, hc⟩ := h
  exact ⟨c, cs ++ rest, rfl, hc⟩

theorem begins_layout {d : Binary64.Decimal} (hd : 0 < d.digits) : BeginsWithDigit d.layout := by
  have hds := leadingDigits_toDigits hd
  unfold Binary64.Decimal.layout
  dsimp only
  split
  · split
    · exact (hds.begins.append _).append _
    · split
      · exact (hds.take (by omega)).begins.append _
      · exact ⟨'0', _, rfl, rfl⟩
  · exact ((hds.take (by decide)).begins.append _).append _

def sizeText (m : Nat) (e : Int) : List Char :=
  if m = 0 then ['0', '.', '0'] else (Binary64.shortest m e).layout

theorem finiteText_eq (negative : Bool) (m : Nat) (e : Int) :
    Binary64.finiteText negative m e = signText negative ++ sizeText m e := rfl

theorem toString_int_toList (n : Int) :
    (toString n).toList = signText (decide (n < 0)) ++ Nat.toDigits 10 n.natAbs := by
  have hrepr : toString n = n.repr := rfl
  rw [hrepr, Int.repr_eq_if]
  by_cases hn : n < 0
  · have habs : (-n).toNat = n.natAbs := by omega
    simp [hn, not_le.mpr hn, signText, habs]
  · have habs : n.toNat = n.natAbs := by omega
    simp [hn, not_lt.mp hn, signText, habs]

section
variable {m : Nat} {e : Int} {rest : List Char}

theorem unsigned_sizeText (negative : Bool) (h : Binary64.Canonical m e) (hrest : NumberEnds rest) :
    unsigned negative (sizeText m e ++ rest) =
      some (.ok (.float (.finite negative m e h)), rest) := by
  unfold sizeText
  split
  · rename_i hm
    subst hm
    obtain rfl : e = -1074 := h.2.2.2 (by decide)
    exact unsigned_decimals negative (wholeDigits_toDigits 0) (allDigits_zeros 1) (by decide) hrest
  · rename_i hm
    have hpos := Nat.pos_of_ne_zero hm
    have hback := Binary64.Decimal.ofDecimal_of_readsBack negative h (Binary64.readsBack_shortest hpos h)
    rw [unsigned_layout negative (Binary64.digits_shortest_pos hpos h) hrest, hback]

theorem begins_sizeText (h : Binary64.Canonical m e) : BeginsWithDigit (sizeText m e) := by
  unfold sizeText
  split
  · exact ⟨'0', _, rfl, rfl⟩
  · rename_i hm
    exact begins_layout (Binary64.digits_shortest_pos (Nat.pos_of_ne_zero hm) h)

theorem number_signText {cs : List Char} {negative : Bool} {r : Except Fault Json} (hcs : BeginsWithDigit cs)
    (hread : unsigned negative (cs ++ rest) = some (r, rest)) (pos : Nat) :
    number pos (signText negative ++ cs ++ rest) =
      r.map fun v => (v, pos + (signText negative ++ cs).length, rest) := by
  have hlength : (signText negative ++ cs ++ rest).length - rest.length = (signText negative ++ cs).length := by
    rw [List.length_append, Nat.add_sub_cancel]
  unfold number
  cases negative with
  | true =>
    simp only [signText, if_true, List.cons_append, List.nil_append] at hlength ⊢
    simp only [hread, hlength]
  | false =>
    obtain ⟨c, cs, rfl, hc⟩ := hcs
    have hminus : c ≠ '-' := ne_of_isDigit hc rfl
    simp only [signText, Bool.false_eq_true, if_false, List.cons_append, List.nil_append] at hread hlength ⊢
    rw [← hlength]
    simp [hminus, hread]

theorem number_finiteText (negative : Bool) (h : Binary64.Canonical m e) (hrest : NumberEnds rest) (pos : Nat) :
    number pos (Binary64.finiteText negative m e ++ rest) =
      .ok (.float (.finite negative m e h), pos + (Binary64.finiteText negative m e).length, rest) :=
  number_signText (begins_sizeText h) (unsigned_sizeText negative h hrest) pos

theorem number_int (n : Int) (hrest : NumberEnds rest) (pos : Nat) :
    number pos ((toString n).toList ++ rest) =
      if maxDigits < (Nat.toDigits 10 n.natAbs).length then
        .error (.longInteger (Nat.toDigits 10 n.natAbs).length)
      else .ok (.int n, pos + (toString n).toList.length, rest) := by
  have hwhole := wholeDigits_toDigits n.natAbs
  have hvalue : (if decide (n < 0) then -(n.natAbs : Int) else n.natAbs) = n := by
    simp only [decide_eq_true_eq]
    split <;> omega
  have hread := unsigned_whole (decide (n < 0)) hwhole hrest
  rw [digitsValue_toDigits, hvalue] at hread
  rw [toString_int_toList, number_signText (begins_toDigits _) hread]
  split <;> rfl

end
end TypedVocabulary.Json.Reader
