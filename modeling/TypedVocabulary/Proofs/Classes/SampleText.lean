import TypedVocabulary.Classes.Example
import TypedVocabulary.Proofs.Classes.ListReference
import TypedVocabulary.Proofs.Json.WrittenValue
import TypedVocabulary.Proofs.Text.Lines
import TypedVocabulary.Proofs.Vocabulary.LastSegment

/-! # Texts of samples

The lines of a sample are the label and the text of its value, cut at line feeds, so they can be joined
again. Lists and objects are shown as JSON that is read as the value with whole doubles as whole numbers.
Any other value is quoted or not by the type alone.
-/
namespace TypedVocabulary.Sample
open KeyedList (keys)

def IsScalar : Json → Prop
  | .arr _ | .obj _ => False
  | _ => True

/-! ## Whole doubles -/

/-- A double that stands for a whole number is shown as that number, and all else as it is. -/
inductive ShownAs : Json → Json → Prop
  | null : ShownAs .null .null
  | bool (b : Bool) : ShownAs (.bool b) (.bool b)
  | int (n : Int) : ShownAs (.int n) (.int n)
  | whole {x : Binary64} {n : Int} (h : x.toRat? = some (n : ℚ)) : ShownAs (.float x) (.int n)
  | fraction {x : Binary64} (h : ∀ n : Int, x.toRat? ≠ some (n : ℚ)) : ShownAs (.float x) (.float x)
  | str (s : String) : ShownAs (.str s) (.str s)
  | arr {vs ws : List Json} (h : List.Forall₂ ShownAs vs ws) : ShownAs (.arr vs) (.arr ws)
  | obj {ms ns : List (String × Json)} (hkeys : keys ms = keys ns)
      (h : List.Forall₂ ShownAs (ms.map Prod.snd) (ns.map Prod.snd)) : ShownAs (.obj ms) (.obj ns)

theorem plainNumbers_float (x : Binary64) :
    (∃ n, x.toInt? = some n ∧ plainNumbers (.float x) = .int n) ∨
      (x.toInt? = none ∧ plainNumbers (.float x) = .float x) := by
  cases hx : x.toInt? with
  | none => exact .inr ⟨rfl, by simp [plainNumbers, hx]⟩
  | some n => exact .inl ⟨n, rfl, by simp [plainNumbers, hx]⟩

theorem keys_plainMembers (ms : List (String × Json)) : keys (plainMembers ms) = keys ms := by
  induction ms with
  | nil => rfl
  | cons m ms ih => exact congrArg (m.1 :: ·) ih

mutual

theorem shownAs_plainNumbers : ∀ v : Json, ShownAs v (plainNumbers v)
  | .null => .null
  | .bool b => .bool b
  | .int n => .int n
  | .float x => by
    rcases plainNumbers_float x with ⟨n, hn, heq⟩ | ⟨hnone, heq⟩
    · rw [heq]
      exact .whole (Binary64.toInt?_eq_some_iff.mp hn)
    · rw [heq]
      refine .fraction fun n hn => ?_
      rw [Binary64.toInt?_eq_some_iff.mpr hn] at hnone
      cases hnone
  | .str s => .str s
  | .arr vs => .arr (shownAs_plainItems vs)
  | .obj ms => .obj (keys_plainMembers ms).symm (shownAs_plainMembers ms)

theorem shownAs_plainItems : ∀ vs : List Json, List.Forall₂ ShownAs vs (plainItems vs)
  | [] => .nil
  | v :: vs => .cons (shownAs_plainNumbers v) (shownAs_plainItems vs)

theorem shownAs_plainMembers : ∀ ms : List (String × Json),
    List.Forall₂ ShownAs (ms.map Prod.snd) ((plainMembers ms).map Prod.snd)
  | [] => .nil
  | (_, v) :: ms => .cons (shownAs_plainNumbers v) (shownAs_plainMembers ms)

end

mutual

theorem regular_plainNumbers : ∀ v : Json, v.Regular → (plainNumbers v).Regular
  | .null, _ | .bool _, _ | .int _, _ | .str _, _ => trivial
  | .float x, h => by
    rcases plainNumbers_float x with ⟨n, -, heq⟩ | ⟨-, heq⟩
    · rw [heq]
      trivial
    · rw [heq]
      exact h
  | .arr vs, h => regular_plainItems vs h
  | .obj ms, h => ⟨(keys_plainMembers ms).symm ▸ h.1, regular_plainMembers ms h.2⟩

theorem regular_plainItems : ∀ vs : List Json, Json.RegularItems vs → Json.RegularItems (plainItems vs)
  | [], _ => trivial
  | v :: vs, h => ⟨regular_plainNumbers v h.1, regular_plainItems vs h.2⟩

theorem regular_plainMembers : ∀ ms : List (String × Json),
    Json.RegularMembers ms → Json.RegularMembers (plainMembers ms)
  | [], _ => trivial
  | (_, v) :: ms, h => ⟨regular_plainNumbers v h.1, regular_plainMembers ms h.2⟩

end

theorem fits_of_toInt? {x : Binary64} {n : Int} (h : x.toInt? = some n) (depth : Nat) :
    (Json.int n).Fits depth := by
  have hlength : (Nat.toDigits 10 n.natAbs).length ≤ Binary64.wholeDigits := by
    rw [Nat.length_toDigits_le_iff (by decide) (by decide)]
    exact (Binary64.natAbs_lt_of_toInt? h).trans_le (Nat.pow_le_pow_left (by decide) _)
  rw [Json.Fits]
  exact hlength.trans (by decide)

mutual

theorem fits_plainNumbers : ∀ (v : Json) (depth : Nat), (plainNumbers v).Fits depth ↔ v.Fits depth
  | .null, _ | .bool _, _ | .int _, _ | .str _, _ => Iff.rfl
  | .float x, depth => by
    rcases plainNumbers_float x with ⟨n, hn, heq⟩ | ⟨-, heq⟩
    · have hfits := fits_of_toInt? hn depth
      rw [heq, iff_true_intro hfits, true_iff]
      exact trivial
    · rw [heq]
  | .arr vs, 0 => by simp [plainNumbers, Json.Fits]
  | .arr vs, depth + 1 => fits_plainItems vs depth
  | .obj ms, 0 => by simp [plainNumbers, Json.Fits]
  | .obj ms, depth + 1 => fits_plainMembers ms depth

theorem fits_plainItems : ∀ (vs : List Json) (depth : Nat),
    Json.FitsItems depth (plainItems vs) ↔ Json.FitsItems depth vs
  | [], _ => Iff.rfl
  | v :: vs, depth => and_congr (fits_plainNumbers v depth) (fits_plainItems vs depth)

theorem fits_plainMembers : ∀ (ms : List (String × Json)) (depth : Nat),
    Json.FitsMembers depth (plainMembers ms) ↔ Json.FitsMembers depth ms
  | [], _ => Iff.rfl
  | (_, v) :: ms, depth => and_congr (fits_plainNumbers v depth) (fits_plainMembers ms depth)

end

/-! ## Lists and objects -/

theorem intercalate_lines (s : String) : String.intercalate "\n" (Text.lines s) = s := by
  rw [← String.toList_inj, String.toList_intercalate, Text.lines, List.map_map]
  have hlines : (Text.splitOn '\n' s.toList).map (String.toList ∘ String.ofList) = s.toList.splitOn '\n' := by
    rw [Text.splitOn_eq]
    simp
  rw [hlines]
  exact List.intercalate_splitOn '\n'

/-- The lines between the tags of a list or an object are the label and a JSON text for its value. Only
what is too large for the reader is not read back, so all that the reader itself has read is. -/
theorem parse_shownText {v : Json} (hv : ¬IsScalar v) (hregular : v.Regular) (fieldName requiredType : Json) :
    ∃ inner text, linesOf v fieldName requiredType = .ok (openTag :: inner ++ [closeTag]) ∧
      String.intercalate "\n" inner = label fieldName ++ text ∧
      ShownAs v (plainNumbers v) ∧
      (v.Fits Json.Reader.maxDepth → Json.parse text = .ok (plainNumbers v)) ∧
      (¬v.Fits Json.Reader.maxDepth → Json.parse text = .error .tooDeep ∨
        ∃ digits, Json.parse text = .error (.longInteger Json.Reader.maxDigits digits)) ∧
      ∀ source, Json.parse source = .ok v → Json.parse text = .ok (plainNumbers v) := by
  have hbody : linesOf v fieldName requiredType =
      .ok (openTag :: Text.lines (label fieldName ++ (plainNumbers v).write) ++ [closeTag]) := by
    cases v with
    | arr vs => rfl
    | obj ms => rfl
    | null | bool | int | float | str => exact (hv trivial).elim
  have hread : v.Fits Json.Reader.maxDepth → Json.parse (plainNumbers v).write = .ok (plainNumbers v) := by
    intro hfits
    rcases Json.parse_write (regular_plainNumbers v hregular) with ⟨-, hread⟩ | ⟨hlarge, -⟩
    · exact hread
    · exact (hlarge ((fits_plainNumbers v _).mpr hfits)).elim
  refine ⟨_, _, hbody, intercalate_lines _, shownAs_plainNumbers v, hread, fun hlarge => ?_,
    fun source hsource => hread (Json.fits_of_parse hsource)⟩
  rcases Json.parse_write (regular_plainNumbers v hregular) with ⟨hfits, -⟩ | ⟨-, hfault⟩
  · exact (hlarge ((fits_plainNumbers v _).mp hfits)).elim
  · exact hfault

/-- A whole double, one that is not whole, and a text of two lines. -/
def offer : Json :=
  .obj [("price", .float (.finite false 8444249301319680 (-48) (by decide))),
    ("rates", .arr [.float (.finite false 4503599627370496 (-53) (by decide)), .str "\"A\"\nB"])]

theorem parse_shownText_offer :
    ¬IsScalar offer ∧ offer.Regular ∧ offer.Fits Json.Reader.maxDepth ∧
      ∃ inner text, linesOf offer (.str "offer") .null = .ok (openTag :: inner ++ [closeTag]) ∧
        String.intercalate "\n" inner = "\"offer\": " ++ text ∧
        Json.parse text = .ok (.obj [("price", .int 30),
          ("rates", .arr [.float (.finite false 4503599627370496 (-53) (by decide)), .str "\"A\"\nB"])]) := by
  have hscalar : ¬IsScalar offer := id
  have hregular : offer.Regular := by
    refine ⟨by decide, ⟨_, _, _, _, rfl⟩, ⟨⟨_, _, _, _, rfl⟩, trivial, trivial⟩, trivial⟩
  have hfits : offer.Fits Json.Reader.maxDepth := by
    simp [offer, Json.Reader.maxDepth, Json.Fits, Json.FitsMembers, Json.FitsItems]
  obtain ⟨inner, text, hlines, hjoin, -, hread, -⟩ := parse_shownText hscalar hregular (.str "offer") .null
  have hlabel : label (.str "offer") = "\"offer\": " := by decide
  have hplain : plainNumbers offer = .obj [("price", .int 30),
      ("rates", .arr [.float (.finite false 4503599627370496 (-53) (by decide)), .str "\"A\"\nB"])] := rfl
  exact ⟨hscalar, hregular, hfits, inner, text, hlines, hlabel ▸ hjoin, hplain ▸ hread hfits⟩

/-! ## Other values -/

def IsNumber : Json → Prop
  | .int _ | .float _ => True
  | _ => False

/-- A type that stands in the text for numbers by its short name. -/
def HasNumericName (requiredType : Option String) : Prop :=
  ∃ s, requiredType = some s ∧ (Reference.shortName s = integerWord ∨ Reference.shortName s = floatWord)

/-- A type whose text has the name of a numeric type somewhere in it. -/
def NamesNumber (requiredType : Option String) : Prop :=
  ∃ s, requiredType = some s ∧ (integerWord.toList <:+: s.toList ∨ floatWord.toList <:+: s.toList)

theorem isNumeric_iff {s : String} :
    isNumeric s = true ↔ integerWord.toList <:+: s.toList ∨ floatWord.toList <:+: s.toList := by
  have hoccurs (word : List Char) : Text.occurs word s.toList = true ↔ word <:+: s.toList := by
    rw [Text.occurs_iff]
    exact ⟨fun ⟨front, rest, h⟩ => ⟨front, rest, h.symm⟩, fun ⟨front, rest, h⟩ => ⟨front, rest, h.symm⟩⟩
  rw [isNumeric, Bool.or_eq_true, hoccurs, hoccurs]

theorem HasNumericName.names {requiredType : Option String} (h : HasNumericName requiredType) :
    NamesNumber requiredType := by
  obtain ⟨s, rfl, hname⟩ := h
  have hinfix {word : String} (hword : Reference.shortName s = word) : word.toList <:+: s.toList := by
    rw [← hword, Reference.shortName, String.toList_ofList]
    exact (Reference.shortChars_suffix s.toList).isInfix
  exact ⟨s, rfl, hname.imp hinfix hinfix⟩

theorem namesNumeric_ofOption (requiredType : Option String) :
    ∃ numeric, namesNumeric (Json.ofOption requiredType) = .ok numeric ∧
      (numeric = true ↔ NamesNumber requiredType) := by
  cases requiredType with
  | none => exact ⟨false, rfl, by simp [NamesNumber]⟩
  | some s =>
    have hsome : NamesNumber (some s) ↔ isNumeric s = true := by
      rw [isNumeric_iff]
      simp [NamesNumber]
    refine ⟨isNumeric s, ?_, hsome.symm⟩
    by_cases hempty : s = ""
    · subst hempty
      rfl
    · have htruthy : (Json.str s).truthy = true := by simpa [Json.truthy] using hempty
      have hparts (word : String) :
          (Json.str word).occursIn (.str s) = .ok (Text.occurs word.toList s.toList) := rfl
      simp only [namesNumeric, Json.ofOption, htruthy, hparts, Attempt.ok_bind, isNumeric]
      cases Text.occurs integerWord.toList s.toList <;> rfl

theorem isScalar_plainNumbers {v : Json} (hv : IsScalar v) : IsScalar (plainNumbers v) := by
  cases v with
  | float x =>
    rcases plainNumbers_float x with ⟨n, -, heq⟩ | ⟨-, heq⟩
    · rw [heq]
      trivial
    · rw [heq]
      trivial
  | null | bool | int | str => trivial
  | arr | obj => exact hv.elim

theorem body_of_isScalar {v : Json} (hv : IsScalar v) (numeric : Bool) :
    body v numeric = if numeric then scalarText v else "\"" ++ scalarText v ++ "\"" := by
  cases v with
  | null | bool | int | float | str => rfl
  | arr | obj => exact hv.elim

theorem linesOf_of_isScalar {v : Json} (hv : IsScalar v) {fieldName requiredType : Json} {numeric : Bool}
    (h : namesNumeric requiredType = .ok numeric) :
    linesOf v fieldName requiredType = .ok (lines v fieldName numeric) := by
  cases v with
  | null | bool | int | float | str =>
    simp only [linesOf, h]
    rfl
  | arr | obj => exact hv.elim

theorem ne_quoted (s : String) : s ≠ "\"" ++ s ++ "\"" := by
  intro h
  have hlength := congrArg String.length h
  simp only [String.length_append] at hlength
  have hquote : "\"".length = 1 := rfl
  omega

/-- The text of a value that is neither list nor object is bare exactly if the name of a numeric type occurs
in the type. So only numbers under the numeric types themselves are bare as long as no other type has such
a name in it and no other value stands under one. -/
theorem scalar_bare_iff {v : Json} (hv : IsScalar v) (fieldName : Json) (requiredType : Option String) :
    ∃ inner, linesOf v fieldName (Json.ofOption requiredType) = .ok (openTag :: inner ++ [closeTag]) ∧
      (String.intercalate "\n" inner = label fieldName ++ scalarText (plainNumbers v) ↔
        NamesNumber requiredType) ∧
      (String.intercalate "\n" inner = label fieldName ++ ("\"" ++ scalarText (plainNumbers v) ++ "\"") ↔
        ¬NamesNumber requiredType) ∧
      ((String.intercalate "\n" inner = label fieldName ++ scalarText (plainNumbers v) ↔
          IsNumber v ∧ HasNumericName requiredType) ↔
        (NamesNumber requiredType → IsNumber v ∧ HasNumericName requiredType)) := by
  obtain ⟨numeric, hnumeric, hnames⟩ := namesNumeric_ofOption requiredType
  have hjoin : String.intercalate "\n" (Text.lines (label fieldName ++ body (plainNumbers v) numeric)) =
      label fieldName ++ (if numeric then scalarText (plainNumbers v)
        else "\"" ++ scalarText (plainNumbers v) ++ "\"") := by
    rw [intercalate_lines, body_of_isScalar (isScalar_plainNumbers hv)]
  have hne := ne_quoted (scalarText (plainNumbers v))
  have hbare : String.intercalate "\n" (Text.lines (label fieldName ++ body (plainNumbers v) numeric)) =
      label fieldName ++ scalarText (plainNumbers v) ↔ NamesNumber requiredType := by
    rw [hjoin, ← hnames]
    cases numeric <;> simp [hne.symm]
  refine ⟨_, linesOf_of_isScalar hv hnumeric, hbare, ?_, ?_⟩
  · rw [hjoin, ← hnames]
    cases numeric <;> simp [hne]
  · rw [hbare]
    exact ⟨Iff.mp, fun h => ⟨h, fun hrule => hrule.2.names⟩⟩

/-- A text that is no number stands bare under a numeric type. -/
theorem scalar_bare_iff_text :
    IsScalar (.str "abc") ∧
      linesOf (.str "abc") (.str "f") (Json.ofOption (some "https://schema.org/Integer")) =
        .ok [openTag, "\"f\": abc", closeTag] ∧
      String.intercalate "\n" ["\"f\": abc"] = label (.str "f") ++ scalarText (plainNumbers (.str "abc")) ∧
      ¬IsNumber (.str "abc") := by
  obtain ⟨inner, hlines, hbare, -⟩ := scalar_bare_iff (v := .str "abc") trivial (.str "f")
    (some "https://schema.org/Integer")
  have hshown : linesOf (.str "abc") (.str "f") (Json.ofOption (some "https://schema.org/Integer")) =
      .ok [openTag, "\"f\": abc", closeTag] := by decide +kernel
  have hsame : openTag :: inner ++ [closeTag] = openTag :: ["\"f\": abc"] ++ [closeTag] :=
    Except.ok.inj (hlines.symm.trans hshown)
  have hinner : inner = ["\"f\": abc"] := (List.cons.inj (List.append_cancel_right hsame)).2
  have hnames : NamesNumber (some "https://schema.org/Integer") :=
    ⟨_, rfl, isNumeric_iff.mp (by decide +kernel)⟩
  exact ⟨trivial, hshown, hinner ▸ hbare.mpr hnames, id⟩

end TypedVocabulary.Sample
