import Workflow.Proofs.Literals
import Workflow.Proofs.Rereading
import Workflow.Proofs.Scaling
import Workflow.Proofs.Texts

/-!
# Agreement of number readers

A document collects the digits of a number literal and scales them by its power of ten, where paths
and calls take the nearest double of the literal. Both come to the same number for all integers that
fit into 64 bits with their sign and for digits and powers of ten that are doubles themselves. They
differ on integers beyond the signed ones, which a document keeps as integers, and on minus zero,
which a document keeps as a float.
-/

namespace Workflow.Number

open Decimal (scaled)

/-! ## A literal in a document -/

/-- A text goes on with nothing that belongs to a number. -/
def Stops (rest : List Char) : Prop := ∀ c ∈ rest.head?, Path.inNumber c = false

theorem Stops.head_ne {rest : List Char} (stops : Stops rest) {c : Char}
    (inside : Path.inNumber c = true) : rest.head? ≠ some c := by
  intro isHead
  have outside := stops c isHead
  rw [inside] at outside
  contradiction

theorem Stops.not_digit {rest : List Char} (stops : Stops rest) :
    ∀ c ∈ rest.head?, Decimal.isDigit c = false := by
  intro c isHead
  have outside := stops c isHead
  simp only [Path.inNumber, Bool.or_eq_false_iff] at outside
  exact outside.1.1.1.1.1

theorem Stops.not_inNumber {rest : List Char} (stops : Stops rest) :
    ∀ c ∈ rest.head?, Intrinsic.inNumber c = false := by
  intro c isHead
  have outside := stops c isHead
  simp only [Path.inNumber, Bool.or_eq_false_iff] at outside
  simpa [Intrinsic.inNumber] using outside.1

theorem collectFraction_digit {value : Nat} {exponent : Int} {c : Char} {rest : List Char}
    (digit : Decimal.isDigit c = true) (fits : value * 10 + Decimal.digitValue c ≤ maxSignificand) :
    collectFraction value exponent false (c :: rest) =
      collectFraction (value * 10 + Decimal.digitValue c) (exponent - 1) false rest := by
  simp only [collectFraction, digit, fits, Bool.not_true, Bool.not_false, Bool.true_and,
    Bool.false_eq_true, if_false, decide_true, if_true]

theorem collectFraction_run {digits rest : List Char} {start : Nat} (exponent : Int)
    (inside : ∀ c ∈ digits, Decimal.isDigit c = true)
    (stops : ∀ c ∈ rest.head?, Decimal.isDigit c = false)
    (fits : Decimal.natFrom start digits ≤ maxSignificand) :
    collectFraction start exponent false (digits ++ rest) =
      ⟨Decimal.natFrom start digits, exponent - digits.length, rest⟩ := by
  induction digits generalizing start exponent with
  | nil =>
    rw [List.nil_append, List.length_nil, Int.natCast_zero, Int.sub_zero]
    cases rest with
    | nil => rfl
    | cons c rest =>
      rw [collectFraction, stops c rfl]
      rfl
  | cons c digits ih =>
    have small := Nat.le_trans (Decimal.le_natFrom _ digits) fits
    have place : exponent - 1 - digits.length = exponent - (c :: digits).length := by
      rw [List.length_cons]
      omega
    rw [List.cons_append, collectFraction_digit (inside c List.mem_cons_self) small, ← place]
    exact ih (exponent - 1) (fun d mem => inside d (List.mem_cons_of_mem _ mem)) fits

theorem Exponent.readExponent?_behind (exponent : Exponent) {rest : List Char}
    (small : Decimal.nat exponent.size.chars ≤ maxExponent)
    (stops : ∀ c ∈ rest.head?, Decimal.isDigit c = false) :
    readExponent? (exponent.sign.toList ++ (exponent.size.chars ++ rest)) =
      some (exponent.value, rest) := by
  obtain ⟨front, back⟩ := Path.span_append exponent.size.isDigit stops
  have filled : exponent.size.chars.isEmpty = false := by simpa using exponent.size.nonempty
  have whole := Nat.min_eq_left small
  rw [value, sinks]
  cases isSign : exponent.sign with
  | none =>
    have starts := exponent.size.startsDigit.append rest
    rw [Option.toList_none, List.nil_append, readExponent?]
    · simp only [front, back, filled, whole]
      rfl
    · exact starts.head_ne (by decide)
    · exact starts.head_ne (by decide)
  | some c =>
    rcases exponent.isSign c isSign with rfl | rfl
    · simp only [Option.toList_some, List.singleton_append, readExponent?, front, back, filled,
        whole]
      rfl
    · simp only [Option.toList_some, List.singleton_append, readExponent?, front, back, filled,
        whole]
      rfl

/-- What becomes of collected digits, depending on what stands behind them. -/
def finish (negative : Bool) (collected : Significand) : Option (Number × List Char) :=
  let signed (value : Float) : Number := .float (if negative then -value else value)
  match collected.rest with
  | c :: rest =>
    if c == 'e' || c == 'E' then do
      let (exponent, rest) ← readExponent? rest
      let value ← scale? collected.value (collected.exponent + exponent)
      return (signed value, rest)
    else do
      let value ← scale? collected.value collected.exponent
      return (signed value, c :: rest)
  | [] => do
    let value ← scale? collected.value collected.exponent
    return (signed value, [])

section Unsigned

variable {text rest : List Char} {value : Nat} {c : Char} (negative : Bool)
  (starts : startsWhole text = true)

include starts

theorem readUnsigned?_point (whole : collectWhole 0 0 text = ⟨value, 0, '.' :: c :: rest⟩)
    (digit : Decimal.isDigit c = true) :
    readUnsigned? negative text = finish negative (collectFraction value 0 false (c :: rest)) := by
  simp only [readUnsigned?, starts, whole, digit]
  rfl

theorem readUnsigned?_exponent (whole : collectWhole 0 0 text = ⟨value, 0, c :: rest⟩)
    (isLetter : c = 'e' ∨ c = 'E') :
    readUnsigned? negative text = finish negative ⟨value, 0, c :: rest⟩ := by
  rcases isLetter with rfl | rfl
  · simp only [readUnsigned?, starts, whole]
    rfl
  · simp only [readUnsigned?, starts, whole]
    rfl

end Unsigned

namespace Literal

variable (literal : Literal)

theorem startsWhole_append {rest : List Char}
    (stops : ∀ c ∈ rest.head?, Decimal.isDigit c = false) :
    startsWhole (literal.whole.chars ++ rest) = true := by
  have unpadded := literal.unpadded
  obtain ⟨c, more, shape⟩ := List.exists_cons_of_ne_nil literal.whole.nonempty
  have digit : Decimal.isDigit c = true := literal.whole.isDigit c (by simp [shape])
  rw [shape] at unpadded ⊢
  by_cases zero : c = '0'
  · subst zero
    obtain rfl : more = [] := by simpa using unpadded rfl
    cases rest with
    | nil => rfl
    | cons d rest => simp [startsWhole, stops d rfl]
  · rw [List.cons_append, startsWhole]
    · exact digit
    · rintro _ _ rfl
      exact absurd rfl zero

variable {rest : List Char} (stops : Stops rest)

include stops in
theorem finish_exponentText {collected : Significand}
    (behind : collected.rest = literal.exponentText ++ rest)
    (small : ∀ exponent ∈ literal.exponent, Decimal.nat exponent.size.chars ≤ maxExponent) :
    finish literal.negative collected =
      (scale? collected.value (collected.exponent + (literal.scale + literal.decimals.length))).map
        fun value => (.float (literal.signed value), rest) := by
  rw [finish, behind, scale, exponentText, Int.sub_add_cancel]
  cases isExponent : literal.exponent with
  | none =>
    rw [List.nil_append, Int.add_zero]
    have noLower := stops.head_ne (c := 'e') (by decide)
    have noUpper := stops.head_ne (c := 'E') (by decide)
    cases rest with
    | nil => cases scale? collected.value collected.exponent <;> rfl
    | cons c rest =>
      have noLetter : (c == 'e' || c == 'E') = false := by
        simpa using And.intro noLower noUpper
      simp only [noLetter, Bool.false_eq_true, if_false]
      cases scale? collected.value collected.exponent <;> rfl
  | some exponent =>
    have read := exponent.readExponent?_behind (small exponent isExponent) stops.not_digit
    have isLetter : (exponent.letter == 'e' || exponent.letter == 'E') = true := by
      simpa using exponent.isLetter
    simp only [Exponent.text, List.cons_append, List.append_assoc, isLetter, if_true, read,
      Option.bind_eq_bind, Option.bind_some]
    cases scale? collected.value (collected.exponent + exponent.value) <;> rfl

/-- Digits that are as many as can be collected. -/
structure Collectable : Prop where
  significand : literal.significand ≤ maxSignificand
  exponent : ∀ exponent ∈ literal.exponent, Decimal.nat exponent.size.chars ≤ maxExponent

theorem natFrom_le_of_append {front back : List Char} {start : Nat}
    (fits : Decimal.natFrom start (front ++ back) ≤ maxSignificand) :
    Decimal.natFrom start front ≤ maxSignificand := by
  rw [Decimal.natFrom_append] at fits
  exact Nat.le_trans (Decimal.le_natFrom _ _) fits

include stops in
/-- A document turns a literal into the double that its digits and its power of ten are scaled
to. -/
theorem readUnsigned?_unsigned (collectable : literal.Collectable)
    (noInteger : literal.isInteger = false) :
    readUnsigned? literal.negative (literal.unsigned ++ rest) =
      (scale? literal.significand literal.scale).map fun value =>
        (.float (literal.signed value), rest) := by
  have fits := collectable.significand
  rw [significand, Decimal.nat] at fits
  have wholeFits := natFrom_le_of_append fits
  have exponentStops : ∀ c ∈ (literal.exponentText ++ rest).head?, Decimal.isDigit c = false := by
    have leaves := literal.leavesDigits_exponentText
    cases shape : literal.exponentText with
    | nil => exact stops.not_digit
    | cons c tail =>
      rintro d ⟨⟩
      exact (leaves c (by simp [shape])).1
  cases isFraction : literal.fraction with
  | some run =>
    obtain ⟨isText, isDecimals⟩ := literal.fractionText_of_some isFraction
    obtain ⟨c, more, shape⟩ := List.exists_cons_of_ne_nil run.nonempty
    have digit : Decimal.isDigit c = true := run.isDigit c (by simp [shape])
    have pointStops : ∀ d ∈ ('.' :: (run.chars ++ (literal.exponentText ++ rest))).head?,
        Decimal.isDigit d = false := by
      rintro d ⟨⟩
      decide
    have isUnsigned : literal.unsigned ++ rest =
        literal.whole.chars ++ '.' :: (run.chars ++ (literal.exponentText ++ rest)) := by
      rw [unsigned, isText]
      simp
    have starts := literal.startsWhole_append pointStops
    have whole := collectWhole_append literal.whole.isDigit wholeFits pointStops
    rw [isDecimals, Decimal.natFrom_append] at fits
    have fraction := collectFraction_run 0 run.isDigit exponentStops fits
    rw [shape, List.cons_append] at starts whole fraction
    rw [isUnsigned, shape, List.cons_append,
      readUnsigned?_point literal.negative starts whole digit, fraction,
      literal.finish_exponentText stops rfl collectable.exponent]
    have place : (0 : Int) - (c :: more).length + (literal.scale + (c :: more).length) =
        literal.scale := by omega
    simp only [significand, Decimal.nat, isDecimals, Decimal.natFrom_append, shape, place]
  | none =>
    obtain ⟨isText, isDecimals⟩ := literal.fractionText_of_none isFraction
    have isUnsigned : literal.unsigned ++ rest =
        literal.whole.chars ++ (literal.exponentText ++ rest) := by
      rw [unsigned, isText, List.nil_append, List.append_assoc]
    obtain ⟨exponent, isExponent⟩ : ∃ exponent, literal.exponent = some exponent := by
      rw [isInteger, isFraction] at noInteger
      exact Option.isSome_iff_exists.mp (by simpa using noInteger)
    have isText : literal.exponentText ++ rest =
        exponent.letter :: (exponent.sign.toList ++ exponent.size.chars ++ rest) := by
      rw [exponentText, isExponent]
      rfl
    have whole := collectWhole_append literal.whole.isDigit wholeFits exponentStops
    have starts := literal.startsWhole_append exponentStops
    rw [isText] at whole starts
    rw [isUnsigned, isText, readUnsigned?_exponent literal.negative starts whole exponent.isLetter,
      literal.finish_exponentText stops isText.symm collectable.exponent]
    simp only [significand, Decimal.nat, isDecimals, List.append_nil, List.length_nil,
      Int.natCast_zero, Int.add_zero, Int.zero_add]

include stops in
theorem readUnsigned?_unsigned_integer (isInteger : literal.isInteger = true)
    (fits : Decimal.nat literal.whole.chars ≤ maxSignificand) :
    readUnsigned? literal.negative (literal.unsigned ++ rest) =
      some (if literal.negative then
        if 0 < Decimal.nat literal.whole.chars ∧
            Decimal.nat literal.whole.chars ≤ 9223372036854775808 then .int literal.integer
        else .float (-Float.ofNat (Decimal.nat literal.whole.chars))
      else .int literal.integer, rest) := by
  have whole := collectWhole_append literal.whole.isDigit fits stops.not_digit
  rw [literal.unsigned_of_isInteger isInteger, readUnsigned?_integer _
    (literal.startsWhole_append stops.not_digit) whole (stops.head_ne (by decide))
    (stops.head_ne (by decide)) (stops.head_ne (by decide)), integer]
  cases literal.negative with
  | false => rfl
  | true => rfl

/-! ## Agreement -/

/-- A literal that a document turns into the nearest number: an integer of up to 64 bits, or digits
and a power of ten that are doubles themselves. -/
def Exact : Prop :=
  if literal.isInteger then Decimal.nat literal.whole.chars ≤ maxSignificand
  else literal.significand < 2 ^ 53 ∧ literal.scale.natAbs ≤ 22 ∧
    ∀ exponent ∈ literal.exponent, Decimal.nat exponent.size.chars ≤ maxExponent

/-- An integer that paths and calls do not take for what a document does. -/
def Differs : Prop :=
  literal.isInteger = true ∧
    (maxSigned < literal.integer ∨ literal.negative = true ∧ literal.integer = 0)

theorem ofFloat?_signed {bound : Int} {value : Float}
    (short : Double.Short bound value.toModel.unpack) (near : -1074 ≤ bound) (far : bound ≤ 971) :
    ofFloat? (literal.signed value) = some (.float (literal.signed value)) := by
  have finite : (literal.signed value).isFinite = true := by
    rw [signed]
    split
    next => exact (Double.short_pack short.neg near far).isFinite
    next => exact short.isFinite
  exact if_pos finite

theorem read?_text (rest : List Char) :
    read? (literal.text ++ rest) = readUnsigned? literal.negative (literal.unsigned ++ rest) := by
  rw [text, Decimal.withSign_append]
  cases literal.negative with
  | true => rfl
  | false =>
    change read? (literal.unsigned ++ rest) = _
    rw [read?]
    exact (literal.startsDigit.append rest).head_ne (by decide)

include stops in
theorem read?_float (exact : literal.Exact) (noInteger : literal.isInteger = false) :
    ∃ value, read? (literal.text ++ rest) = some (value, rest) ∧
      literal.meaning? = some value := by
  rw [Exact, noInteger] at exact
  obtain ⟨small, near, few⟩ := exact
  have collectable : literal.Collectable := ⟨by rw [maxSignificand]; omega, few⟩
  obtain ⟨isScaled, short⟩ := scale?_eq_scaled small near
  refine ⟨.float (literal.signed (scaled literal.significand literal.scale)), ?_, ?_⟩
  · rw [read?_text, literal.readUnsigned?_unsigned stops collectable noInteger, isScaled]
    rfl
  · rw [meaning?, noInteger, if_neg (by simp)]
    exact literal.ofFloat?_signed short (by decide) (by decide)

theorem meaning?_integer (isInteger : literal.isInteger = true)
    (fits : Decimal.nat literal.whole.chars ≤ maxSignificand) :
    literal.meaning? =
      some (if Decimal.Signed literal.integer then .int literal.integer
        else .float (literal.signed (Float.ofNat (Decimal.nat literal.whole.chars)))) := by
  obtain ⟨noFraction, noExponent⟩ := literal.parts_of_isInteger isInteger
  obtain ⟨-, isDecimals⟩ := literal.fractionText_of_none noFraction
  rw [meaning?, isInteger]
  by_cases isSigned : Decimal.Signed literal.integer
  · rw [if_pos ⟨rfl, isSigned⟩, if_pos isSigned]
  · have positive : Decimal.nat literal.whole.chars ≠ 0 := by
      intro zero
      refine isSigned ?_
      rw [integer, zero]
      split <;> decide
    have many : Decimal.nat literal.whole.chars < 10 ^ 20 := by
      rw [maxSignificand] at fits
      omega
    have few := length_digits_le many (by decide)
    have isScaled : scaled literal.significand literal.scale =
        Float.ofNat (Decimal.nat literal.whole.chars) := by
      rw [significand, scale, isDecimals, noExponent, List.append_nil, scaled, if_neg positive,
        if_neg (by simp; omega), if_neg (by simp), if_neg (by simp)]
      rfl
    have short : Double.Short 78 (Float.ofNat (Decimal.nat literal.whole.chars)).toModel.unpack :=
      Double.short_ofNat (by rw [maxSignificand] at fits; omega)
    rw [if_neg fun both => isSigned both.2, if_neg isSigned, isScaled]
    exact literal.ofFloat?_signed short (by decide) (by decide)

include stops in
theorem read?_integer_text (exact : literal.Exact) (isInteger : literal.isInteger = true) :
    ∃ value, read? (literal.text ++ rest) = some (value, rest) ∧
      (literal.meaning? = some value ↔ ¬ literal.Differs) := by
  have fits : Decimal.nat literal.whole.chars ≤ maxSignificand := by
    rw [Exact, if_pos isInteger] at exact
    exact exact
  have reads : read? (literal.text ++ rest) = _ :=
    (literal.read?_text rest).trans (literal.readUnsigned?_unsigned_integer stops isInteger fits)
  have means := literal.meaning?_integer isInteger fits
  have isWhole : literal.integer =
      if literal.negative then -(Decimal.nat literal.whole.chars : Int)
      else Decimal.nat literal.whole.chars := rfl
  refine ⟨_, reads, ?_⟩
  rw [means, Option.some_inj, Differs, isInteger]
  generalize Decimal.nat literal.whole.chars = size at fits isWhole ⊢
  generalize literal.integer = whole at isWhole ⊢
  rw [maxSignificand] at fits
  cases isNegative : literal.negative with
  | false =>
    rw [isNegative] at isWhole
    simp only [Bool.false_eq_true, if_false, false_and, or_false, true_and] at isWhole ⊢
    by_cases isSigned : Decimal.Signed whole
    · rw [if_pos isSigned]
      exact iff_of_true rfl (not_lt_of_ge isSigned.2)
    · have large : maxSigned < whole := by
        simp only [Decimal.Signed, minSigned, maxSigned] at isSigned ⊢
        omega
      rw [if_neg isSigned]
      exact iff_of_false (by simp) (not_not_intro large)
  | true =>
    rw [isNegative] at isWhole
    simp only [if_true, true_and] at isWhole ⊢
    have notLarge : ¬ maxSigned < whole := by
      rw [maxSigned]
      omega
    by_cases inside : 0 < size ∧ size ≤ 9223372036854775808
    · have isSigned : Decimal.Signed whole := by
        simp only [Decimal.Signed, minSigned, maxSigned]
        omega
      rw [if_pos isSigned, if_pos inside]
      exact iff_of_true rfl (by omega)
    · rw [if_neg inside]
      by_cases zero : size = 0
      · have isSigned : Decimal.Signed whole := by
          simp only [Decimal.Signed, minSigned, maxSigned]
          omega
        rw [if_pos isSigned]
        exact iff_of_false (by simp) (by omega)
      · have notSigned : ¬ Decimal.Signed whole := by
          simp only [Decimal.Signed, minSigned, maxSigned]
          omega
        have isSigned : literal.signed (Float.ofNat size) = -Float.ofNat size := by
          rw [signed, isNegative]
          rfl
        rw [if_neg notSigned, isSigned]
        exact iff_of_true rfl (by omega)

theorem text_eq_cons :
    ∃ c more, literal.text = c :: more ∧ (c == '-' || Decimal.isDigit c) = true := by
  rw [text]
  cases literal.negative with
  | true => exact ⟨'-', literal.unsigned, rfl, rfl⟩
  | false =>
    obtain ⟨c, isHead, digit⟩ := literal.startsDigit
    obtain ⟨more, shape⟩ := List.head?_eq_some_iff.mp isHead
    exact ⟨c, more, shape, by simp [digit]⟩

/-- A literal is where it stands: behind no blank, and the start of no path and no call. -/
theorem readOperand_literal (fuel : Nat) :
    Path.readOperand (fuel + 1) (literal.text ++ rest) =
      (Path.readLiteral (literal.text ++ rest)).map fun read => (.literal read.1, read.2) := by
  obtain ⟨c, more, shape, numeric⟩ := literal.text_eq_cons
  have dark : Text.isBlank c = false := Path.not_blank_of_numeric numeric
  have start : Text.trimStart (literal.text ++ rest) = literal.text ++ rest := by
    rw [shape]
    exact Text.trimStart_of_dark fun d isHead => by
      obtain rfl : c = d := by simpa using isHead
      exact dark
  rw [Path.readOperand, start, shape, List.cons_append]
  split
  next isPath => exact absurd (List.cons.inj isPath).1 (Path.ne_of_numeric numeric (by decide))
  next => cases Path.readLiteral (c :: (more ++ rest)) <;> rfl

/-- A path and a call mean the same number by a literal, wherever it stands: a signed integer, or
the nearest double if that is finite. A call refuses an exponent with a minus sign, though. A
document turns the literal into that very number, apart from integers above the signed ones and
from minus zero. -/
theorem readers_of_literal (stops : Stops rest) (fuel : Nat) :
    Path.readOperand (fuel + 1) (literal.text ++ rest) =
      (match literal.meaning? with
        | some value => .ok (.literal (.number value), rest)
        | none => Path.stop (.badNumber (String.ofList literal.text)) rest) ∧
    Intrinsic.readArgument (fuel + 1) (literal.text ++ rest) =
      (if literal.sinks then
        Intrinsic.stop .badNumber ('-' :: (literal.exponentDigits ++ rest))
      else
        match literal.meaning? with
        | some value => .ok (.literal (.number value), rest)
        | none => Intrinsic.stop .badNumber rest) ∧
    (literal.Exact → ∃ value,
      (∀ depth, Json.readValue? (fuel + 1) depth (literal.text ++ rest) =
        some (.number value, rest)) ∧
      (literal.meaning? = some value ↔ ¬ literal.Differs)) := by
  obtain ⟨c, more, shape, numeric⟩ := literal.text_eq_cons
  refine ⟨?path, ?call, fun exact => ?document⟩
  case path =>
    rw [readOperand_literal, shape, List.cons_append, Path.readLiteral_of_numeric numeric,
      ← List.cons_append, ← shape, literal.readNumber_text stops]
    cases literal.meaning? <;> rfl
  case call =>
    have noCall : Intrinsic.afterStart? (literal.text ++ rest) = none := by
      rw [shape]
      exact Intrinsic.afterStart?_of_ne (Path.ne_of_numeric numeric (by decide)) _
    rw [Intrinsic.readArgument, noCall, shape, List.cons_append]
    simp only [Intrinsic.readPlain_of_numeric numeric]
    rw [← List.cons_append, ← shape]
    cases sinks : literal.sinks with
    | true =>
      rw [literal.readNumber_of_sinks sinks]
      rfl
    | false =>
      rw [literal.readNumber_of_not_sinks sinks stops.not_inNumber]
      cases literal.meaning? <;> rfl
  case document =>
    have reads : ∃ value, read? (literal.text ++ rest) = some (value, rest) ∧
        (literal.meaning? = some value ↔ ¬ literal.Differs) := by
      cases isInteger : literal.isInteger with
      | true => exact literal.read?_integer_text stops exact isInteger
      | false =>
        obtain ⟨value, reads, means⟩ := literal.read?_float stops exact isInteger
        refine ⟨value, reads, iff_of_true means ?_⟩
        rintro ⟨whole, -⟩
        rw [isInteger] at whole
        contradiction
    obtain ⟨value, reads, agrees⟩ := reads
    refine ⟨value, fun depth => ?_, agrees⟩
    rw [shape, List.cons_append] at reads ⊢
    rw [Json.readValue?_number (by simpa using numeric), reads]
    rfl

/-- The literal `1e-7`. -/
def tiny : Literal where
  negative := false
  whole := ⟨['1'], by simp, by simp [Decimal.isDigit]⟩
  fraction := none
  exponent := some ⟨'e', some '-', ⟨['7'], by simp, by simp [Decimal.isDigit]⟩, .inl rfl, by simp⟩
  unpadded := by simp

theorem exact_tiny : tiny.Exact := by
  have few : ∀ exponent ∈ tiny.exponent, Decimal.nat exponent.size.chars ≤ maxExponent := by
    rintro exponent ⟨⟩
    decide
  exact ⟨by decide, by decide, few⟩

theorem meaning?_tiny : tiny.meaning? = some (.float 1e-7) := by
  have isScaled : scaled 1 (-7) = 1e-7 := by
    rw [scaled, Decimal.digits_of_lt (by decide)]
    rfl
  obtain ⟨-, short⟩ :=
    scale?_eq_scaled (show 1 < 2 ^ 53 by decide) (show (-7 : Int).natAbs ≤ 22 by decide)
  rw [isScaled] at short
  have means : tiny.meaning? = ofFloat? (scaled 1 (-7)) := rfl
  rw [means, isScaled]
  exact tiny.ofFloat?_signed short (by decide) (by decide)

/-- In front of a parenthesis a path and a document read the literal, and a call does not. -/
theorem readers_of_literal_tiny :
    Stops [')'] ∧ tiny.Exact ∧
      Path.readOperand 1 "1e-7)".toList = .ok (.literal (.number (.float 1e-7)), [')']) ∧
      Intrinsic.readArgument 1 "1e-7)".toList = Intrinsic.stop .badNumber "-7)".toList ∧
      Json.readValue? 1 0 "1e-7)".toList = some (.number (.float 1e-7), [')']) := by
  have stops : Stops [')'] := by
    rintro c ⟨⟩
    decide
  obtain ⟨path, call, document⟩ := readers_of_literal tiny stops 0
  obtain ⟨value, reads, agrees⟩ := document exact_tiny
  have same : ¬ tiny.Differs := by
    rintro ⟨whole, -⟩
    exact absurd whole (by decide)
  obtain rfl : Number.float 1e-7 = value :=
    Option.some_inj.mp (meaning?_tiny.symm.trans (agrees.mpr same))
  rw [meaning?_tiny] at path
  exact ⟨stops, exact_tiny, path, call, reads 0⟩

/-- A call refuses a literal that a document holds. -/
theorem negative_exponent_refused :
    Json.parse? "1e-7" = some (.number (.float 1e-7)) ∧
      Intrinsic.parse "States.Array(1e-7)" =
        .error (.malformed "States.Array(1e-7)" .badNumber 15) := by
  have stops : Stops [] := nofun
  obtain ⟨value, reads, means⟩ := tiny.read?_float stops exact_tiny rfl
  obtain rfl : Number.float 1e-7 = value := Option.some_inj.mp (meaning?_tiny.symm.trans means)
  constructor
  · have document : Json.readValue? 10 Json.maxDepth ['1', 'e', '-', '7'] =
        some (.number (.float 1e-7), []) := by
      rw [Json.readValue?_number (.inr rfl)]
      exact congrArg _ reads
    have text : "1e-7".toList = ['1', 'e', '-', '7'] := rfl
    have budget : 2 * ['1', 'e', '-', '7'].length + 2 = 10 := rfl
    rw [Json.parse?, Json.parseChars?, text, budget, document]
    rfl
  · cbv

end Literal

end Workflow.Number
