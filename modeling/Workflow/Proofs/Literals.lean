import Workflow.Proofs.Wording

/-!
# Number literals

A number is spelled as a document spells it: a sign, whole digits without padding, and perhaps a
fraction and an exponent. Paths and calls read such a literal by finding where it ends and then
turning it into a number as a whole. They do the latter alike, but a call stops at the minus sign
of an exponent, and what stands in front of that sign is no number.
-/

namespace Workflow.Decimal

/-! ## Decimal texts -/

theorem withSign_append (negative : Bool) (body rest : List Char) :
    withSign negative body ++ rest = withSign negative (body ++ rest) := by
  cases negative <;> rfl

theorem toLower_digit {c : Char} (digit : isDigit c = true) : c.toLower = c := by
  simp only [isDigit, Bool.and_eq_true, decide_eq_true_eq, Char.le_def] at digit
  refine dif_neg ?_
  rintro ⟨low, -⟩
  exact absurd (UInt32.le_trans low digit.2) (by decide)

section StartsDigit

variable {body : List Char} (starts : StartsDigit body)

include starts

/-- A text that begins with a digit is none of the words for a float. -/
theorem magnitude?_of_startsDigit : magnitude? body = unsignedFloat? body := by
  obtain ⟨c, isHead, digit⟩ := starts
  have noWord (word : String) (start : Char) (isStart : word.toList.head? = some start)
      (noDigit : isDigit start = false)
      (isWord : String.ofList (body.map Char.toLower) = word) : False := by
    rw [← isWord, String.toList_ofList, List.head?_map, isHead, Option.map_some, Option.some_inj,
      toLower_digit digit] at isStart
    rw [isStart, noDigit] at digit
    contradiction
  rw [magnitude?]
  split
  next isWord => exact (noWord _ 'i' (by decide) (by decide) isWord).elim
  next isWord => exact (noWord _ 'i' (by decide) (by decide) isWord).elim
  next isWord => exact (noWord _ 'n' (by decide) (by decide) isWord).elim
  next => rfl

theorem float?_withSign (negative : Bool) :
    float? (withSign negative body) =
      (unsignedFloat? body).map fun value => if negative then -value else value := by
  have magnitude := magnitude?_of_startsDigit starts
  cases negative with
  | true =>
    change (magnitude? body).map _ = _
    rw [magnitude]
    rfl
  | false =>
    change float? body = _
    rw [float?, magnitude]
    · simp
    · exact starts.head_ne (by decide)
    · exact starts.head_ne (by decide)

end StartsDigit

end Workflow.Decimal

namespace Workflow.Number

open Decimal (scaled)

/-! ## Literals -/

/-- A nonempty run of digits. -/
structure Run where
  chars : List Char
  nonempty : chars ≠ []
  isDigit : ∀ c ∈ chars, Decimal.isDigit c = true

/-- The exponent of a number, with its letter and the sign that it may have. -/
structure Exponent where
  letter : Char
  sign : Option Char
  size : Run
  isLetter : letter = 'e' ∨ letter = 'E'
  isSign : ∀ c ∈ sign, c = '+' ∨ c = '-'

/-- A number as a document can spell it. -/
structure Literal where
  negative : Bool
  whole : Run
  fraction : Option Run
  exponent : Option Exponent
  unpadded : whole.chars.head? = some '0' → whole.chars = ['0']

namespace Exponent

variable (exponent : Exponent)

def text : List Char := exponent.letter :: (exponent.sign.toList ++ exponent.size.chars)

/-- Whether the exponent has a minus sign. -/
def sinks : Bool := exponent.sign == some '-'

def value : Int :=
  if exponent.sinks then -(Decimal.nat exponent.size.chars : Int)
  else Decimal.nat exponent.size.chars

end Exponent

namespace Literal

variable (literal : Literal)

/-- The digits behind the point. -/
def decimals : List Char :=
  match literal.fraction with
  | some run => run.chars
  | none => []

def fractionText : List Char :=
  match literal.fraction with
  | some run => '.' :: run.chars
  | none => []

def exponentText : List Char :=
  match literal.exponent with
  | some exponent => exponent.text
  | none => []

/-- The text behind the sign. -/
def unsigned : List Char := literal.whole.chars ++ (literal.fractionText ++ literal.exponentText)

def text : List Char := Decimal.withSign literal.negative literal.unsigned

/-- The number is spelled as an integer. -/
def isInteger : Bool := literal.fraction.isNone && literal.exponent.isNone

/-- The value of a number that is spelled as an integer. -/
def integer : Int :=
  if literal.negative then -(Decimal.nat literal.whole.chars : Int)
  else Decimal.nat literal.whole.chars

/-- All digits as one number. -/
def significand : Nat := Decimal.nat (literal.whole.chars ++ literal.decimals)

/-- The power of ten that the last digit counts. -/
def scale : Int :=
  (match literal.exponent with
    | some exponent => exponent.value
    | none => 0) - literal.decimals.length

def signed (magnitude : Float) : Float := if literal.negative then -magnitude else magnitude

/-- The number that paths and calls mean by a literal: a signed integer if it is one, else the
nearest double if that is finite. -/
def meaning? : Option Number :=
  if literal.isInteger ∧ Decimal.Signed literal.integer then some (.int literal.integer)
  else ofFloat? (literal.signed (scaled literal.significand literal.scale))

/-- Whether the literal has an exponent with a minus sign. -/
def sinks : Bool := literal.exponent.any Exponent.sinks

end Literal

/-! ## The parts of a literal -/

namespace Run

variable (run : Run)

theorem all_isDigit : run.chars.all Decimal.isDigit = true := List.all_eq_true.mpr run.isDigit

theorem startsDigit : Decimal.StartsDigit run.chars := by
  obtain ⟨c, rest, shape⟩ := List.exists_cons_of_ne_nil run.nonempty
  exact ⟨c, by simp [shape], run.isDigit c (by simp [shape])⟩

end Run

namespace Exponent

variable (exponent : Exponent)

theorem not_digit_letter : Decimal.isDigit exponent.letter = false := by
  rcases exponent.isLetter with lower | upper
  · rw [lower]
    decide
  · rw [upper]
    decide

theorem letter_ne_point : exponent.letter ≠ '.' := by
  rcases exponent.isLetter with lower | upper
  · simp [lower]
  · simp [upper]

theorem signedDigits?_behind :
    Decimal.signedDigits? (exponent.sign.toList ++ exponent.size.chars) = some exponent.value := by
  have all := exponent.size.all_isDigit
  have bare := Decimal.signedDigits?_withSign exponent.size.startsDigit
  rw [value, sinks]
  cases isSign : exponent.sign with
  | none => exact (bare false).trans (if_pos all)
  | some c =>
    rcases exponent.isSign c isSign with rfl | rfl
    · simp [Decimal.signedDigits?, all, exponent.size.nonempty]
    · exact (bare true).trans (if_pos all)

theorem mem_text {c : Char} (mem : c ∈ exponent.text) :
    Decimal.isDigit c = true ∨ c = 'e' ∨ c = 'E' ∨ c = '+' ∨ c = '-' ∧ exponent.sinks = true := by
  rcases List.mem_cons.mp mem with letter | behind
  · rcases exponent.isLetter with lower | upper
    · exact .inr (.inl (letter.trans lower))
    · exact .inr (.inr (.inl (letter.trans upper)))
  · rcases List.mem_append.mp behind with sign | digit
    · have isSign := Option.mem_toList.mp sign
      rcases exponent.isSign c isSign with plus | minus
      · exact .inr (.inr (.inr (.inl plus)))
      · exact .inr (.inr (.inr (.inr ⟨minus, by simp [sinks, Option.mem_def.mp isSign, minus]⟩)))
    · exact .inl (exponent.size.isDigit c digit)

theorem exponent?_text : Decimal.exponent? exponent.text = some exponent.value := by
  have isLetter : (exponent.letter == 'e' || exponent.letter == 'E') = true := by
    simpa using exponent.isLetter
  simp only [text, Decimal.exponent?, isLetter, if_true, exponent.signedDigits?_behind]

end Exponent

namespace Literal

variable (literal : Literal)

theorem startsDigit : Decimal.StartsDigit literal.unsigned :=
  literal.whole.startsDigit.append _

theorem exponent?_exponentText :
    Decimal.exponent? literal.exponentText = some (literal.scale + literal.decimals.length) := by
  rw [scale, exponentText]
  cases literal.exponent with
  | none =>
    simp only [Decimal.exponent?, Option.some_inj]
    omega
  | some exponent =>
    simp only [exponent.exponent?_text]
    congr 1
    omega

theorem fractionText_of_some {run : Run} (isFraction : literal.fraction = some run) :
    literal.fractionText = '.' :: run.chars ∧ literal.decimals = run.chars := by
  rw [fractionText, decimals, isFraction]
  exact ⟨rfl, rfl⟩

theorem fractionText_of_none (isFraction : literal.fraction = none) :
    literal.fractionText = [] ∧ literal.decimals = [] := by
  rw [fractionText, decimals, isFraction]
  exact ⟨rfl, rfl⟩

/-- A text goes on with nothing that belongs to the digits of a literal. -/
def LeavesDigits (tail : List Char) : Prop :=
  ∀ c ∈ tail.head?, Decimal.isDigit c = false ∧ c ≠ '.'

theorem leavesDigits_exponentText : LeavesDigits literal.exponentText := by
  rw [exponentText]
  cases literal.exponent with
  | none => simp [LeavesDigits]
  | some exponent =>
    rintro c ⟨⟩
    exact ⟨exponent.not_digit_letter, exponent.letter_ne_point⟩

theorem fractionText_append_head {tail : List Char} (leaves : LeavesDigits tail) :
    ∀ c ∈ (literal.fractionText ++ tail).head?, Decimal.isDigit c = false := by
  rw [fractionText]
  cases literal.fraction with
  | none => exact fun c isHead => (leaves c isHead).1
  | some run =>
    rintro c ⟨⟩
    decide

/-- The digits of a literal stand in front of its exponent and of what a reader takes for one. -/
theorem unsignedFloat?_append {tail : List Char} (leaves : LeavesDigits tail) :
    Decimal.unsignedFloat? (literal.whole.chars ++ (literal.fractionText ++ tail)) =
      (Decimal.exponent? tail).map fun exponent =>
        scaled literal.significand (exponent - literal.decimals.length) := by
  obtain ⟨front, back⟩ :=
    Path.span_append literal.whole.isDigit (literal.fractionText_append_head leaves)
  have filled : literal.whole.chars.isEmpty = false := by simpa using literal.whole.nonempty
  rw [Decimal.unsignedFloat?, front, back, significand]
  cases isFraction : literal.fraction with
  | some run =>
    obtain ⟨isText, isDecimals⟩ := literal.fractionText_of_some isFraction
    obtain ⟨front', back'⟩ := Path.span_append run.isDigit fun c isHead => (leaves c isHead).1
    simp only [isText, List.cons_append, front', back', filled, isDecimals, Bool.false_and,
      Bool.false_eq_true, if_false]
  | none =>
    obtain ⟨isText, isDecimals⟩ := literal.fractionText_of_none isFraction
    simp only [isText, List.nil_append, filled, Bool.false_and, Bool.false_eq_true, if_false]
    split
    next => exact absurd rfl (leaves '.' rfl).2
    next => rw [isDecimals]

theorem float?_text :
    Decimal.float? literal.text =
      some (literal.signed (scaled literal.significand literal.scale)) := by
  have magnitude := literal.unsignedFloat?_append literal.leavesDigits_exponentText
  rw [literal.exponent?_exponentText, Option.map_some, Int.add_sub_cancel] at magnitude
  rw [text, Decimal.float?_withSign literal.startsDigit, unsigned, magnitude]
  rfl

theorem all_isDigit_unsigned : literal.unsigned.all Decimal.isDigit = literal.isInteger := by
  rw [unsigned, List.all_append, List.all_append, literal.whole.all_isDigit, Bool.true_and,
    isInteger, fractionText, exponentText]
  congr 1
  · cases literal.fraction with
    | none => rfl
    | some run => rfl
  · cases literal.exponent with
    | none => rfl
    | some exponent => simp [Exponent.text, exponent.not_digit_letter]

theorem parts_of_isInteger (isInteger : literal.isInteger = true) :
    literal.fraction = none ∧ literal.exponent = none := by
  rwa [Literal.isInteger, Bool.and_eq_true, Option.isNone_iff_eq_none, Option.isNone_iff_eq_none]
    at isInteger

theorem unsigned_of_isInteger (isInteger : literal.isInteger = true) :
    literal.unsigned = literal.whole.chars := by
  obtain ⟨noFraction, noExponent⟩ := literal.parts_of_isInteger isInteger
  rw [unsigned, fractionText, exponentText, noFraction, noExponent]
  simp

theorem signed?_text :
    Decimal.signed? literal.text =
      if literal.isInteger ∧ Decimal.Signed literal.integer then some literal.integer
      else none := by
  rw [Decimal.signed?, text, Decimal.signedDigits?_withSign literal.startsDigit,
    literal.all_isDigit_unsigned]
  cases isInteger : literal.isInteger with
  | true =>
    rw [literal.unsigned_of_isInteger isInteger]
    simp only [if_true, true_and]
    rfl
  | false => simp

/-- Paths and calls turn a whole literal into the same number. -/
theorem numberOf?_text : Path.numberOf? literal.text = literal.meaning? := by
  rw [Path.numberOf?, literal.signed?_text, literal.float?_text, meaning?]
  by_cases whole : literal.isInteger = true ∧ Decimal.Signed literal.integer
  · rw [if_pos whole, if_pos whole]
  · rw [if_neg whole, if_neg whole]
    rfl

/-! ## A literal in a path -/

theorem mem_fractionText {c : Char} (mem : c ∈ literal.fractionText) :
    Decimal.isDigit c = true ∨ c = '.' := by
  rw [fractionText] at mem
  cases isFraction : literal.fraction with
  | none => simp [isFraction] at mem
  | some run =>
    rw [isFraction] at mem
    rcases List.mem_cons.mp mem with point | digit
    · exact .inr point
    · exact .inl (run.isDigit c digit)

theorem mem_unsigned {c : Char} (mem : c ∈ literal.unsigned) :
    Decimal.isDigit c = true ∨ c = '.' ∨ c = 'e' ∨ c = 'E' ∨ c = '+' ∨
      c = '-' ∧ literal.sinks = true := by
  rw [unsigned, List.mem_append, List.mem_append] at mem
  rcases mem with whole | fraction | exponent
  · exact .inl (literal.whole.isDigit c whole)
  · rcases literal.mem_fractionText fraction with digit | point
    · exact .inl digit
    · exact .inr (.inl point)
  · rw [exponentText] at exponent
    rw [Literal.sinks]
    cases isExponent : literal.exponent with
    | none => simp [isExponent] at exponent
    | some power =>
      rw [isExponent] at exponent
      exact (power.mem_text exponent).imp_right .inr

variable {rest : List Char}

theorem readNumber_text (stops : ∀ c ∈ rest.head?, Path.inNumber c = false) :
    Path.readNumber (literal.text ++ rest) =
      match literal.meaning? with
      | some value => .ok (value, rest)
      | none => Path.stop (.badNumber (String.ofList literal.text)) rest := by
  have inMagnitude : ∀ c ∈ literal.unsigned, Path.inNumber c = true := by
    intro c mem
    rcases literal.mem_unsigned mem with digit | rfl | rfl | rfl | rfl | ⟨rfl, -⟩
    · simp [Path.inNumber, digit]
    all_goals decide
  have inside : ∀ c ∈ literal.text, Path.inNumber c = true := by
    intro c mem
    rw [text, Decimal.withSign] at mem
    split at mem
    next =>
      rcases List.mem_cons.mp mem with rfl | mem
      · decide
      · exact inMagnitude c mem
    next => exact inMagnitude c mem
  obtain ⟨front, back⟩ := Path.span_append inside stops
  cases meaning : literal.meaning? <;>
    simp only [Path.readNumber, front, back, literal.numberOf?_text, meaning]

/-! ## A literal in a call -/

/-- A call reads a sign and then the characters that a magnitude may have without one. -/
theorem readNumber_withSign {body : List Char} (starts : Decimal.StartsDigit body)
    (negative : Bool) :
    Intrinsic.readNumber (Decimal.withSign negative body) =
      match Intrinsic.numberOf?
        (Decimal.withSign negative (body.takeWhile Intrinsic.inNumber)) with
      | some value => .ok (value, body.dropWhile Intrinsic.inNumber)
      | none => Intrinsic.stop .badNumber (body.dropWhile Intrinsic.inNumber) := by
  cases negative with
  | true => rfl
  | false =>
    change Intrinsic.readNumber body = _
    rw [Intrinsic.readNumber]
    · rfl
    · exact starts.head_ne (by decide)

/-- A call reads a literal as a path does, as long as it meets no minus sign. -/
theorem readNumber_of_not_sinks (rises : literal.sinks = false)
    (stops : ∀ c ∈ rest.head?, Intrinsic.inNumber c = false) :
    Intrinsic.readNumber (literal.text ++ rest) =
      match literal.meaning? with
      | some value => .ok (value, rest)
      | none => Intrinsic.stop .badNumber rest := by
  have inside : ∀ c ∈ literal.unsigned, Intrinsic.inNumber c = true := by
    intro c mem
    rcases literal.mem_unsigned mem with digit | rfl | rfl | rfl | rfl | ⟨-, sinks⟩
    · exact Intrinsic.inNumber_of_digit digit
    · decide
    · decide
    · decide
    · decide
    · rw [rises] at sinks
      contradiction
  obtain ⟨front, back⟩ := Path.span_append inside stops
  have same : Intrinsic.numberOf? literal.text = Path.numberOf? literal.text := rfl
  rw [← literal.numberOf?_text, ← same]
  rw [text, Decimal.withSign_append, readNumber_withSign (literal.startsDigit.append rest), front,
    back]

/-- The digits of the exponent. -/
def exponentDigits : List Char :=
  match literal.exponent with
  | some exponent => exponent.size.chars
  | none => []

/-- In front of a minus sign stands the letter of the exponent. -/
theorem exponentText_of_sinks (sinks : literal.sinks = true) :
    ∃ letter, (letter = 'e' ∨ letter = 'E') ∧
      literal.exponentText = letter :: '-' :: literal.exponentDigits := by
  rw [exponentText, exponentDigits]
  rw [Literal.sinks] at sinks
  cases isExponent : literal.exponent with
  | none => simp [isExponent] at sinks
  | some exponent =>
    have isMinus : exponent.sign = some '-' := by
      simpa [isExponent, Exponent.sinks] using sinks
    refine ⟨exponent.letter, exponent.isLetter, ?_⟩
    simp only [Exponent.text, isMinus]
    rfl

/-- A call does not go on reading an exponent at a minus sign, and what it has read is no number. -/
theorem readNumber_of_sinks (sinks : literal.sinks = true) :
    Intrinsic.readNumber (literal.text ++ rest) =
      Intrinsic.stop .badNumber ('-' :: (literal.exponentDigits ++ rest)) := by
  obtain ⟨letter, isLetter, shape⟩ := literal.exponentText_of_sinks sinks
  have noDigit : Decimal.isDigit letter = false := by
    rcases isLetter with rfl | rfl
    · decide
    · decide
  have inside : ∀ c ∈ literal.whole.chars ++ (literal.fractionText ++ [letter]),
      Intrinsic.inNumber c = true := by
    intro c mem
    rcases List.mem_append.mp mem with whole | mem
    · exact Intrinsic.inNumber_of_digit (literal.whole.isDigit c whole)
    rcases List.mem_append.mp mem with fraction | mem
    · rcases literal.mem_fractionText fraction with digit | rfl
      · exact Intrinsic.inNumber_of_digit digit
      · decide
    · obtain rfl := List.mem_singleton.mp mem
      rcases isLetter with rfl | rfl
      · decide
      · decide
  have stops : ∀ c ∈ ('-' :: (literal.exponentDigits ++ rest)).head?,
      Intrinsic.inNumber c = false := by
    rintro c ⟨⟩
    decide
  obtain ⟨front, back⟩ := Path.span_append inside stops
  have split : literal.unsigned ++ rest =
      literal.whole.chars ++ (literal.fractionText ++ [letter]) ++
        '-' :: (literal.exponentDigits ++ rest) := by
    rw [unsigned, shape]
    simp
  have starts := literal.whole.startsDigit.append (literal.fractionText ++ [letter])
  have leaves : LeavesDigits [letter] := by
    rintro c ⟨⟩
    refine ⟨noDigit, ?_⟩
    rintro rfl
    simp at isLetter
  have noInteger : Decimal.signed? (Decimal.withSign literal.negative
      (literal.whole.chars ++ (literal.fractionText ++ [letter]))) = none := by
    rw [Decimal.signed?, Decimal.signedDigits?_withSign starts]
    simp [noDigit]
  have noFloat : Decimal.float? (Decimal.withSign literal.negative
      (literal.whole.chars ++ (literal.fractionText ++ [letter]))) = none := by
    have noExponent : Decimal.exponent? [letter] = none := by
      rcases isLetter with rfl | rfl
      · rfl
      · rfl
    rw [Decimal.float?_withSign starts, literal.unsignedFloat?_append leaves, noExponent]
    rfl
  rw [text, Decimal.withSign_append, readNumber_withSign (literal.startsDigit.append rest), split,
    front, back, Intrinsic.numberOf?, noInteger, noFloat]
  rfl

end Literal

end Workflow.Number
