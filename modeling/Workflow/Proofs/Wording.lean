import Workflow.Proofs.Enclosure

/-!
# The wording of intrinsic calls

Which texts stand for a call. Blanks may stand around arguments, commas and parentheses. In a string
a backslash takes the next character as it is, apart from braces, so quotes and backslashes need one
and other characters may have one. A path argument has to be enclosed.

Every such text is read back as its call, and every call has one: every argument takes its own text
off the front, whatever stands behind it as long as a comma or a closing parenthesis ends it.
-/

namespace Workflow.Intrinsic

/-! ## Strings -/

/-- The texts that stand for characters between single quotes. -/
inductive StringText : (chars text : List Char) → Prop where
  | nil : StringText [] []
  | plain {c : Char} {chars text : List Char} (noQuote : c ≠ '\x27') (noEscape : c ≠ '\\')
      (rest : StringText chars text) : StringText (c :: chars) (c :: text)
  | escape (c : Char) {chars text : List Char} (rest : StringText chars text) :
      StringText (unescaped c ++ chars) ('\\' :: c :: text)

theorem readString_text {chars text : List Char} (spelled : StringText chars text)
    (rest : List Char) : readString (text ++ '\x27' :: rest) = .ok (chars, rest) := by
  induction spelled with
  | nil => rfl
  | plain noQuote noEscape _ ih =>
    rw [List.cons_append, readString]
    · simp only [noQuote, if_false, ih]
    · intro broken
      exact absurd broken noEscape
    · intro _ _ broken
      exact absurd broken noEscape
  | escape c _ ih => simp only [List.cons_append, readString, ih]

/-- A backslash before each quote and each backslash is enough. -/
theorem stringText_escaped (chars : List Char) : StringText chars (Path.escaped chars) := by
  induction chars with
  | nil => exact .nil
  | cons c chars ih =>
    rw [Path.escaped]
    split
    next marked =>
      have kept : unescaped c = [c] := by
        rcases marked with rfl | rfl
        · rfl
        · rfl
      simpa only [kept, List.singleton_append] using StringText.escape c ih
    next plain =>
      rw [not_or] at plain
      exact .plain plain.1 plain.2 ih

/-! ## Numbers -/

/-- A digit or a minus sign, and then what a number may hold. -/
def IsNumeral (text : List Char) : Prop :=
  ∃ c rest, text = c :: rest ∧ (c = '-' ∨ Decimal.isDigit c = true) ∧ ∀ d ∈ rest, inNumber d = true

theorem inNumber_of_digit {c : Char} (digit : Decimal.isDigit c = true) : inNumber c = true := by
  simp [inNumber, digit]

theorem not_blank_of_inNumber {c : Char} (inside : inNumber c = true) : Text.isBlank c = false := by
  simp only [inNumber, Bool.or_eq_true, beq_iff_eq] at inside
  rcases inside with (((digit | rfl) | rfl) | rfl) | rfl
  · exact Path.not_blank_of_digit digit
  all_goals decide

theorem isNumeral_integer (value : Int) : IsNumeral (Decimal.integer value) := by
  obtain ⟨c, rest, shape, first, digits⟩ := Decimal.integer_eq_cons value
  exact ⟨c, rest, shape, first, fun d mem => inNumber_of_digit (digits d mem)⟩

theorem readNumber_numeral {text : List Char} (numeral : IsNumeral text) {value : Number}
    (means : numberOf? text = some value) {rest : List Char}
    (stops : ∀ c ∈ rest.head?, inNumber c = false) :
    readNumber (text ++ rest) = .ok (value, rest) := by
  obtain ⟨c, run, rfl, start, inside⟩ := numeral
  by_cases minus : c = '-'
  · subst minus
    have ⟨front, back⟩ := Path.span_append inside stops
    simp [readNumber, front, back, means]
  · have digit := start.resolve_left minus
    have all : ∀ d ∈ c :: run, inNumber d = true := by
      simpa using ⟨inNumber_of_digit digit, inside⟩
    have ⟨front, back⟩ := Path.span_append all stops
    rw [List.cons_append] at front back
    simp [readNumber, minus, front, back, means]

/-! ## Literals -/

/-- The texts that stand for a value. -/
inductive LiteralText : Json → List Char → Prop where
  | string {chars text : List Char} (spelled : StringText chars text) :
      LiteralText (.string (String.ofList chars)) ('\x27' :: (text ++ ['\x27']))
  | number {text : List Char} {value : Number} (numeral : IsNumeral text)
      (means : numberOf? text = some value) : LiteralText (.number value) text
  | true : LiteralText (.bool true) ['t', 'r', 'u', 'e']
  | false : LiteralText (.bool false) ['f', 'a', 'l', 's', 'e']
  | null : LiteralText .null ['n', 'u', 'l', 'l']

/-- What may stand behind an argument: blanks, and then a comma or the closing parenthesis. -/
def EndsArgument (rest : List Char) : Prop :=
  ∃ gap c tail, rest = gap ++ c :: tail ∧ Text.Blank gap ∧ (c = ',' ∨ c = ')')

theorem EndsArgument.not_inNumber {rest : List Char} (ends : EndsArgument rest) :
    ∀ c ∈ rest.head?, inNumber c = false := by
  obtain ⟨gap, d, tail, rfl, blank, mark⟩ := ends
  intro c mem
  cases gap with
  | nil =>
    obtain rfl : d = c := by simpa using mem
    rcases mark with rfl | rfl
    · decide
    · decide
  | cons b gap =>
    obtain rfl : b = c := by simpa using mem
    rw [Bool.eq_false_iff]
    intro inside
    have dark := not_blank_of_inNumber inside
    simp [blank b (by simp)] at dark

theorem readPlain_of_numeric {c : Char} (numeric : (c == '-' || Decimal.isDigit c) = true)
    (tail : List Char) :
    readPlain (c :: tail) =
      (readNumber (c :: tail)).map fun read => (.literal (.number read.1), read.2) := by
  rw [readPlain]
  · simp only [numeric, if_true]
    cases readNumber (c :: tail) <;> rfl
  · exact Path.ne_of_numeric numeric (by decide)
  · exact Path.ne_of_numeric numeric (by decide)
  · exact fun _ letter _ => Path.ne_of_numeric numeric (by decide) letter
  · exact fun _ letter _ => Path.ne_of_numeric numeric (by decide) letter
  · exact fun _ letter _ => Path.ne_of_numeric numeric (by decide) letter

theorem readPlain_literal {value : Json} {text : List Char} (spelled : LiteralText value text)
    {rest : List Char} (ends : EndsArgument rest) :
    readPlain (text ++ rest) = .ok (.literal value, rest) := by
  cases spelled with
  | string spelled =>
    have read := readString_text spelled rest
    simp only [List.cons_append, List.append_assoc, List.nil_append, readPlain, read, bind,
      Except.bind, pure, Except.pure]
  | number numeral means =>
    have read := readNumber_numeral numeral means ends.not_inNumber
    obtain ⟨c, run, rfl, start, inside⟩ := numeral
    have numeric : (c == '-' || Decimal.isDigit c) = true := by simpa using start
    rw [List.cons_append] at read ⊢
    rw [readPlain_of_numeric numeric, read]
    rfl
  | true => rfl
  | false => rfl
  | null => rfl

theorem literalText_of_isLiteral {value : Json} (valid : Path.IsLiteral value) :
    LiteralText value (Path.literalText value) := by
  match value, valid with
  | .null, _ => exact .null
  | .bool true, _ => exact .true
  | .bool false, _ => exact .false
  | .string text, _ =>
    simpa [Path.literalText, Path.quoted] using LiteralText.string (stringText_escaped text.toList)
  | .number (.int value), fits =>
    refine .number (isNumeral_integer value) ?_
    simp [Path.literalText, numberOf?, Decimal.signed?_integer fits]

/-! ## Path arguments -/

theorem readPlain_path {text : List Char} (spelled : PathText text) {rest : List Char}
    (ends : EndsArgument rest) :
    readPlain (text ++ rest) = .ok (.path (String.ofList text), Text.trimStart rest) := by
  obtain ⟨gap, c, tail, rfl, blank, mark⟩ := ends
  have passed : scan none 0 (text ++ gap) = some (none, 0) := by
    rw [scan_append, spelled.enclosed]
    exact scan_gap blank 0
  have stopped : splitPath none 0 (c :: tail) = ([], c :: tail) := by
    rcases mark with rfl | rfl
    · rfl
    · rfl
  have dark : Text.isBlank c = false := by
    rcases mark with rfl | rfl
    · decide
    · decide
  have split := splitPath_append passed (c :: tail)
  have trimmed : Text.trimEnd (text ++ gap) = text := by
    rw [Text.trimEnd_gap blank, Text.trimEnd_of_dark spelled.dark]
  obtain ⟨body, rfl⟩ := spelled.starts
  rw [stopped, List.append_nil, List.append_assoc] at split
  rw [Text.trimStart_gap_cons blank dark]
  rw [List.cons_append] at split ⊢
  simp only [readPlain, split, trimmed]

/-! ## Calls -/

/-- The name of a function: letters and digits of ASCII, at least one. -/
def IsName (name : List Char) : Prop := name ≠ [] ∧ ∀ c ∈ name, inName c = true

instance (name : List Char) : Decidable (IsName name) :=
  decidable_of_iff (name ≠ [] ∧ name.all inName = true) (and_congr_right' List.all_eq_true)

/-- What every call starts with. -/
def opening : List Char := ['S', 't', 'a', 't', 'e', 's', '.']

mutual

/-- The texts that stand for a call, behind its opening. -/
inductive CallText : Call → List Char → Prop where
  | bare {name front inside : List Char} (named : IsName name) (before : Text.Blank front)
      (within : Text.Blank inside) :
      CallText (.mk (String.ofList name) []) (name ++ (front ++ '(' :: (inside ++ [')'])))
  | applied {name front text : List Char} {arguments : List Argument} (named : IsName name)
      (before : Text.Blank front) (inner : ArgumentsText arguments text) :
      CallText (.mk (String.ofList name) arguments) (name ++ (front ++ '(' :: text))

/-- The texts that stand for arguments, with the parenthesis that closes the call. -/
inductive ArgumentsText : List Argument → List Char → Prop where
  | last {front text back : List Char} {argument : Argument} (before : Text.Blank front)
      (spelled : ArgumentText argument text) (after : Text.Blank back) :
      ArgumentsText [argument] (front ++ (text ++ (back ++ [')'])))
  | more {front text back rest : List Char} {argument : Argument} {others : List Argument}
      (before : Text.Blank front) (spelled : ArgumentText argument text) (after : Text.Blank back)
      (behind : ArgumentsText others rest) :
      ArgumentsText (argument :: others) (front ++ (text ++ (back ++ ',' :: rest)))

/-- The texts that stand for an argument. -/
inductive ArgumentText : Argument → List Char → Prop where
  | literal {value : Json} {text : List Char} (spelled : LiteralText value text) :
      ArgumentText (.literal value) text
  | call {inner : Call} {text : List Char} (spelled : CallText inner text) :
      ArgumentText (.call inner) (opening ++ text)
  | path {text : List Char} (spelled : PathText text) :
      ArgumentText (.path (String.ofList text)) text

end

/-- The texts that hold a call, perhaps between blanks. -/
def Spelled (call : Call) (text : String) : Prop :=
  ∃ front inside back, Text.Blank front ∧ CallText call inside ∧ Text.Blank back ∧
    text = String.ofList (front ++ (opening ++ inside ++ back))

/-! ## Reading calls -/

theorem not_blank_of_inName {c : Char} (inside : inName c = true) : Text.isBlank c = false := by
  apply Text.isBlank_eq_false_of_isLetterOrNumeral
  simp only [inName, Bool.or_eq_true] at inside
  simp only [Text.isLetterOrNumeral, Text.isLetter, Bool.or_eq_true]
  tauto

/-- A name ends at blanks and at the opening parenthesis. -/
theorem span_name {name front : List Char} (named : IsName name) (before : Text.Blank front)
    (tail : List Char) :
    (name ++ (front ++ '(' :: tail)).takeWhile inName = name ∧
      (name ++ (front ++ '(' :: tail)).dropWhile inName = front ++ '(' :: tail := by
  apply Path.span_append named.2
  intro c mem
  cases front with
  | nil =>
    obtain rfl : '(' = c := by simpa using mem
    decide
  | cons b front =>
    obtain rfl : b = c := by simpa using mem
    rw [Bool.eq_false_iff]
    intro inside
    have dark := not_blank_of_inName inside
    simp [before b (by simp)] at dark

/-- No argument starts with a blank or with a parenthesis. -/
theorem ArgumentText.starts {argument : Argument} {text : List Char}
    (spelled : ArgumentText argument text) :
    ∃ c rest, text = c :: rest ∧ Text.isBlank c = false ∧ c ≠ ')' := by
  cases spelled with
  | literal spelled =>
    cases spelled with
    | number numeral means =>
      obtain ⟨c, rest, shape, rfl | digit, -⟩ := numeral
      · exact ⟨_, _, shape, by decide⟩
      · exact ⟨c, rest, shape, Path.not_blank_of_digit digit, Path.ne_of_digit digit rfl⟩
    | string spelled => exact ⟨_, _, rfl, by decide⟩
    | true => exact ⟨_, _, rfl, by decide⟩
    | false => exact ⟨_, _, rfl, by decide⟩
    | null => exact ⟨_, _, rfl, by decide⟩
  | call spelled => exact ⟨_, _, rfl, by decide⟩
  | path spelled =>
    obtain ⟨rest, rfl⟩ := spelled.starts
    exact ⟨_, _, rfl, by decide⟩

/-- Only calls start with the opening. -/
theorem afterStart?_of_ne {c : Char} (other : c ≠ 'S') (rest : List Char) :
    afterStart? (c :: rest) = none := by
  rw [afterStart?]
  rintro tail shape
  exact other (List.cons.inj shape).1

theorem LiteralText.afterStart? {value : Json} {text : List Char} (spelled : LiteralText value text)
    (rest : List Char) : afterStart? (text ++ rest) = none := by
  cases spelled with
  | number numeral means =>
    obtain ⟨c, tail, rfl, rfl | digit, -⟩ := numeral
    · exact afterStart?_of_ne (by decide) _
    · exact afterStart?_of_ne (Path.ne_of_digit digit rfl) _
  | string spelled => exact afterStart?_of_ne (by decide) _
  | true => exact afterStart?_of_ne (by decide) _
  | false => exact afterStart?_of_ne (by decide) _
  | null => exact afterStart?_of_ne (by decide) _

theorem readCall_bare {name front inside : List Char} (named : IsName name)
    (before : Text.Blank front) (within : Text.Blank inside) {fuel : Nat} (enough : 1 ≤ fuel)
    (rest : List Char) :
    readCall fuel (name ++ (front ++ '(' :: (inside ++ ')' :: rest))) =
      .ok (.mk (String.ofList name) [], rest) := by
  obtain ⟨run, behind⟩ := span_name named before (inside ++ ')' :: rest)
  have opened := Text.trimStart_gap_cons before (by decide : Text.isBlank '(' = false)
    (inside ++ ')' :: rest)
  have closed := Text.trimStart_gap_cons within (by decide : Text.isBlank ')' = false) rest
  cases fuel with
  | zero => omega
  | succ fuel => simp [readCall, run, behind, opened, closed, named.1]

/-- Behind the parenthesis of a call with arguments, the arguments are read. -/
theorem readCall_applied {name front text : List Char} (named : IsName name)
    (before : Text.Blank front) {arguments : List Argument} {fuel : Nat} {rest : List Char}
    (starts : ∃ c tail, Text.trimStart text = c :: tail ∧ c ≠ ')')
    (read : readArguments fuel text = .ok (arguments, rest)) :
    readCall (fuel + 1) (name ++ (front ++ '(' :: text)) =
      .ok (.mk (String.ofList name) arguments, rest) := by
  obtain ⟨run, behind⟩ := span_name named before text
  obtain ⟨c, tail, shape, other⟩ := starts
  have opened := Text.trimStart_gap_cons before (by decide : Text.isBlank '(' = false) text
  have filled : name.isEmpty = false := by simp [named.1]
  have same : readArguments fuel (c :: tail) = readArguments fuel text := by
    rw [← shape]
    cases fuel with
    | zero => simp [readArguments, stop] at read
    | succ fuel => simp only [readArguments, Text.trimStart_trimStart]
  simp only [readCall, run, behind, opened, shape, filled, Bool.false_eq_true, if_false]
  split
  next closed => exact absurd (List.cons.inj closed).1 other
  next => simp only [same, read, bind, Except.bind, pure, Except.pure]

theorem ArgumentsText.starts {arguments : List Argument} {text : List Char}
    (spelled : ArgumentsText arguments text) (rest : List Char) :
    ∃ c tail, Text.trimStart (text ++ rest) = c :: tail ∧ c ≠ ')' := by
  cases spelled with
  | last before spelled after =>
    obtain ⟨c, tail, rfl, dark, other⟩ := spelled.starts
    simp only [List.append_assoc, List.cons_append, Text.trimStart_gap_cons before dark]
    exact ⟨c, _, rfl, other⟩
  | more before spelled after behind =>
    obtain ⟨c, tail, rfl, dark, other⟩ := spelled.starts
    simp only [List.append_assoc, List.cons_append, Text.trimStart_gap_cons before dark]
    exact ⟨c, _, rfl, other⟩

/-- An argument is taken off the front of a text, perhaps with the blanks behind it. -/
def Taken (argument : Argument) (text : List Char) : Prop :=
  ∀ fuel gap c tail, text.length ≤ fuel → Text.Blank gap → c = ',' ∨ c = ')' →
    ∃ rest, readArgument fuel (text ++ (gap ++ c :: tail)) = .ok (argument, rest) ∧
      Text.trimStart rest = c :: tail

theorem EndsArgument.trimStart {gap : List Char} (blank : Text.Blank gap) {c : Char}
    (mark : c = ',' ∨ c = ')') (tail : List Char) :
    Text.trimStart (gap ++ c :: tail) = c :: tail := by
  apply Text.trimStart_gap_cons blank
  rcases mark with rfl | rfl
  · decide
  · decide

theorem taken_literal {value : Json} {text : List Char} (spelled : LiteralText value text) :
    Taken (.literal value) text := by
  intro fuel gap c tail enough blank mark
  obtain ⟨first, more, shape, -, -⟩ := (ArgumentText.literal spelled).starts
  have read := readPlain_literal spelled ⟨gap, c, tail, rfl, blank, mark⟩
  refine ⟨gap ++ c :: tail, ?_, EndsArgument.trimStart blank mark tail⟩
  cases fuel with
  | zero => simp [shape] at enough
  | succ fuel => simp only [readArgument, spelled.afterStart?, read]

theorem taken_path {text : List Char} (spelled : PathText text) :
    Taken (.path (String.ofList text)) text := by
  intro fuel gap c tail enough blank mark
  have read := readPlain_path spelled ⟨gap, c, tail, rfl, blank, mark⟩
  refine ⟨c :: tail, ?_, EndsArgument.trimStart Text.blank_nil mark tail⟩
  obtain ⟨body, rfl⟩ := spelled.starts
  have plain : afterStart? ('$' :: (body ++ (gap ++ c :: tail))) = none :=
    afterStart?_of_ne (by decide) _
  cases fuel with
  | zero => simp at enough
  | succ fuel =>
    rw [List.cons_append] at read ⊢
    simp only [readArgument, plain, read, EndsArgument.trimStart blank mark]

theorem taken_call {inner : Call} {text : List Char}
    (read : ∀ fuel rest, text.length ≤ fuel → readCall fuel (text ++ rest) = .ok (inner, rest)) :
    Taken (.call inner) (opening ++ text) := by
  intro fuel gap c tail enough blank mark
  refine ⟨gap ++ c :: tail, ?_, EndsArgument.trimStart blank mark tail⟩
  simp only [List.length_append, opening, List.length_cons, List.length_nil] at enough
  cases fuel with
  | zero => omega
  | succ fuel =>
    have here := read fuel (gap ++ c :: tail) (by omega)
    simp only [opening, List.cons_append, List.nil_append, readArgument, afterStart?, here, bind,
      Except.bind, pure, Except.pure]

theorem readArguments_last {argument : Argument} {front text back : List Char}
    (before : Text.Blank front) (spelled : ArgumentText argument text) (after : Text.Blank back)
    (taken : Taken argument text) {fuel : Nat} (enough : text.length ≤ fuel) (rest : List Char) :
    readArguments (fuel + 1) (front ++ (text ++ (back ++ ')' :: rest))) =
      .ok ([argument], rest) := by
  obtain ⟨ahead, read, next⟩ := taken fuel back ')' rest enough after (.inr rfl)
  obtain ⟨c, tail, rfl, dark, -⟩ := spelled.starts
  rw [List.cons_append] at read ⊢
  simp only [readArguments, Text.trimStart_gap_cons before dark, read, bind, Except.bind, next,
    pure, Except.pure]

theorem readArguments_more {argument : Argument} {front text back behind : List Char}
    (before : Text.Blank front) (spelled : ArgumentText argument text) (after : Text.Blank back)
    (taken : Taken argument text) {fuel : Nat} (enough : text.length ≤ fuel)
    {others : List Argument} {rest : List Char}
    (readOthers : readArguments fuel behind = .ok (others, rest)) :
    readArguments (fuel + 1) (front ++ (text ++ (back ++ ',' :: behind))) =
      .ok (argument :: others, rest) := by
  obtain ⟨ahead, read, next⟩ := taken fuel back ',' behind enough after (.inl rfl)
  obtain ⟨c, tail, rfl, dark, -⟩ := spelled.starts
  rw [List.cons_append] at read ⊢
  simp only [readArguments, Text.trimStart_gap_cons before dark, read, bind, Except.bind, next,
    readOthers, pure, Except.pure]

mutual

theorem readCall_text {call : Call} {text : List Char} (spelled : CallText call text) (fuel : Nat)
    (rest : List Char) (enough : text.length ≤ fuel) :
    readCall fuel (text ++ rest) = .ok (call, rest) := by
  cases spelled with
  | bare named before within =>
    have short : 1 ≤ fuel := by
      simp only [List.length_append, List.length_cons] at enough
      omega
    simpa using readCall_bare named before within short rest
  | applied named before inner =>
    simp only [List.length_append, List.length_cons] at enough
    cases fuel with
    | zero => omega
    | succ fuel =>
      have read := readArguments_text inner fuel rest (by omega)
      simpa using readCall_applied named before (inner.starts rest) read

theorem readArguments_text {arguments : List Argument} {text : List Char}
    (spelled : ArgumentsText arguments text) (fuel : Nat) (rest : List Char)
    (enough : text.length ≤ fuel) :
    readArguments fuel (text ++ rest) = .ok (arguments, rest) := by
  cases spelled with
  | last before spelled after =>
    simp only [List.length_append, List.length_cons, List.length_nil] at enough
    cases fuel with
    | zero => omega
    | succ fuel =>
      have taken := taken_text spelled
      simpa using readArguments_last before spelled after taken (by omega) rest
  | more before spelled after behind =>
    simp only [List.length_append, List.length_cons] at enough
    cases fuel with
    | zero => omega
    | succ fuel =>
      have taken := taken_text spelled
      have others := readArguments_text behind fuel rest (by omega)
      simpa using readArguments_more before spelled after taken (by omega) others

theorem taken_text {argument : Argument} {text : List Char}
    (spelled : ArgumentText argument text) : Taken argument text := by
  cases spelled with
  | literal spelled => exact taken_literal spelled
  | call spelled => exact taken_call fun fuel rest => readCall_text spelled fuel rest
  | path spelled => exact taken_path spelled

end

theorem ArgumentsText.closed {arguments : List Argument} {text : List Char}
    (spelled : ArgumentsText arguments text) : ∃ front, text = front ++ [')'] := by
  induction arguments generalizing text with
  | nil => cases spelled
  | cons argument others ih =>
    cases spelled with
    | @last front text back _ before spelled after => exact ⟨front ++ (text ++ back), by simp⟩
    | @more front text back rest _ _ before spelled after behind =>
      obtain ⟨inside, rfl⟩ := ih behind
      exact ⟨front ++ (text ++ (back ++ ',' :: inside)), by simp⟩

theorem CallText.closed {call : Call} {text : List Char} (spelled : CallText call text) :
    ∃ front, text = front ++ [')'] := by
  cases spelled with
  | @bare name front inside named before within => exact ⟨name ++ (front ++ '(' :: inside), by simp⟩
  | @applied name front _ _ named before inner =>
    obtain ⟨inside, rfl⟩ := inner.closed
    exact ⟨name ++ (front ++ '(' :: inside), by simp⟩

/-- A call starts and ends with no blank of its own. -/
theorem trim_call {front inside back : List Char} (before : Text.Blank front)
    (closed : ∃ body, inside = body ++ [')']) (after : Text.Blank back) :
    Text.trim (front ++ (opening ++ inside ++ back)) = opening ++ inside := by
  have dark : Text.Dark (opening ++ inside).reverse := by
    obtain ⟨body, rfl⟩ := closed
    simp [Text.Dark]
    decide
  exact Text.trim_between before after (by decide) dark

theorem parse_of_spelled {call : Call} {text : String} (spelled : Spelled call text) :
    parse text = .ok call := by
  obtain ⟨front, inside, back, before, spelled, after, rfl⟩ := spelled
  have trimmed := trim_call before spelled.closed after
  have read := readCall_text spelled (budget (opening ++ inside).length) [] (by
    simp only [budget, List.length_append]
    omega)
  have started : afterStart? (opening ++ inside) = some inside := rfl
  rw [List.append_nil] at read
  simp only [parse, String.toList_ofList, trimmed, Intrinsic.read, started, read, bind,
    Except.bind]
  rfl

/-! ## Canonical texts -/

/-- Arguments that are written already, with a comma and a space between them, and the parenthesis
that closes the call. -/
def listed : List (List Char) → List Char
  | [] => [')']
  | [text] => text ++ [')']
  | text :: second :: rest => text ++ ',' :: ' ' :: listed (second :: rest)

theorem listed_closed (texts : List (List Char)) : ∃ body, listed texts = body ++ [')'] := by
  induction texts using listed.induct with
  | case1 => exact ⟨[], rfl⟩
  | case2 text => exact ⟨text, rfl⟩
  | case3 text second rest ih =>
    obtain ⟨body, shape⟩ := ih
    exact ⟨text ++ ',' :: ' ' :: body, by simp [listed, shape]⟩

def invocation (name : String) (arguments : List (List Char)) : List Char :=
  name.toList ++ '(' :: listed arguments

/-- The text of a call whose arguments are written already. -/
def callText (name : String) (arguments : List (List Char)) : String :=
  String.ofList (opening ++ invocation name arguments)

mutual

/-- The canonical text of a call, behind its opening. -/
def Call.inside : Call → List Char
  | .mk name arguments => invocation name (allTexts arguments)

def allTexts : List Argument → List (List Char)
  | [] => []
  | argument :: rest => argument.text :: allTexts rest

def Argument.text : Argument → List Char
  | .literal value => Path.literalText value
  | .call inner => opening ++ inner.inside
  | .path text => text.toList

end

def Call.text (call : Call) : String := String.ofList (opening ++ call.inside)

mutual

/-- Whether a call can be written: its functions have names, and its other arguments are texts,
integers of 64 bits, truth values, null or paths that the scanner passes. -/
def Call.Writable : Call → Prop
  | .mk name arguments => IsName name.toList ∧ AllWritable arguments

def AllWritable : List Argument → Prop
  | [] => True
  | argument :: rest => argument.Writable ∧ AllWritable rest

def Argument.Writable : Argument → Prop
  | .literal value => Path.IsLiteral value
  | .call inner => inner.Writable
  | .path text => PathText text.toList

end

theorem ArgumentsText.behind_gap {gap : List Char} (blank : Text.Blank gap)
    {arguments : List Argument} {text : List Char} (spelled : ArgumentsText arguments text) :
    ArgumentsText arguments (gap ++ text) := by
  cases spelled with
  | last before spelled after =>
    simpa using ArgumentsText.last (blank.append before) spelled after
  | more before spelled after behind =>
    simpa using ArgumentsText.more (blank.append before) spelled after behind

theorem argumentsText_listed {argument : Argument} {arguments : List Argument} {text : List Char}
    {texts : List (List Char)} (first : ArgumentText argument text)
    (others : List.Forall₂ ArgumentText arguments texts) :
    ArgumentsText (argument :: arguments) (listed (text :: texts)) := by
  induction others generalizing argument text with
  | nil => simpa [listed] using ArgumentsText.last Text.blank_nil first Text.blank_nil
  | cons second others ih =>
    have behind := (ih second).behind_gap Text.blank_space
    simpa [listed] using ArgumentsText.more Text.blank_nil first Text.blank_nil behind

theorem callText_invocation {name : String} (named : IsName name.toList)
    {arguments : List Argument} {texts : List (List Char)}
    (spelled : List.Forall₂ ArgumentText arguments texts) :
    CallText (.mk name arguments) (invocation name texts) := by
  cases spelled with
  | nil => simpa [invocation, listed] using CallText.bare named Text.blank_nil Text.blank_nil
  | cons first others =>
    simpa [invocation] using
      CallText.applied named Text.blank_nil (argumentsText_listed first others)

theorem spelled_invocation {name : String} (named : IsName name.toList)
    {arguments : List Argument} {texts : List (List Char)}
    (spelled : List.Forall₂ ArgumentText arguments texts) :
    Spelled (.mk name arguments) (callText name texts) :=
  ⟨[], invocation name texts, [], Text.blank_nil, callText_invocation named spelled, Text.blank_nil,
    by simp [callText]⟩

mutual

theorem Call.spelled_inside (call : Call) (writable : call.Writable) :
    CallText call call.inside := by
  cases call with
  | mk name arguments =>
    rw [Call.Writable] at writable
    exact callText_invocation writable.1 (allTexts_spelled arguments writable.2)

theorem allTexts_spelled (arguments : List Argument) (writable : AllWritable arguments) :
    List.Forall₂ ArgumentText arguments (allTexts arguments) := by
  cases arguments with
  | nil => exact .nil
  | cons argument rest =>
    rw [AllWritable] at writable
    exact .cons (argument.spelled_text writable.1) (allTexts_spelled rest writable.2)

theorem Argument.spelled_text (argument : Argument) (writable : argument.Writable) :
    ArgumentText argument argument.text := by
  cases argument with
  | literal value => exact .literal (literalText_of_isLiteral writable)
  | call inner =>
    rw [Argument.Writable] at writable
    exact .call (inner.spelled_inside writable)
  | path text => simpa [Argument.text] using ArgumentText.path writable

end

/-- Every call has a text, and every text of it, whatever its blanks, is read back as that call. -/
theorem parse_spelled (call : Call) (writable : call.Writable) :
    Spelled call call.text ∧ ∀ text, Spelled call text → parse text = .ok call := by
  have inside := call.spelled_inside writable
  refine ⟨⟨[], call.inside, [], Text.blank_nil, inside, Text.blank_nil, by simp [Call.text]⟩, ?_⟩
  intro text spelled
  exact parse_of_spelled spelled

/-- A text with a quote and a backslash before a brace, beside a call without arguments. -/
def spaced : Call :=
  .mk "Format" [.literal (.string "it's \\\x7b"), .call (.mk "UUID" []), .literal (.int (-7))]

theorem spaced_writable : spaced.Writable := by
  simp only [spaced, Call.Writable, AllWritable, Argument.Writable, Path.IsLiteral]
  decide

theorem literalText_negative : Path.literalText (.int (-7)) = ['-', '7'] := by
  change '-' :: Decimal.digits 7 = _
  rw [Decimal.digits_of_lt (by decide)]
  rfl

theorem spelled_spaced :
    Spelled spaced " States.Format ( 'it\\'s \\\\\x7b' ,\tStates.UUID( ),-7)\n" := by
  have name : IsName "Format".toList := by decide
  have inner : IsName "UUID".toList := by decide
  have first := ArgumentText.literal (.string (stringText_escaped "it's \\\x7b".toList))
  have second := ArgumentText.call (.bare inner Text.blank_nil Text.blank_space)
  have fits : Path.IsLiteral (.int (-7)) := by
    change Decimal.Signed (-7)
    decide
  have third := ArgumentText.literal (literalText_of_isLiteral fits)
  have tab : Text.Blank ['\t'] := by decide
  have line : Text.Blank ['\n'] := by decide
  have arguments := ArgumentsText.more Text.blank_space first Text.blank_space <|
    .more tab second Text.blank_nil <| .last Text.blank_nil third Text.blank_nil
  exact ⟨_, _, _, Text.blank_space, .applied name Text.blank_space arguments, line, by
    rw [literalText_negative]
    rfl⟩

theorem parse_spelled_spaced :
    spaced.Writable ∧
      parse " States.Format ( 'it\\'s \\\\\x7b' ,\tStates.UUID( ),-7)\n" = .ok spaced :=
  ⟨spaced_writable, (parse_spelled spaced spaced_writable).2 _ spelled_spaced⟩

end Workflow.Intrinsic
