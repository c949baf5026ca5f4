import Workflow.Proofs.Scanning

/-!
# Reading canonical paths

`Path.parse` reads the canonical text of every expressible path back as that path. Selectors take
exactly their own text off the front, whatever stands behind it apart from a further selector. For
filters the same is said once at each level of binding: a text read as a unary filter, as a chain of
`&&` and as a chain of `||`. A chain is read from the left, so at the two outer levels the statement
is that the reader arrives behind the text with the filter in its hand and goes on from there.
-/

namespace Workflow.Path

/-! ## Paths -/

/-- No further selector stands here. -/
def EndsPath (rest : List Char) : Prop := ∀ c ∈ rest.head?, c ≠ '.' ∧ c ≠ '['

/-- Selectors are read off the front of a text. -/
def Followed (path : List Selector) : Prop :=
  ∀ fuel rest, 10 * (selectorsText path).length ≤ fuel → EndsPath rest →
    readSelectors fuel (selectorsText path ++ rest) = .ok (path, rest)

theorem followed_nil : Followed [] := by
  intro fuel rest _ ends
  cases fuel with
  | zero => rfl
  | succ fuel =>
    rw [selectorsText, List.nil_append, readSelectors]
    all_goals
      intros
      subst rest
      first
      | exact (ends '.' rfl).1 rfl
      | exact (ends '[' rfl).2 rfl

/-- The text of a selector is a bracket that is read as the selector. -/
def Selector.Spelled (selector : Selector) : Prop :=
  ∃ inside, selector.text = '[' :: (inside ++ [']']) ∧ Bracketed inside selector

theorem followed_cons {selector : Selector} {path : List Selector} (first : selector.Spelled)
    (others : Followed path) : Followed (selector :: path) := by
  intro fuel rest enough ends
  obtain ⟨inside, spelling, bracketed⟩ := first
  simp only [selectorsText, spelling, List.length_append, List.length_cons,
    List.length_nil] at enough
  cases fuel with
  | zero => omega
  | succ fuel =>
    have here := bracketed fuel (selectorsText path ++ rest) (by omega)
    have behind := others fuel rest (by omega) ends
    simp only [selectorsText, spelling, List.cons_append, List.append_assoc, List.nil_append,
      readSelectors, here, bind, Except.bind, behind, pure, Except.pure]

theorem followed_descend {selector : Selector} {path : List Selector} (first : selector.Spelled)
    (others : Followed path) : Followed (.descend selector :: path) := by
  intro fuel rest enough ends
  obtain ⟨inside, spelling, bracketed⟩ := first
  simp only [selectorsText, Selector.text, spelling, List.length_append, List.length_cons,
    List.length_nil] at enough
  match fuel with
  | 0 => omega
  | 1 => omega
  | fuel + 2 =>
    have here := bracketed fuel (selectorsText path ++ rest) (by omega)
    have behind := others (fuel + 1) rest (by omega) ends
    simp only [selectorsText, Selector.text, spelling, List.cons_append, List.append_assoc,
      List.nil_append]
    rw [readSelectors]
    simp only [readDescended, here, bind, Except.bind, behind, pure, Except.pure]

/-! ## Operands -/

/-- An operand ends at a blank or at a closing parenthesis. -/
def EndsOperand (rest : List Char) : Prop := ∃ tail, rest = ' ' :: tail ∨ rest = ')' :: tail

theorem EndsOperand.endsPath {rest : List Char} (ends : EndsOperand rest) : EndsPath rest := by
  obtain ⟨tail, rfl | rfl⟩ := ends
  all_goals
    rintro c ⟨⟩
    decide

theorem EndsOperand.not_inNumber {rest : List Char} (ends : EndsOperand rest) :
    ∀ c ∈ rest.head?, inNumber c = false := by
  obtain ⟨tail, rfl | rfl⟩ := ends
  all_goals
    rintro c ⟨⟩
    decide

theorem inNumber_of_mem_integer {value : Int} {c : Char} (mem : c ∈ Decimal.integer value) :
    inNumber c = true := by
  obtain ⟨number, negative | positive⟩ := Decimal.integer_cases value
  · rw [negative, List.mem_cons] at mem
    rcases mem with rfl | mem
    · decide
    · simp [inNumber, Decimal.isDigit_of_mem_digits mem]
  · rw [positive] at mem
    simp [inNumber, Decimal.isDigit_of_mem_digits mem]

theorem readNumber_integer {value : Int} (fits : Decimal.Signed value) {rest : List Char}
    (ends : EndsOperand rest) :
    readNumber (Decimal.integer value ++ rest) = .ok (.int value, rest) := by
  have inside : ∀ c ∈ Decimal.integer value, inNumber c = true := fun _ => inNumber_of_mem_integer
  have ⟨front, back⟩ := span_append inside ends.not_inNumber
  simp only [readNumber, front, back, numberOf?, Decimal.signed?_integer fits]

theorem readLiteral_of_numeric {c : Char} (numeric : (c == '-' || Decimal.isDigit c) = true)
    (tail : List Char) :
    readLiteral (c :: tail) =
      (readNumber (c :: tail)).map fun read => (.number read.1, read.2) := by
  rw [readLiteral]
  · simp only [numeric, if_true]
    cases readNumber (c :: tail) <;> rfl
  · exact ne_of_numeric numeric (by decide)
  · exact ne_of_numeric numeric (by decide)
  · exact fun _ letter _ => ne_of_numeric numeric (by decide) letter
  · exact fun _ letter _ => ne_of_numeric numeric (by decide) letter
  · exact fun _ letter _ => ne_of_numeric numeric (by decide) letter

theorem readLiteral_literalText {value : Json} (valid : IsLiteral value) {rest : List Char}
    (ends : EndsOperand rest) : readLiteral (literalText value ++ rest) = .ok (value, rest) := by
  match value, valid with
  | .null, _ => rfl
  | .bool true, _ => rfl
  | .bool false, _ => rfl
  | .string text, _ =>
    simp only [literalText, quoted, List.cons_append, List.append_assoc, List.nil_append]
    rw [readLiteral, readQuoted_escaped]
    simp only [bind, Except.bind, pure, Except.pure, String.ofList_toList]
  | .number (.int value), fits =>
    have read := readNumber_integer fits ends
    obtain ⟨c, tail, shape, start, _⟩ := Decimal.integer_eq_cons value
    have numeric : (c == '-' || Decimal.isDigit c) = true := by
      rw [Bool.or_eq_true, beq_iff_eq]
      exact start
    rw [literalText]
    rw [shape] at read ⊢
    rw [List.cons_append] at read ⊢
    rw [readLiteral_of_numeric numeric, read]
    rfl

/-- The text starts as an operand does, hence neither as a negation nor as a parenthesis. -/
def StartsOperand (text : List Char) : Prop :=
  ∃ c rest, text = c :: rest ∧ c ≠ '!' ∧ c ≠ '(' ∧ c ≠ '=' ∧ Text.isBlank c = false

theorem literalText_eq_cons (value : Json) :
    ∃ c rest, literalText value = c :: rest ∧ c ≠ '@' ∧ c ≠ '!' ∧ c ≠ '(' ∧ c ≠ '=' ∧
      Text.isBlank c = false := by
  match value with
  | .null => exact ⟨_, _, rfl, by decide⟩
  | .bool true => exact ⟨_, _, rfl, by decide⟩
  | .bool false => exact ⟨_, _, rfl, by decide⟩
  | .string text => exact ⟨_, _, rfl, by decide⟩
  | .number (.int value) =>
    obtain ⟨c, rest, shape, rfl | digit, _⟩ := Decimal.integer_eq_cons value
    · exact ⟨_, _, shape, by decide⟩
    · exact ⟨c, rest, shape, ne_of_digit digit rfl, ne_of_digit digit rfl, ne_of_digit digit rfl,
        ne_of_digit digit rfl, not_blank_of_digit digit⟩
  | .number (.float value) => exact ⟨_, _, rfl, by decide⟩
  | .array items => exact ⟨_, _, rfl, by decide⟩
  | .object members => exact ⟨_, _, rfl, by decide⟩

/-- An operand is read off the front of a text. -/
def Operand.Spelled (operand : Operand) : Prop :=
  StartsOperand operand.text ∧ ∀ fuel rest, 10 * operand.text.length ≤ fuel + 2 →
    EndsOperand rest → readOperand fuel (operand.text ++ rest) = .ok (operand, rest)

theorem spelled_current {path : List Selector} (followed : Followed path) :
    (Operand.current path).Spelled := by
  refine ⟨⟨'@', _, rfl, by decide⟩, ?_⟩
  intro fuel rest enough ends
  rw [Operand.text, List.length_cons] at enough
  cases fuel with
  | zero => omega
  | succ fuel =>
    have read := followed fuel rest (by omega) ends.endsPath
    have start : Text.trimStart ('@' :: (selectorsText path ++ rest)) =
      '@' :: (selectorsText path ++ rest) := rfl
    rw [Operand.text, List.cons_append, readOperand, start]
    simp only [read, bind, Except.bind, pure, Except.pure]

theorem spelled_literal {value : Json} (valid : IsLiteral value) :
    (Operand.literal value).Spelled := by
  obtain ⟨c, tail, shape, noCurrent, start⟩ := literalText_eq_cons value
  refine ⟨⟨c, tail, shape, start⟩, ?_⟩
  intro fuel rest enough ends
  have read := readLiteral_literalText valid ends
  rw [Operand.text] at enough ⊢
  rw [shape, List.length_cons] at enough
  rw [shape, List.cons_append] at read ⊢
  cases fuel with
  | zero => omega
  | succ fuel =>
    have dark : Text.Dark (c :: (tail ++ rest)) := by
      rintro d ⟨⟩
      exact start.2.2.2
    rw [readOperand, Text.trimStart_of_dark dark]
    split
    next shape => exact absurd (List.cons.inj shape).1 noCurrent
    next => simp only [read, bind, Except.bind, pure, Except.pure]

/-! ## Filters -/

/-- What may stand behind a filter at a level of binding: a closing parenthesis, or a connective
that does not bind tighter than the level. -/
inductive Closes (level : Nat) : List Char → Prop where
  | parenthesis (tail : List Char) : Closes level (')' :: tail)
  | sign (connective : Connective) (loose : connective.level ≤ level) (tail : List Char) :
    Closes level (' ' :: (connective.sign ++ tail))

theorem Closes.endsOperand {level : Nat} {rest : List Char} (closes : Closes level rest) :
    EndsOperand rest := by
  cases closes with
  | parenthesis tail => exact ⟨tail, .inr rfl⟩
  | sign connective loose tail => exact ⟨_, .inl rfl⟩

theorem Closes.readComparison? {level : Nat} {rest : List Char} (closes : Closes level rest) :
    readComparison? (Text.trimStart rest) = none := by
  cases closes with
  | parenthesis tail => rfl
  | sign connective loose tail =>
    cases connective with
    | or => rfl
    | and => rfl

theorem Closes.mono {low high : Nat} (below : low ≤ high) {rest : List Char}
    (closes : Closes low rest) : Closes high rest := by
  cases closes with
  | parenthesis tail => exact .parenthesis tail
  | sign connective loose tail => exact .sign connective (Nat.le_trans loose below) tail

/-- The text is read as a unary filter. -/
def Unary (text : List Char) (condition : Filter) : Prop :=
  (∃ c tail, text = c :: tail ∧ c ≠ '=') ∧ ∀ fuel rest, 10 * text.length ≤ fuel → Closes 1 rest →
    ∃ rest', readUnary fuel (text ++ rest) = .ok (condition, rest') ∧
      Text.trimStart rest' = Text.trimStart rest

/-- The reader of a chain of `&&` arrives behind the text with the filter in its hand. -/
def Conjoined (text : List Char) (condition : Filter) : Prop :=
  ∀ fuel rest, 10 * text.length + 1 ≤ fuel → Closes 1 rest →
    ∃ fuel' rest', readAnd fuel (text ++ rest) = readAndRest fuel' condition rest' ∧
      fuel ≤ fuel' + text.length + 1 ∧ Text.trimStart rest' = Text.trimStart rest

/-- The reader of a chain of `||` arrives behind the text with the filter in its hand. -/
def Disjoined (text : List Char) (condition : Filter) : Prop :=
  ∀ fuel rest, 10 * text.length + 2 ≤ fuel → Closes 0 rest →
    ∃ fuel' rest', readOr fuel (text ++ rest) = readOrRest fuel' condition rest' ∧
      fuel ≤ fuel' + text.length + 2 ∧ Text.trimStart rest' = Text.trimStart rest

theorem Unary.conjoined {text : List Char} {condition : Filter} (unary : Unary text condition) :
    Conjoined text condition := by
  intro fuel rest enough closes
  cases fuel with
  | zero => omega
  | succ fuel =>
    obtain ⟨rest', read, same⟩ := unary.2 fuel rest (by omega) closes
    refine ⟨fuel, rest', ?_, by omega, same⟩
    rw [readAnd, read]
    rfl

/-- A chain of `&&` ends where no further one stands. -/
theorem readAndRest_closed {rest rest' : List Char}
    (same : Text.trimStart rest' = Text.trimStart rest) (closes : Closes 0 rest) (fuel : Nat)
    (condition : Filter) :
    ∃ rest'', readAndRest fuel condition rest' = .ok (condition, rest'') ∧
      Text.trimStart rest'' = Text.trimStart rest := by
  cases fuel with
  | zero => exact ⟨rest', rfl, same⟩
  | succ fuel =>
    refine ⟨Text.trimStart rest, ?_, Text.trimStart_trimStart rest⟩
    rw [readAndRest, same]
    cases closes with
    | parenthesis tail => rfl
    | sign connective loose tail =>
      cases connective with
      | or => rfl
      | and => exact absurd loose (by decide)

theorem Conjoined.disjoined {text : List Char} {condition : Filter}
    (conjoined : Conjoined text condition) : Disjoined text condition := by
  intro fuel rest enough closes
  cases fuel with
  | zero => omega
  | succ fuel =>
    obtain ⟨fuel', rest', read, -, same⟩ := conjoined fuel rest (by omega) (closes.mono (by decide))
    obtain ⟨rest'', done, ahead⟩ := readAndRest_closed same closes fuel' condition
    refine ⟨fuel, rest'', ?_, by omega, ahead⟩
    rw [readOr, read, done]
    rfl

/-- A chain of `||` ends at a closing parenthesis. -/
theorem Disjoined.read {text : List Char} {condition : Filter}
    (disjoined : Disjoined text condition) {fuel : Nat} (enough : 10 * text.length + 2 ≤ fuel)
    (tail : List Char) :
    ∃ rest', readOr fuel (text ++ ')' :: tail) = .ok (condition, rest') ∧
      Text.trimStart rest' = ')' :: tail := by
  obtain ⟨fuel', rest', read, -, same⟩ := disjoined fuel _ enough (.parenthesis tail)
  rw [read]
  cases fuel' with
  | zero => exact ⟨rest', rfl, same⟩
  | succ fuel' =>
    refine ⟨')' :: tail, ?_, rfl⟩
    rw [readOrRest, same]
    rfl

theorem Disjoined.enclosed {text : List Char} {condition : Filter}
    (disjoined : Disjoined text condition) : Unary (enclosed true text) condition := by
  refine ⟨⟨'(', _, rfl, by decide⟩, ?_⟩
  intro fuel rest enough closes
  simp only [Path.enclosed, if_true, List.length_cons, List.length_append,
    List.length_nil] at enough
  cases fuel with
  | zero => omega
  | succ fuel =>
    have fuelled : 10 * text.length + 2 ≤ fuel := by omega
    obtain ⟨rest', read, same⟩ := disjoined.read fuelled rest
    refine ⟨rest, ?_, rfl⟩
    have start : Text.trimStart ('(' :: (text ++ ')' :: rest)) = '(' :: (text ++ ')' :: rest) := rfl
    simp only [Path.enclosed, if_true, List.cons_append, List.append_assoc, List.nil_append]
    rw [readUnary, start]
    simp only [read, bind, Except.bind, same, expect, if_true, pure, Except.pure]

theorem Unary.not {text : List Char} {condition : Filter} (unary : Unary text condition) :
    Unary ('!' :: text) (.not condition) := by
  obtain ⟨⟨c, tail, shape, noSign⟩, inner⟩ := unary
  refine ⟨⟨'!', _, rfl, by decide⟩, ?_⟩
  intro fuel rest enough closes
  rw [List.length_cons] at enough
  cases fuel with
  | zero => omega
  | succ fuel =>
    obtain ⟨rest', read, same⟩ := inner fuel rest (by omega) closes
    refine ⟨rest', ?_, same⟩
    have start : Text.trimStart ('!' :: (text ++ rest)) = '!' :: (text ++ rest) := rfl
    rw [List.cons_append, readUnary, start]
    split
    next _ behind =>
      rw [shape] at behind
      exact absurd (List.cons.inj (List.cons.inj behind).2).1 noSign
    next _ _ behind =>
      obtain rfl := (List.cons.inj behind).2
      simp only [read, bind, Except.bind, pure, Except.pure]
    next behind => exact absurd (List.cons.inj behind).1 (by decide)
    next other _ => exact absurd rfl (other _)

/-- Behind an operand that starts like one, a unary filter is a comparison or a test. -/
theorem readUnary_operand {text : List Char} (starts : StartsOperand text) (fuel : Nat) :
    readUnary (fuel + 1) text = readCompared fuel text := by
  obtain ⟨c, rest, rfl, noNot, noParenthesis, -, dark⟩ := starts
  have start : Text.trimStart (c :: rest) = c :: rest := by
    apply Text.trimStart_of_dark
    rintro d ⟨⟩
    exact dark
  rw [readUnary, start]
  split
  next shape => exact absurd (List.cons.inj shape).1 noNot
  next shape => exact absurd (List.cons.inj shape).1 noNot
  next shape => exact absurd (List.cons.inj shape).1 noParenthesis
  next => rfl

theorem StartsOperand.append {text : List Char} (starts : StartsOperand text) (rest : List Char) :
    StartsOperand (text ++ rest) := by
  obtain ⟨c, tail, rfl, clear⟩ := starts
  exact ⟨c, tail ++ rest, rfl, clear⟩

theorem StartsOperand.trimStart {text : List Char} (starts : StartsOperand text) :
    Text.trimStart text = text := by
  obtain ⟨c, rest, rfl, -, -, -, dark⟩ := starts
  apply Text.trimStart_of_dark
  rintro d ⟨⟩
  exact dark

theorem StartsOperand.no_sign {text : List Char} (starts : StartsOperand text) :
    ∃ c tail, text = c :: tail ∧ c ≠ '=' := by
  obtain ⟨c, rest, shape, -, -, noSign, -⟩ := starts
  exact ⟨c, rest, shape, noSign⟩

theorem unary_present {path : List Selector} (operand : (Operand.current path).Spelled) :
    Unary (Filter.present path).bare (.present path) := by
  have bare : (Filter.present path).bare = (Operand.current path).text := by
    rw [Filter.bare, Operand.text]
  rw [bare]
  obtain ⟨starts, reads⟩ := operand
  refine ⟨starts.no_sign, ?_⟩
  intro fuel rest enough closes
  have filled : 0 < (Operand.current path).text.length := by
    simp [Operand.text]
  match fuel with
  | 0 => omega
  | 1 => omega
  | fuel + 2 =>
    have read := reads fuel rest (by omega) closes.endsOperand
    refine ⟨Text.trimStart rest, ?_, Text.trimStart_trimStart rest⟩
    rw [readUnary_operand (starts.append rest), readCompared]
    simp only [read, bind, Except.bind, closes.readComparison?, pure, Except.pure]

theorem readComparison?_sign (comparison : Comparison) (rest : List Char) :
    readComparison? (comparison.sign ++ ' ' :: rest) = some (comparison, ' ' :: rest) := by
  cases comparison with
  | eq => rfl
  | ne => rfl
  | lt => rfl
  | le => rfl
  | gt => rfl
  | ge => rfl

theorem unary_compare {left right : Operand} (comparison : Comparison) (leftReads : left.Spelled)
    (rightReads : right.Spelled) :
    Unary (Filter.compare left comparison right).bare (.compare left comparison right) := by
  obtain ⟨leftStarts, leftReads⟩ := leftReads
  obtain ⟨rightStarts, rightReads⟩ := rightReads
  rw [Filter.bare]
  refine ⟨(leftStarts.append _).no_sign, ?_⟩
  intro fuel rest enough closes
  simp only [List.length_append, List.length_cons] at enough
  match fuel with
  | 0 => omega
  | 1 => omega
  | fuel + 2 =>
    have first := leftReads fuel (' ' :: (comparison.sign ++ ' ' :: (right.text ++ rest)))
      (by omega) ⟨_, .inl rfl⟩
    have second := rightReads fuel rest (by omega) closes.endsOperand
    have sign : Text.trimStart (comparison.sign ++ ' ' :: (right.text ++ rest)) =
        comparison.sign ++ ' ' :: (right.text ++ rest) := by
      cases comparison <;> rfl
    refine ⟨rest, ?_, rfl⟩
    simp only [List.append_assoc, List.cons_append]
    rw [readUnary_operand (leftStarts.append _), readCompared]
    simp only [first, bind, Except.bind, Text.trimStart_space, sign, readComparison?_sign,
      (rightStarts.append rest).trimStart, second, pure, Except.pure]

/-- One round of the chain of `&&`: the filter in hand is joined to the one behind the sign. -/
theorem Conjoined.and {left right : List Char} {first second : Filter}
    (conjoined : Conjoined left first) (unary : Unary right second) :
    Conjoined (left ++ ' ' :: (Connective.and.sign ++ ' ' :: right)) (.join first .and second) := by
  intro fuel rest enough closes
  simp only [Connective.sign, List.length_append, List.length_cons, List.length_nil] at enough ⊢
  obtain ⟨fuel', before, read, spent, same⟩ := conjoined fuel
    (' ' :: (Connective.and.sign ++ ' ' :: (right ++ rest))) (by omega) (.sign .and (by decide) _)
  -- The chain to the left has used at most one unit of fuel for each of its characters, so there is
  -- enough for the sign and for what stands behind it.
  match fuel' with
  | 0 => omega
  | 1 => omega
  | fuel' + 2 =>
    obtain ⟨behind, second, ahead⟩ := unary.2 (fuel' + 1) rest (by omega) closes
    have blank : readUnary (fuel' + 1) (' ' :: (right ++ rest)) =
        readUnary (fuel' + 1) (right ++ rest) := by
      rw [readUnary, readUnary, Text.trimStart_space]
    have sign : Text.trimStart (' ' :: (Connective.and.sign ++ ' ' :: (right ++ rest))) =
        '&' :: '&' :: ' ' :: (right ++ rest) := rfl
    refine ⟨fuel' + 1, behind, ?_, by omega, ahead⟩
    rw [sign] at same
    simp only [List.append_assoc, List.cons_append, Connective.sign] at read ⊢
    rw [read, readAndRest, same]
    simp only [blank, second, bind, Except.bind]

theorem Disjoined.or {left right : List Char} {first other : Filter}
    (disjoined : Disjoined left first) (conjoined : Conjoined right other) :
    Disjoined (left ++ ' ' :: (Connective.or.sign ++ ' ' :: right)) (.join first .or other) := by
  intro fuel rest enough closes
  simp only [Connective.sign, List.length_append, List.length_cons, List.length_nil] at enough ⊢
  obtain ⟨fuel', before, read, spent, same⟩ := disjoined fuel
    (' ' :: (Connective.or.sign ++ ' ' :: (right ++ rest))) (by omega) (.sign .or (by decide) _)
  match fuel' with
  | 0 => omega
  | 1 => omega
  | 2 => omega
  | fuel' + 3 =>
    obtain ⟨fuel'', behind, second, -, ahead⟩ :=
      conjoined (fuel' + 2) rest (by omega) (closes.mono (by decide))
    obtain ⟨after, done, ahead⟩ := readAndRest_closed ahead closes fuel'' other
    have blank : readAnd (fuel' + 2) (' ' :: (right ++ rest)) =
        readAnd (fuel' + 2) (right ++ rest) := by
      rw [readAnd, readAnd, readUnary, readUnary, Text.trimStart_space]
    have sign : Text.trimStart (' ' :: (Connective.or.sign ++ ' ' :: (right ++ rest))) =
        '|' :: '|' :: ' ' :: (right ++ rest) := rfl
    refine ⟨fuel' + 2, after, ?_, by omega, ahead⟩
    rw [sign] at same
    simp only [List.append_assoc, List.cons_append, Connective.sign] at read ⊢
    rw [read, readOrRest, same]
    simp only [blank, second, done, bind, Except.bind]

/-- A filter is read as its level of binding asks, whatever the level of its place. -/
structure Filter.Spelled (condition : Filter) : Prop where
  unary : Unary (condition.textAt 2) condition
  conjoined : Conjoined (condition.textAt 1) condition
  disjoined : Disjoined (condition.textAt 0) condition

theorem Filter.textAt_of_le {condition : Filter} {level : Nat} (tight : level ≤ condition.level) :
    condition.textAt level = condition.bare := by
  have free : decide (condition.level < level) = false := by
    rw [decide_eq_false_iff_not]
    omega
  rw [Filter.textAt, free]
  rfl

theorem Filter.textAt_of_lt {condition : Filter} {level : Nat} (loose : condition.level < level) :
    condition.textAt level = enclosed true condition.bare := by
  rw [Filter.textAt, decide_eq_true loose]

theorem spelled_of_unary {condition : Filter} (tight : 2 ≤ condition.level)
    (unary : Unary condition.bare condition) : condition.Spelled where
  unary := by
    rw [Filter.textAt_of_le tight]
    exact unary
  conjoined := by
    rw [Filter.textAt_of_le (by omega)]
    exact unary.conjoined
  disjoined := by
    rw [Filter.textAt_of_le (by omega)]
    exact unary.conjoined.disjoined

theorem spelled_of_conjoined {condition : Filter} (level : condition.level = 1)
    (conjoined : Conjoined condition.bare condition) : condition.Spelled where
  unary := by
    rw [Filter.textAt_of_lt (by omega)]
    exact conjoined.disjoined.enclosed
  conjoined := by
    rw [Filter.textAt_of_le (by omega)]
    exact conjoined
  disjoined := by
    rw [Filter.textAt_of_le (by omega)]
    exact conjoined.disjoined

theorem spelled_of_disjoined {condition : Filter} (level : condition.level = 0)
    (disjoined : Disjoined condition.bare condition) : condition.Spelled where
  unary := by
    rw [Filter.textAt_of_lt (by omega)]
    exact disjoined.enclosed
  conjoined := by
    rw [Filter.textAt_of_lt (by omega)]
    exact disjoined.enclosed.conjoined
  disjoined := by
    rw [Filter.textAt_of_le (by omega)]
    exact disjoined

theorem spelled_join {left right : Filter} (connective : Connective) (first : left.Spelled)
    (second : right.Spelled) : (Filter.join left connective right).Spelled := by
  cases connective with
  | and =>
    apply spelled_of_conjoined rfl
    rw [Filter.bare]
    exact first.conjoined.and second.unary
  | or =>
    apply spelled_of_disjoined rfl
    rw [Filter.bare]
    exact first.disjoined.or second.conjoined

theorem spelled_not {inner : Filter} (spelled : inner.Spelled) : (Filter.not inner).Spelled := by
  have unary : Unary (Filter.not inner).bare (.not inner) := by
    rw [Filter.bare]
    exact spelled.unary.not
  exact spelled_of_unary (Nat.le_refl 2) unary

theorem bracketed_filter {condition : Filter} (spelled : condition.Spelled) :
    Bracketed ('?' :: '(' :: (condition.bare ++ [')'])) (.filter condition) := by
  intro fuel rest enough
  simp only [List.length_append, List.length_cons, List.length_nil] at enough
  have disjoined := spelled.disjoined
  rw [Filter.textAt_of_le (Nat.zero_le _)] at disjoined
  cases fuel with
  | zero => omega
  | succ fuel =>
    have fuelled : 10 * condition.bare.length + 2 ≤ fuel := by omega
    obtain ⟨rest', read, same⟩ := disjoined.read fuelled (']' :: rest)
    have start : Text.trimStart ('?' :: '(' :: (condition.bare ++ ')' :: ']' :: rest)) =
        '?' :: '(' :: (condition.bare ++ ')' :: ']' :: rest) := rfl
    have open' : Text.trimStart ('(' :: (condition.bare ++ ')' :: ']' :: rest)) =
        '(' :: (condition.bare ++ ')' :: ']' :: rest) := rfl
    have closing : Text.trimStart (']' :: rest) = ']' :: rest := rfl
    simp only [List.cons_append, List.append_assoc, List.nil_append]
    rw [readBracket, start]
    simp only [open', expect, if_true, bind, Except.bind, read, same, closing, pure, Except.pure]

/-! ## Every path -/

mutual

theorem Selector.spelled (selector : Selector) (flat : selector.isDescent = false)
    (expressible : selector.Expressible) : selector.Spelled := by
  match selector, flat, expressible with
  | .child name, _, _ =>
    have valid : (Selector.child name).IsMember := trivial
    exact ⟨_, rfl, bracketed_member valid⟩
  | .index position, _, fits =>
    have valid : (Selector.index position).IsMember := fits
    exact ⟨_, rfl, bracketed_member valid⟩
  | .wildcard, _, _ => exact ⟨_, rfl, bracketed_wildcard⟩
  | .slice start stop step, _, fits =>
    rw [Selector.Expressible] at fits
    exact ⟨_, rfl, bracketed_slice fits.1 fits.2.1 fits.2.2⟩
  | .union members, _, valid =>
    rw [Selector.Expressible] at valid
    exact ⟨_, rfl, bracketed_union valid.1 valid.2⟩
  | .filter condition, _, expressible =>
    rw [Selector.Expressible] at expressible
    have inner := Filter.spelled condition expressible
    refine ⟨'?' :: '(' :: (condition.bare ++ [')']), ?_, bracketed_filter inner⟩
    simp [Selector.text]

theorem followed (path : List Selector) (expressible : AllExpressible path) : Followed path := by
  match path, expressible with
  | [], _ => exact followed_nil
  | selector :: rest, expressible =>
    rw [AllExpressible] at expressible
    have others := followed rest expressible.2
    cases selector with
    | descend inner =>
      rw [Selector.Expressible] at expressible
      exact followed_descend (Selector.spelled inner expressible.1.1 expressible.1.2) others
    | _ => exact followed_cons (Selector.spelled _ rfl expressible.1) others

theorem Filter.spelled (condition : Filter) (expressible : condition.Expressible) :
    condition.Spelled := by
  match condition, expressible with
  | .present path, expressible =>
    rw [Filter.Expressible] at expressible
    have inner := spelled_current (followed path expressible)
    exact spelled_of_unary (Nat.le_refl 2) (unary_present inner)
  | .compare left comparison right, expressible =>
    rw [Filter.Expressible] at expressible
    exact spelled_of_unary (Nat.le_refl 2) (unary_compare comparison
      (Operand.spelled left expressible.1) (Operand.spelled right expressible.2))
  | .join left connective right, expressible =>
    rw [Filter.Expressible] at expressible
    have first := Filter.spelled left expressible.1
    exact spelled_join connective first (Filter.spelled right expressible.2)
  | .not inner, expressible =>
    rw [Filter.Expressible] at expressible
    exact spelled_not (Filter.spelled inner expressible)

theorem Operand.spelled (operand : Operand) (expressible : operand.Expressible) :
    operand.Spelled := by
  match operand, expressible with
  | .current path, expressible =>
    rw [Operand.Expressible] at expressible
    exact spelled_current (followed path expressible)
  | .literal value, valid =>
    rw [Operand.Expressible] at valid
    exact spelled_literal valid

end

/-! ## The whole text -/

theorem selectorsText_head (path : List Selector) (expressible : AllExpressible path) :
    ∀ c ∈ (selectorsText path).head?, c = '.' ∨ c = '[' := by
  cases path with
  | nil => simp [selectorsText]
  | cons selector rest =>
    rw [AllExpressible] at expressible
    rw [selectorsText]
    cases selector with
    | descend inner =>
      rw [Selector.text]
      rintro c ⟨⟩
      exact .inl rfl
    | _ =>
      obtain ⟨inside, spelling, -⟩ := Selector.spelled _ rfl expressible.1
      rw [spelling]
      rintro c ⟨⟩
      exact .inr rfl

/-- The text of a selector ends with a bracket. -/
theorem Selector.text_last (selector : Selector) (expressible : selector.Expressible) :
    ∃ front, selector.text = front ++ [']'] := by
  cases selector with
  | descend inner =>
    rw [Selector.Expressible] at expressible
    obtain ⟨inside, spelling, -⟩ := Selector.spelled inner expressible.1 expressible.2
    refine ⟨'.' :: '.' :: '[' :: inside, ?_⟩
    rw [Selector.text, spelling]
    rfl
  | _ =>
    obtain ⟨inside, spelling, -⟩ := Selector.spelled _ rfl expressible
    exact ⟨'[' :: inside, spelling⟩

theorem selectorsText_last (path : List Selector) (expressible : AllExpressible path) :
    path = [] ∨ ∃ front, selectorsText path = front ++ [']'] := by
  induction path with
  | nil => exact .inl rfl
  | cons selector rest ih =>
    right
    rw [AllExpressible] at expressible
    rw [selectorsText]
    rcases ih expressible.2 with rfl | ⟨front, shape⟩
    · obtain ⟨front, shape⟩ := selector.text_last expressible.1
      exact ⟨front, by rw [shape, selectorsText, List.append_nil]⟩
    · exact ⟨selector.text ++ front, by rw [shape, List.append_assoc]⟩

theorem inVariable_of_startsVariable {c : Char} (starts : startsVariable c = true) :
    inVariable c = true := by
  simp only [startsVariable, inVariable, Text.isLetterOrNumeral, Bool.or_eq_true] at starts ⊢
  rcases starts with letter | line
  · exact .inl (.inl (.inl letter))
  · exact .inr line

theorem not_blank_of_inVariable {c : Char} (inside : inVariable c = true) :
    Text.isBlank c = false := by
  rw [inVariable, Bool.or_eq_true, beq_iff_eq] at inside
  rcases inside with letter | rfl
  · exact Text.isBlank_eq_false_of_isLetterOrNumeral letter
  · decide

theorem Root.not_blank_of_mem {root : Root} (expressible : root.Expressible) {c : Char}
    (mem : c ∈ root.text) : Text.isBlank c = false := by
  match root, expressible with
  | .input, _ =>
    obtain rfl := List.mem_singleton.mp mem
    decide
  | .context, _ =>
    rcases List.mem_cons.mp mem with rfl | mem
    · decide
    · obtain rfl := List.mem_singleton.mp mem
      decide
  | .variable name, ⟨first, rest, shape, starts, inside⟩ =>
    rw [Root.text, shape] at mem
    rcases List.mem_cons.mp mem with rfl | mem
    · decide
    · rcases List.mem_cons.mp mem with rfl | mem
      · exact not_blank_of_inVariable (inVariable_of_startsVariable starts)
      · exact not_blank_of_inVariable (inside c mem)

theorem Root.text_eq_cons (root : Root) : ∃ rest, root.text = '$' :: rest := by
  match root with
  | .input => exact ⟨_, rfl⟩
  | .context => exact ⟨_, rfl⟩
  | .variable name => exact ⟨_, rfl⟩

theorem readRoot_text {root : Root} (expressible : root.Expressible) {rest : List Char}
    (starts : ∀ c ∈ rest.head?, c = '.' ∨ c = '[') :
    readRoot (root.text ++ rest) = .ok (root, rest) := by
  match root, expressible with
  | .context, _ => rfl
  | .input, _ =>
    cases rest with
    | nil => rfl
    | cons c rest =>
      rcases starts c rfl with rfl | rfl
      · rfl
      · rfl
  | .variable name, ⟨first, tail, shape, letter, inside⟩ =>
    have run : ∀ c ∈ first :: tail, inVariable c = true := by
      intro c mem
      rcases List.mem_cons.mp mem with rfl | mem
      · exact inVariable_of_startsVariable letter
      · exact inside c mem
    have stops : ∀ c ∈ rest.head?, inVariable c = false := by
      intro c mem
      rcases starts c mem with rfl | rfl
      · decide
      · decide
    have ⟨front, back⟩ := span_append run stops
    have noDollar : first ≠ '$' := by
      rintro rfl
      exact absurd letter (by decide)
    rw [List.cons_append] at front back
    rw [Root.text, shape, List.cons_append, List.cons_append, readRoot]
    · simp only [letter, if_true, front, back, ← shape, String.ofList_toList]
    · exact noDollar

/-- The canonical text of a path has no blanks at its ends. -/
theorem trim_text {path : Path} (expressible : path.Expressible) :
    Text.trim (path.root.text ++ selectorsText path.selectors) =
      path.root.text ++ selectorsText path.selectors := by
  apply Text.trim_of_dark
  · obtain ⟨rest, shape⟩ := path.root.text_eq_cons
    rw [shape]
    rintro c ⟨⟩
    decide
  · intro c mem
    rw [List.head?_reverse] at mem
    rcases selectorsText_last path.selectors expressible.2 with empty | ⟨front, shape⟩
    · rw [empty, selectorsText, List.append_nil] at mem
      exact Root.not_blank_of_mem expressible.1 (List.mem_of_getLast? mem)
    · rw [shape, ← List.append_assoc, List.getLast?_concat] at mem
      obtain rfl := Option.some.inj mem
      decide

theorem read_text {path : Path} (expressible : path.Expressible) :
    read (path.root.text ++ selectorsText path.selectors) = .ok path := by
  have root := readRoot_text expressible.1 (selectorsText_head path.selectors expressible.2)
  have enough : 10 * (selectorsText path.selectors).length ≤
      budget (path.root.text ++ selectorsText path.selectors).length := by
    simp only [budget, List.length_append]
    omega
  have selectors := followed path.selectors expressible.2 _ [] enough (by simp [EndsPath])
  rw [List.append_nil] at selectors
  simp only [read, root, selectors, bind, Except.bind]
  rfl

/-- The canonical text of every path is read back as that path. -/
theorem parse_text {path : Path} (expressible : path.Expressible) : parse path.text = .ok path := by
  simp only [parse, text, String.toList_ofList, trim_text expressible, read_text expressible]

/-- A variable with a quoted name, a union, a slice and a filter with every kind of condition. -/
def ample : Path where
  root := .variable "été_1"
  selectors :=
    [.child "it's \\ here", .index (-3), .union [.child "a", .index 0, .child "b"],
      .descend (.slice none (some 7) (some (-2))), .wildcard,
      .filter (.join
        (.join (.present [.child "x"]) .or
          (.compare (.current [.index 1]) .le (.literal (.int (-5)))))
        .and
        (.join (.not (.join (.present []) .and (.present [.wildcard]))) .and
          (.compare (.literal (.string "'")) .ne (.literal .null))))]

theorem ample_expressible : ample.Expressible := by
  refine ⟨⟨'é', ['t', 'é', '_', '1'], rfl, by decide, List.all_eq_true.mp (by decide)⟩, ?_⟩
  simp only [ample, AllExpressible, Selector.Expressible, List.length_cons, List.length_nil,
    Nat.zero_add, Nat.reduceAdd, Nat.reduceLeDiff, List.mem_cons, List.not_mem_nil, or_false,
    Selector.IsMember, forall_eq_or_imp, forall_eq, and_true, true_and, Selector.isDescent,
    BoundFits, Option.mem_def, reduceCtorEq, IsEmpty.forall_iff, implies_true, Option.some.injEq,
    forall_eq', Filter.Expressible, and_self, Operand.Expressible, IsLiteral]
  decide

theorem parse_text_ample : ample.Expressible ∧ parse ample.text = .ok ample :=
  ⟨ample_expressible, parse_text ample_expressible⟩

example : ample.root.text ++ selectorsText ample.selectors =
    ("$été_1['it\\'s \\\\ here'][-3]['a',0,'b']..[:7:-2][*]" ++
      "[?((@['x'] || @[1] <= -5) && (!(@ && @[*]) && '\\'' != null))]").toList := by
  cbv

end Workflow.Path
