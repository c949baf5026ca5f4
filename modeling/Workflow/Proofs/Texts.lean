import Workflow.Json.Reader
import Workflow.Json.Printer
import Workflow.Proofs.Assignments
import Workflow.Proofs.Numerals
import Workflow.Proofs.Members

/-!
# Texts of documents

A document without floats is read back from its own text. Each part takes its text off the front and
leaves what stands behind it, provided that nothing behind a number could belong to the number: at
the end of a document, and in front of a comma or a closing bracket.
-/

namespace Workflow

/-- A text that goes on with nothing that belongs to a number. -/
def Ended (rest : List Char) : Prop :=
  ∀ c, rest.head? = some c → c = ',' ∨ c = ']' ∨ c = '\x7d'

theorem ended_nil : Ended [] := nofun

theorem Ended.head_ne {rest : List Char} (ended : Ended rest) {c : Char}
    (inside : ¬(c = ',' ∨ c = ']' ∨ c = '\x7d')) : rest.head? ≠ some c :=
  mt (ended c) inside

theorem Ended.not_digit {rest : List Char} (ended : Ended rest) :
    ∀ c ∈ rest.head?, Decimal.isDigit c = false := by
  intro c isHead
  rcases ended c isHead with rfl | rfl | rfl <;> rfl

namespace Decimal

/-! ## Numbers -/

theorem le_natFrom (start : Nat) (text : List Char) : start ≤ natFrom start text := by
  induction text generalizing start with
  | nil => exact Nat.le_refl start
  | cons c rest ih =>
    refine Nat.le_trans ?_ (ih _)
    omega

/-- Only the numeral of zero begins with a zero. -/
theorem digits_pos {value : Nat} (positive : 0 < value) :
    ∃ c rest, digits value = c :: rest ∧ isDigit c = true ∧ c ≠ '0' := by
  induction value using digits.induct with
  | case1 value small =>
    refine ⟨_, _, digits_of_lt small, isDigit_digitChar small, ?_⟩
    intro zero
    have code := toNat_digitChar small
    rw [zero] at code
    have zeroCode : '0'.toNat = 48 := rfl
    omega
  | case2 value large ih =>
    obtain ⟨c, rest, shape, isDigit, noZero⟩ := ih (by omega)
    rw [digits_of_not_lt large, shape]
    exact ⟨c, _, rfl, isDigit, noZero⟩

end Decimal

namespace Number

open Decimal (isDigit digits natFrom)

theorem startsWhole_digits (value : Nat) {rest : List Char} (ended : Ended rest) :
    startsWhole (digits value ++ rest) = true := by
  rcases Nat.eq_zero_or_pos value with rfl | positive
  · rw [Decimal.digits_of_lt (by decide)]
    cases rest with
    | nil => rfl
    | cons c rest =>
      change (!isDigit c) = true
      rw [ended.not_digit c rfl]
      rfl
  · obtain ⟨c, more, shape, isDigit, noZero⟩ := Decimal.digits_pos positive
    rw [shape, List.cons_append, startsWhole]
    · exact isDigit
    · rintro _ _ rfl
      exact absurd rfl noZero

theorem collectWhole_digit {value : Nat} {c : Char} {rest : List Char} (digit : isDigit c = true)
    (fits : value * 10 + Decimal.digitValue c ≤ maxSignificand) :
    collectWhole value 0 (c :: rest) = collectWhole (value * 10 + Decimal.digitValue c) 0 rest := by
  simp only [collectWhole, digit, Bool.not_true, Bool.false_eq_true, if_false, fits, and_self,
    if_true]

/-- A run of digits is collected whole as long as its number fits. -/
theorem collectWhole_append {text rest : List Char} {start : Nat}
    (allDigits : ∀ c ∈ text, isDigit c) (fits : natFrom start text ≤ maxSignificand)
    (stops : ∀ c ∈ rest.head?, isDigit c = false) :
    collectWhole start 0 (text ++ rest) = ⟨natFrom start text, 0, rest⟩ := by
  induction text generalizing start with
  | nil =>
    cases rest with
    | nil => rfl
    | cons c rest =>
      rw [List.nil_append, collectWhole, stops c rfl]
      rfl
  | cons c text ih =>
    have small := Nat.le_trans (Decimal.le_natFrom _ text) fits
    rw [List.cons_append, collectWhole_digit (allDigits c List.mem_cons_self) small]
    exact ih (fun c mem => allDigits c (List.mem_cons_of_mem _ mem)) fits

/-- Digits that nothing goes on are an integer, unless they are too many for one. -/
theorem readUnsigned?_integer (negative : Bool) {text rest : List Char} {value : Nat}
    (starts : startsWhole text = true) (whole : collectWhole 0 0 text = ⟨value, 0, rest⟩)
    (noPoint : rest.head? ≠ some '.') (noLower : rest.head? ≠ some 'e')
    (noUpper : rest.head? ≠ some 'E') :
    readUnsigned? negative text =
      some (if negative then
        if 0 < value ∧ value ≤ 9223372036854775808 then .int (-(value : Int))
        else .float (-Float.ofNat value)
      else .int value, rest) := by
  simp only [readUnsigned?, starts, whole]
  split
  · contradiction
  split
  · exact absurd rfl noPoint
  · exact absurd rfl noPoint
  simp only [beq_false_of_ne noLower, beq_false_of_ne noUpper, Bool.or_false]
  cases negative with
  | false => rfl
  | true =>
    by_cases small : 0 < value ∧ value ≤ 9223372036854775808
    · simp [small]
    · have large : (decide (0 < value) && decide (value ≤ 9223372036854775808)) = false := by
        rw [← Bool.decide_and, decide_eq_false small]
      simp [small, large]

theorem readUnsigned?_digits {value : Nat} (fits : value ≤ maxSignificand) {rest : List Char}
    (ended : Ended rest) (negative : Bool)
    (signed : negative = true → 0 < value ∧ value ≤ 9223372036854775808) :
    readUnsigned? negative (digits value ++ rest) =
      some (.int (if negative then -(value : Int) else value), rest) := by
  have number : natFrom 0 (digits value) = value := Decimal.nat_digits value
  have small : natFrom 0 (digits value) ≤ maxSignificand := by rwa [number]
  have whole : collectWhole 0 0 (digits value ++ rest) = ⟨value, 0, rest⟩ := by
    rw [collectWhole_append (fun c mem => Decimal.isDigit_of_mem_digits mem) small ended.not_digit,
      number]
  rw [readUnsigned?_integer negative (startsWhole_digits value ended) whole
    (ended.head_ne (by decide)) (ended.head_ne (by decide)) (ended.head_ne (by decide))]
  cases negative with
  | false => rfl
  | true => rw [if_pos rfl, if_pos rfl, if_pos (signed rfl)]

/-- An integer is read back from its text. -/
theorem read?_integer {value : Int} (fits : minSigned ≤ value ∧ value ≤ maxUnsigned)
    {rest : List Char} (ended : Ended rest) :
    read? (Decimal.integer value ++ rest) = some (.int value, rest) := by
  simp only [minSigned, maxUnsigned] at fits
  have large : value.natAbs ≤ maxSignificand := by
    rw [maxSignificand]
    omega
  rw [Decimal.integer]
  split
  next negative =>
    rw [List.cons_append, read?, readUnsigned?_digits large ended true (by omega)]
    simp only [if_true]
    rw [show -(value.natAbs : Int) = value by omega]
  next nonnegative =>
    obtain ⟨c, more, shape, digit⟩ := Decimal.digits_eq_cons value.natAbs
    have read := readUnsigned?_digits large ended false (by simp)
    rw [shape] at read ⊢
    rw [List.cons_append, read?, ← List.cons_append, read]
    · simp only [Bool.false_eq_true, if_false]
      rw [show (value.natAbs : Int) = value by omega]
    · rintro _ ⟨⟩
      exact absurd digit (by decide)

end Number

namespace Json

/-! ## Strings -/

theorem hexUnit?_hexDigit {code : Nat} (small : code < 32) :
    hexUnit? '0' '0' (hexDigit (code / 16)) (hexDigit (code % 16)) = some code := by
  have all : ∀ code < 32, hexUnit? '0' '0' (hexDigit (code / 16)) (hexDigit (code % 16)) =
      some code := by decide
  exact all code small

/-- Behind a backslash, and not before four digits, stands one character. -/
theorem readString?_escape {letter plain : Char} (known : escapedChar? letter = some plain)
    (text : List Char) :
    readString? ('\\' :: letter :: text) =
      (readString? text).map fun (chars, tail) => (plain :: chars, tail) := by
  have noUnit : letter ≠ 'u' := by
    rintro rfl
    cases known
  rw [readString?, known]
  simp [noUnit]

theorem readString?_unit {unit : Nat} {a b c d : Char} (known : hexUnit? a b c d = some unit)
    (small : unit < 32) (text : List Char) :
    readString? ('\\' :: 'u' :: a :: b :: c :: d :: text) =
      (readString? text).map fun (chars, tail) => (Char.ofNat unit :: chars, tail) := by
  have low : (unit < 0xD800 || 0xDFFF < unit) = true := by
    simp only [Bool.or_eq_true, decide_eq_true_eq]
    omega
  rw [readString?, known]
  exact if_pos low

theorem readString?_plain {c : Char} (noQuote : c ≠ '"') (noEscape : c ≠ '\\')
    (noControl : ¬c.toNat < 32) (text : List Char) :
    readString? (c :: text) = (readString? text).map fun (chars, tail) => (c :: chars, tail) := by
  rw [readString?, if_neg (by simpa [noEscape] using noControl)]
  all_goals simp [noQuote, noEscape]

theorem readString?_escaped (c : Char) (text : List Char) :
    readString? (escaped c ++ text) =
      (readString? text).map fun (chars, tail) => (c :: chars, tail) := by
  rw [escaped]
  split_ifs with quote backslash newline back tab backspace feed control
  · subst quote
    exact readString?_escape rfl text
  · subst backslash
    exact readString?_escape rfl text
  · subst newline
    exact readString?_escape rfl text
  · subst back
    exact readString?_escape rfl text
  · subst tab
    exact readString?_escape rfl text
  · obtain rfl : c = '\x08' := by rw [← Char.ofNat_toNat c, backspace]
    exact readString?_escape rfl text
  · obtain rfl : c = '\x0c' := by rw [← Char.ofNat_toNat c, feed]
    exact readString?_escape rfl text
  · have read := readString?_unit (hexUnit?_hexDigit control) control text
    rwa [Char.ofNat_toNat] at read
  · exact readString?_plain quote backslash control text

theorem readString?_escapedChars (chars rest : List Char) :
    readString? (escapedChars chars ++ '"' :: rest) = some (chars, rest) := by
  induction chars with
  | nil => rw [escapedChars, List.nil_append, readString?]
  | cons c chars ih =>
    rw [escapedChars, List.append_assoc, readString?_escaped, ih]
    rfl

/-! ## Documents -/

mutual

/-- How deep arrays and objects are nested. -/
def nesting : Json → Nat
  | .array items => nestingOfItems items + 1
  | .object members => nestingOfMembers members + 1
  | _ => 0

def nestingOfItems : List Json → Nat
  | [] => 0
  | item :: rest => max item.nesting (nestingOfItems rest)

def nestingOfMembers : List (String × Json) → Nat
  | [] => 0
  | (_, value) :: rest => max value.nesting (nestingOfMembers rest)

end

mutual

/-- Every number is a signed or unsigned integer of 64 bits. -/
def Integral : Json → Prop
  | .number (.int value) => Number.minSigned ≤ value ∧ value ≤ Number.maxUnsigned
  | .number (.float _) => False
  | .array items => IntegralItems items
  | .object members => IntegralMembers members
  | _ => True

def IntegralItems : List Json → Prop
  | [] => True
  | item :: rest => item.Integral ∧ IntegralItems rest

def IntegralMembers : List (String × Json) → Prop
  | [] => True
  | (_, value) :: rest => value.Integral ∧ IntegralMembers rest

end

/-- Members in key order are an object as they are. -/
theorem ofMembers_sorted {members : List (String × Json)} (sorted : SortedKeys members) :
    ofMembers members = .object members :=
  congrArg Json.object (overlay_of_sorted sorted)

theorem not_blank_of_number {c : Char} (first : c = '-' ∨ Decimal.isDigit c = true) :
    isBlank c = false := by
  rcases first with rfl | digit
  · rfl
  · simp only [isBlank, Bool.or_eq_false_iff, beq_eq_false_iff_ne]
    refine ⟨⟨⟨?_, ?_⟩, ?_⟩, ?_⟩
    all_goals
      rintro rfl
      exact absurd digit (by decide)

/-- The text of a value begins with no blank and no closing bracket. -/
theorem compact_cons {value : Json} (integral : value.Integral) :
    ∃ c rest, value.compact = c :: rest ∧ isBlank c = false ∧ c ≠ ']' := by
  match value with
  | .null => exact ⟨_, _, rfl, rfl, by decide⟩
  | .bool true => exact ⟨_, _, rfl, rfl, by decide⟩
  | .bool false => exact ⟨_, _, rfl, rfl, by decide⟩
  | .number (.int value) =>
    obtain ⟨c, rest, shape, first, _⟩ := Decimal.integer_eq_cons value
    refine ⟨c, rest, shape, not_blank_of_number first, ?_⟩
    rintro rfl
    exact absurd first (by decide)
  | .number (.float value) => exact integral.elim
  | .string value => exact ⟨_, _, rfl, rfl, by decide⟩
  | .array [] => exact ⟨_, _, rfl, rfl, by decide⟩
  | .array (item :: rest) => exact ⟨_, _, rfl, rfl, by decide⟩
  | .object [] => exact ⟨_, _, rfl, rfl, by decide⟩
  | .object (member :: rest) => exact ⟨_, _, rfl, rfl, by decide⟩

theorem skipBlanks_compact {value : Json} (integral : value.Integral) (rest : List Char) :
    skipBlanks (value.compact ++ rest) = value.compact ++ rest := by
  obtain ⟨c, more, shape, solid, -⟩ := compact_cons integral
  rw [shape, List.cons_append, skipBlanks, solid]
  rfl

theorem readValue?_number {c : Char} (first : c = '-' ∨ Decimal.isDigit c = true)
    (fuel depth : Nat) (rest : List Char) :
    readValue? (fuel + 1) depth (c :: rest) =
      (Number.read? (c :: rest)).map fun (value, tail) => (.number value, tail) := by
  have solid : skipBlanks (c :: rest) = c :: rest := by
    rw [skipBlanks, not_blank_of_number first]
    rfl
  rw [readValue?, solid]
  split
  case h_8 => rfl
  case h_1 => contradiction
  all_goals
    cases ‹c :: rest = _›
    exact absurd first (by decide)

theorem readValue?_items {fuel depth : Nat} (inside : 0 < depth) {c : Char}
    (solid : isBlank c = false) (filled : c ≠ ']') (rest : List Char) :
    readValue? (fuel + 1) depth ('[' :: c :: rest) =
      (readItems? fuel (depth - 1) (c :: rest)).map fun (items, tail) => (.array items, tail) := by
  have start : skipBlanks ('[' :: c :: rest) = '[' :: c :: rest := rfl
  rw [readValue?, start]
  refine (if_neg (Nat.ne_of_gt inside)).trans ?_
  rw [skipBlanks, solid]
  split
  next empty =>
    cases empty
    contradiction
  next => rfl

theorem readValue?_members {fuel depth : Nat} (inside : 0 < depth) (rest : List Char) :
    readValue? (fuel + 1) depth ('\x7b' :: '"' :: rest) =
      (readMembers? fuel (depth - 1) ('"' :: rest)).map fun (members, tail) =>
        (ofMembers members, tail) := by
  have start : skipBlanks ('\x7b' :: '"' :: rest) = '\x7b' :: '"' :: rest := rfl
  rw [readValue?, start]
  exact if_neg (Nat.ne_of_gt inside)

/-- A key, its colon and its value, with what stands behind them. -/
theorem readMembers?_key {fuel depth : Nat} (key : String) {value : Json} {text rest : List Char}
    (read : readValue? fuel depth text = some (value, rest)) :
    (∀ tail, rest = '\x7d' :: tail →
      readMembers? (fuel + 1) depth (quoted key ++ ':' :: text) = some ([(key, value)], tail)) ∧
    ∀ tail members later, rest = ',' :: tail →
      readMembers? fuel depth tail = some (members, later) →
        readMembers? (fuel + 1) depth (quoted key ++ ':' :: text) =
          some ((key, value) :: members, later) := by
  have shape : quoted key ++ ':' :: text =
      '"' :: (escapedChars key.toList ++ '"' :: ':' :: text) := by simp [quoted]
  have quote : ∀ text, skipBlanks ('"' :: text) = '"' :: text := fun _ => rfl
  have colon : skipBlanks (':' :: text) = ':' :: text := rfl
  rw [shape]
  constructor
  · rintro tail rfl
    have brace : skipBlanks ('\x7d' :: tail) = '\x7d' :: tail := rfl
    simp only [readMembers?, quote, readString?_escapedChars, colon, read, brace,
      String.ofList_toList]
  · rintro tail members later rfl others
    have comma : skipBlanks (',' :: tail) = ',' :: tail := rfl
    simp only [readMembers?, quote, readString?_escapedChars, colon, read, comma, others,
      Option.map_some, String.ofList_toList]

/-! What is left after an item or a member begins with the comma or the bracket behind it. -/

theorem ended_items (items : List Json) (rest : List Char) :
    Ended (compactItems items ++ rest) := by
  cases items with
  | nil =>
    rintro c ⟨⟩
    exact .inr (.inl rfl)
  | cons item items =>
    rintro c ⟨⟩
    exact .inl rfl

theorem ended_members (members : List (String × Json)) (rest : List Char) :
    Ended (compactMembers members ++ rest) := by
  cases members with
  | nil =>
    rintro c ⟨⟩
    exact .inr (.inr rfl)
  | cons member members =>
    rintro c ⟨⟩
    exact .inl rfl

mutual

/-- A value is read off the front of a text that begins with its text. -/
theorem readValue?_compact (fuel depth : Nat) {value : Json} (integral : value.Integral)
    (sorted : value.Sorted) (shallow : value.nesting ≤ depth)
    (enough : 2 * value.compact.length ≤ fuel) {rest : List Char} (ended : Ended rest) :
    readValue? fuel depth (value.compact ++ rest) = some (value, rest) := by
  have blank := skipBlanks_compact integral rest
  match fuel with
  | 0 =>
    obtain ⟨c, more, shape, -⟩ := compact_cons integral
    simp [shape] at enough
  | fuel + 1 =>
    match value with
    | .null =>
      rw [readValue?, blank]
      rfl
    | .bool true =>
      rw [readValue?, blank]
      rfl
    | .bool false =>
      rw [readValue?, blank]
      rfl
    | .number (.int value) =>
      obtain ⟨c, more, shape, first, _⟩ := Decimal.integer_eq_cons value
      have read := Number.read?_integer integral ended
      rw [shape, List.cons_append] at read
      rw [compact, Number.compact, shape, List.cons_append, readValue?_number first, read]
      rfl
    | .number (.float value) => exact integral.elim
    | .string value =>
      rw [readValue?, blank]
      change (readString? (escapedChars value.toList ++ ['"'] ++ rest)).map _ = _
      rw [List.append_assoc, List.singleton_append, readString?_escapedChars]
      simp
    | .array [] =>
      rw [nesting] at shallow
      rw [readValue?, blank]
      exact if_neg (by omega)
    | .array (item :: items) =>
      rw [nesting] at shallow
      rw [compact, List.length_cons] at enough
      have read := readItems?_compact fuel (depth - 1) integral sorted (by omega) (by omega) rest
      obtain ⟨c, more, shape, solid, filled⟩ := compact_cons integral.1
      rw [compact, List.cons_append]
      rw [shape, List.cons_append, List.cons_append] at read ⊢
      rw [readValue?_items (by omega) solid filled, read]
      rfl
    | .object [] =>
      rw [nesting] at shallow
      rw [readValue?, blank]
      exact if_neg (by omega)
    | .object ((key, value) :: members) =>
      rw [nesting] at shallow
      rw [compact, List.length_cons] at enough
      have read :=
        readMembers?_compact fuel (depth - 1) integral sorted.2 (by omega) (by omega) rest
      rw [compact, List.cons_append]
      rw [quoted, List.cons_append, List.cons_append] at read ⊢
      rw [readValue?_members (by omega), read]
      change some (ofMembers ((key, value) :: members), rest) = _
      rw [ofMembers_sorted sorted.1]
termination_by fuel

theorem readItems?_compact (fuel depth : Nat) {item : Json} {items : List Json}
    (integral : IntegralItems (item :: items)) (sorted : SortedItems (item :: items))
    (shallow : nestingOfItems (item :: items) ≤ depth)
    (enough : 2 * (item.compact ++ compactItems items).length < fuel) (rest : List Char) :
    readItems? fuel depth (item.compact ++ compactItems items ++ rest) =
      some (item :: items, rest) := by
  match fuel with
  | 0 => exact absurd enough (Nat.not_lt_zero _)
  | fuel + 1 =>
    rw [nestingOfItems] at shallow
    rw [List.length_append] at enough
    have read := readValue?_compact fuel depth integral.1 sorted.1 (by omega) (by omega)
      (ended_items items rest)
    rw [readItems?, List.append_assoc, read]
    match items with
    | [] => rfl
    | next :: items =>
      rw [compactItems, List.length_cons] at enough
      have others := readItems?_compact fuel depth integral.2 sorted.2 (by omega) (by omega) rest
      change (readItems? fuel depth (next.compact ++ compactItems items ++ rest)).map _ = _
      rw [others]
      rfl
termination_by fuel

theorem readMembers?_compact (fuel depth : Nat) {key : String} {value : Json}
    {members : List (String × Json)} (integral : IntegralMembers ((key, value) :: members))
    (sorted : SortedMembers ((key, value) :: members))
    (shallow : nestingOfMembers ((key, value) :: members) ≤ depth)
    (enough : 2 * (quoted key ++ ':' :: (value.compact ++ compactMembers members)).length < fuel)
    (rest : List Char) :
    readMembers? fuel depth
        (quoted key ++ ':' :: (value.compact ++ compactMembers members) ++ rest) =
      some ((key, value) :: members, rest) := by
  match fuel with
  | 0 => exact absurd enough (Nat.not_lt_zero _)
  | fuel + 1 =>
    rw [nestingOfMembers] at shallow
    rw [List.length_append, List.length_cons, List.length_append] at enough
    have read := readValue?_compact fuel depth integral.1 sorted.1 (by omega) (by omega)
      (ended_members members rest)
    rw [List.append_assoc, List.cons_append, List.append_assoc]
    match members with
    | [] => exact (readMembers?_key key read).1 rest rfl
    | (next, value) :: members =>
      rw [compactMembers, List.length_cons] at enough
      have others := readMembers?_compact fuel depth integral.2 sorted.2 (by omega) (by omega) rest
      refine (readMembers?_key key read).2 _ _ _ ?_ others
      rfl
termination_by fuel

end

/-- A document of integers that is nested no deeper than the reader goes is read back from its
text. -/
theorem parse?_text {document : Json} (integral : document.Integral) (sorted : document.Sorted)
    (shallow : document.nesting ≤ maxDepth) : parse? document.text = some document := by
  have read := readValue?_compact (2 * document.compact.length + 2) maxDepth integral sorted shallow
    (Nat.le_add_right _ 2) ended_nil
  rw [List.append_nil] at read
  rw [parse?, parseChars?, text, String.toList_ofList, read]
  rfl

end Json

namespace Intrinsic

open Evaluation (run_bind_ok_iff run_pure_ok_iff)

/-! ## Calls -/

theorem applyPlain_stringToJson (config : Config) {document : Json} {text : String}
    (read : Json.parse? text = some document) :
    applyPlain config "StringToJson" [.string text] = .ok document := by
  refine Except.bind_eq_ok.mpr ⟨text, rfl, ?_⟩
  rw [read]
  rfl

theorem evaluate_one {name : String} {argument : Argument} {scope : Scope} {value result : Json}
    {source next later : Random.Source}
    (given : (argument.evaluate scope).run source = (.ok value, next))
    (applies : (apply scope.config name [value]).run next = (.ok result, later)) :
    ((Call.mk name [argument]).evaluate scope).run source = (.ok result, later) := by
  rw [Call.evaluate]
  refine run_bind_ok_iff.mpr ⟨[value], next, ?_, applies⟩
  rw [evaluateAll]
  refine run_bind_ok_iff.mpr ⟨value, next, given, ?_⟩
  rfl

/-- The text of a document of integers is read back as that document, whatever argument it comes
from. -/
theorem evaluate_stringToJson {text : String} {argument : Argument} {scope : Scope} {value : Json}
    {source later : Random.Source}
    (read : parse text = .ok (.mk "StringToJson" [.call (.mk "JsonToString" [argument])]))
    (given : (argument.evaluate scope).run source = (.ok value, later))
    (integral : value.Integral) (sorted : value.Sorted) (shallow : value.nesting ≤ 127) :
    (evaluate text scope).run source = (.ok value, later) := by
  have written : ((Call.mk "JsonToString" [argument]).evaluate scope).run source =
      (.ok (.string value.text), later) := evaluate_one given rfl
  have same := Json.parse?_text integral sorted shallow
  rw [evaluate, read]
  apply evaluate_one (by rwa [Argument.evaluate])
  change (ExceptT.adapt (Error.refused "StringToJson") (Evaluation.ofExcept
    (applyPlain scope.config "StringToJson" [.string value.text]))).run later = _
  rw [applyPlain_stringToJson scope.config same]
  rfl

/-- Escapes in a key and in a value, both ends of the range of integers, and empty containers. -/
def nested : Json :=
  .object [("", .array []), ("\"\\\n", .array [.int (-9223372036854775808),
    .int 18446744073709551615, .object [], .string "\x01/\u00e9", .null, .bool true])]

def nestedScope : Scope := { input := .object [("x", nested)], context := .null, bindings := [] }

set_option maxRecDepth 20000 in
theorem parse_stringToJson : parse "States.StringToJson(States.JsonToString($.x))" =
    .ok (.mk "StringToJson" [.call (.mk "JsonToString" [.path "$.x"])]) := by cbv

set_option maxRecDepth 20000 in
theorem evaluate_nested :
    ((Argument.path "$.x").evaluate nestedScope).run default = (.ok nested, default) := by
  have read : Path.parse "$.x" = .ok ⟨.input, [.child "x"]⟩ := by cbv
  have found : Path.evaluate "$.x" nestedScope = .ok (some nested) := by
    rw [Path.evaluate, read]
    rfl
  rw [Argument.evaluate, found]
  rfl

theorem evaluate_stringToJson_nested :
    nested.Integral ∧ nested.Sorted ∧ nested.nesting ≤ 127 ∧
      (evaluate "States.StringToJson(States.JsonToString($.x))" nestedScope).run default =
        (.ok nested, default) := by
  have integral : nested.Integral := by
    simp [nested, Json.Integral, Json.IntegralItems, Json.IntegralMembers, Number.minSigned,
      Number.maxUnsigned]
  have sorted : nested.Sorted := by
    simp only [nested, Json.Sorted, Json.SortedKeys, Json.SortedMembers, Json.SortedItems, and_true,
      List.pairwise_cons]
    decide
  have shallow : nested.nesting ≤ 127 := by decide
  exact ⟨integral, sorted, shallow,
    evaluate_stringToJson parse_stringToJson evaluate_nested integral sorted shallow⟩

end Intrinsic

end Workflow
