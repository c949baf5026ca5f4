import Mathlib.Data.List.DropRight
import Workflow.Proofs.Spelling

/-!
# Scanning canonical paths

What the readers of names, numbers and brackets take off the front of a canonical text. A run of
characters ends where a character of another kind stands, so each reader is given the texts that may
stand behind: a comma or a bracket behind a member, a blank or a parenthesis behind an operand.
-/

namespace Workflow

/-! ## Blanks -/

namespace Text

/-- Whether no range of the one list meets a range of the other. -/
def Ranges.apart (left right : Ranges) : Bool :=
  left.all fun (first, last) => right.all fun (start, stop) => last < start || stop < first

theorem Ranges.contains_of_apart {left right : Ranges} (disjoint : left.apart right = true)
    {point : Nat} (inside : left.contains point = true) : right.contains point = false := by
  rw [Ranges.contains, List.any_eq_true] at inside
  obtain ⟨⟨first, last⟩, mem, within⟩ := inside
  rw [Ranges.contains, List.any_eq_false]
  intro ⟨start, stop⟩ other
  have gap := List.all_eq_true.mp (List.all_eq_true.mp disjoint _ mem) _ other
  simp only [Bool.and_eq_true, decide_eq_true_eq, Bool.or_eq_true] at within gap ⊢
  omega

theorem blankRanges_apart_letterRanges : blankRanges.apart letterRanges = true := by
  decide +kernel

theorem blankRanges_apart_numeralRanges : blankRanges.apart numeralRanges = true := by
  decide +kernel

/-- A blank beyond the space and the ASCII controls is neither a letter nor a numeral. -/
theorem isBlank_cases {c : Char} (blank : isBlank c = true) :
    c.toNat ≤ 32 ∨ blankRanges.contains c.toNat = true := by
  simp only [isBlank, Bool.or_eq_true, beq_iff_eq, Bool.and_eq_true, decide_eq_true_eq,
    Char.le_def, UInt32.le_iff_toNat_le] at blank
  rcases blank with (rfl | ⟨-, small⟩) | far
  · exact .inl (by decide)
  · exact .inl (Nat.le_trans small (by decide))
  · exact .inr far

theorem isBlank_eq_false_of_isLetterOrNumeral {c : Char} (letter : isLetterOrNumeral c = true) :
    isBlank c = false := by
  rw [Bool.eq_false_iff]
  intro blank
  have code : c.toNat = c.val.toNat := rfl
  have inAscii : 'A'.val.toNat = 65 ∧ 'a'.val.toNat = 97 ∧ '0'.val.toNat = 48 := ⟨rfl, rfl, rfl⟩
  have ends : 'Z'.val.toNat = 90 ∧ 'z'.val.toNat = 122 ∧ '9'.val.toNat = 57 := ⟨rfl, rfl, rfl⟩
  simp only [isLetterOrNumeral, isLetter, Bool.or_eq_true, Bool.and_eq_true, decide_eq_true_eq,
    Char.le_def, UInt32.le_iff_toNat_le] at letter
  rcases isBlank_cases blank with small | far
  · omega
  · have noLetter := Ranges.contains_of_apart blankRanges_apart_letterRanges far
    have noNumeral := Ranges.contains_of_apart blankRanges_apart_numeralRanges far
    have noAscii : Ranges.contains [(0, 0x84)] c.toNat = false :=
      Ranges.contains_of_apart (by decide) far
    simp only [noLetter, noNumeral, Bool.false_eq_true, and_false, or_false] at letter
    simp only [Ranges.contains, List.any_cons, List.any_nil, Bool.or_false, Bool.and_eq_false_iff,
      decide_eq_false_iff_not] at noAscii
    omega

theorem ne_of_isBlank {c d : Char} (blank : isBlank c = true) (dark : isBlank d = false) :
    c ≠ d := by
  rintro rfl
  rw [blank] at dark
  contradiction

/-- A blank is of no kind that holds no blank. -/
theorem eq_false_of_isBlank {kind : Char → Bool} (dark : ∀ {c}, kind c = true → isBlank c = false)
    {c : Char} (blank : isBlank c = true) : kind c = false := by
  rw [Bool.eq_false_iff]
  intro inside
  rw [dark inside] at blank
  contradiction

/-- The first character of a text is not blank. -/
def Dark (text : List Char) : Prop := ∀ c ∈ text.head?, isBlank c = false

theorem trimStart_of_dark {text : List Char} (dark : Dark text) : trimStart text = text := by
  cases text with
  | nil => rfl
  | cons c rest => exact List.dropWhile_cons_of_neg (by simp [dark c rfl])

@[simp]
theorem trimStart_space (text : List Char) : trimStart (' ' :: text) = trimStart text := rfl

@[simp]
theorem trimStart_trimStart (text : List Char) : trimStart (trimStart text) = trimStart text :=
  List.dropWhile_idempotent isBlank text

/-- A text that neither starts nor ends with a blank is not trimmed. -/
theorem trim_of_dark {text : List Char} (front : Dark text) (back : Dark text.reverse) :
    trim text = text := by
  have kept : trimStart text.reverse = text.reverse := trimStart_of_dark back
  rw [trim, trimStart_of_dark front, trimEnd]
  exact (congrArg List.reverse kept).trans text.reverse_reverse

end Text

namespace Path

/-! ## Quoted texts and integers -/

theorem readQuoted_escaped (text rest : List Char) :
    readQuoted '\x27' (escaped text ++ '\x27' :: rest) = .ok (text, rest) := by
  induction text with
  | nil => rfl
  | cons c text ih =>
    rw [escaped]
    split
    next => simp only [List.cons_append, readQuoted, ih]
    next plain =>
      rw [not_or] at plain
      simp only [List.cons_append]
      rw [readQuoted]
      · simp only [plain.1, if_false, ih]
      · intro broken
        exact absurd broken plain.2
      · intro _ _ broken
        exact absurd broken plain.2

/-- A run of characters of one kind ends where a character of another kind stands. -/
theorem span_append {kind : Char → Bool} {run rest : List Char} (inside : ∀ c ∈ run, kind c = true)
    (stops : ∀ c ∈ rest.head?, kind c = false) :
    (run ++ rest).takeWhile kind = run ∧ (run ++ rest).dropWhile kind = rest := by
  rw [List.takeWhile_append_of_pos inside, List.dropWhile_append_of_pos inside]
  cases rest with
  | nil => simp
  | cons c rest => simp [stops c rfl]

theorem ne_of_digit {c d : Char} (digit : Decimal.isDigit c = true)
    (other : Decimal.isDigit d = false) : c ≠ d := by
  rintro rfl
  exact absurd digit (by simp [other])

/-- Neither a digit nor a minus sign stands here. -/
def NoInteger (rest : List Char) : Prop := ∀ c ∈ rest.head?, Decimal.isDigit c = false ∧ c ≠ '-'

theorem readInteger?_none {rest : List Char} (stops : NoInteger rest) :
    readInteger? rest = .ok (none, rest) := by
  cases rest with
  | nil => rfl
  | cons c rest =>
    obtain ⟨noDigit, noMinus⟩ := stops c rfl
    simp [readInteger?, noDigit, noMinus]

theorem span_digits (number : Nat) {rest : List Char} (stops : NoInteger rest) :
    (Decimal.digits number ++ rest).takeWhile Decimal.isDigit = Decimal.digits number ∧
      (Decimal.digits number ++ rest).dropWhile Decimal.isDigit = rest :=
  span_append (fun _ => Decimal.isDigit_of_mem_digits) fun c mem => (stops c mem).1

theorem readInteger?_integer {value : Int} (fits : Decimal.Signed value) {rest : List Char}
    (stops : NoInteger rest) :
    readInteger? (Decimal.integer value ++ rest) = .ok (some value, rest) := by
  have read := Decimal.signed?_integer fits
  obtain ⟨number, negative | positive⟩ := Decimal.integer_cases value
  · have ⟨front, back⟩ := span_digits number stops
    rw [negative] at read ⊢
    simp [readInteger?, front, back, read]
  · have ⟨front, back⟩ := span_digits number stops
    obtain ⟨c, digits, shape, digit⟩ := Decimal.digits_eq_cons number
    have noMinus : c ≠ '-' := ne_of_digit digit rfl
    rw [positive] at read ⊢
    rw [shape] at front back read ⊢
    simp only [List.cons_append] at front back
    simp [readInteger?, noMinus, front, back, read]

/-- Where an integer starts, a digit or a minus sign stands. -/
theorem readInteger?_boundText {bound : Option Int} (fits : BoundFits bound) {rest : List Char}
    (stops : NoInteger rest) : readInteger? (boundText bound ++ rest) = .ok (bound, rest) := by
  cases bound with
  | none => exact readInteger?_none stops
  | some value => exact readInteger?_integer (fits value rfl) stops

/-! ## Members of brackets -/

/-- The text starts with neither a quote nor a blank. -/
def Unquoted (text : List Char) : Prop :=
  ∀ c ∈ text.head?, c ≠ '\x27' ∧ c ≠ '"' ∧ Text.isBlank c = false

theorem not_blank_of_digit {c : Char} (digit : Decimal.isDigit c = true) :
    Text.isBlank c = false := by
  apply Text.isBlank_eq_false_of_isLetterOrNumeral
  rw [Decimal.isDigit] at digit
  simp [Text.isLetterOrNumeral, digit]

/-- What starts a number is none of the characters that do not. -/
theorem ne_of_numeric {c d : Char} (numeric : (c == '-' || Decimal.isDigit c) = true)
    (other : (d == '-' || Decimal.isDigit d) = false) : c ≠ d := by
  rintro rfl
  rw [numeric] at other
  contradiction

theorem not_blank_of_numeric {c : Char} (numeric : (c == '-' || Decimal.isDigit c) = true) :
    Text.isBlank c = false := by
  rcases Bool.or_eq_true _ _ |>.mp numeric with minus | digit
  · obtain rfl := eq_of_beq minus
    decide
  · exact not_blank_of_digit digit

theorem unquoted_integer (value : Int) (rest : List Char) :
    Unquoted (Decimal.integer value ++ rest) := by
  obtain ⟨c, tail, shape, rfl | digit, _⟩ := Decimal.integer_eq_cons value
  · rw [shape]
    rintro c ⟨⟩
    decide
  · rw [shape]
    rintro c ⟨⟩
    exact ⟨ne_of_digit digit rfl, ne_of_digit digit rfl, not_blank_of_digit digit⟩

theorem unquoted_boundText (bound : Option Int) {rest : List Char} (clear : Unquoted rest) :
    Unquoted (boundText bound ++ rest) := by
  cases bound with
  | none => exact clear
  | some value => exact unquoted_integer value rest

/-- A bracket or a comma ends a member. -/
def EndsMember (rest : List Char) : Prop := ∃ tail, rest = ',' :: tail ∨ rest = ']' :: tail

theorem EndsMember.noInteger {rest : List Char} (ends : EndsMember rest) : NoInteger rest := by
  obtain ⟨tail, rfl | rfl⟩ := ends
  all_goals
    rintro c ⟨⟩
    decide

theorem Unquoted.not_single {text : List Char} (clear : Unquoted text) (rest : List Char) :
    text = '\x27' :: rest → False := by
  rintro rfl
  exact (clear '\x27' rfl).1 rfl

theorem Unquoted.not_double {text : List Char} (clear : Unquoted text) (rest : List Char) :
    text = '"' :: rest → False := by
  rintro rfl
  exact (clear '"' rfl).2.1 rfl

theorem Unquoted.trimStart {text : List Char} (clear : Unquoted text) :
    Text.trimStart text = text :=
  Text.trimStart_of_dark fun c mem => (clear c mem).2.2

theorem readMember_memberText {member : Selector} (valid : member.IsMember) {rest : List Char}
    (ends : EndsMember rest) : readMember (member.memberText ++ rest) = .ok (member, rest) := by
  cases member with
  | child name =>
    simp only [Selector.memberText, quoted, List.cons_append, List.append_assoc, List.nil_append]
    rw [readMember, readQuoted_escaped]
    simp only [bind, Except.bind, pure, Except.pure, String.ofList_toList]
  | index position =>
    have clear := unquoted_integer position rest
    rw [Selector.memberText, readMember, readInteger?_integer valid ends.noInteger]
    · obtain ⟨tail, rfl | rfl⟩ := ends
      all_goals rfl
    · exact clear.not_single
    · exact clear.not_double
  | wildcard => exact valid.elim
  | slice start stop step => exact valid.elim
  | union members => exact valid.elim
  | filter condition => exact valid.elim
  | descend inner => exact valid.elim

/-- Behind the colon of a slice no integer goes on. -/
theorem noInteger_of_mark {c : Char} (mark : c = ':' ∨ c = ']') (rest : List Char) :
    NoInteger (c :: rest) := by
  rcases mark with rfl | rfl
  all_goals
    rintro c ⟨⟩
    decide

theorem readMember_sliceText {start stop step : Option Int} (startFits : BoundFits start)
    (stopFits : BoundFits stop) (stepFits : BoundFits step) (rest : List Char) :
    readMember (sliceText start stop step ++ ']' :: rest) =
      .ok (.slice start stop step, ']' :: rest) := by
  have colon : ∀ tail, Unquoted (':' :: tail) := by
    rintro tail c ⟨⟩
    decide
  have closing : ∀ tail, Unquoted (']' :: tail) := by
    rintro tail c ⟨⟩
    decide
  have readStart := fun tail =>
    readInteger?_boundText startFits (noInteger_of_mark (.inl rfl : ':' = ':' ∨ _) tail)
  cases step with
  | none =>
    have clear := unquoted_boundText start (colon (boundText stop ++ ']' :: rest))
    have readStop := readInteger?_boundText stopFits (noInteger_of_mark (.inr rfl) rest)
    simp only [sliceText, List.append_assoc, List.cons_append]
    rw [readMember, readStart]
    · simp only [bind, Except.bind, (colon _).trimStart, (closing _).trimStart,
        (unquoted_boundText stop (closing rest)).trimStart, readStop, pure, Except.pure]
      rfl
    · exact clear.not_single
    · exact clear.not_double
  | some step =>
    have clear := unquoted_boundText start
      (colon (boundText stop ++ ':' :: (Decimal.integer step ++ ']' :: rest)))
    have readStop := readInteger?_boundText stopFits
      (noInteger_of_mark (.inl rfl) (Decimal.integer step ++ ']' :: rest))
    have readStep := readInteger?_integer (stepFits step rfl) (noInteger_of_mark (.inr rfl) rest)
    simp only [sliceText, List.append_assoc, List.cons_append]
    rw [readMember, readStart]
    · simp only [bind, Except.bind, (colon _).trimStart,
        (unquoted_boundText stop (colon _)).trimStart, readStop,
        (unquoted_integer step _).trimStart, readStep, pure, Except.pure]
    · exact clear.not_single
    · exact clear.not_double

/-- The text starts as a member of a bracket does. -/
def StartsMember (text : List Char) : Prop :=
  ∀ c ∈ text.head?, c = '\x27' ∨ c = ':' ∨ c = '-' ∨ Decimal.isDigit c = true

theorem StartsMember.plain {text : List Char} (starts : StartsMember text) {c : Char}
    (mem : c ∈ text.head?) : c ≠ '*' ∧ c ≠ '?' ∧ Text.isBlank c = false := by
  rcases starts c mem with rfl | rfl | rfl | digit
  · decide
  · decide
  · decide
  · exact ⟨ne_of_digit digit rfl, ne_of_digit digit rfl, not_blank_of_digit digit⟩

theorem StartsMember.trimStart {text : List Char} (starts : StartsMember text) :
    Text.trimStart text = text :=
  Text.trimStart_of_dark fun _ mem => (starts.plain mem).2.2

theorem startsMember_integer (value : Int) (rest : List Char) :
    StartsMember (Decimal.integer value ++ rest) := by
  obtain ⟨c, tail, shape, sign | digit, _⟩ := Decimal.integer_eq_cons value
  · rw [shape]
    rintro c ⟨⟩
    exact .inr (.inr (.inl sign))
  · rw [shape]
    rintro c ⟨⟩
    exact .inr (.inr (.inr digit))

theorem startsMember_memberText {member : Selector} (valid : member.IsMember) (rest : List Char) :
    StartsMember (member.memberText ++ rest) := by
  cases member with
  | child name =>
    rintro c ⟨⟩
    exact .inl rfl
  | index position => exact startsMember_integer position rest
  | wildcard => exact valid.elim
  | slice start stop step => exact valid.elim
  | union members => exact valid.elim
  | filter condition => exact valid.elim
  | descend inner => exact valid.elim

theorem startsMember_sliceText (start stop step : Option Int) (rest : List Char) :
    StartsMember (sliceText start stop step ++ rest) := by
  have colon : ∀ tail, StartsMember (boundText start ++ ':' :: tail) := by
    intro tail
    cases start with
    | none =>
      rintro c ⟨⟩
      exact .inr (.inl rfl)
    | some value => exact startsMember_integer value _
  cases step with
  | none =>
    rw [sliceText, List.append_assoc, List.cons_append]
    exact colon _
  | some step =>
    rw [sliceText, List.append_assoc, List.cons_append]
    exact colon _

theorem endsMember_othersText (members : List Selector) (rest : List Char) :
    EndsMember (othersText members ++ ']' :: rest) := by
  cases members with
  | nil => exact ⟨rest, .inr rfl⟩
  | cons member members => exact ⟨_, .inl rfl⟩

theorem readMembers_othersText {members : List Selector} (valid : ∀ m ∈ members, m.IsMember)
    {fuel : Nat} (enough : members.length ≤ fuel) (rest : List Char) :
    readMembers fuel (othersText members ++ ']' :: rest) = .ok (members, ']' :: rest) := by
  induction members generalizing fuel with
  | nil =>
    cases fuel with
    | zero => rfl
    | succ fuel => rfl
  | cons member members ih =>
    cases fuel with
    | zero => exact absurd enough (by simp)
    | succ fuel =>
      have first := valid member List.mem_cons_self
      have others := ih (fun m mem => valid m (List.mem_cons_of_mem _ mem))
        (Nat.le_of_succ_le_succ enough)
      have here := readMember_memberText first (endsMember_othersText members rest)
      have start :
        Text.trimStart (',' :: (member.memberText ++ othersText members ++ ']' :: rest)) =
          ',' :: (member.memberText ++ (othersText members ++ ']' :: rest)) := by
        rw [List.append_assoc]
        rfl
      simp only [othersText, List.cons_append, readMembers, start, bind, Except.bind,
        (startsMember_memberText first _).trimStart, here, others, pure, Except.pure]

theorem not_slice_of_isMember {member : Selector} (valid : member.IsMember) :
    member.isSlice = false := by
  cases member with
  | slice start stop step => exact valid.elim
  | _ => rfl

/-! ## Brackets -/

/-- What a bracket with several members comes to. -/
def gathered (first : Selector) : List Selector → Selector
  | [] => first
  | others => .union (first :: others)

theorem length_le_othersText (members : List Selector) :
    members.length ≤ (othersText members).length := by
  induction members with
  | nil => exact Nat.le_refl 0
  | cons member members ih =>
    simp only [othersText, List.length_cons, List.length_append]
    omega

/-- A bracket that is neither a wildcard nor a filter holds a first member and others. -/
theorem readBracket_members {head : List Char} {first : Selector} {others : List Selector}
    {rest : List Char} (starts : StartsMember (head ++ (othersText others ++ ']' :: rest)))
    (readFirst : readMember (head ++ (othersText others ++ ']' :: rest)) =
      .ok (first, othersText others ++ ']' :: rest))
    (valid : ∀ member ∈ others, member.IsMember) (apart : others ≠ [] → first.isSlice = false)
    (fuel : Nat) :
    readBracket (fuel + 1) (head ++ (othersText others ++ ']' :: rest)) =
      .ok (gathered first others, rest) := by
  have enough : others.length ≤ (head ++ (othersText others ++ ']' :: rest)).length := by
    have short := length_le_othersText others
    simp only [List.length_append]
    omega
  have readOthers := readMembers_othersText valid enough rest
  rw [readBracket, starts.trimStart]
  split
  next tail shape =>
    have mem : '*' ∈ (head ++ (othersText others ++ ']' :: rest)).head? := by
      rw [shape]
      rfl
    exact absurd rfl (starts.plain mem).1
  next tail shape =>
    have mem : '?' ∈ (head ++ (othersText others ++ ']' :: rest)).head? := by
      rw [shape]
      rfl
    exact absurd rfl (starts.plain mem).2.1
  next =>
    simp only [readFirst, bind, Except.bind, readOthers, expect, if_true, pure, Except.pure]
    cases others with
    | nil => rfl
    | cons member others =>
      have noSlice : (first :: member :: others).any Selector.isSlice = false := by
        rw [List.any_eq_false]
        intro selector mem
        rw [Bool.not_eq_true]
        rcases List.mem_cons.mp mem with rfl | mem
        · exact apart (List.cons_ne_nil _ _)
        · exact not_slice_of_isMember (valid selector mem)
      simp only [noSlice, Bool.false_eq_true, if_false]
      rfl

/-- What stands between brackets is read off the front of a text, behind the opening one. -/
def Bracketed (inside : List Char) (selector : Selector) : Prop :=
  ∀ fuel rest, 10 * inside.length + 10 ≤ fuel →
    readBracket fuel (inside ++ ']' :: rest) = .ok (selector, rest)

theorem bracketed_wildcard : Bracketed ['*'] .wildcard := by
  intro fuel rest enough
  cases fuel with
  | zero => exact absurd enough (by simp)
  | succ fuel => rfl

theorem bracketed_member {member : Selector} (valid : member.IsMember) :
    Bracketed member.memberText member := by
  intro fuel rest enough
  cases fuel with
  | zero => exact absurd enough (by simp)
  | succ fuel =>
    have read := readMember_memberText valid (endsMember_othersText [] rest)
    exact readBracket_members (startsMember_memberText valid _) read
      (by simp) (fun filled => absurd rfl filled) fuel

theorem bracketed_slice {start stop step : Option Int} (startFits : BoundFits start)
    (stopFits : BoundFits stop) (stepFits : BoundFits step) :
    Bracketed (sliceText start stop step) (.slice start stop step) := by
  intro fuel rest enough
  cases fuel with
  | zero => exact absurd enough (by simp)
  | succ fuel =>
    have read := readMember_sliceText startFits stopFits stepFits rest
    have starts := startsMember_sliceText start stop step (othersText [] ++ ']' :: rest)
    exact readBracket_members starts read (by simp) (fun filled => absurd rfl filled) fuel

theorem bracketed_union {members : List Selector} (several : 2 ≤ members.length)
    (valid : ∀ member ∈ members, member.IsMember) :
    Bracketed (membersText members) (.union members) := by
  intro fuel rest enough
  match members, several, fuel with
  | first :: second :: others, _, fuel + 1 =>
    have firstValid := valid first List.mem_cons_self
    have othersValid : ∀ member ∈ second :: others, member.IsMember :=
      fun member mem => valid member (List.mem_cons_of_mem _ mem)
    have read := readMember_memberText firstValid (endsMember_othersText (second :: others) rest)
    rw [membersText, List.append_assoc]
    exact readBracket_members (startsMember_memberText firstValid _) read othersValid
      (fun _ => not_slice_of_isMember firstValid) fuel

end Path

end Workflow
