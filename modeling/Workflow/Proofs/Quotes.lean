import Workflow.Path.Parser
import Workflow.Proofs.Checking
import Workflow.Proofs.Enclosure

/-!
# The quotes of a path

The scanner of path arguments against the readers of paths. The scanner knows no escapes and no
names, so it takes every quote for one that opens or closes a quoted part. Where that is what the
quotes of a path are, the scanner follows the readers character by character: it is outside of quotes
wherever they are, and as deep in brackets.
-/

namespace Workflow.Intrinsic

/-! ## Plain quotes -/

/-- Where a reader of a path stands, as far as its quotes are concerned. -/
inductive Place where
  | outside
  | name
  | quoted (quote : Char)
  | escaped (quote : Char)
deriving DecidableEq

def isQuote (c : Char) : Bool := c == '\x27' || c == '"'

namespace Place

/-- Where the reader stands behind a character. A name goes from a point up to a character that ends
names and holds no quote; in a quoted part the quote that delimits it is not escaped. -/
def next? : Place → Char → Option Place
  | .outside, c => some (if isQuote c then .quoted c else if c = '.' then .name else .outside)
  | .name, c =>
    if isQuote c then none
    else some (if c ≠ '.' ∧ Path.endsName c = true then .outside else .name)
  | .quoted quote, c =>
    some (if c = '\\' then .escaped quote else if c = quote then .outside else .quoted quote)
  | .escaped quote, c => if c = quote then none else some (.quoted quote)

/-- The quote that the scanner takes to be open. -/
def quote : Place → Option Char
  | .outside => none
  | .name => none
  | .quoted quote => some quote
  | .escaped quote => some quote

end Place

/-- Whether every quote of a text opens or closes a quoted part. -/
def plain (place : Place) : List Char → Bool
  | [] => true
  | c :: rest =>
    match place.next? c with
    | some next => plain next rest
    | none => false

theorem plain_cons {place : Place} {c : Char} {rest : List Char} :
    plain place (c :: rest) = true ↔ ∃ next, place.next? c = some next ∧ plain next rest = true := by
  rw [plain]
  cases place.next? c <;> simp

theorem plain_outside_of_name {text : List Char} (quotes : plain .name text = true) :
    plain .outside text = true := by
  induction text with
  | nil => rfl
  | cons c rest ih =>
    obtain ⟨next, goes, behind⟩ := plain_cons.mp quotes
    simp only [Place.next?] at goes
    split at goes
    next => cases goes
    next unquoted =>
      obtain rfl := Option.some.inj goes
      apply plain_cons.mpr
      by_cases point : c = '.'
      · subst point
        exact ⟨.name, rfl, behind⟩
      · refine ⟨.outside, by simp [Place.next?, unquoted, point], ?_⟩
        split at behind
        next => exact behind
        next => exact ih behind

/-! ## Following a reader -/

/-- The scanner gets from a text to a rest of it, from one depth of brackets to another, and the
quotes of the rest are plain if those of the text are. -/
def Moves (place : Place) (depth : Nat) (text : List Char) (depth' : Nat) (rest : List Char) : Prop :=
  plain place text = true →
    (∃ taken, text = taken ++ rest ∧ scan place.quote depth taken = some (none, depth')) ∧
      plain .outside rest = true

namespace Moves

variable {place : Place} {depth depth' : Nat} {c : Char} {text rest rest' : List Char}

theorem refl (depth : Nat) (text : List Char) : Moves .outside depth text depth text := by
  intro quotes
  exact ⟨⟨[], rfl, rfl⟩, quotes⟩

theorem trans {between : Nat} (first : Moves place depth text between rest)
    (second : Moves .outside between rest depth' rest') : Moves place depth text depth' rest' := by
  intro quotes
  obtain ⟨⟨front, rfl, passed⟩, between⟩ := first quotes
  obtain ⟨⟨back, rfl, passed'⟩, behind⟩ := second between
  refine ⟨⟨front ++ back, by simp, ?_⟩, behind⟩
  rw [scan_append, passed]
  exact passed'

theorem cons {between : Nat}
    (goes : ∀ next, place.next? c = some next →
      step place.quote depth c = some (next.quote, between) ∧
        Moves next between rest depth' rest') : Moves place depth (c :: rest) depth' rest' := by
  intro quotes
  obtain ⟨next, shift, behind⟩ := plain_cons.mp quotes
  obtain ⟨stepped, moves⟩ := goes next shift
  obtain ⟨⟨taken, rfl, passed⟩, others⟩ := moves behind
  exact ⟨⟨c :: taken, rfl, by simp [scan, stepped, passed]⟩, others⟩

/-- Where a name may go on, nothing more is plain. -/
theorem named (moves : Moves .outside depth text depth' rest) :
    Moves .name depth text depth' rest :=
  fun quotes => moves (plain_outside_of_name quotes)

theorem point (moves : Moves .name depth rest depth' rest') :
    Moves .outside depth ('.' :: rest) depth' rest' := by
  apply cons
  rintro next ⟨⟩
  exact ⟨rfl, moves⟩

theorem opened (mark : c = '[' ∨ c = '(') (moves : Moves .outside (depth + 1) rest depth' rest') :
    Moves .outside depth (c :: rest) depth' rest' := by
  rcases mark with rfl | rfl
  all_goals
    apply cons
    rintro next ⟨⟩
    exact ⟨rfl, moves⟩

theorem closed (mark : c = ']' ∨ c = ')') (moves : Moves .outside depth rest depth' rest') :
    Moves .outside (depth + 1) (c :: rest) depth' rest' := by
  rcases mark with rfl | rfl
  all_goals
    apply cons
    rintro next ⟨⟩
    exact ⟨rfl, moves⟩

theorem comma (moves : Moves .outside (depth + 1) rest depth' rest') :
    Moves .outside (depth + 1) (',' :: rest) depth' rest' := by
  apply cons
  rintro next ⟨⟩
  exact ⟨rfl, moves⟩

theorem quote (mark : isQuote c = true) (moves : Moves (.quoted c) depth rest depth' rest') :
    Moves .outside depth (c :: rest) depth' rest' := by
  apply cons
  intro next shift
  simp only [Place.next?, mark, if_true, Option.some.injEq] at shift
  subst shift
  refine ⟨?_, moves⟩
  simp only [isQuote, Bool.or_eq_true, beq_iff_eq] at mark
  simp [step, Place.quote, mark]

end Moves

/-- The characters that mean something to the scanner. -/
def marks : List Char := ['\x27', '"', '[', ']', '(', ')', ',']

theorem not_mem_marks {kind : Char → Bool} (apart : marks.any kind = false) {c : Char}
    (inside : kind c = true) : c ∉ marks := by
  intro mem
  exact List.any_eq_false.mp apart c mem inside

theorem step_ordinary {c : Char} (ordinary : c ∉ marks) (depth : Nat) :
    step none depth c = some (none, depth) := by
  simp only [marks, List.mem_cons, List.not_mem_nil, or_false, not_or] at ordinary
  simp [step, ordinary]

namespace Moves

variable {depth depth' : Nat} {c : Char} {rest rest' : List Char}

theorem ordinary (plain : c ∉ marks) (moves : Moves .outside depth rest depth' rest') :
    Moves .outside depth (c :: rest) depth' rest' := by
  apply cons
  intro next shift
  have unquoted : isQuote c = false := by
    simp only [marks, List.mem_cons, not_or] at plain
    simp [isQuote, plain]
  simp only [Place.next?, unquoted, Bool.false_eq_true, if_false, Option.some.injEq] at shift
  split at shift
  next =>
    subst shift
    exact ⟨step_ordinary plain depth, moves.named⟩
  next =>
    subst shift
    exact ⟨step_ordinary plain depth, moves⟩

theorem run {run : List Char} (plain : ∀ c ∈ run, c ∉ marks) (depth : Nat) (rest : List Char) :
    Moves .outside depth (run ++ rest) depth rest := by
  induction run with
  | nil => exact refl depth rest
  | cons c run ih =>
    have others := ih fun d mem => plain d (List.mem_cons_of_mem c mem)
    exact ordinary (plain c List.mem_cons_self) others

theorem dropWhile {kind : Char → Bool} (apart : marks.any kind = false) (depth : Nat)
    (text : List Char) : Moves .outside depth text depth (text.dropWhile kind) := by
  have all : ∀ c ∈ text.takeWhile kind, c ∉ marks := fun c mem =>
    not_mem_marks apart (List.mem_takeWhile_imp mem)
  simpa using run all depth (text.dropWhile kind)

theorem trimStart (depth : Nat) (text : List Char) :
    Moves .outside depth text depth (Text.trimStart text) :=
  dropWhile (by decide) depth text

end Moves

/-! ## Names, quoted texts and numbers -/

/-- A name holds no character that means something to the scanner, unless it holds a quote. -/
theorem nameRun_moves {run : List Char} (inside : ∀ c ∈ run, Path.endsName c = false) (depth : Nat)
    (rest : List Char) : Moves .name depth (run ++ rest) depth rest := by
  induction run with
  | nil => exact (Moves.refl depth rest).named
  | cons c run ih =>
    have goesOn := inside c List.mem_cons_self
    have others := ih fun d mem => inside d (List.mem_cons_of_mem c mem)
    apply Moves.cons
    intro next shift
    simp only [Place.next?, goesOn, Bool.false_eq_true, and_false, if_false] at shift
    split at shift
    next => cases shift
    next unquoted =>
      obtain rfl := Option.some.inj shift
      refine ⟨step_ordinary ?_ depth, others⟩
      intro mem
      simp only [marks, List.mem_cons, List.not_mem_nil, or_false] at mem
      rcases mem with rfl | rfl | rfl | rfl | rfl | rfl | rfl
      all_goals simp [isQuote, Path.endsName] at unquoted goesOn

theorem readName_moves {text rest : List Char} {name : String}
    (done : Path.readName text = .ok (name, rest)) (depth : Nat) :
    Moves .name depth text depth rest := by
  simp only [Path.readName] at done
  split at done
  next => cases done
  next =>
    cases done
    have inside : ∀ c ∈ text.takeWhile fun c => !Path.endsName c, Path.endsName c = false := by
      intro c mem
      simpa using List.mem_takeWhile_imp mem
    simpa using nameRun_moves inside depth (text.dropWhile fun c => !Path.endsName c)

namespace Moves

variable {quote : Char} {depth depth' : Nat} {c : Char} {rest rest' : List Char}

theorem escape (apart : quote ≠ '\\') (moves : Moves (.quoted quote) depth rest depth' rest') :
    Moves (.quoted quote) depth ('\\' :: c :: rest) depth' rest' := by
  have escaped : Moves (.escaped quote) depth (c :: rest) depth' rest' := by
    apply cons
    intro next shift
    simp only [Place.next?] at shift
    split at shift
    next => cases shift
    next other =>
      obtain rfl := Option.some.inj shift
      exact ⟨by simp [step, Place.quote, other], moves⟩
  apply cons
  intro next shift
  simp only [Place.next?, if_true, Option.some.injEq] at shift
  subst shift
  exact ⟨by simp [step, Place.quote, apart.symm], escaped⟩

theorem delimiter (apart : quote ≠ '\\') (moves : Moves .outside depth rest depth' rest') :
    Moves (.quoted quote) depth (quote :: rest) depth' rest' := by
  apply cons
  intro next shift
  simp only [Place.next?, apart, if_false, if_true, Option.some.injEq] at shift
  subst shift
  exact ⟨by simp [step, Place.quote], moves⟩

theorem inner (noEscape : c ≠ '\\') (other : c ≠ quote)
    (moves : Moves (.quoted quote) depth rest depth' rest') :
    Moves (.quoted quote) depth (c :: rest) depth' rest' := by
  apply cons
  intro next shift
  simp only [Place.next?, noEscape, other, if_false, Option.some.injEq] at shift
  subst shift
  exact ⟨by simp [step, Place.quote, other], moves⟩

end Moves

theorem readQuoted_moves {quote : Char} (mark : isQuote quote = true) {text chars rest : List Char}
    (done : Path.readQuoted quote text = .ok (chars, rest)) (depth : Nat) :
    Moves (.quoted quote) depth text depth rest := by
  have apart : quote ≠ '\\' := by
    rintro rfl
    exact absurd mark (by decide)
  induction text using Path.readQuoted.induct quote generalizing chars with
  | case1 => cases done
  | case2 => cases done
  | case3 c text chars tail met ih =>
    simp only [Path.readQuoted, met] at done
    cases done
    exact .escape apart (ih met)
  | case4 c text fault met ih =>
    simp only [Path.readQuoted, met] at done
    cases done
  | case5 text alone behind =>
    rw [Path.readQuoted, if_pos rfl] at done
    · cases done
      exact .delimiter apart (.refl depth _)
    · exact alone
    · exact behind
  | case6 c text alone behind other chars tail met ih =>
    rw [Path.readQuoted, if_neg other, met] at done
    · cases done
      refine .inner ?_ other (ih met)
      rintro rfl
      cases text with
      | nil => exact alone rfl rfl
      | cons d text => exact behind d text rfl rfl
    · exact alone
    · exact behind
  | case7 c text alone behind other fault met ih =>
    rw [Path.readQuoted, if_neg other, met] at done
    · cases done
    · exact alone
    · exact behind

theorem readInteger?_moves {text rest : List Char} {bound : Option Int}
    (done : Path.readInteger? text = .ok (bound, rest)) (depth : Nat) :
    Moves .outside depth text depth rest := by
  have digits : ∀ unsigned, Moves .outside depth unsigned depth
      (unsigned.dropWhile Decimal.isDigit) := Moves.dropWhile (by decide) depth
  simp only [Path.readInteger?] at done
  split at done
  next unsigned =>
    have moves := Moves.ordinary (by decide : '-' ∉ marks) (digits unsigned)
    simp only [List.length_cons, List.length_nil, List.drop_succ_cons, List.drop_zero] at done
    split at done
    next => cases done; exact moves
    next =>
      split at done
      next => cases done; exact moves
      next => cases done
  next =>
    simp only [List.length_nil, List.drop_zero] at done
    split at done
    next => cases done; exact digits _
    next =>
      split at done
      next => cases done; exact digits _
      next => cases done

theorem readNumber_moves {text rest : List Char} {value : Number}
    (done : Path.readNumber text = .ok (value, rest)) (depth : Nat) :
    Moves .outside depth text depth rest := by
  simp only [Path.readNumber] at done
  split at done
  next =>
    cases done
    exact .dropWhile (by decide) depth text
  next => cases done

theorem readMember_moves {text rest : List Char} {member : Path.Selector}
    (done : Path.readMember text = .ok (member, rest)) (depth : Nat) :
    Moves .outside depth text depth rest := by
  simp only [Path.readMember] at done
  split at done
  next behind =>
    obtain ⟨⟨name, after⟩, read, done⟩ := Except.bind_eq_ok.mp done
    cases done
    exact .quote rfl (readQuoted_moves rfl read depth)
  next behind =>
    obtain ⟨⟨name, after⟩, read, done⟩ := Except.bind_eq_ok.mp done
    cases done
    exact .quote rfl (readQuoted_moves rfl read depth)
  next =>
    obtain ⟨⟨start, ahead⟩, readStart, done⟩ := Except.bind_eq_ok.mp done
    have moves := (readInteger?_moves readStart depth).trans (.trimStart depth ahead)
    dsimp only at done
    split at done
    next behind colon =>
      rw [colon] at moves
      obtain ⟨⟨stop, after⟩, readStop, done⟩ := Except.bind_eq_ok.mp done
      have further := (Moves.ordinary (by decide : ':' ∉ marks) (.trimStart depth behind)).trans
        ((readInteger?_moves readStop depth).trans (.trimStart depth after))
      dsimp only at done
      split at done
      next last again =>
        rw [again] at further
        obtain ⟨⟨step, final⟩, readStep, done⟩ := Except.bind_eq_ok.mp done
        cases done
        exact (moves.trans further).trans <|
          .ordinary (by decide) ((Moves.trimStart depth last).trans (readInteger?_moves readStep depth))
      next =>
        cases done
        exact moves.trans further
    next =>
      split at done
      next =>
        cases done
        exact moves
      next => cases done

/-- The commas between members stand inside of brackets. -/
theorem readMembers_moves {fuel : Nat} {text rest : List Char} {members : List Path.Selector}
    (done : Path.readMembers fuel text = .ok (members, rest)) (depth : Nat) :
    Moves .outside (depth + 1) text (depth + 1) rest := by
  induction fuel generalizing text members with
  | zero =>
    cases done
    exact .refl (depth + 1) _
  | succ fuel ih =>
    have start := Moves.trimStart (depth + 1) text
    simp only [Path.readMembers] at done
    split at done
    next behind comma =>
      rw [comma] at start
      obtain ⟨⟨member, after⟩, readMember, done⟩ := Except.bind_eq_ok.mp done
      obtain ⟨⟨others, final⟩, readOthers, done⟩ := Except.bind_eq_ok.mp done
      cases done
      have first := (Moves.trimStart (depth + 1) behind).trans (readMember_moves readMember _)
      exact start.trans (.comma (first.trans (ih readOthers)))
    next =>
      cases done
      exact start

theorem readComparison?_moves {text rest : List Char} {comparison : Path.Comparison}
    (done : Path.readComparison? text = some (comparison, rest)) (depth : Nat) :
    Moves .outside depth text depth rest := by
  simp only [Path.readComparison?] at done
  split at done
  all_goals
    cases done
    try exact .ordinary (by decide) (.ordinary (by decide) (.refl depth _))
  all_goals exact .ordinary (by decide) (.refl depth _)

theorem readLiteral_moves {text rest : List Char} {value : Json}
    (done : Path.readLiteral text = .ok (value, rest)) (depth : Nat) :
    Moves .outside depth text depth rest := by
  simp only [Path.readLiteral] at done
  split at done
  next =>
    obtain ⟨⟨chars, after⟩, read, done⟩ := Except.bind_eq_ok.mp done
    cases done
    exact .quote rfl (readQuoted_moves rfl read depth)
  next =>
    obtain ⟨⟨chars, after⟩, read, done⟩ := Except.bind_eq_ok.mp done
    cases done
    exact .quote rfl (readQuoted_moves rfl read depth)
  next =>
    cases done
    exact .run (by simp [marks] : ∀ c ∈ ['t', 'r', 'u', 'e'], c ∉ marks) depth _
  next =>
    cases done
    exact .run (by simp [marks] : ∀ c ∈ ['f', 'a', 'l', 's', 'e'], c ∉ marks) depth _
  next =>
    cases done
    exact .run (by simp [marks] : ∀ c ∈ ['n', 'u', 'l', 'l'], c ∉ marks) depth _
  next =>
    split at done
    next =>
      obtain ⟨⟨number, after⟩, read, done⟩ := Except.bind_eq_ok.mp done
      cases done
      exact readNumber_moves read depth
    next => cases done
  next => cases done

/-! ## Selectors and filters -/

theorem eq_cons_of_expect {c : Char} {text rest : List Char}
    (done : Path.expect c text = .ok rest) : text = c :: rest := by
  cases text with
  | nil => cases done
  | cons d text =>
    simp only [Path.expect] at done
    split at done
    next same =>
      cases done
      rw [same]
    next => cases done

/-- The readers that call each other are followed with so many calls left to them. -/
structure Tracked (fuel : Nat) : Prop where
  selectors {text rest : List Char} {path : List Path.Selector} (depth : Nat) :
    Path.readSelectors fuel text = .ok (path, rest) → Moves .outside depth text depth rest
  descended {text rest : List Char} {selector : Path.Selector} (depth : Nat) :
    Path.readDescended fuel text = .ok (selector, rest) → Moves .name depth text depth rest
  bracket {text rest : List Char} {selector : Path.Selector} (depth : Nat) :
    Path.readBracket fuel text = .ok (selector, rest) → Moves .outside (depth + 1) text depth rest
  disjunction {text rest : List Char} {condition : Path.Filter} (depth : Nat) :
    Path.readOr fuel text = .ok (condition, rest) → Moves .outside depth text depth rest
  disjuncts {left : Path.Filter} {text rest : List Char} {condition : Path.Filter} (depth : Nat) :
    Path.readOrRest fuel left text = .ok (condition, rest) → Moves .outside depth text depth rest
  conjunction {text rest : List Char} {condition : Path.Filter} (depth : Nat) :
    Path.readAnd fuel text = .ok (condition, rest) → Moves .outside depth text depth rest
  conjuncts {left : Path.Filter} {text rest : List Char} {condition : Path.Filter} (depth : Nat) :
    Path.readAndRest fuel left text = .ok (condition, rest) → Moves .outside depth text depth rest
  unary {text rest : List Char} {condition : Path.Filter} (depth : Nat) :
    Path.readUnary fuel text = .ok (condition, rest) → Moves .outside depth text depth rest
  compared {text rest : List Char} {condition : Path.Filter} (depth : Nat) :
    Path.readCompared fuel text = .ok (condition, rest) → Moves .outside depth text depth rest
  operand {text rest : List Char} {operand : Path.Operand} (depth : Nat) :
    Path.readOperand fuel text = .ok (operand, rest) → Moves .outside depth text depth rest

namespace Tracked

variable {fuel : Nat} {text rest : List Char}

theorem selectors_succ (tracked : Tracked fuel) {path : List Path.Selector}
    (done : Path.readSelectors (fuel + 1) text = .ok (path, rest)) (depth : Nat) :
    Moves .outside depth text depth rest := by
  simp only [Path.readSelectors] at done
  split at done
  next =>
    obtain ⟨⟨inner, after⟩, readInner, done⟩ := Except.bind_eq_ok.mp done
    obtain ⟨⟨others, final⟩, readOthers, done⟩ := Except.bind_eq_ok.mp done
    cases done
    exact .point (.named (.point ((tracked.descended depth readInner).trans
      (tracked.selectors depth readOthers))))
  next =>
    obtain ⟨⟨others, final⟩, readOthers, done⟩ := Except.bind_eq_ok.mp done
    cases done
    exact .point (.named (.ordinary (by decide) (tracked.selectors depth readOthers)))
  next =>
    obtain ⟨⟨name, after⟩, read, done⟩ := Except.bind_eq_ok.mp done
    obtain ⟨⟨others, final⟩, readOthers, done⟩ := Except.bind_eq_ok.mp done
    cases done
    exact .point ((readName_moves read depth).trans (tracked.selectors depth readOthers))
  next =>
    obtain ⟨⟨selector, after⟩, read, done⟩ := Except.bind_eq_ok.mp done
    obtain ⟨⟨others, final⟩, readOthers, done⟩ := Except.bind_eq_ok.mp done
    cases done
    exact .opened (.inl rfl) ((tracked.bracket depth read).trans
      (tracked.selectors depth readOthers))
  next =>
    cases done
    exact .refl depth _

theorem descended_succ (tracked : Tracked fuel) {selector : Path.Selector}
    (done : Path.readDescended (fuel + 1) text = .ok (selector, rest)) (depth : Nat) :
    Moves .name depth text depth rest := by
  simp only [Path.readDescended] at done
  split at done
  next =>
    cases done
    exact .named (.ordinary (by decide) (.refl depth _))
  next => exact .named (.opened (.inl rfl) (tracked.bracket depth done))
  next =>
    obtain ⟨⟨name, after⟩, read, done⟩ := Except.bind_eq_ok.mp done
    cases done
    exact readName_moves read depth

theorem bracket_succ (tracked : Tracked fuel) {selector : Path.Selector}
    (done : Path.readBracket (fuel + 1) text = .ok (selector, rest)) (depth : Nat) :
    Moves .outside (depth + 1) text depth rest := by
  have start := Moves.trimStart (depth + 1) text
  simp only [Path.readBracket] at done
  split at done
  next behind star =>
    rw [star] at start
    obtain ⟨after, closing, done⟩ := Except.bind_eq_ok.mp done
    cases done
    have moves := Moves.trimStart (depth + 1) behind
    rw [eq_cons_of_expect closing] at moves
    exact start.trans (.ordinary (by decide) (moves.trans (.closed (.inl rfl) (.refl depth _))))
  next behind mark =>
    rw [mark] at start
    obtain ⟨inside, opening, done⟩ := Except.bind_eq_ok.mp done
    obtain ⟨⟨condition, ahead⟩, read, done⟩ := Except.bind_eq_ok.mp done
    obtain ⟨after, closing, done⟩ := Except.bind_eq_ok.mp done
    obtain ⟨final, last, done⟩ := Except.bind_eq_ok.mp done
    cases done
    have front := Moves.trimStart (depth + 1) behind
    have back := Moves.trimStart (depth + 1 + 1) ahead
    have further := Moves.trimStart (depth + 1) after
    rw [eq_cons_of_expect opening] at front
    rw [eq_cons_of_expect closing] at back
    rw [eq_cons_of_expect last] at further
    have filter := (tracked.disjunction (depth + 1 + 1) read).trans <|
      back.trans (.closed (.inr rfl) (further.trans (.closed (.inl rfl) (.refl depth _))))
    exact start.trans (.ordinary (by decide) (front.trans (.opened (.inr rfl) filter)))
  next =>
    obtain ⟨⟨first, ahead⟩, readFirst, done⟩ := Except.bind_eq_ok.mp done
    obtain ⟨⟨others, after⟩, readOthers, done⟩ := Except.bind_eq_ok.mp done
    obtain ⟨final, closing, done⟩ := Except.bind_eq_ok.mp done
    have members := (readMember_moves readFirst (depth + 1)).trans
      (readMembers_moves readOthers depth)
    have bracket : after = ']' :: final := eq_cons_of_expect closing
    rw [bracket] at members
    have moves := start.trans (members.trans (.closed (.inl rfl) (.refl depth _)))
    dsimp only at done
    split at done
    next =>
      cases done
      exact moves
    next =>
      split at done
      next => cases done
      next =>
        cases done
        exact moves

theorem disjunction_succ (tracked : Tracked fuel) {condition : Path.Filter}
    (done : Path.readOr (fuel + 1) text = .ok (condition, rest)) (depth : Nat) :
    Moves .outside depth text depth rest := by
  obtain ⟨⟨left, after⟩, read, done⟩ := Except.bind_eq_ok.mp done
  exact (tracked.conjunction depth read).trans (tracked.disjuncts depth done)

theorem disjuncts_succ (tracked : Tracked fuel) {left condition : Path.Filter}
    (done : Path.readOrRest (fuel + 1) left text = .ok (condition, rest)) (depth : Nat) :
    Moves .outside depth text depth rest := by
  have start := Moves.trimStart depth text
  simp only [Path.readOrRest] at done
  split at done
  next behind sign =>
    rw [sign] at start
    obtain ⟨⟨right, after⟩, read, done⟩ := Except.bind_eq_ok.mp done
    have moves := (tracked.conjunction depth read).trans (tracked.disjuncts depth done)
    exact start.trans (.ordinary (by decide) (.ordinary (by decide) moves))
  next =>
    cases done
    exact start

theorem conjunction_succ (tracked : Tracked fuel) {condition : Path.Filter}
    (done : Path.readAnd (fuel + 1) text = .ok (condition, rest)) (depth : Nat) :
    Moves .outside depth text depth rest := by
  obtain ⟨⟨left, after⟩, read, done⟩ := Except.bind_eq_ok.mp done
  exact (tracked.unary depth read).trans (tracked.conjuncts depth done)

theorem conjuncts_succ (tracked : Tracked fuel) {left condition : Path.Filter}
    (done : Path.readAndRest (fuel + 1) left text = .ok (condition, rest)) (depth : Nat) :
    Moves .outside depth text depth rest := by
  have start := Moves.trimStart depth text
  simp only [Path.readAndRest] at done
  split at done
  next behind sign =>
    rw [sign] at start
    obtain ⟨⟨right, after⟩, read, done⟩ := Except.bind_eq_ok.mp done
    have moves := (tracked.unary depth read).trans (tracked.conjuncts depth done)
    exact start.trans (.ordinary (by decide) (.ordinary (by decide) moves))
  next =>
    cases done
    exact start

theorem unary_succ (tracked : Tracked fuel) {condition : Path.Filter}
    (done : Path.readUnary (fuel + 1) text = .ok (condition, rest)) (depth : Nat) :
    Moves .outside depth text depth rest := by
  have start := Moves.trimStart depth text
  simp only [Path.readUnary] at done
  split at done
  next behind sign =>
    rw [sign] at start
    exact start.trans (tracked.compared depth done)
  next behind mark =>
    rw [mark] at start
    obtain ⟨⟨inner, after⟩, read, done⟩ := Except.bind_eq_ok.mp done
    cases done
    exact start.trans (.ordinary (by decide) (tracked.unary depth read))
  next behind mark =>
    rw [mark] at start
    obtain ⟨⟨inner, ahead⟩, read, done⟩ := Except.bind_eq_ok.mp done
    obtain ⟨after, closing, done⟩ := Except.bind_eq_ok.mp done
    cases done
    have back := Moves.trimStart (depth + 1) ahead
    rw [eq_cons_of_expect closing] at back
    have inside := (tracked.disjunction (depth + 1) read).trans <|
      back.trans (.closed (.inr rfl) (.refl depth _))
    exact start.trans (.opened (.inr rfl) inside)
  next => exact start.trans (tracked.compared depth done)

theorem compared_succ (tracked : Tracked fuel) {condition : Path.Filter}
    (done : Path.readCompared (fuel + 1) text = .ok (condition, rest)) (depth : Nat) :
    Moves .outside depth text depth rest := by
  obtain ⟨⟨left, ahead⟩, readLeft, done⟩ := Except.bind_eq_ok.mp done
  have first := (tracked.operand depth readLeft).trans (.trimStart depth ahead)
  dsimp only at done
  split at done
  next comparison after sign =>
    obtain ⟨⟨right, final⟩, readRight, done⟩ := Except.bind_eq_ok.mp done
    cases done
    exact first.trans <| (readComparison?_moves sign depth).trans <|
      (Moves.trimStart depth after).trans (tracked.operand depth readRight)
  next =>
    split at done
    next =>
      cases done
      exact first
    next => cases done

theorem operand_succ (tracked : Tracked fuel) {operand : Path.Operand}
    (done : Path.readOperand (fuel + 1) text = .ok (operand, rest)) (depth : Nat) :
    Moves .outside depth text depth rest := by
  have start := Moves.trimStart depth text
  simp only [Path.readOperand] at done
  split at done
  next behind mark =>
    rw [mark] at start
    obtain ⟨⟨path, after⟩, read, done⟩ := Except.bind_eq_ok.mp done
    cases done
    exact start.trans (.ordinary (by decide) (tracked.selectors depth read))
  next =>
    obtain ⟨⟨value, after⟩, read, done⟩ := Except.bind_eq_ok.mp done
    cases done
    exact start.trans (readLiteral_moves read depth)

end Tracked

theorem tracked (fuel : Nat) : Tracked fuel := by
  induction fuel with
  | zero =>
    constructor
    all_goals
      intros
      rename_i done
      cases done
      try exact .refl _ _
  | succ fuel ih =>
    exact {
      selectors := fun depth done => ih.selectors_succ done depth
      descended := fun depth done => ih.descended_succ done depth
      bracket := fun depth done => ih.bracket_succ done depth
      disjunction := fun depth done => ih.disjunction_succ done depth
      disjuncts := fun depth done => ih.disjuncts_succ done depth
      conjunction := fun depth done => ih.conjunction_succ done depth
      conjuncts := fun depth done => ih.conjuncts_succ done depth
      unary := fun depth done => ih.unary_succ done depth
      compared := fun depth done => ih.compared_succ done depth
      operand := fun depth done => ih.operand_succ done depth }

end Workflow.Intrinsic
