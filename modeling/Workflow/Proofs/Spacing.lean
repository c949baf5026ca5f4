import Workflow.Proofs.Quotes
import Workflow.Proofs.Rereading

/-!
# Spacing

Two texts of a path that differ in their blanks only. The readers skip any blank between the parts
of a bracket or a filter. A name behind a point, on the other hand, ends at some blanks and takes up
the others, and quoted texts take up all of them. So readers that are given the two texts stay in
step up to a name where the blanks do not end both.
-/

namespace Workflow

/-- A blank is dropped from the end where nothing is left behind it. -/
theorem Text.trimEnd_cons (c : Char) (text : List Char) :
    trimEnd (c :: text) =
      if (trimEnd text).isEmpty && isBlank c then [] else c :: trimEnd text := by
  rw [trimEnd, trimEnd, List.reverse_cons, List.dropWhile_append, List.isEmpty_reverse]
  cases text.reverse.dropWhile isBlank with
  | nil => cases blank : isBlank c <;> simp [blank]
  | cons d rest => simp

namespace Path

/-! ## Places -/

theorem not_blank_of_startsVariable {c : Char} (starts : startsVariable c = true) :
    Text.isBlank c = false :=
  not_blank_of_inVariable (inVariable_of_startsVariable starts)

theorem not_blank_of_inNumber {c : Char} (inside : inNumber c = true) :
    Text.isBlank c = false := by
  simp only [inNumber, Bool.or_eq_true, beq_iff_eq] at inside
  rcases inside with ((((digit | rfl) | rfl) | rfl) | rfl) | rfl
  · exact not_blank_of_digit digit
  all_goals decide

/-- Where a reader of a path stands, as far as it matters to a blank. -/
inductive Place where
  | outside
  | dollar
  | root
  | number
  | point
  | name
  | quoted (quote : Char)
  | escaped (quote : Char)
deriving DecidableEq

namespace Place

/-- The place behind a character that goes on nothing that stands in front of it. -/
def start (c : Char) : Place :=
  if Intrinsic.isQuote c then .quoted c
  else if c = '.' then .point
  else if c = '$' then .dollar
  else if c == '-' || Decimal.isDigit c then .number
  else .outside

/-- The place behind a character. A point in a number does not start a name. -/
def next : Place → Char → Place
  | .outside, c => start c
  | .dollar, c => if c = '$' then .outside else if startsVariable c then .root else start c
  | .root, c => if inVariable c then .root else start c
  | .number, c => if inNumber c then .number else start c
  | .point, c => if c = '*' then .outside else if endsName c then start c else .name
  | .name, c => if endsName c then start c else .name
  | .quoted quote, c =>
    if c = '\\' then .escaped quote else if c = quote then .outside else .quoted quote
  | .escaped quote, _ => .quoted quote

/-- Whether a character is a blank that may give way to another one: none does in a quoted text, and
in a name only some do. -/
def yields (inNames : Char → Bool) : Place → Char → Bool
  | .quoted _, _ => false
  | .escaped _, _ => false
  | .point, c => Text.isBlank c && inNames c
  | .name, c => Text.isBlank c && inNames c
  | _, c => Text.isBlank c

variable {inNames inNames' : Char → Bool} {place : Place} {c : Char}

theorem isBlank_of_yields (yields : place.yields inNames c = true) : Text.isBlank c = true := by
  cases place with
  | point => exact (Bool.and_eq_true_iff.mp yields).1
  | name => exact (Bool.and_eq_true_iff.mp yields).1
  | quoted => cases yields
  | escaped => cases yields
  | _ => exact yields

theorem yields_of_dark (dark : Text.isBlank c = false) (place : Place) :
    place.yields inNames c = false := by
  rw [Bool.eq_false_iff]
  intro yields
  rw [isBlank_of_yields yields] at dark
  contradiction

theorem yields_mono (wider : inNames c = true → inNames' c = true)
    (yields : place.yields inNames c = true) : place.yields inNames' c = true := by
  have grows : (Text.isBlank c && inNames c) = true → (Text.isBlank c && inNames' c) = true := by
    rw [Bool.and_eq_true_iff, Bool.and_eq_true_iff]
    exact And.imp_right wider
  cases place with
  | point => exact grows yields
  | name => exact grows yields
  | quoted => cases yields
  | escaped => cases yields
  | _ => exact yields

theorem start_of_numeric (numeric : (c == '-' || Decimal.isDigit c) = true) :
    start c = .number := by
  have apart : ∀ d, (d == '-' || Decimal.isDigit d) = false → c ≠ d :=
    fun _ => ne_of_numeric numeric
  have unquoted : Intrinsic.isQuote c = false := by
    simp [Intrinsic.isQuote, apart '\x27' (by decide), apart '"' (by decide)]
  rw [start, unquoted, if_neg Bool.false_ne_true, if_neg (apart '.' (by decide)),
    if_neg (apart '$' (by decide)), if_pos numeric]

theorem start_of_blank (blank : Text.isBlank c = true) : start c = .outside := by
  have apart : ∀ d, Text.isBlank d = false → c ≠ d := fun _ => Text.ne_of_isBlank blank
  have unquoted : Intrinsic.isQuote c = false := by
    simp [Intrinsic.isQuote, apart '\x27' (by decide), apart '"' (by decide)]
  have noNumber : (c == '-' || Decimal.isDigit c) = false :=
    Text.eq_false_of_isBlank not_blank_of_numeric blank
  rw [start, unquoted, if_neg Bool.false_ne_true, if_neg (apart '.' (by decide)),
    if_neg (apart '$' (by decide)), noNumber, if_neg Bool.false_ne_true]

/-- A blank that may give way to those that end names is itself part of nothing. -/
theorem next_of_yields (yields : place.yields endsName c = true) : place.next c = .outside := by
  have blank := isBlank_of_yields yields
  have apart : ∀ d, Text.isBlank d = false → c ≠ d := fun _ => Text.ne_of_isBlank blank
  have outside := start_of_blank blank
  cases place with
  | outside => exact outside
  | dollar =>
    have noStart := Text.eq_false_of_isBlank not_blank_of_startsVariable blank
    simp [next, apart '$' (by decide), noStart, outside]
  | root =>
    have noVariable := Text.eq_false_of_isBlank not_blank_of_inVariable blank
    simp [next, noVariable, outside]
  | number =>
    have noNumber := Text.eq_false_of_isBlank not_blank_of_inNumber blank
    simp [next, noNumber, outside]
  | point =>
    have ends : endsName c = true := (Bool.and_eq_true_iff.mp yields).2
    simp [next, ends, outside]
  | name =>
    have ends : endsName c = true := (Bool.and_eq_true_iff.mp yields).2
    simp [next, ends, outside]
  | quoted => cases yields
  | escaped => cases yields

end Place

/-- Whether two texts differ in nothing but blanks that may give way to each other, at the places
where the first of them stands. -/
def Spaced (inNames : Char → Bool) : Place → List Char → List Char → Prop
  | _, [], [] => True
  | place, c :: text, c' :: text' =>
    (c = c' ∨ place.yields inNames c = true ∧ place.yields inNames c' = true) ∧
      Spaced inNames (place.next c) text text'
  | _, _, _ => False

instance decidableSpaced (inNames : Char → Bool) :
    (place : Place) → (text text' : List Char) → Decidable (Spaced inNames place text text')
  | _, [], [] => isTrue trivial
  | _, [], _ :: _ => isFalse id
  | _, _ :: _, [] => isFalse id
  | place, c :: text, c' :: text' =>
    have := decidableSpaced inNames (place.next c) text text'
    inferInstanceAs (Decidable
      ((c = c' ∨ place.yields inNames c = true ∧ place.yields inNames c' = true) ∧
        Spaced inNames (place.next c) text text'))

/-- Any blank outside of quoted texts may give way to any other one. -/
abbrev Respaced : Place → List Char → List Char → Prop := Spaced fun _ => true

/-- In names, only the blanks that end them may give way to each other. -/
abbrev Steady : Place → List Char → List Char → Prop := Spaced endsName

section Spaced

variable {inNames inNames' : Char → Bool} {place place' : Place} {c c' : Char}
  {text text' rest rest' : List Char}

theorem spaced_cons :
    Spaced inNames place (c :: text) (c' :: text') ↔
      (c = c' ∨ place.yields inNames c = true ∧ place.yields inNames c' = true) ∧
        Spaced inNames (place.next c) text text' :=
  Iff.rfl

theorem spaced_same :
    Spaced inNames place (c :: text) (c :: text') ↔ Spaced inNames (place.next c) text text' := by
  rw [spaced_cons]
  exact and_iff_right (.inl rfl)

namespace Spaced

theorem eq_nil (spaced : Spaced inNames place [] text') : text' = [] := by
  cases text' with
  | nil => rfl
  | cons => cases spaced

theorem length_eq (spaced : Spaced inNames place text text') : text.length = text'.length := by
  induction text generalizing place text' with
  | nil =>
    rw [spaced.eq_nil]
  | cons c text ih =>
    cases text' with
    | nil => cases spaced
    | cons c' text' => exact congrArg (· + 1) (ih spaced.2)

theorem isEmpty_eq (spaced : Spaced inNames place text text') : text'.isEmpty = text.isEmpty := by
  cases text with
  | nil => rw [spaced.eq_nil]
  | cons => cases text' with
    | nil => cases spaced
    | cons => rfl

theorem mono (wider : ∀ c, inNames c = true → inNames' c = true)
    (spaced : Spaced inNames place text text') : Spaced inNames' place text text' := by
  induction text generalizing place text' with
  | nil =>
    rw [spaced.eq_nil]
    trivial
  | cons c text ih =>
    cases text' with
    | nil => cases spaced
    | cons c' text' =>
      have grows : ∀ c, place.yields inNames c = true → place.yields inNames' c = true :=
        fun c => Place.yields_mono (wider c)
      exact ⟨spaced.1.imp_right (And.imp (grows c) (grows c')), ih spaced.2⟩

/-- What no blank gives way to stands in both texts. -/
theorem cons_left (spaced : Spaced inNames place text (c :: rest'))
    (kept : place.yields inNames c = false) : ∃ rest, text = c :: rest := by
  cases text with
  | nil => cases spaced
  | cons d rest =>
    rcases spaced.1 with rfl | ⟨-, yields⟩
    · exact ⟨rest, rfl⟩
    · rw [kept] at yields
      contradiction

theorem cons_right (spaced : Spaced inNames place (c :: rest) text')
    (kept : place.yields inNames c = false) : ∃ rest', text' = c :: rest' := by
  cases text' with
  | nil => cases spaced
  | cons d rest' =>
    rcases spaced.1 with rfl | ⟨yields, -⟩
    · exact ⟨rest', rfl⟩
    · rw [kept] at yields
      contradiction

theorem isBlank_eq (spaced : Spaced inNames place (c :: text) (c' :: text')) :
    Text.isBlank c' = Text.isBlank c := by
  rcases spaced.1 with rfl | ⟨yields, yields'⟩
  · rfl
  · rw [Place.isBlank_of_yields yields, Place.isBlank_of_yields yields']

/-- Blanks at the end are blanks at the end of the other text. -/
theorem trimEnd (spaced : Spaced inNames place text text') :
    Spaced inNames place (Text.trimEnd text) (Text.trimEnd text') := by
  induction text generalizing place text' with
  | nil =>
    rw [spaced.eq_nil]
    trivial
  | cons c text ih =>
    cases text' with
    | nil => cases spaced
    | cons c' text' =>
      have others := ih spaced.2
      rw [Text.trimEnd_cons, Text.trimEnd_cons, others.isEmpty_eq, spaced.isBlank_eq]
      split
      next => trivial
      next => exact ⟨spaced.1, others⟩

/-- Two places are the same to texts that go on alike behind them. -/
theorem shift (goesOn : ∀ c ∈ text.head?, place.next c = place'.next c)
    (yields : ∀ c, c ∈ text.head? ∨ c ∈ text'.head? →
      place.yields inNames c = place'.yields inNames c) :
    Spaced inNames place text text' ↔ Spaced inNames place' text text' := by
  cases text with
  | nil => cases text' <;> exact .rfl
  | cons c text =>
    cases text' with
    | nil => exact .rfl
    | cons c' text' =>
      rw [spaced_cons, spaced_cons, goesOn c rfl, yields c (.inl rfl), yields c' (.inr rfl)]

end Spaced

theorem Steady.symm (steady : Steady place text text') : Steady place text' text := by
  induction text generalizing place text' with
  | nil =>
    rw [steady.eq_nil]
    trivial
  | cons c text ih =>
    cases text' with
    | nil => cases steady
    | cons c' text' =>
      have goesOn : place.next c' = place.next c := by
        rcases steady.1 with rfl | ⟨yields, yields'⟩
        · rfl
        · rw [Place.next_of_yields yields, Place.next_of_yields yields']
      refine ⟨steady.1.imp Eq.symm And.symm, ?_⟩
      rw [goesOn]
      exact ih steady.2

theorem Steady.respaced (steady : Steady place text text') : Respaced place text text' :=
  steady.mono fun _ _ => rfl

end Spaced

/-! ## Going in step -/

/-- What two readers still have in front of them when they have read alike so far. Whether the texts
as a whole are `steady` depends on these rests alone. -/
structure InStep (steady : Prop) (place : Place) (text text' : List Char) : Prop where
  respaced : Respaced place text text'
  steady_iff : steady ↔ Steady place text text'

namespace InStep

variable {steady : Prop} {place : Place} {c d : Char} {text text' rest : List Char}

theorem refl (respaced : Respaced place text text') :
    InStep (Steady place text text') place text text' :=
  ⟨respaced, .rfl⟩

/-- Both readers take the same character. -/
theorem tail (inStep : InStep steady place (c :: text) (c :: text')) (place' : Place)
    (goesOn : place.next c = place') : InStep steady place' text text' := by
  subst goesOn
  exact ⟨inStep.respaced.2, inStep.steady_iff.trans spaced_same⟩

/-- What does not give way is the same character. -/
theorem step (inStep : InStep steady place (c :: rest) text') (place' : Place)
    (kept : place.yields (fun _ => true) c = false) (goesOn : place.next c = place') :
    ∃ rest', text' = c :: rest' ∧ InStep steady place' rest rest' := by
  obtain ⟨rest', rfl⟩ := inStep.respaced.cons_right kept
  exact ⟨rest', rfl, inStep.tail place' goesOn⟩

theorem not_cons (inStep : InStep steady place text text') (dark : Text.isBlank c = false)
    (other : ∀ rest, text = c :: rest → False) : ∀ rest, text' = c :: rest → False := by
  rintro rest rfl
  obtain ⟨rest', shape⟩ := inStep.respaced.cons_left (Place.yields_of_dark dark place)
  exact other rest' shape

theorem not_cons_cons (inStep : InStep steady place text text') (dark : Text.isBlank c = false)
    (dark' : Text.isBlank d = false) (other : ∀ rest, text = c :: d :: rest → False) :
    ∀ rest, text' = c :: d :: rest → False := by
  rintro rest rfl
  obtain ⟨behind, rfl⟩ := inStep.respaced.cons_left (Place.yields_of_dark dark place)
  obtain ⟨rest', rfl⟩ := inStep.respaced.2.cons_left (Place.yields_of_dark dark' _)
  exact other rest' rfl

/-- Where a character gives way, neither it nor the other one is of a kind without blanks. -/
theorem not_kind {kind : Char → Bool} (dark : ∀ {c}, kind c = true → Text.isBlank c = false)
    (inStep : InStep steady place (c :: text) (d :: text')) (outside : kind c = false) :
    kind d = false := by
  rcases inStep.respaced.1 with rfl | ⟨-, yields⟩
  · exact outside
  · exact Text.eq_false_of_isBlank dark (Place.isBlank_of_yields yields)

/-- Both readers take a run of characters that stays at one place. -/
theorem span {kind : Char → Bool} (dark : ∀ {c}, kind c = true → Text.isBlank c = false)
    (stays : ∀ {c}, kind c = true → place.next c = place)
    (inStep : InStep steady place text text') :
    text'.takeWhile kind = text.takeWhile kind ∧
      InStep steady place (text.dropWhile kind) (text'.dropWhile kind) := by
  induction text generalizing text' with
  | nil =>
    obtain rfl := inStep.respaced.eq_nil
    exact ⟨rfl, inStep⟩
  | cons c text ih =>
    cases inside : kind c with
    | true =>
      obtain ⟨rest', rfl, behind⟩ :=
        inStep.step place (Place.yields_of_dark (dark inside) place) (stays inside)
      obtain ⟨front, back⟩ := ih behind
      simp only [List.takeWhile_cons, List.dropWhile_cons, inside, if_true, front]
      exact ⟨trivial, back⟩
    | false =>
      cases text' with
      | nil => cases inStep.respaced
      | cons c' text' =>
        have outside : kind c' = false := inStep.not_kind dark inside
        simp only [List.takeWhile_cons, List.dropWhile_cons, inside, outside, Bool.false_eq_true,
          if_false]
        exact ⟨trivial, inStep⟩

/-- Behind a dollar, a variable or a number that goes no further, the readers are outside. -/
theorem settle (open' : ∀ inNames c, place.yields inNames c = Text.isBlank c)
    (ends : ∀ c ∈ text.head?, place.next c = .start c) (inStep : InStep steady place text text') :
    InStep steady .outside text text' := by
  have same : ∀ inNames, Spaced inNames place text text' ↔ Spaced inNames .outside text text' :=
    fun inNames => Spaced.shift ends fun c _ => open' inNames c
  exact ⟨(same _).mp inStep.respaced, inStep.steady_iff.trans (same _)⟩

theorem trimStart (inStep : InStep steady .outside text text') :
    InStep steady .outside (Text.trimStart text) (Text.trimStart text') := by
  induction text generalizing text' with
  | nil =>
    obtain rfl := inStep.respaced.eq_nil
    exact inStep
  | cons c text ih =>
    cases text' with
    | nil => cases inStep.respaced
    | cons c' text' =>
      have alike := inStep.respaced.isBlank_eq
      cases blank : Text.isBlank c with
      | true =>
        have passed : Place.next .outside c = .outside := Place.start_of_blank blank
        have behind : InStep steady .outside text text' := by
          refine ⟨passed ▸ inStep.respaced.2, inStep.steady_iff.trans (spaced_cons.trans ?_)⟩
          rw [passed]
          exact and_iff_right (.inr ⟨blank, alike.trans blank⟩)
        rw [blank] at alike
        simp only [Text.trimStart, List.dropWhile_cons, blank, alike, if_true]
        exact ih behind
      | false =>
        rw [blank] at alike
        simp only [Text.trimStart, List.dropWhile_cons, blank, alike, Bool.false_eq_true, if_false]
        exact inStep

/-- Both readers take a word that holds neither blanks nor what leads to another place. -/
theorem word (word : List Char) (inStep : InStep steady .outside (word ++ rest) text')
    (plain : (word.all fun c => !Text.isBlank c && Place.start c == .outside) = true) :
    ∃ rest', text' = word ++ rest' ∧ InStep steady .outside rest rest' := by
  induction word generalizing text' with
  | nil => exact ⟨text', rfl, inStep⟩
  | cons c word ih =>
    simp only [List.all_cons, Bool.and_eq_true, Bool.not_eq_true', beq_iff_eq] at plain
    obtain ⟨⟨dark, passed⟩, others⟩ := plain
    obtain ⟨behind, rfl, passing⟩ := inStep.step .outside dark passed
    obtain ⟨rest', rfl, outside⟩ := ih passing others
    exact ⟨rest', rfl, outside⟩

end InStep

/-- Going in step behind an integer, which a reader of numbers might go on with. -/
def Aligned (steady : Prop) (text text' : List Char) : Prop :=
  InStep steady .outside text text' ∨ InStep steady .number text text'

namespace Aligned

variable {steady : Prop} {c : Char} {text text' rest : List Char}

theorem step (aligned : Aligned steady (c :: rest) text') (place' : Place)
    (dark : Text.isBlank c = false) (noNumber : inNumber c = false)
    (goesOn : Place.start c = place') :
    ∃ rest', text' = c :: rest' ∧ InStep steady place' rest rest' := by
  rcases aligned with inStep | inStep
  · exact inStep.step place' dark goesOn
  · refine inStep.step place' dark ?_
    rw [← goesOn, Place.next, noNumber, if_neg Bool.false_ne_true]

theorem not_cons (aligned : Aligned steady text text') (dark : Text.isBlank c = false)
    (other : ∀ rest, text = c :: rest → False) : ∀ rest, text' = c :: rest → False :=
  aligned.elim (·.not_cons dark other) (·.not_cons dark other)

theorem trimStart (aligned : Aligned steady text text') :
    Aligned steady (Text.trimStart text) (Text.trimStart text') := by
  rcases aligned with inStep | inStep
  · exact .inl inStep.trimStart
  cases text with
  | nil =>
    obtain rfl := inStep.respaced.eq_nil
    exact .inr inStep
  | cons c text =>
    cases blank : Text.isBlank c with
    | true =>
      refine .inl (inStep.settle (fun _ _ => rfl) ?_).trimStart
      rintro d ⟨⟩
      rw [Place.start_of_blank blank]
      exact Place.next_of_yields blank
    | false =>
      obtain ⟨text', rfl⟩ := inStep.respaced.cons_right (Place.yields_of_dark blank _)
      refine .inr ?_
      simp only [Text.trimStart, List.dropWhile_cons, blank, Bool.false_eq_true, if_false]
      exact inStep

theorem digits (aligned : Aligned steady text text') :
    text'.takeWhile Decimal.isDigit = text.takeWhile Decimal.isDigit ∧
      Aligned steady (text.dropWhile Decimal.isDigit) (text'.dropWhile Decimal.isDigit) := by
  have stays : ∀ {c}, Decimal.isDigit c = true → Place.next .number c = .number := by
    intro c digit
    simp [Place.next, inNumber, digit]
  rcases aligned with inStep | inStep
  · cases text with
    | nil =>
      obtain rfl := inStep.respaced.eq_nil
      exact ⟨rfl, .inl inStep⟩
    | cons c text =>
      cases digit : Decimal.isDigit c with
      | true =>
        have started : Place.next .outside c = .number := 
          Place.start_of_numeric (by rw [digit, Bool.or_true])
        obtain ⟨rest', rfl, behind⟩ :=
          inStep.step .number (Place.yields_of_dark (not_blank_of_digit digit) _) started
        obtain ⟨front, back⟩ := behind.span not_blank_of_digit stays
        simp only [List.takeWhile_cons, List.dropWhile_cons, digit, if_true, front]
        exact ⟨trivial, .inr back⟩
      | false =>
        cases text' with
        | nil => cases inStep.respaced
        | cons c' text' =>
          have digit' : Decimal.isDigit c' = false := inStep.not_kind not_blank_of_digit digit
          simp only [List.takeWhile_cons, List.dropWhile_cons, digit, digit', Bool.false_eq_true,
            if_false]
          exact ⟨trivial, .inl inStep⟩
  · obtain ⟨front, back⟩ := inStep.span not_blank_of_digit stays
    exact ⟨front, .inr back⟩

end Aligned

end Path

end Workflow
