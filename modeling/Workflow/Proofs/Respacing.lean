import Workflow.Proofs.Lockstep

/-!
# Other blanks in a path

A path whose blanks outside of quoted texts give way to others. Only names tell blanks apart: a
space or a tab ends a name, and any other blank becomes a part of it. So the readers of names go
on in step or take two names that differ, and from there on no two paths that they read are the
same. Both together say which blanks may give way to which.
-/

namespace Workflow.Path

/-! ## Names -/

mutual

/-- The member names in a selector, from left to right. -/
def Selector.names : Selector → List String
  | .child name => [name]
  | .union members => pathNames members
  | .filter condition => condition.names
  | .descend inner => inner.names
  | _ => []

def pathNames : List Selector → List String
  | [] => []
  | selector :: rest => selector.names ++ pathNames rest

def Filter.names : Filter → List String
  | .present path => pathNames path
  | .compare left _ right => left.names ++ right.names
  | .join left _ right => left.names ++ right.names
  | .not inner => inner.names

def Operand.names : Operand → List String
  | .current path => pathNames path
  | .literal _ => []

end

/-- Whether two lists differ at a place that both of them have. -/
def Apart (names names' : List String) : Prop :=
  ∃ front name name' back back', name ≠ name' ∧ names = front ++ name :: back ∧
    names' = front ++ name' :: back'

namespace Apart

variable {front names names' : List String}

theorem ne (apart : Apart names names') : names ≠ names' := by
  obtain ⟨front, name, name', back, back', other, rfl, rfl⟩ := apart
  simp [other]

theorem prepend (apart : Apart names names') : Apart (front ++ names) (front ++ names') := by
  obtain ⟨middle, name, name', back, back', other, rfl, rfl⟩ := apart
  exact ⟨front ++ middle, name, name', back, back', other, by simp, by simp⟩

theorem extend {more more' : List String} (apart : Apart names names') (here : names <+: more)
    (here' : names' <+: more') : Apart more more' := by
  obtain ⟨front, name, name', back, back', other, rfl, rfl⟩ := apart
  obtain ⟨tail, rfl⟩ := here
  obtain ⟨tail', rfl⟩ := here'
  exact ⟨front, name, name', back ++ tail, back' ++ tail', other, by simp, by simp⟩

end Apart

/-! ## Readers of names -/

/-- What a reader makes of the other text when it has made a value out of the one: the same value,
or else the texts are not steady and it takes another name, if it reads anything at all. -/
def Follows {α : Type} (names : α → List String) (steady : Prop) (value : α) (rest : List Char)
    (result : Except Fault (α × List Char)) : Prop :=
  (∃ rest', result = .ok (value, rest') ∧ InStep steady .outside rest rest') ∨
    (¬ steady ∧ ∀ value' rest', result = .ok (value', rest') → Apart (names value) (names value'))

namespace Follows

variable {α β : Type} {names : α → List String} {names' : β → List String} {steady : Prop}
  {value : α} {value' : β} {rest rest' : List Char} {result : Except Fault (α × List Char)}

/-- A reader that goes on behind what another one has read and keeps its names in front: names that
differ go on to differ, whatever is read behind them. -/
theorem bind {next : α × List Char → Except Fault (β × List Char)}
    (first : Follows names steady value rest result)
    (done : next (value, rest) = .ok (value', rest'))
    (second : ∀ behind, InStep steady .outside rest behind →
      Follows names' steady value' rest' (next (value, behind)))
    (keeps : ∀ found final, next found = .ok final → names found.1 <+: names' final.1) :
    Follows names' steady value' rest' (result >>= next) := by
  rcases first with ⟨behind, rfl, inStep⟩ | ⟨unsteady, others⟩
  · exact second behind inStep
  · refine .inr ⟨unsteady, fun other final read => ?_⟩
    obtain ⟨⟨found, behind⟩, rfl, goesOn⟩ := Except.bind_eq_ok.mp read
    exact (others found behind rfl).extend (keeps _ _ done) (keeps _ _ goesOn)

/-- A reader that only puts together what another one has read. -/
theorem map {next : α × List Char → Except Fault (β × List Char)} {build : α → β}
    (first : Follows names steady value rest result)
    (ends : ∀ found, next found = .ok (build found.1, found.2))
    (same : ∀ value, names' (build value) = names value) :
    Follows names' steady (build value) rest (result >>= next) := by
  rcases first with ⟨behind, rfl, inStep⟩ | ⟨unsteady, others⟩
  · exact .inl ⟨behind, ends (value, behind), inStep⟩
  · refine .inr ⟨unsteady, fun other final read => ?_⟩
    obtain ⟨⟨found, behind⟩, rfl, goesOn⟩ := Except.bind_eq_ok.mp read
    rw [ends] at goesOn
    cases goesOn
    rw [same, same]
    exact others found behind rfl

/-- Names that are read already stand in front. -/
theorem prepend (front : List String) (follows : Follows names steady value rest result) :
    Follows (fun value => front ++ names value) steady value rest result :=
  follows.imp_right <| And.imp_right fun others other final read =>
    (others other final read).prepend

end Follows

section Names

variable {steady : Prop} {text text' rest : List Char}

/-- Where both texts end a name, the readers are outside. -/
theorem InStep.leave {c c' : Char} (inStep : InStep steady .name (c :: text) (c' :: text'))
    (ends : endsName c = true) (ends' : endsName c' = true) :
    InStep steady .outside (c :: text) (c' :: text') := by
  have same : ∀ inNames, inNames c = true → inNames c' = true →
      (Spaced inNames .name (c :: text) (c' :: text') ↔
        Spaced inNames .outside (c :: text) (c' :: text')) := by
    intro inNames inside inside'
    apply Spaced.shift
    · rintro d ⟨⟩
      exact if_pos ends
    · rintro d (⟨⟨⟩⟩ | ⟨⟨⟩⟩)
      · change (Text.isBlank c && inNames c) = Text.isBlank c
        rw [inside, Bool.and_true]
      · change (Text.isBlank c' && inNames c') = Text.isBlank c'
        rw [inside', Bool.and_true]
  exact ⟨(same _ rfl rfl).mp inStep.respaced, inStep.steady_iff.trans (same _ ends ends')⟩

/-- Two names that are read in step end together, or else they are different. -/
theorem InStep.name (inStep : InStep steady .name text text') :
    (text'.takeWhile (fun c => !endsName c) = text.takeWhile (fun c => !endsName c) ∧
      InStep steady .outside (text.dropWhile fun c => !endsName c)
        (text'.dropWhile fun c => !endsName c)) ∨
    (text'.takeWhile (fun c => !endsName c) ≠ text.takeWhile (fun c => !endsName c) ∧
      ¬ steady) := by
  induction text generalizing text' with
  | nil =>
    obtain rfl := inStep.respaced.eq_nil
    exact .inl ⟨rfl, trivial, inStep.steady_iff⟩
  | cons c text ih =>
    cases text' with
    | nil => cases inStep.respaced
    | cons c' text' =>
      by_cases same : c = c'
      case pos =>
        subst same
        cases ends : endsName c with
        | true =>
          simp only [List.takeWhile_cons, List.dropWhile_cons, ends, Bool.not_true,
            Bool.false_eq_true, if_false]
          exact .inl ⟨trivial, inStep.leave ends ends⟩
        | false =>
          have behind := inStep.tail .name (by rw [Place.next, ends, if_neg Bool.false_ne_true])
          simp only [List.takeWhile_cons, List.dropWhile_cons, ends, Bool.not_false, if_true,
            ne_eq, List.cons.injEq, true_and]
          exact ih behind
      case neg =>
        -- Two blanks: the texts are steady here only if both of them end the name.
        have unsteady : ¬ (endsName c = true ∧ endsName c' = true) → ¬ steady := by
          intro apart holds
          obtain ⟨here, -⟩ := inStep.steady_iff.mp holds
          rcases here with here | ⟨yields, yields'⟩
          · exact same here
          · exact apart ⟨(Bool.and_eq_true_iff.mp yields).2, (Bool.and_eq_true_iff.mp yields').2⟩
        cases ends : endsName c <;> cases ends' : endsName c'
        case true.true =>
          simp only [List.takeWhile_cons, List.dropWhile_cons, ends, ends', Bool.not_true,
            Bool.false_eq_true, if_false]
          exact .inl ⟨trivial, inStep.leave ends ends'⟩
        case false.false =>
          exact .inr ⟨by simp [ends, ends', Ne.symm same], unsteady (by simp [ends])⟩
        case false.true => exact .inr ⟨by simp [ends, ends'], unsteady (by simp [ends])⟩
        case true.false => exact .inr ⟨by simp [ends, ends'], unsteady (by simp [ends'])⟩

/-- Behind a point, only a wildcard is no name. -/
theorem InStep.named (inStep : InStep steady .point text text')
    (noStar : ∀ rest, text = '*' :: rest → False) : InStep steady .name text text' := by
  have same : ∀ inNames, Spaced inNames .point text text' ↔ Spaced inNames .name text text' := by
    intro inNames
    refine Spaced.shift (fun c isHead => ?_) fun _ _ => rfl
    obtain ⟨rest, rfl⟩ := List.head?_eq_some_iff.mp isHead
    rw [Place.next, if_neg (fun star => noStar rest (by rw [star])), Place.next]
  exact ⟨(same _).mp inStep.respaced, inStep.steady_iff.trans (same _)⟩

/-- A name is what lets readers fall out of step. -/
theorem readName_follows {name : String} (inStep : InStep steady .name text text')
    (done : readName text = .ok (name, rest)) :
    Follows (fun name => [name]) steady name rest (readName text') := by
  simp only [readName] at done ⊢
  split at done
  next => cases done
  next filled =>
    cases done
    rcases inStep.name with ⟨same, outside⟩ | ⟨other, unsteady⟩
    · refine .inl ⟨_, ?_, outside⟩
      rw [same, if_neg filled]
    · refine .inr ⟨unsteady, fun name' rest' read => ?_⟩
      split at read
      next => cases read
      next =>
        cases read
        refine ⟨[], _, _, [], [], fun same => other ?_, rfl, rfl⟩
        exact (String.ofList_injective same).symm

theorem readOrRest_keeps {fuel : Nat} {left condition : Filter}
    (done : readOrRest fuel left text = .ok (condition, rest)) :
    left.names <+: condition.names := by
  induction fuel generalizing left text with
  | zero =>
    cases done
    exact List.prefix_rfl
  | succ fuel ih =>
    simp only [readOrRest] at done
    split at done
    next =>
      obtain ⟨⟨right, after⟩, -, done⟩ := Except.bind_eq_ok.mp done
      have joined := ih done
      rw [Filter.names] at joined
      exact (List.prefix_append _ _).trans joined
    next =>
      cases done
      exact List.prefix_rfl

theorem readAndRest_keeps {fuel : Nat} {left condition : Filter}
    (done : readAndRest fuel left text = .ok (condition, rest)) :
    left.names <+: condition.names := by
  induction fuel generalizing left text with
  | zero =>
    cases done
    exact List.prefix_rfl
  | succ fuel ih =>
    simp only [readAndRest] at done
    split at done
    next =>
      obtain ⟨⟨right, after⟩, -, done⟩ := Except.bind_eq_ok.mp done
      have joined := ih done
      rw [Filter.names] at joined
      exact (List.prefix_append _ _).trans joined
    next =>
      cases done
      exact List.prefix_rfl

theorem Aligned.expect {c : Char} (aligned : Aligned steady text text')
    (dark : Text.isBlank c = false) (noNumber : inNumber c = false)
    (passed : Place.start c = .outside) (done : expect c text = .ok rest) :
    ∃ rest', Path.expect c text' = .ok rest' ∧ InStep steady .outside rest rest' := by
  rw [Intrinsic.eq_cons_of_expect done] at aligned
  obtain ⟨rest', rfl, outside⟩ := aligned.step .outside dark noNumber passed
  exact ⟨rest', by rw [Path.expect, if_pos rfl], outside⟩

end Names

/-- The readers that call each other follow with so many calls left to them, each from the place at
which the others leave it. -/
structure Following (steady : Prop) (fuel : Nat) : Prop where
  selectors {text text' rest : List Char} {path : List Selector} :
    InStep steady .outside text text' → readSelectors fuel text = .ok (path, rest) →
      Follows pathNames steady path rest (readSelectors fuel text')
  descended {text text' rest : List Char} {selector : Selector} :
    InStep steady .point text text' → readDescended fuel text = .ok (selector, rest) →
      Follows Selector.names steady selector rest (readDescended fuel text')
  bracket {text text' rest : List Char} {selector : Selector} :
    InStep steady .outside text text' → readBracket fuel text = .ok (selector, rest) →
      Follows Selector.names steady selector rest (readBracket fuel text')
  disjunction {text text' rest : List Char} {condition : Filter} :
    InStep steady .outside text text' → readOr fuel text = .ok (condition, rest) →
      Follows Filter.names steady condition rest (readOr fuel text')
  disjuncts {left : Filter} {text text' rest : List Char} {condition : Filter} :
    InStep steady .outside text text' → readOrRest fuel left text = .ok (condition, rest) →
      Follows Filter.names steady condition rest (readOrRest fuel left text')
  conjunction {text text' rest : List Char} {condition : Filter} :
    InStep steady .outside text text' → readAnd fuel text = .ok (condition, rest) →
      Follows Filter.names steady condition rest (readAnd fuel text')
  conjuncts {left : Filter} {text text' rest : List Char} {condition : Filter} :
    InStep steady .outside text text' → readAndRest fuel left text = .ok (condition, rest) →
      Follows Filter.names steady condition rest (readAndRest fuel left text')
  unary {text text' rest : List Char} {condition : Filter} :
    InStep steady .outside text text' → readUnary fuel text = .ok (condition, rest) →
      Follows Filter.names steady condition rest (readUnary fuel text')
  compared {text text' rest : List Char} {condition : Filter} :
    InStep steady .outside text text' → readCompared fuel text = .ok (condition, rest) →
      Follows Filter.names steady condition rest (readCompared fuel text')
  operand {text text' rest : List Char} {operand : Operand} :
    InStep steady .outside text text' → readOperand fuel text = .ok (operand, rest) →
      Follows Operand.names steady operand rest (readOperand fuel text')

namespace Following

variable {steady : Prop} {fuel : Nat} {text text' rest : List Char}

/-- A selector and the selectors behind it. -/
theorem chain {α : Type} {names : α → List String} {build : α → Selector} {value : α}
    {after : List Char} {result : Except Fault (α × List Char)} {path : List Selector}
    (following : Following steady fuel) (same : ∀ value, (build value).names = names value)
    (first : Follows names steady value after result)
    (done : (readSelectors fuel after >>= fun found => .ok (build value :: found.1, found.2)) =
      .ok (path, rest)) :
    Follows pathNames steady path rest (result >>= fun read =>
      readSelectors fuel read.2 >>= fun found => .ok (build read.1 :: found.1, found.2)) := by
  refine first.bind done (fun behind inStep => ?_) ?_
  · obtain ⟨⟨others, final⟩, readOthers, done⟩ := Except.bind_eq_ok.mp done
    cases done
    exact ((following.selectors inStep readOthers).prepend _).map (fun _ => rfl) fun _ => rfl
  · rintro ⟨first, behind⟩ ⟨path, final⟩ done
    obtain ⟨⟨others, _⟩, -, done⟩ := Except.bind_eq_ok.mp done
    cases done
    rw [pathNames, same]
    exact List.prefix_append _ _

theorem selectors_succ (following : Following steady fuel) {path : List Selector}
    (inStep : InStep steady .outside text text')
    (done : readSelectors (fuel + 1) text = .ok (path, rest)) :
    Follows pathNames steady path rest (readSelectors (fuel + 1) text') := by
  simp only [readSelectors] at done
  split at done
  next behind =>
    obtain ⟨⟨inner, after⟩, readInner, done⟩ := Except.bind_eq_ok.mp done
    obtain ⟨_, rfl, ahead⟩ := inStep.step .point (by decide) (by decide)
    obtain ⟨behind', rfl, point⟩ := ahead.step .point (by decide) (by decide)
    rw [readSelectors]
    exact following.chain (fun _ => rfl) (following.descended point readInner) done
  next behind =>
    obtain ⟨_, rfl, ahead⟩ := inStep.step .point (by decide) (by decide)
    obtain ⟨behind', rfl, outside⟩ := ahead.step .outside (by decide) (by decide)
    obtain ⟨⟨others, final⟩, readOthers, done⟩ := Except.bind_eq_ok.mp done
    cases done
    rw [readSelectors]
    exact (following.selectors outside readOthers).map (fun _ => rfl) fun _ => rfl
  next behind noPoint noStar =>
    obtain ⟨⟨name, after⟩, read, done⟩ := Except.bind_eq_ok.mp done
    obtain ⟨behind', rfl, point⟩ := inStep.step .point (by decide) (by decide)
    rw [readSelectors]
    · exact following.chain (fun _ => rfl) (readName_follows (point.named noStar) read) done
    · exact point.not_cons (by decide) noPoint
    · exact point.not_cons (by decide) noStar
  next behind =>
    obtain ⟨⟨selector, after⟩, read, done⟩ := Except.bind_eq_ok.mp done
    obtain ⟨behind', rfl, outside⟩ := inStep.step .outside (by decide) (by decide)
    rw [readSelectors]
    exact following.chain (fun _ => rfl) (following.bracket outside read) done
  next noPoints noStar noPoint noBracket =>
    cases done
    refine .inl ⟨text', ?_, inStep⟩
    rw [readSelectors]
    · exact inStep.not_cons_cons (by decide) (by decide) noPoints
    · exact inStep.not_cons_cons (by decide) (by decide) noStar
    · exact inStep.not_cons (by decide) noPoint
    · exact inStep.not_cons (by decide) noBracket

theorem descended_succ (following : Following steady fuel) {selector : Selector}
    (inStep : InStep steady .point text text')
    (done : readDescended (fuel + 1) text = .ok (selector, rest)) :
    Follows Selector.names steady selector rest (readDescended (fuel + 1) text') := by
  simp only [readDescended] at done
  split at done
  next =>
    cases done
    obtain ⟨rest', rfl, outside⟩ := inStep.step .outside (by decide) (by decide)
    exact .inl ⟨rest', rfl, outside⟩
  next =>
    obtain ⟨behind', rfl, outside⟩ := inStep.step .outside (by decide) (by decide)
    rw [readDescended]
    exact following.bracket outside done
  next noStar noBracket =>
    obtain ⟨⟨name, after⟩, read, done⟩ := Except.bind_eq_ok.mp done
    cases done
    rw [readDescended]
    · exact (readName_follows (inStep.named noStar) read).map (fun _ => rfl) fun _ => rfl
    · exact inStep.not_cons (by decide) noStar
    · exact inStep.not_cons (by decide) noBracket

theorem bracket_succ (following : Following steady fuel) {selector : Selector}
    (inStep : InStep steady .outside text text')
    (done : readBracket (fuel + 1) text = .ok (selector, rest)) :
    Follows Selector.names steady selector rest (readBracket (fuel + 1) text') := by
  have start := inStep.trimStart
  simp only [readBracket] at done
  split at done
  next behind star =>
    rw [star] at start
    obtain ⟨after, closing, done⟩ := Except.bind_eq_ok.mp done
    cases done
    obtain ⟨behind', star', inside⟩ := start.step .outside (by decide) (by decide)
    obtain ⟨rest', closing', outside⟩ :=
      Aligned.expect (.inl inside.trimStart) (by decide) (by decide) (by decide) closing
    refine .inl ⟨rest', ?_, outside⟩
    simp only [readBracket, star', closing', bind, Except.bind]
    rfl
  next behind mark =>
    rw [mark] at start
    obtain ⟨inside, opening, done⟩ := Except.bind_eq_ok.mp done
    obtain ⟨⟨condition, ahead⟩, read, done⟩ := Except.bind_eq_ok.mp done
    obtain ⟨behind', mark', marked⟩ := start.step .outside (by decide) (by decide)
    obtain ⟨inside', opening', filter⟩ :=
      Aligned.expect (.inl marked.trimStart) (by decide) (by decide) (by decide) opening
    rw [readBracket, mark']
    simp only [opening', bind, Except.bind]
    refine (following.disjunction filter read).bind done (fun behind inStep => ?_) ?_
    · obtain ⟨after, closing, done⟩ := Except.bind_eq_ok.mp done
      obtain ⟨final, last, done⟩ := Except.bind_eq_ok.mp done
      cases done
      obtain ⟨after', closing', outside⟩ :=
        Aligned.expect (.inl inStep.trimStart) (by decide) (by decide) (by decide) closing
      obtain ⟨final', last', outside⟩ :=
        Aligned.expect (.inl outside.trimStart) (by decide) (by decide) (by decide) last
      refine .inl ⟨final', ?_, outside⟩
      simp only [closing', last']
      rfl
    · rintro ⟨condition, behind⟩ ⟨selector, final⟩ done
      obtain ⟨after, -, done⟩ := Except.bind_eq_ok.mp done
      obtain ⟨final, -, done⟩ := Except.bind_eq_ok.mp done
      cases done
      exact List.prefix_rfl
  next noStar noMark =>
    obtain ⟨⟨first, ahead⟩, readFirst, done⟩ := Except.bind_eq_ok.mp done
    obtain ⟨⟨others, after⟩, readOthers, done⟩ := Except.bind_eq_ok.mp done
    obtain ⟨final, closing, done⟩ := Except.bind_eq_ok.mp done
    obtain ⟨ahead', readFirst', aligned⟩ := readMember_inStep start readFirst
    obtain ⟨after', readOthers', aligned⟩ := readMembers_inStep aligned readOthers
    obtain ⟨final', closing', outside⟩ :=
      aligned.expect (by decide) (by decide) (by decide) closing
    rw [start.respaced.length_eq] at readOthers'
    suffices read : readBracket (fuel + 1) text' = .ok (selector, final') ∧ final = rest by
      obtain ⟨read, rfl⟩ := read
      exact .inl ⟨final', read, outside⟩
    rw [readBracket]
    split
    next star => exact (start.not_cons (by decide) noStar _ star).elim
    next mark => exact (start.not_cons (by decide) noMark _ mark).elim
    next =>
      simp only [readFirst', readOthers', closing', bind, Except.bind]
      dsimp only at done
      split at done
      next =>
        cases done
        exact ⟨rfl, rfl⟩
      next =>
        split at done
        next => cases done
        next noSlice =>
          cases done
          exact ⟨if_neg noSlice, rfl⟩

theorem disjunction_succ (following : Following steady fuel) {condition : Filter}
    (inStep : InStep steady .outside text text')
    (done : readOr (fuel + 1) text = .ok (condition, rest)) :
    Follows Filter.names steady condition rest (readOr (fuel + 1) text') := by
  obtain ⟨⟨left, after⟩, read, done⟩ := Except.bind_eq_ok.mp done
  exact (following.conjunction inStep read).bind done
    (fun behind inStep => following.disjuncts inStep done) fun _ _ done => readOrRest_keeps done

theorem disjuncts_succ (following : Following steady fuel) {left condition : Filter}
    (inStep : InStep steady .outside text text')
    (done : readOrRest (fuel + 1) left text = .ok (condition, rest)) :
    Follows Filter.names steady condition rest (readOrRest (fuel + 1) left text') := by
  have start := inStep.trimStart
  simp only [readOrRest] at done
  split at done
  next behind sign =>
    rw [sign] at start
    obtain ⟨⟨right, after⟩, read, done⟩ := Except.bind_eq_ok.mp done
    obtain ⟨behind', sign', outside⟩ := start.word ['|', '|'] rfl
    rw [readOrRest, sign']
    exact ((following.conjunction outside read).prepend left.names).bind done
      (fun behind inStep => following.disjuncts inStep done) fun _ _ done => readOrRest_keeps done
  next noSign =>
    cases done
    refine .inl ⟨_, ?_, start⟩
    rw [readOrRest]
    split
    next sign => exact (start.not_cons_cons (by decide) (by decide) noSign _ sign).elim
    next => rfl

theorem conjunction_succ (following : Following steady fuel) {condition : Filter}
    (inStep : InStep steady .outside text text')
    (done : readAnd (fuel + 1) text = .ok (condition, rest)) :
    Follows Filter.names steady condition rest (readAnd (fuel + 1) text') := by
  obtain ⟨⟨left, after⟩, read, done⟩ := Except.bind_eq_ok.mp done
  exact (following.unary inStep read).bind done
    (fun behind inStep => following.conjuncts inStep done) fun _ _ done => readAndRest_keeps done

theorem conjuncts_succ (following : Following steady fuel) {left condition : Filter}
    (inStep : InStep steady .outside text text')
    (done : readAndRest (fuel + 1) left text = .ok (condition, rest)) :
    Follows Filter.names steady condition rest (readAndRest (fuel + 1) left text') := by
  have start := inStep.trimStart
  simp only [readAndRest] at done
  split at done
  next behind sign =>
    rw [sign] at start
    obtain ⟨⟨right, after⟩, read, done⟩ := Except.bind_eq_ok.mp done
    obtain ⟨behind', sign', outside⟩ := start.word ['&', '&'] rfl
    rw [readAndRest, sign']
    exact ((following.unary outside read).prepend left.names).bind done
      (fun behind inStep => following.conjuncts inStep done) fun _ _ done => readAndRest_keeps done
  next noSign =>
    cases done
    refine .inl ⟨_, ?_, start⟩
    rw [readAndRest]
    split
    next sign => exact (start.not_cons_cons (by decide) (by decide) noSign _ sign).elim
    next => rfl

theorem unary_succ (following : Following steady fuel) {condition : Filter}
    (inStep : InStep steady .outside text text')
    (done : readUnary (fuel + 1) text = .ok (condition, rest)) :
    Follows Filter.names steady condition rest (readUnary (fuel + 1) text') := by
  have start := inStep.trimStart
  simp only [readUnary] at done
  split at done
  next behind sign =>
    rw [sign] at start
    obtain ⟨behind', sign', -⟩ := start.word ['!', '='] rfl
    rw [sign'] at start
    rw [readUnary, sign']
    exact following.compared start done
  next behind noSign mark =>
    rw [mark] at start
    obtain ⟨behind', mark', outside⟩ := start.step .outside (by decide) (by decide)
    obtain ⟨⟨inner, after⟩, read, done⟩ := Except.bind_eq_ok.mp done
    cases done
    rw [readUnary, mark']
    split
    next sign => exact (outside.not_cons (by decide) noSign _ (List.cons.inj sign).2).elim
    next other =>
      obtain ⟨-, rfl⟩ := List.cons.inj other
      exact (following.unary outside read).map (fun _ => rfl) fun _ => rfl
    next other => cases (List.cons.inj other).1
    next other _ => exact (other behind' rfl).elim
  next behind mark =>
    rw [mark] at start
    obtain ⟨behind', mark', outside⟩ := start.step .outside (by decide) (by decide)
    obtain ⟨⟨inner, ahead⟩, read, done⟩ := Except.bind_eq_ok.mp done
    rw [readUnary, mark']
    refine (following.disjunction outside read).bind done (fun behind inStep => ?_) ?_
    · obtain ⟨after, closing, done⟩ := Except.bind_eq_ok.mp done
      cases done
      obtain ⟨after', closing', outside⟩ :=
        Aligned.expect (.inl inStep.trimStart) (by decide) (by decide) (by decide) closing
      refine .inl ⟨after', ?_, outside⟩
      simp only [closing']
      rfl
    · rintro ⟨inner, behind⟩ ⟨condition, final⟩ done
      obtain ⟨after, -, done⟩ := Except.bind_eq_ok.mp done
      cases done
      exact List.prefix_rfl
  next noSign noMark noParenthesis =>
    rw [readUnary]
    split
    next sign => exact (start.not_cons_cons (by decide) (by decide) noSign _ sign).elim
    next mark => exact (start.not_cons (by decide) noMark _ mark).elim
    next mark => exact (start.not_cons (by decide) noParenthesis _ mark).elim
    next => exact following.compared start done

theorem compared_succ (following : Following steady fuel) {condition : Filter}
    (inStep : InStep steady .outside text text')
    (done : readCompared (fuel + 1) text = .ok (condition, rest)) :
    Follows Filter.names steady condition rest (readCompared (fuel + 1) text') := by
  obtain ⟨⟨left, ahead⟩, readLeft, done⟩ := Except.bind_eq_ok.mp done
  refine (following.operand inStep readLeft).bind done (fun behind inStep => ?_) ?_
  · have start := inStep.trimStart
    dsimp only at done ⊢
    split at done
    next comparison after sign =>
      obtain ⟨⟨right, final⟩, readRight, done⟩ := Except.bind_eq_ok.mp done
      cases done
      obtain ⟨after', sign', outside⟩ := readComparison?_inStep start sign
      rw [sign']
      exact ((following.operand outside.trimStart readRight).prepend _).map (fun _ => rfl)
        fun _ => rfl
    next noSign =>
      rw [readComparison?_none start noSign]
      split at done
      next path =>
        cases done
        exact .inl ⟨_, rfl, start⟩
      next => cases done
  · rintro ⟨left, behind⟩ ⟨condition, final⟩ done
    dsimp only at done
    split at done
    next =>
      obtain ⟨⟨right, _⟩, -, done⟩ := Except.bind_eq_ok.mp done
      cases done
      rw [Filter.names]
      exact List.prefix_append _ _
    next =>
      split at done
      next path =>
        cases done
        exact (List.prefix_rfl : pathNames path <+: pathNames path)
      next => cases done

theorem operand_succ (following : Following steady fuel) {operand : Operand}
    (inStep : InStep steady .outside text text')
    (done : readOperand (fuel + 1) text = .ok (operand, rest)) :
    Follows Operand.names steady operand rest (readOperand (fuel + 1) text') := by
  have start := inStep.trimStart
  simp only [readOperand] at done
  split at done
  next behind mark =>
    rw [mark] at start
    obtain ⟨behind', mark', outside⟩ := start.step .outside (by decide) (by decide)
    obtain ⟨⟨path, after⟩, read, done⟩ := Except.bind_eq_ok.mp done
    cases done
    rw [readOperand, mark']
    exact (following.selectors outside read).map (fun _ => rfl) fun _ => rfl
  next noMark =>
    obtain ⟨⟨value, after⟩, read, done⟩ := Except.bind_eq_ok.mp done
    cases done
    obtain ⟨rest', read', outside⟩ := readLiteral_inStep start read
    refine .inl ⟨rest', ?_, outside⟩
    rw [readOperand]
    split
    next mark => exact (start.not_cons (by decide) noMark _ mark).elim
    next =>
      rw [read']
      rfl

end Following

theorem following (steady : Prop) (fuel : Nat) : Following steady fuel := by
  induction fuel with
  | zero =>
    constructor
    all_goals
      intros
      rename_i inStep done
      cases done
      try exact .inl ⟨_, rfl, inStep⟩
  | succ fuel ih =>
    exact {
      selectors := ih.selectors_succ
      descended := ih.descended_succ
      bracket := ih.bracket_succ
      disjunction := ih.disjunction_succ
      disjuncts := ih.disjuncts_succ
      conjunction := ih.conjunction_succ
      conjuncts := ih.conjuncts_succ
      unary := ih.unary_succ
      compared := ih.compared_succ
      operand := ih.operand_succ }

/-! ## Paths -/

section Paths

variable {text text' : List Char} {path : Path}

/-- The other text is read as the same path exactly when the two are steady. -/
theorem read_iff_of_respaced (respaced : Respaced .outside text text')
    (done : read text = .ok path) : read text' = .ok path ↔ Steady .outside text text' := by
  obtain ⟨⟨root, behind⟩, readsRoot, done⟩ := Except.bind_eq_ok.mp done
  obtain ⟨⟨selectors, rest⟩, readsSelectors, done⟩ := Except.bind_eq_ok.mp done
  obtain ⟨behind', readsRoot', inStep⟩ := readRoot_inStep (.refl respaced) readsRoot
  have follows := (following _ _).selectors inStep readsSelectors
  rw [respaced.length_eq] at follows
  dsimp only at done
  split at done
  next blank =>
    cases done
    rcases follows with ⟨rest', readsSelectors', inStep⟩ | ⟨unsteady, others⟩
    · have ends := inStep.trimStart
      rw [blank] at ends
      have blank' := ends.respaced.eq_nil
      rw [blank'] at ends
      refine iff_of_true ?_ (ends.steady_iff.mpr trivial)
      simp only [read, readsRoot', readsSelectors', bind, Except.bind, blank']
      rfl
    · refine iff_of_false (fun done' => ?_) unsteady
      obtain ⟨⟨_, _⟩, other, done'⟩ := Except.bind_eq_ok.mp done'
      rw [readsRoot'] at other
      cases other
      obtain ⟨⟨selectors', rest'⟩, readsSelectors', done'⟩ := Except.bind_eq_ok.mp done'
      have apart := others selectors' rest' readsSelectors'
      dsimp only at done'
      split at done'
      next =>
        cases done'
        exact apart.ne rfl
      next => cases done'
  next => cases done

theorem parse_eq_ok_iff {text : String} :
    parse text = .ok path ↔ read (Text.trim text.toList) = .ok path := by
  rw [parse]
  cases read (Text.trim text.toList) with
  | ok => simp only [Except.ok.injEq]
  | error => simp only [reduceCtorEq]

end Paths

/-- Where blanks outside of the quoted texts of a path give way to others, the path stays the same
exactly when the texts are steady, that is, when those of the blanks that stand behind a point or in
a name end names, and so do the blanks in their stead. The blanks at both ends do not matter. -/
theorem parse_respaced {text text' : String}
    (respaced : Respaced .outside text.toList text'.toList) :
    (∀ path, parse text = .ok path →
      (parse text' = .ok path ↔
        Steady .outside (Text.trim text.toList) (Text.trim text'.toList))) ∧
    (Steady .outside (Text.trim text.toList) (Text.trim text'.toList) →
      ∀ path, parse text = .ok path ↔ parse text' = .ok path) := by
  have trimmed : Respaced .outside (Text.trim text.toList) (Text.trim text'.toList) :=
    (InStep.refl respaced).trimStart.respaced.trimEnd
  refine ⟨fun path done => ?_, fun steady path => ⟨fun done => ?_, fun done => ?_⟩⟩
  · rw [parse_eq_ok_iff]
    exact read_iff_of_respaced trimmed (parse_eq_ok_iff.mp done)
  · rw [parse_eq_ok_iff]
    exact (read_iff_of_respaced trimmed (parse_eq_ok_iff.mp done)).mpr steady
  · rw [parse_eq_ok_iff]
    exact (read_iff_of_respaced steady.symm.respaced (parse_eq_ok_iff.mp done)).mpr steady.symm

set_option maxRecDepth 4096 in
/-- A filter, a quoted name and a name that a tab ends. -/
theorem parse_respaced_filter :
    Respaced .outside "$['a b'][?( @.x == null&&@.y)]".toList
        "$['a b'][?(\u2003@.x\t==\nnull&&@.y)]".toList ∧
      parse "$['a b'][?(\u2003@.x\t==\nnull&&@.y)]" = .ok ⟨.input, [.child "a b",
        .filter (.join (.compare (.current [.child "x"]) .eq (.literal .null)) .and
          (.present [.child "y"]))]⟩ := by
  have respaced : Respaced .outside "$['a b'][?( @.x == null&&@.y)]".toList
      "$['a b'][?(\u2003@.x\t==\nnull&&@.y)]".toList := by decide
  refine ⟨respaced, ((parse_respaced respaced).1 _ ?_).mpr ?_⟩
  · cbv
  · decide

set_option maxRecDepth 4096 in
/-- A space ends a name where a line feed becomes a part of it. -/
theorem name_takes_line_feed :
    Respaced .outside "$[?(@.a ==null)]".toList "$[?(@.a\n==null)]".toList ∧
      parse "$[?(@.a ==null)]" = .ok ⟨.input,
        [.filter (.compare (.current [.child "a"]) .eq (.literal .null))]⟩ ∧
      parse "$[?(@.a\n==null)]" = .ok ⟨.input,
        [.filter (.compare (.current [.child "a\n"]) .eq (.literal .null))]⟩ ∧
      parse "$[?(@.a\n==null)]" ≠ parse "$[?(@.a ==null)]" := by
  have space : parse "$[?(@.a ==null)]" = .ok ⟨.input,
      [.filter (.compare (.current [.child "a"]) .eq (.literal .null))]⟩ := by cbv
  have lineFeed : parse "$[?(@.a\n==null)]" = .ok ⟨.input,
      [.filter (.compare (.current [.child "a\n"]) .eq (.literal .null))]⟩ := by cbv
  refine ⟨by decide, space, lineFeed, ?_⟩
  rw [space, lineFeed]
  simp

end Workflow.Path
