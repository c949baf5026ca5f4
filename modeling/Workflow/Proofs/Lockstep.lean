import Workflow.Proofs.Spacing

/-!
# Readers in step

The readers of quoted texts, numbers, bracket members, comparison signs and literals, and the reader
of what a path starts with. None of them takes a name, so whatever one of them makes of a text, it
makes of the other text too, and then it is in step still.
-/

namespace Workflow.Path

variable {steady : Prop} {text text' rest : List Char}

theorem readQuoted_inStep {quote : Char} {chars : List Char}
    (inStep : InStep steady (.quoted quote) text text')
    (done : readQuoted quote text = .ok (chars, rest)) :
    ∃ rest', readQuoted quote text' = .ok (chars, rest') ∧ InStep steady .outside rest rest' := by
  have noEscape : ∀ {c : Char} {text : List Char}, (c = '\\' → text = [] → False) →
      (∀ d rest, c = '\\' → text = d :: rest → False) → c ≠ '\\' := by
    rintro c (_ | ⟨d, text⟩) alone behind same
    · exact alone same rfl
    · exact behind d text same rfl
  induction text using readQuoted.induct quote generalizing chars text' with
  | case1 => cases done
  | case2 => cases done
  | case3 c text chars tail met ih =>
    simp only [readQuoted, met] at done
    cases done
    obtain ⟨_, rfl, escaped⟩ := inStep.step (.escaped quote) rfl rfl
    obtain ⟨behind, rfl, inside⟩ := escaped.step (.quoted quote) rfl rfl
    obtain ⟨rest', read, outside⟩ := ih inside met
    exact ⟨rest', by simp only [readQuoted, read], outside⟩
  | case4 c text fault met ih =>
    simp only [readQuoted, met] at done
    cases done
  | case5 text alone behind =>
    have plain := noEscape alone behind
    rw [readQuoted, if_pos rfl] at done
    · cases done
      obtain ⟨rest', rfl, outside⟩ :=
        inStep.step .outside rfl (by rw [Place.next, if_neg plain, if_pos rfl])
      refine ⟨rest', ?_, outside⟩
      rw [readQuoted, if_pos rfl]
      · exact fun same => absurd same plain
      · exact fun _ _ same => absurd same plain
    · exact alone
    · exact behind
  | case6 c text alone behind other chars tail met ih =>
    have plain := noEscape alone behind
    rw [readQuoted, if_neg other, met] at done
    · cases done
      obtain ⟨behind', rfl, inside⟩ :=
        inStep.step (.quoted quote) rfl (by rw [Place.next, if_neg plain, if_neg other])
      obtain ⟨rest', read, outside⟩ := ih inside met
      refine ⟨rest', ?_, outside⟩
      rw [readQuoted, if_neg other, read]
      · exact fun same => absurd same plain
      · exact fun _ _ same => absurd same plain
    · exact alone
    · exact behind
  | case7 c text alone behind other fault met ih =>
    rw [readQuoted, if_neg other, met] at done
    · cases done
    · exact alone
    · exact behind

/-- The sign of an integer and its digits are what its reader looks at. -/
theorem readInteger?_inStep {bound : Option Int} (inStep : InStep steady .outside text text')
    (done : readInteger? text = .ok (bound, rest)) :
    ∃ rest', readInteger? text' = .ok (bound, rest') ∧ Aligned steady rest rest' := by
  simp only [readInteger?] at done ⊢
  split at done
  next unsigned =>
    obtain ⟨unsigned', rfl, number⟩ := inStep.step .number (by decide) (by decide)
    obtain ⟨front, back⟩ := Aligned.digits (.inr number)
    simp only [List.length_cons, List.length_nil, List.drop_succ_cons, List.drop_zero] at done ⊢
    rw [front]
    split at done
    next empty =>
      cases done
      exact ⟨_, if_pos empty, back⟩
    next filled =>
      split at done
      next value found =>
        cases done
        exact ⟨_, if_neg filled, back⟩
      next => cases done
  next other =>
    split
    next => exact (inStep.not_cons (by decide) other _ rfl).elim
    next =>
      obtain ⟨front, back⟩ := Aligned.digits (.inl inStep)
      simp only [List.length_nil, List.drop_zero] at done ⊢
      rw [front]
      split at done
      next empty =>
        cases done
        exact ⟨_, if_pos empty, back⟩
      next filled =>
        split at done
        next value found =>
          cases done
          exact ⟨_, if_neg filled, back⟩
        next => cases done

theorem readNumber_inStep {c : Char} {value : Number}
    (numeric : (c == '-' || Decimal.isDigit c) = true)
    (inStep : InStep steady .outside (c :: text) text')
    (done : readNumber (c :: text) = .ok (value, rest)) :
    ∃ rest', readNumber text' = .ok (value, rest') ∧ InStep steady .outside rest rest' := by
  have inside : inNumber c = true := by
    rcases Bool.or_eq_true _ _ |>.mp numeric with minus | digit
    · obtain rfl := eq_of_beq minus
      decide
    · simp [inNumber, digit]
  have stays : ∀ {c}, inNumber c = true → Place.next .number c = .number := by
    intro c inside
    rw [Place.next, if_pos inside]
  obtain ⟨text', rfl, number⟩ := inStep.step .number
    (Place.yields_of_dark (not_blank_of_numeric numeric) _) (Place.start_of_numeric numeric)
  obtain ⟨front, back⟩ := number.span not_blank_of_inNumber stays
  have ends := List.head?_dropWhile_not inNumber text
  simp only [readNumber, List.takeWhile_cons, List.dropWhile_cons, inside, if_true, front] at done ⊢
  split at done
  next value found =>
    cases done
    refine ⟨_, by rw [found], back.settle (fun _ _ => rfl) ?_⟩
    intro d isHead
    rw [isHead] at ends
    rw [Place.next, ends, if_neg Bool.false_ne_true]
  next => cases done

theorem readMember_inStep {member : Selector} (inStep : InStep steady .outside text text')
    (done : readMember text = .ok (member, rest)) :
    ∃ rest', readMember text' = .ok (member, rest') ∧ Aligned steady rest rest' := by
  simp only [readMember] at done
  split at done
  next behind =>
    obtain ⟨⟨name, after⟩, read, done⟩ := Except.bind_eq_ok.mp done
    cases done
    obtain ⟨behind', rfl, quoted⟩ := inStep.step (.quoted '\x27') (by decide) (by decide)
    obtain ⟨rest', read', outside⟩ := readQuoted_inStep quoted read
    exact ⟨rest', by simp only [readMember, read']; rfl, .inl outside⟩
  next behind =>
    obtain ⟨⟨name, after⟩, read, done⟩ := Except.bind_eq_ok.mp done
    cases done
    obtain ⟨behind', rfl, quoted⟩ := inStep.step (.quoted '"') (by decide) (by decide)
    obtain ⟨rest', read', outside⟩ := readQuoted_inStep quoted read
    exact ⟨rest', by simp only [readMember, read']; rfl, .inl outside⟩
  next noQuote noQuote' =>
    obtain ⟨⟨start, ahead⟩, readStart, done⟩ := Except.bind_eq_ok.mp done
    obtain ⟨ahead', readStart', aligned⟩ := readInteger?_inStep inStep readStart
    have start := aligned.trimStart
    rw [readMember]
    · dsimp only at done
      split at done
      next behind colon =>
        rw [colon] at start
        obtain ⟨⟨stop, after⟩, readStop, done⟩ := Except.bind_eq_ok.mp done
        obtain ⟨behind', colon', inside⟩ := start.step .outside (by decide) (by decide) (by decide)
        obtain ⟨after', readStop', aligned⟩ := readInteger?_inStep inside.trimStart readStop
        have further := aligned.trimStart
        dsimp only at done
        split at done
        next last again =>
          rw [again] at further
          obtain ⟨⟨step, final⟩, readStep, done⟩ := Except.bind_eq_ok.mp done
          cases done
          obtain ⟨last', again', inside⟩ :=
            further.step .outside (by decide) (by decide) (by decide)
          obtain ⟨rest', readStep', aligned⟩ := readInteger?_inStep inside.trimStart readStep
          refine ⟨rest', ?_, aligned⟩
          simp only [readStart', colon', readStop', again', readStep', bind, Except.bind]
          rfl
        next noColon =>
          cases done
          refine ⟨_, ?_, further⟩
          simp only [readStart', colon', readStop', bind, Except.bind]
          split
          next again => exact (further.not_cons (by decide) noColon _ again).elim
          next => rfl
      next noColon =>
        split at done
        next position =>
          cases done
          refine ⟨_, ?_, start⟩
          simp only [readStart', bind, Except.bind]
          split
          next colon => exact (start.not_cons (by decide) noColon _ colon).elim
          next => rfl
        next => cases done
    · exact inStep.not_cons (by decide) noQuote
    · exact inStep.not_cons (by decide) noQuote'

theorem readMembers_inStep {fuel : Nat} {members : List Selector}
    (aligned : Aligned steady text text') (done : readMembers fuel text = .ok (members, rest)) :
    ∃ rest', readMembers fuel text' = .ok (members, rest') ∧ Aligned steady rest rest' := by
  induction fuel generalizing text text' members with
  | zero =>
    cases done
    exact ⟨text', rfl, aligned⟩
  | succ fuel ih =>
    have start := aligned.trimStart
    simp only [readMembers] at done
    split at done
    next behind comma =>
      rw [comma] at start
      obtain ⟨⟨member, after⟩, readMember, done⟩ := Except.bind_eq_ok.mp done
      obtain ⟨⟨others, final⟩, readOthers, done⟩ := Except.bind_eq_ok.mp done
      cases done
      obtain ⟨behind', comma', inside⟩ := start.step .outside (by decide) (by decide) (by decide)
      obtain ⟨after', readMember', member⟩ := readMember_inStep inside.trimStart readMember
      obtain ⟨rest', readOthers', outside⟩ := ih member readOthers
      refine ⟨rest', ?_, outside⟩
      simp only [readMembers, comma', readMember', bind, Except.bind, readOthers']
      rfl
    next noComma =>
      cases done
      refine ⟨Text.trimStart text', ?_, start⟩
      rw [readMembers]
      split
      next comma => exact (start.not_cons (by decide) noComma _ comma).elim
      next => rfl

theorem readComparison?_inStep {comparison : Comparison}
    (inStep : InStep steady .outside text text')
    (done : readComparison? text = some (comparison, rest)) :
    ∃ rest', readComparison? text' = some (comparison, rest') ∧
      InStep steady .outside rest rest' := by
  simp only [readComparison?] at done
  split at done
  next =>
    cases done
    obtain ⟨rest', rfl, outside⟩ := inStep.word ['=', '='] rfl
    exact ⟨rest', rfl, outside⟩
  next =>
    cases done
    obtain ⟨rest', rfl, outside⟩ := inStep.word ['!', '='] rfl
    exact ⟨rest', rfl, outside⟩
  next =>
    cases done
    obtain ⟨rest', rfl, outside⟩ := inStep.word ['<', '='] rfl
    exact ⟨rest', rfl, outside⟩
  next =>
    cases done
    obtain ⟨rest', rfl, outside⟩ := inStep.word ['>', '='] rfl
    exact ⟨rest', rfl, outside⟩
  next noEqual =>
    cases done
    obtain ⟨rest', rfl, outside⟩ := inStep.word ['<'] rfl
    refine ⟨rest', ?_, outside⟩
    rw [List.cons_append, List.nil_append, readComparison?]
    exact outside.not_cons (by decide) noEqual
  next noEqual =>
    cases done
    obtain ⟨rest', rfl, outside⟩ := inStep.word ['>'] rfl
    refine ⟨rest', ?_, outside⟩
    rw [List.cons_append, List.nil_append, readComparison?]
    exact outside.not_cons (by decide) noEqual
  next => cases done

theorem readComparison?_none (inStep : InStep steady .outside text text')
    (none : readComparison? text = none) : readComparison? text' = .none := by
  simp only [readComparison?] at none
  split at none
  iterate 6 next => cases none
  next noEq noNe noLe noGe noLt noGt =>
    rw [readComparison?]
    · exact inStep.not_cons_cons (by decide) (by decide) noEq
    · exact inStep.not_cons_cons (by decide) (by decide) noNe
    · exact inStep.not_cons_cons (by decide) (by decide) noLe
    · exact inStep.not_cons_cons (by decide) (by decide) noGe
    · exact inStep.not_cons (by decide) noLt
    · exact inStep.not_cons (by decide) noGt

theorem readLiteral_inStep {value : Json} (inStep : InStep steady .outside text text')
    (done : readLiteral text = .ok (value, rest)) :
    ∃ rest', readLiteral text' = .ok (value, rest') ∧ InStep steady .outside rest rest' := by
  simp only [readLiteral] at done
  split at done
  next =>
    obtain ⟨⟨chars, after⟩, read, done⟩ := Except.bind_eq_ok.mp done
    cases done
    obtain ⟨behind', rfl, quoted⟩ := inStep.step (.quoted '\x27') (by decide) (by decide)
    obtain ⟨rest', read', outside⟩ := readQuoted_inStep quoted read
    exact ⟨rest', by simp only [readLiteral, read']; rfl, outside⟩
  next =>
    obtain ⟨⟨chars, after⟩, read, done⟩ := Except.bind_eq_ok.mp done
    cases done
    obtain ⟨behind', rfl, quoted⟩ := inStep.step (.quoted '"') (by decide) (by decide)
    obtain ⟨rest', read', outside⟩ := readQuoted_inStep quoted read
    exact ⟨rest', by simp only [readLiteral, read']; rfl, outside⟩
  next rest =>
    cases done
    obtain ⟨rest', rfl, outside⟩ := inStep.word ['t', 'r', 'u', 'e'] rfl
    exact ⟨rest', rfl, outside⟩
  next =>
    cases done
    obtain ⟨rest', rfl, outside⟩ := inStep.word ['f', 'a', 'l', 's', 'e'] rfl
    exact ⟨rest', rfl, outside⟩
  next =>
    cases done
    obtain ⟨rest', rfl, outside⟩ := inStep.word ['n', 'u', 'l', 'l'] rfl
    exact ⟨rest', rfl, outside⟩
  next c tail _ _ _ _ _ =>
    split at done
    next numeric =>
      obtain ⟨⟨number, after⟩, read, done⟩ := Except.bind_eq_ok.mp done
      cases done
      obtain ⟨rest', read', outside⟩ := readNumber_inStep numeric inStep read
      obtain ⟨tail', rfl⟩ := inStep.respaced.cons_right
        (Place.yields_of_dark (not_blank_of_numeric numeric) _)
      refine ⟨rest', ?_, outside⟩
      rw [readLiteral_of_numeric numeric, read']
      rfl
    next => cases done
  next => cases done

theorem readRoot_inStep {root : Root} (inStep : InStep steady .outside text text')
    (done : readRoot text = .ok (root, rest)) :
    ∃ rest', readRoot text' = .ok (root, rest') ∧ InStep steady .outside rest rest' := by
  simp only [readRoot] at done
  split at done
  next =>
    cases done
    obtain ⟨_, rfl, dollar⟩ := inStep.step .dollar (by decide) (by decide)
    obtain ⟨rest', rfl, outside⟩ := dollar.step .outside (by decide) (by decide)
    exact ⟨rest', rfl, outside⟩
  next c behind noDollar =>
    obtain ⟨text', rfl, dollar⟩ := inStep.step .dollar (by decide) (by decide)
    split at done
    next starts =>
      cases done
      have inside := inVariable_of_startsVariable starts
      obtain ⟨behind', rfl, root⟩ := dollar.step .root
        (Place.yields_of_dark (not_blank_of_inVariable inside) _)
        (by rw [Place.next, if_neg noDollar, if_pos starts])
      obtain ⟨front, back⟩ := root.span not_blank_of_inVariable fun {d} inside =>
        show Place.next .root d = .root by rw [Place.next, if_pos inside]
      have ends := List.head?_dropWhile_not inVariable behind
      refine ⟨behind'.dropWhile inVariable, ?_, ?_⟩
      · rw [readRoot, if_pos starts]
        · simp only [List.takeWhile_cons, List.dropWhile_cons, inside, if_true, front]
        · exact noDollar
      · rw [List.dropWhile_cons, if_pos inside]
        refine back.settle (fun _ _ => rfl) fun d isHead => ?_
        rw [isHead] at ends
        rw [Place.next, ends, if_neg Bool.false_ne_true]
    next noStart =>
      cases done
      cases text' with
      | nil => cases dollar.respaced
      | cons c' behind' =>
        have noStart' : startsVariable c' = false :=
          dollar.not_kind not_blank_of_startsVariable (Bool.eq_false_iff.mpr noStart)
        have noDollar' : c' ≠ '$' := by
          rintro rfl
          refine dollar.not_cons (by decide) ?_ behind' rfl
          rintro _ ⟨⟩
          exact noDollar rfl
        refine ⟨c' :: behind', ?_, dollar.settle (fun _ _ => rfl) ?_⟩
        · rw [readRoot, noStart', if_neg Bool.false_ne_true]
          exact noDollar'
        · rintro d ⟨⟩
          rw [Place.next, if_neg noDollar, if_neg noStart]
  next =>
    cases done
    obtain ⟨text', rfl, dollar⟩ := inStep.step .dollar (by decide) (by decide)
    obtain rfl := dollar.respaced.eq_nil
    refine ⟨[], rfl, dollar.settle (fun _ _ => rfl) ?_⟩
    rintro c ⟨⟩
  next => cases done

end Workflow.Path
