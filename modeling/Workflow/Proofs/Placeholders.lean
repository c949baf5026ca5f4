import Mathlib.Data.List.Forall2
import Mathlib.Data.List.Infix
import Workflow.Intrinsic.Eval
import Workflow.Proofs.Wording

/-!
# Filling placeholders

`States.Format` on templates that are written piece by piece, with a backslash before each quote,
backslash and brace of literal text. The backslashes are undone in two layers: reading the call takes
them off quotes and backslashes and leaves them at braces, and `format` takes those off.

Between the layers a backslash of literal text stands bare. A placeholder behind it looks like an
escaped brace, so its braces stay in the text and an argument is left over. Behind everything else
placeholders are filled, and literal text is kept as it is.
-/

namespace Workflow.Intrinsic

/-! ## Templates -/

/-- A part of a template. -/
inductive Piece where
  | literal (text : String)
  | placeholder
deriving DecidableEq

/-- The characters of literal text one by one; a placeholder is no character. -/
def Piece.marks : Piece → List (Option Char)
  | .literal text => text.toList.map some
  | .placeholder => [none]

def allMarks (pieces : List Piece) : List (Option Char) := pieces.flatMap Piece.marks

/-- Characters that need a backslash in a template. -/
def needsEscape (c : Char) : Bool := ['\x27', '\\', '\x7b', '\x7d'].contains c

/-- How a template is written between its quotes. -/
def written : Option Char → List Char
  | some c => if needsEscape c then ['\\', c] else [c]
  | none => ['\x7b', '\x7d']

/-- What is left of it once the call is read. -/
def kept : Option Char → List Char
  | some c => unescaped c
  | none => ['\x7b', '\x7d']

def templateText (pieces : List Piece) : List Char :=
  '\x27' :: ((allMarks pieces).flatMap written ++ ['\x27'])

/-- Literal text as it is, and the values in the places of the placeholders. -/
def filled : List Piece → List Json → List Char
  | [], _ => []
  | .literal text :: rest, values => text.toList ++ filled rest values
  | .placeholder :: rest, [] => filled rest []
  | .placeholder :: rest, value :: values => shownChars value ++ filled rest values

/-- Whether a placeholder stands directly behind a backslash of literal text. -/
def Misread (pieces : List Piece) : Prop := [some '\\', none] <:+: allMarks pieces

instance (pieces : List Piece) : Decidable (Misread pieces) :=
  inferInstanceAs (Decidable (_ <:+: _))

theorem count_allMarks (pieces : List Piece) :
    (allMarks pieces).count none = pieces.count .placeholder := by
  induction pieces with
  | nil => rfl
  | cons piece pieces ih =>
    rw [allMarks] at ih ⊢
    cases piece with
    | literal text =>
      have characters : (text.toList.map some).count none = 0 := by
        rw [List.count_eq_zero]
        simp
      simp [Piece.marks, characters, ih]
    | placeholder => simp [Piece.marks, ih]

/-! ## The first layer -/

theorem stringText_kept (marks : List (Option Char)) :
    StringText (marks.flatMap kept) (marks.flatMap written) := by
  induction marks with
  | nil => exact .nil
  | cons mark marks ih =>
    cases mark with
    | none => exact .plain (by decide) (by decide) (.plain (by decide) (by decide) ih)
    | some c =>
      by_cases special : needsEscape c = true
      · simpa [kept, written, special] using StringText.escape c ih
      · simp only [needsEscape, List.contains_eq_mem, List.mem_cons, List.not_mem_nil, or_false,
          decide_eq_true_eq, not_or] at special
        have bare : unescaped c = [c] := by simp [unescaped, special]
        simpa [kept, written, needsEscape, bare, special] using
          StringText.plain special.1 special.2.1 ih

theorem literalText_template (pieces : List Piece) :
    LiteralText (.string (String.ofList ((allMarks pieces).flatMap kept))) (templateText pieces) :=
  .string (stringText_kept (allMarks pieces))

/-! ## The second layer -/

/-- Fills placeholders that can be told from characters. -/
def fill : List (Option Char) → List Json → Except Complaint (List Char)
  | [], [] => .ok []
  | [], _ :: _ => .error .manyArguments
  | some c :: rest, values => (fill rest values).map (c :: ·)
  | none :: _, [] => .error .fewArguments
  | none :: rest, value :: values => (fill rest values).map (shownChars value ++ ·)

/-- What `format` takes a template for: a placeholder behind a backslash is two braces. -/
def asRead : List (Option Char) → List (Option Char)
  | [] => []
  | some '\\' :: none :: rest => some '\x7b' :: some '\x7d' :: asRead rest
  | mark :: rest => mark :: asRead rest

/-- A backslash is kept unless a brace is behind it. -/
theorem format_cons {c : Char} {rest : List Char} {values : List Json} (noBrace : c ≠ '\x7b')
    (behind : c = '\\' → ∀ d ∈ rest.head?, d ≠ '\x7b' ∧ d ≠ '\x7d') :
    format (c :: rest) values = (format rest values).map (c :: ·) := by
  rw [format]
  · rintro tail escape rfl
    exact (behind escape _ rfl).1 rfl
  · rintro tail escape rfl
    exact (behind escape _ rfl).2 rfl
  · intro tail _ brace
    exact absurd brace noBrace
  · intro value others tail _ brace
    exact absurd brace noBrace

/-- Only placeholders start with a brace between the layers. -/
theorem head_kept {marks : List (Option Char)} (noPlace : ∀ rest, marks ≠ none :: rest) :
    ∀ d ∈ (marks.flatMap kept).head?, d ≠ '\x7b' ∧ d ≠ '\x7d' := by
  cases marks with
  | nil => simp
  | cons mark marks =>
    cases mark with
    | none => exact absurd rfl (noPlace marks)
    | some c =>
      by_cases brace : c = '\x7b' ∨ c = '\x7d'
      · simp [kept, unescaped, brace]
      · rw [not_or] at brace
        simp [kept, unescaped, brace]

theorem format_kept (marks : List (Option Char)) (values : List Json) :
    format (marks.flatMap kept) values = fill (asRead marks) values := by
  induction marks using asRead.induct generalizing values with
  | case1 => cases values <;> rfl
  | case2 rest ih =>
    have closing : format ('\x7d' :: rest.flatMap kept) values =
        (format (rest.flatMap kept) values).map ('\x7d' :: ·) := format_cons (by decide) (by simp)
    have opening : format ('\\' :: '\x7b' :: '\x7d' :: rest.flatMap kept) values =
        (format ('\x7d' :: rest.flatMap kept) values).map ('\x7b' :: ·) := by rw [format]
    simp only [asRead, fill, ← ih values, ← closing, ← opening]
    rfl
  | case3 mark rest apart ih =>
    have next : asRead (mark :: rest) = mark :: asRead rest := by
      rw [asRead]
      rintro others rfl rfl
      exact apart others rfl rfl
    rw [next, List.flatMap_cons]
    cases mark with
    | none =>
      cases values with
      | nil => rfl
      | cons value values =>
        simp only [kept, fill, ← ih values, List.cons_append, List.nil_append, format]
    | some c =>
      simp only [fill, ← ih values]
      by_cases brace : c = '\x7b' ∨ c = '\x7d'
      · rcases brace with rfl | rfl
        · rfl
        · rfl
      · rw [not_or] at brace
        have bare : kept (some c) = [c] := by simp [kept, unescaped, brace]
        rw [bare, List.singleton_append]
        apply format_cons brace.1
        rintro rfl
        exact head_kept fun others same => apart others rfl same

/-! ## Filling -/

theorem fill_append (chars : List Char) (marks : List (Option Char)) (values : List Json) :
    fill (chars.map some ++ marks) values = (fill marks values).map (chars ++ ·) := by
  induction chars with
  | nil =>
    rw [List.map_nil, List.nil_append]
    cases fill marks values <;> rfl
  | cons c chars ih =>
    rw [List.map_cons, List.cons_append, fill, ih]
    cases fill marks values <;> rfl

theorem fill_allMarks {pieces : List Piece} {values : List Json}
    (one : values.length = pieces.count .placeholder) :
    fill (allMarks pieces) values = .ok (filled pieces values) := by
  induction pieces generalizing values with
  | nil =>
    obtain rfl : values = [] := List.eq_nil_of_length_eq_zero one
    rfl
  | cons piece pieces ih =>
    rw [allMarks] at ih ⊢
    rw [List.flatMap_cons]
    cases piece with
    | literal text =>
      have same : values.length = pieces.count .placeholder := by simpa using one
      rw [Piece.marks, fill_append, ih same]
      rfl
    | placeholder =>
      cases values with
      | nil => simp at one
      | cons value values =>
        have same : values.length = pieces.count .placeholder := by simpa using one
        rw [Piece.marks, List.singleton_append, fill, ih same]
        rfl

theorem fill_many {marks : List (Option Char)} {values : List Json}
    (more : marks.count none < values.length) : fill marks values = .error .manyArguments := by
  induction marks generalizing values with
  | nil =>
    cases values with
    | nil => simp at more
    | cons value values => rfl
  | cons mark marks ih =>
    cases mark with
    | some c =>
      rw [List.count_cons_of_ne (by simp)] at more
      rw [fill, ih more]
      rfl
    | none =>
      cases values with
      | nil => simp at more
      | cons value values =>
        rw [List.count_cons_self, List.length_cons] at more
        rw [fill, ih (by omega)]
        rfl

theorem asRead_eq {marks : List (Option Char)} (plain : ¬[some '\\', none] <:+: marks) :
    asRead marks = marks := by
  induction marks using asRead.induct with
  | case1 => rfl
  | case2 rest ih => exact absurd ⟨[], rest, rfl⟩ plain
  | case3 mark rest apart ih =>
    rw [asRead, ih fun slip => plain (List.infix_cons slip)]
    exact apart

theorem count_asRead_le (marks : List (Option Char)) :
    (asRead marks).count none ≤ marks.count none := by
  induction marks using asRead.induct with
  | case1 => exact Nat.le_refl 0
  | case2 rest ih =>
    simp [asRead]
    omega
  | case3 mark rest apart ih =>
    rw [asRead, List.count_cons, List.count_cons]
    · omega
    · exact apart

/-- Every slip loses a placeholder. -/
theorem count_asRead_lt {marks : List (Option Char)} (slip : [some '\\', none] <:+: marks) :
    (asRead marks).count none < marks.count none := by
  induction marks using asRead.induct with
  | case1 => simp at slip
  | case2 rest ih =>
    have le := count_asRead_le rest
    simp [asRead]
    omega
  | case3 mark rest apart ih =>
    have behind : [some '\\', none] <:+: rest := by
      rcases List.infix_cons_iff.mp slip with ⟨others, here⟩ | behind
      · obtain ⟨rfl, rfl⟩ := List.cons.inj here.symm
        exact absurd rfl (apart others rfl)
      · exact behind
    rw [asRead, List.count_cons, List.count_cons]
    · have lt := ih behind
      omega
    · exact apart

/-! ## Calls of Format -/

theorem evaluateAll_literals (scope : Scope) (values : List Json) :
    evaluateAll scope (values.map .literal) = pure values := by
  induction values with
  | nil => rfl
  | cons value values ih =>
    rw [List.map_cons, evaluateAll, ih]
    rfl

theorem apply_format (config : Config) (text : String) (values : List Json) :
    apply config "Format" (.string text :: values) =
      match format text.toList values with
      | .ok chars => pure (.string (String.ofList chars))
      | .error complaint => throw (.refused "Format" complaint) := by
  have admitted : (Arity.atLeast 1).admits (values.length + 1) = true := by simp [Arity.admits]
  have known : arityOf? "Format" = some (.atLeast 1) := rfl
  have drawn : applyDrawing config "Format" (.string text :: values) =
      Evaluation.ofExcept ((format text.toList values).map (Json.string ∘ String.ofList)) := by
    change Evaluation.ofExcept (do
      let template ← stringAt 1 (.string text)
      let filled ← format template.toList values
      return Json.string (String.ofList filled)) = _
    simp only [stringAt, bind, Except.bind]
    cases format text.toList values <;> rfl
  simp only [apply, known, List.length_cons, admitted, if_true, drawn]
  cases format text.toList values <;> rfl

theorem evaluate_format (scope : Scope) (pieces : List Piece) (arguments : List (Json × List Char))
    (spelled : ∀ argument ∈ arguments, LiteralText argument.1 argument.2)
    (one : arguments.length = pieces.count .placeholder) :
    evaluate (callText "Format" (templateText pieces :: arguments.map Prod.snd)) scope =
      if Misread pieces then throw (.refused "Format" .manyArguments)
      else pure (.string (String.ofList (filled pieces (arguments.map Prod.fst)))) := by
  have named : IsName "Format".toList := by decide
  let text := String.ofList ((allMarks pieces).flatMap kept)
  let values := arguments.map Prod.fst
  have others : List.Forall₂ ArgumentText (values.map .literal) (arguments.map Prod.snd) := by
    simp only [values, List.forall₂_map_left_iff, List.forall₂_map_right_iff, List.forall₂_same]
    intro argument mem
    exact .literal (spelled argument mem)
  have read := parse_of_spelled <| spelled_invocation named <|
    .cons (.literal (literalText_template pieces)) others
  have run : evaluate (callText "Format" (templateText pieces :: arguments.map Prod.snd)) scope =
      apply scope.config "Format" (.string text :: values) := by
    rw [evaluate, read]
    change Call.evaluate scope (.mk "Format" ((.string text :: values).map .literal)) = _
    rw [Call.evaluate, evaluateAll_literals]
    rfl
  rw [run, apply_format, String.toList_ofList, format_kept]
  have same : values.length = pieces.count .placeholder := by rw [List.length_map, one]
  split_ifs with slip
  · have fewer := count_asRead_lt slip
    rw [count_allMarks, ← same] at fewer
    rw [fill_many fewer]
  · rw [asRead_eq slip, fill_allMarks same]

/-- Text with a quote, a backslash and a brace, and two places behind it. -/
def braced : List Piece := [.literal "it's \\", .literal "\x7b", .placeholder, .placeholder]

def bracedArguments : List (Json × List Char) :=
  [(.string "\x7b\x7d", ['\x27', '\x7b', '\x7d', '\x27']), (.int (-7), ['-', '7'])]

theorem bracedArguments_spelled :
    ∀ argument ∈ bracedArguments, LiteralText argument.1 argument.2 := by
  have fits : Path.IsLiteral (.int (-7)) := by
    change Decimal.Signed (-7)
    decide
  have second := literalText_of_isLiteral fits
  rw [literalText_negative] at second
  simp only [bracedArguments, List.forall_mem_cons, List.not_mem_nil, false_imp_iff, implies_true,
    and_true]
  exact ⟨.string (stringText_escaped ['\x7b', '\x7d']), second⟩

theorem evaluate_format_braced :
    (∀ argument ∈ bracedArguments, LiteralText argument.1 argument.2) ∧
      bracedArguments.length = braced.count .placeholder ∧
      evaluate "States.Format('it\\'s \\\\\\\x7b\x7b\x7d\x7b\x7d', '\x7b\x7d', -7)" default =
        pure (.string "it's \\\x7b\x7b\x7d-7") := by
  refine ⟨bracedArguments_spelled, by decide, ?_⟩
  have written : callText "Format" (templateText braced :: bracedArguments.map Prod.snd) =
      "States.Format('it\\'s \\\\\\\x7b\x7b\x7d\x7b\x7d', '\x7b\x7d', -7)" := by decide
  have done := evaluate_format default braced bracedArguments bracedArguments_spelled (by decide)
  have plain : ¬Misread braced := by decide
  have number : (Json.int (-7)).compact = ['-', '7'] := literalText_negative
  have text : filled braced (bracedArguments.map Prod.fst) = "it's \\\x7b\x7b\x7d-7".toList := by
    simp [filled, braced, bracedArguments, shownChars, number]
  rw [written, if_neg plain, text, String.ofList_toList] at done
  exact done

/-- Behind a literal backslash the argument of a placeholder is left over. -/
theorem backslash_placeholder_refused :
    callText "Format" [templateText [.literal "\\", .placeholder], ['\x27', 'x', '\x27']] =
        "States.Format('\\\\\x7b\x7d', 'x')" ∧
      filled [.literal "\\", .placeholder] [.string "x"] = ['\\', 'x'] ∧
      evaluate "States.Format('\\\\\x7b\x7d', 'x')" default =
        throw (.refused "Format" .manyArguments) := by
  have read : parse "States.Format('\\\\\x7b\x7d', 'x')" =
      .ok (.mk "Format" [.literal (.string "\\\x7b\x7d"), .literal (.string "x")]) := by cbv
  refine ⟨by cbv, by cbv, ?_⟩
  have refused : format "\\\x7b\x7d".toList [.string "x"] = .error .manyArguments := by cbv
  rw [evaluate, read]
  change apply _ "Format" [.string "\\\x7b\x7d", .string "x"] = _
  rw [apply_format, refused]

end Workflow.Intrinsic
