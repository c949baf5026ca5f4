import Workflow.Intrinsic.Parser
import Workflow.Proofs.Scanning

/-!
# Enclosed texts

A path argument ends where the scanner of path arguments stops. The scanner knows quotes and
brackets but no escapes. A text is enclosed when the scanner passes it and has closed every quote
and bracket behind it; then the scanner stops exactly behind it, whatever blanks follow.
-/

namespace Workflow

/-! ## Blanks -/

namespace Text

/-- Nothing but blanks. -/
def Blank (gap : List Char) : Prop := ∀ c ∈ gap, isBlank c = true

instance (gap : List Char) : Decidable (Blank gap) :=
  decidable_of_iff (gap.all isBlank = true) List.all_eq_true

theorem blank_nil : Blank [] := by simp [Blank]

theorem blank_space : Blank [' '] := by
  simp only [Blank, List.mem_singleton, forall_eq]
  decide

theorem Blank.append {front back : List Char} (before : Blank front) (after : Blank back) :
    Blank (front ++ back) := by
  intro c mem
  exact (List.mem_append.mp mem).elim (before c) (after c)

theorem trimStart_gap {gap : List Char} (blank : Blank gap) (text : List Char) :
    trimStart (gap ++ text) = trimStart text :=
  List.dropWhile_append_of_pos blank

theorem trimEnd_gap {gap : List Char} (blank : Blank gap) (text : List Char) :
    trimEnd (text ++ gap) = trimEnd text := by
  have turned : Blank gap.reverse := fun c mem => blank c (List.mem_reverse.mp mem)
  rw [trimEnd, trimEnd, List.reverse_append, List.dropWhile_append_of_pos turned]

theorem trimEnd_of_dark {text : List Char} (back : Dark text.reverse) : trimEnd text = text := by
  have kept : text.reverse.dropWhile isBlank = text.reverse := trimStart_of_dark back
  simp only [trimEnd, kept, List.reverse_reverse]

theorem trimStart_gap_cons {gap : List Char} (blank : Blank gap) {c : Char}
    (dark : isBlank c = false) (rest : List Char) : trimStart (gap ++ c :: rest) = c :: rest := by
  rw [trimStart_gap blank]
  exact trimStart_of_dark (by simpa [Dark] using dark)

/-- A text that neither starts nor ends with a blank is what is left between two gaps. -/
theorem trim_between {front back : List Char} (before : Blank front) (after : Blank back) {c : Char}
    {rest : List Char} (dark : isBlank c = false) (darkBack : Dark (c :: rest).reverse) :
    trim (front ++ (c :: rest ++ back)) = c :: rest := by
  rw [trim, List.cons_append, trimStart_gap_cons before dark, ← List.cons_append,
    trimEnd_gap after, trimEnd_of_dark darkBack]

end Text

namespace Intrinsic

/-! ## The scanner of path arguments -/

/-- Where the scanner stands behind a character: in which quotes, and in how many brackets. It
stops at a comma and at a closing parenthesis outside of both. -/
def step (quote : Option Char) (depth : Nat) (c : Char) : Option (Option Char × Nat) :=
  match quote with
  | some open' => some (if c = open' then none else some open', depth)
  | none =>
    if c = '\x27' ∨ c = '"' then some (some c, depth)
    else if c = '[' ∨ c = '(' then some (none, depth + 1)
    else if c = ']' then some (none, depth - 1)
    else if c = ')' then if depth = 0 then none else some (none, depth - 1)
    else if c = ',' ∧ depth = 0 then none
    else some (none, depth)

/-- Where the scanner stands behind a text, unless it stops inside. -/
def scan (quote : Option Char) (depth : Nat) : List Char → Option (Option Char × Nat)
  | [] => some (quote, depth)
  | c :: rest =>
    match step quote depth c with
    | some (quote, depth) => scan quote depth rest
    | none => none

/-- The scanner passes the text and has closed every quote and bracket behind it. -/
def Enclosed (text : List Char) : Prop := scan none 0 text = some (none, 0)

instance (text : List Char) : Decidable (Enclosed text) :=
  inferInstanceAs (Decidable (_ = _))

theorem splitPath_cons (quote : Option Char) (depth : Nat) (c : Char) (rest : List Char) :
    splitPath quote depth (c :: rest) =
      match step quote depth c with
      | some (quote, depth) =>
        (c :: (splitPath quote depth rest).1, (splitPath quote depth rest).2)
      | none => ([], c :: rest) := by
  cases quote with
  | some open' => by_cases same : c = open' <;> simp [splitPath, step, same]
  | none =>
    simp only [splitPath, step]
    repeat' split
    all_goals simp_all

theorem scan_append (quote : Option Char) (depth : Nat) (front back : List Char) :
    scan quote depth (front ++ back) =
      (scan quote depth front).bind fun place => scan place.1 place.2 back := by
  induction front generalizing quote depth with
  | nil => rfl
  | cons c front ih =>
    simp only [List.cons_append, scan]
    cases step quote depth c with
    | none => rfl
    | some place => exact ih place.1 place.2

theorem splitPath_append {quote quote' : Option Char} {depth depth' : Nat} {taken : List Char}
    (scanned : scan quote depth taken = some (quote', depth')) (rest : List Char) :
    splitPath quote depth (taken ++ rest) =
      (taken ++ (splitPath quote' depth' rest).1, (splitPath quote' depth' rest).2) := by
  induction taken generalizing quote depth with
  | nil =>
    obtain ⟨rfl, rfl⟩ := Prod.mk.inj (Option.some.inj scanned)
    rfl
  | cons c taken ih =>
    simp only [scan] at scanned
    rw [List.cons_append, splitPath_cons]
    cases met : step quote depth c with
    | none => simp [met] at scanned
    | some place =>
      simp only [met] at scanned
      simp [ih scanned]

theorem step_blank {c : Char} (blank : Text.isBlank c = true) (depth : Nat) :
    step none depth c = some (none, depth) := by
  have apart : ∀ d, Text.isBlank d = false → c ≠ d := fun _ => Text.ne_of_isBlank blank
  simp [step, apart '\x27' (by decide), apart '"' (by decide), apart '[' (by decide),
    apart '(' (by decide), apart ']' (by decide), apart ')' (by decide), apart ',' (by decide)]

theorem scan_gap {gap : List Char} (blank : Text.Blank gap) (depth : Nat) :
    scan none depth gap = some (none, depth) := by
  induction gap with
  | nil => rfl
  | cons c gap ih =>
    have dark : Text.Blank gap := fun d mem => blank d (List.mem_cons_of_mem c mem)
    simp only [scan, step_blank (blank c List.mem_cons_self), ih dark]

/-- A path that is no more than its own extent: it starts like a path, no blank stands at its end,
and it is enclosed. -/
structure PathText (text : List Char) : Prop where
  starts : ∃ rest, text = '$' :: rest
  dark : Text.Dark text.reverse
  enclosed : Enclosed text

end Intrinsic

end Workflow
