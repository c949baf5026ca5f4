import Workflow.Rule.Wildcard

/-!
# Matching by wildcard patterns

Which texts a pattern matches: those that can be cut into one piece for each token. The matcher goes
back to the last run only. That is enough, since only characters stand between two runs: whatever is
left when an earlier run takes more, the last run can leave as well.
-/

namespace Workflow.Wildcard

/-! ## Pieces -/

/-- The pieces that a text may be cut into, one for each token of a pattern. -/
inductive Pieces : (pattern : List Char) → (pieces : List (List Char)) → Prop where
  | nil : Pieces [] []
  | last : Pieces ['\\'] [['\\']]
  | escape (c : Char) {pattern : List Char} {pieces : List (List Char)}
      (rest : Pieces pattern pieces) : Pieces ('\\' :: c :: pattern) ([c] :: pieces)
  | run (piece : List Char) {pattern : List Char} {pieces : List (List Char)}
      (rest : Pieces pattern pieces) : Pieces ('*' :: pattern) (piece :: pieces)
  | plain {c : Char} {pattern : List Char} {pieces : List (List Char)} (noEscape : c ≠ '\\')
      (noRun : c ≠ '*') (rest : Pieces pattern pieces) : Pieces (c :: pattern) ([c] :: pieces)

/-- Whether a text can be cut into one piece for each token. -/
def Fits : List Token → List Char → Prop
  | [], text => text = []
  | .char c :: rest, text => ∃ later, text = c :: later ∧ Fits rest later
  | .run :: rest, text => ∃ later, later <:+ text ∧ Fits rest later

theorem fits_flatten {pattern : List Char} {pieces : List (List Char)}
    (cut : Pieces pattern pieces) : Fits (tokens pattern) pieces.flatten := by
  induction cut with
  | nil => exact rfl
  | last => exact ⟨[], rfl, rfl⟩
  | escape c _ ih =>
    rw [tokens]
    exact ⟨_, rfl, ih⟩
  | run piece _ ih =>
    rw [tokens]
    exact ⟨_, List.suffix_append piece _, ih⟩
  | plain noEscape noRun _ ih =>
    rw [tokens]
    · exact ⟨_, rfl, ih⟩
    · exact fun broken _ => noEscape broken
    · exact fun _ _ broken _ => noEscape broken
    · exact noRun

theorem exists_pieces {pattern text : List Char} (fits : Fits (tokens pattern) text) :
    ∃ pieces, Pieces pattern pieces ∧ pieces.flatten = text := by
  induction pattern using tokens.induct generalizing text with
  | case1 => exact ⟨[], .nil, fits.symm⟩
  | case2 =>
    obtain ⟨_, rfl, rfl⟩ := fits
    exact ⟨[['\\']], .last, rfl⟩
  | case3 c pattern ih =>
    rw [tokens] at fits
    obtain ⟨_, rfl, rest⟩ := fits
    obtain ⟨pieces, cut, rfl⟩ := ih rest
    exact ⟨[c] :: pieces, .escape c cut, rfl⟩
  | case4 pattern ih =>
    rw [tokens] at fits
    obtain ⟨_, ⟨piece, rfl⟩, rest⟩ := fits
    obtain ⟨pieces, cut, rfl⟩ := ih rest
    exact ⟨piece :: pieces, .run piece cut, rfl⟩
  | case5 c pattern notLast noEscape noRun ih =>
    have isPlain : c ≠ '\\' := by
      rintro rfl
      cases pattern with
      | nil => exact notLast rfl rfl
      | cons d pattern => exact noEscape d pattern rfl rfl
    rw [tokens] at fits
    · obtain ⟨_, rfl, rest⟩ := fits
      obtain ⟨pieces, cut, rfl⟩ := ih rest
      exact ⟨[c] :: pieces, .plain isPlain noRun cut, rfl⟩
    · exact notLast
    · exact noEscape
    · exact noRun

/-! ## Runs -/

theorem all_run_iff {tokens : List Token} : tokens.all (· == .run) = true ↔ Fits tokens [] := by
  induction tokens with
  | nil => exact iff_of_true rfl rfl
  | cons token rest ih =>
    cases token with
    | run => simpa [Fits] using ih
    | char c => simp [Fits]

theorem fits_chars_iff {front : List Char} {rest : List Token} {text : List Char} :
    Fits (front.map .char ++ rest) text ↔ ∃ later, text = front ++ later ∧ Fits rest later := by
  induction front generalizing text with
  | nil => simp
  | cons c front ih =>
    simp only [List.map_cons, List.cons_append, Fits, ih]
    constructor
    · rintro ⟨_, rfl, later, rfl, rest⟩
      exact ⟨later, rfl, rest⟩
    · rintro ⟨later, rfl, rest⟩
      exact ⟨_, rfl, later, rfl, rest⟩

theorem not_fits {c : Char} {tokens : List Token} {text : List Char}
    (noRun : ∀ rest, tokens = .run :: rest → False) (other : tokens.head? ≠ some (.char c)) :
    ¬Fits tokens (c :: text) := by
  match tokens with
  | [] => simp [Fits]
  | .run :: rest => exact absurd rfl (noRun rest)
  | .char d :: rest =>
    rintro ⟨_, ⟨⟩, _⟩
    exact other rfl

/-! ## Going back -/

theorem matchTokens_cons {c : Char} {tokens : List Token} {text : List Char} {back : Option Retry}
    (noRun : ∀ rest, tokens = .run :: rest → False) :
    matchTokens tokens (c :: text) back =
      if tokens.head? = some (.char c) then matchTokens tokens.tail text back
      else
        match back with
        | some ⟨again, _ :: later⟩ => matchTokens again later (some ⟨again, later⟩)
        | _ => false := by
  rw [matchTokens.eq_def]
  split
  · contradiction
  · exact absurd rfl (noRun _)
  · cases ‹c :: text = _ :: _›
    rfl

/-- What a matcher keeps of the last run: only characters were matched since, and the tokens and the
text that are left stand behind these. -/
def Kept (tokens : List Token) (text : List Char) (back : Option Retry) : Prop :=
  ∀ last, back = some last →
    ∃ front : List Char, last.tokens = front.map .char ++ tokens ∧ last.text = front ++ text

/-- Whether the last run can take at least one character more than it does. -/
def FitsLater (back : Option Retry) : Prop :=
  ∃ again c later, back = some ⟨again, c :: later⟩ ∧ Fits (.run :: again) later

theorem fitsLater_some_iff {again : List Token} {c : Char} {later : List Char} :
    FitsLater (some ⟨again, c :: later⟩) ↔ Fits (.run :: again) later := by
  constructor
  · rintro ⟨_, _, _, ⟨⟩, fits⟩
    exact fits
  · intro fits
    exact ⟨again, c, later, rfl, fits⟩

/-- A run takes nothing, or at least one character. -/
theorem fits_run_iff {rest : List Token} {text : List Char} :
    Fits (.run :: rest) text ↔ Fits rest text ∨ FitsLater (some ⟨rest, text⟩) := by
  cases text with
  | nil => simp [Fits, FitsLater]
  | cons c text =>
    rw [fitsLater_some_iff]
    simp only [Fits, List.suffix_cons_iff, or_and_right, exists_or, exists_eq_left]

theorem kept_start (rest : List Token) (text : List Char) : Kept rest text (some ⟨rest, text⟩) := by
  rintro _ ⟨⟩
  exact ⟨[], rfl, rfl⟩

theorem Kept.char {c : Char} {rest : List Token} {text : List Char} {back : Option Retry}
    (kept : Kept (.char c :: rest) (c :: text) back) : Kept rest text back := by
  intro last isLast
  obtain ⟨front, tokens, texts⟩ := kept last isLast
  exact ⟨front ++ [c], by simpa using tokens, by simpa using texts⟩

/-- Whatever an earlier run leaves, the run that is met can leave as well. -/
theorem Kept.run {rest : List Token} {text : List Char} {back : Option Retry}
    (kept : Kept (.run :: rest) text back) (fits : FitsLater back) : Fits (.run :: rest) text := by
  obtain ⟨again, c, start, isLast, _, left, fits⟩ := fits
  obtain ⟨front, tokens, texts⟩ := kept _ isLast
  dsimp only at tokens texts
  rw [tokens, fits_chars_iff] at fits
  obtain ⟨last, rfl, later, behind, fits⟩ := fits
  refine ⟨later, behind.trans ?_, fits⟩
  -- Both are behind the same characters, and the earlier run takes at least one more.
  have inside : last <:+ c :: start :=
    ((List.suffix_append front last).trans left).trans (List.suffix_cons c start)
  rw [texts] at inside
  have shorter : last.length ≤ text.length := by
    have := left.length_le
    have := congrArg List.length texts
    simp only [List.length_append, List.length_cons] at *
    omega
  exact List.suffix_of_suffix_length_le inside (List.suffix_append front text) shorter

/-- When the text ends behind the last run, that run cannot take more. -/
theorem Kept.end {tokens : List Token} {back : Option Retry} (kept : Kept tokens [] back) :
    ¬FitsLater back := by
  rintro ⟨again, c, start, isLast, _, left, fits⟩
  obtain ⟨front, tokens, texts⟩ := kept _ isLast
  dsimp only at tokens texts
  rw [tokens, fits_chars_iff] at fits
  obtain ⟨last, rfl, -⟩ := fits
  have := left.length_le
  have := congrArg List.length texts
  simp only [List.length_append, List.length_cons, List.length_nil] at *
  omega

/-- The tokens match, or else the last run takes more and the tokens behind it match. -/
theorem matchTokens_iff {tokens : List Token} {text : List Char} {back : Option Retry}
    (kept : Kept tokens text back) :
    matchTokens tokens text back = true ↔ Fits tokens text ∨ FitsLater back := by
  induction tokens, text, back using matchTokens.induct with
  | case1 back tokens => rw [matchTokens, all_run_iff, or_iff_left kept.end]
  | case2 back rest c text ih =>
    rw [matchTokens, ih (kept_start rest _), ← fits_run_iff, or_iff_left_of_imp kept.run]
  | case3 tokens c text back noRun first ih =>
    obtain ⟨rest, rfl⟩ := List.head?_eq_some_iff.mp first
    rw [List.tail_cons] at ih
    rw [matchTokens_cons noRun, if_pos first, List.tail_cons, ih kept.char]
    simp [Fits]
  | case4 tokens c text noRun other again d later ih =>
    rw [matchTokens_cons noRun, if_neg other, ih (kept_start again later), ← fits_run_iff,
      or_iff_right (not_fits noRun other)]
    exact fitsLater_some_iff.symm
  | case5 tokens c text back noRun other noMore =>
    have noLater : ¬FitsLater back := by
      rintro ⟨again, d, later, isLast, -⟩
      exact noMore again d later isLast
    rw [matchTokens_cons noRun, if_neg other, or_iff_right (not_fits noRun other)]
    split
    · exact absurd rfl (noMore _ _ _)
    · simpa using noLater

/-- A pattern matches a text exactly if the text can be cut into one piece for each token. -/
theorem matchText_iff (pattern text : String) :
    matchText pattern text = true ↔
      ∃ pieces, Pieces pattern.toList pieces ∧ pieces.flatten = text.toList := by
  have kept : Kept (tokens pattern.toList) text.toList none := nofun
  have noLater : ¬FitsLater none := nofun
  rw [matchText, matchTokens_iff kept, or_iff_left noLater]
  constructor
  · exact exists_pieces
  · rintro ⟨pieces, cut, flat⟩
    rw [← flat]
    exact fits_flatten cut

end Workflow.Wildcard
