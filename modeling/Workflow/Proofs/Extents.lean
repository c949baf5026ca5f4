import Mathlib.Data.List.Forall2
import Workflow.Proofs.Quotes
import Workflow.Proofs.Wording

/-!
# The extent of path arguments

Where a call is split into the paths that it was written with. A path that can be read at all and
whose quotes are plain is enclosed, and a call is split at the commas between its arguments exactly
if all of them are enclosed.
-/

namespace Workflow.Intrinsic

/-! ## Enclosed paths -/

theorem readRoot_moves {text rest : List Char} {root : Path.Root}
    (done : Path.readRoot text = .ok (root, rest)) (depth : Nat) :
    Moves .outside depth text depth rest := by
  simp only [Path.readRoot] at done
  split at done
  next =>
    cases done
    exact .ordinary (by decide) (.ordinary (by decide) (.refl depth _))
  next =>
    split at done
    next =>
      cases done
      exact .ordinary (by decide) (.dropWhile (by decide) depth _)
    next =>
      cases done
      exact .ordinary (by decide) (.refl depth _)
  next =>
    cases done
    exact .ordinary (by decide) (.refl depth _)
  next => cases done

theorem read_moves {text : List Char} {path : Path} (done : Path.read text = .ok path) :
    Moves .outside 0 text 0 [] := by
  obtain ⟨⟨root, behind⟩, readRoot, done⟩ := Except.bind_eq_ok.mp done
  obtain ⟨⟨selectors, after⟩, readSelectors, done⟩ := Except.bind_eq_ok.mp done
  have moves := (readRoot_moves readRoot 0).trans <|
    ((tracked _).selectors 0 readSelectors).trans (.trimStart 0 after)
  dsimp only at done
  split at done
  next ends =>
    rw [ends] at moves
    exact moves
  next => cases done

/-- A path whose quotes are plain is enclosed. -/
theorem enclosed_of_plain {text : List Char} {path : Path} (done : Path.read text = .ok path)
    (quotes : plain .outside text = true) : Enclosed text := by
  obtain ⟨⟨taken, shape, passed⟩, -⟩ := read_moves done quotes
  rw [List.append_nil] at shape
  rw [Enclosed, shape]
  exact passed

/-! ## Splitting arguments -/

theorem splitPath_stopped {quote : Option Char} {depth : Nat} {text : List Char}
    (stopped : scan quote depth text = none) (rest : List Char) :
    (splitPath quote depth (text ++ rest)).1.length < text.length := by
  induction text generalizing quote depth with
  | nil => cases stopped
  | cons c text ih =>
    rw [List.cons_append, splitPath_cons]
    simp only [scan] at stopped
    cases met : step quote depth c with
    | none => simp
    | some place =>
      simp only [met] at stopped
      simpa using ih stopped

/-- Only outside of quotes and brackets does the scanner stop at a separator. -/
theorem step_separator {quote : Option Char} {depth : Nat} {c : Char} (mark : c = ',' ∨ c = ')')
    (stops : step quote depth c = none) : quote = none ∧ depth = 0 := by
  cases quote with
  | some open' => cases stops
  | none =>
    rcases mark with rfl | rfl
    · simpa [step] using stops
    · simpa [step] using stops

theorem length_trimEnd_le (text : List Char) : (Text.trimEnd text).length ≤ text.length := by
  have shorter := (List.dropWhile_sublist (l := text.reverse) Text.isBlank).length_le
  simpa [Text.trimEnd] using shorter

theorem lt_length_trimEnd (front : List Char) {c : Char} (dark : Text.isBlank c = false)
    (more : List Char) : front.length < (Text.trimEnd (front ++ c :: more)).length := by
  induction more using List.reverseRecOn with
  | nil =>
    rw [Text.trimEnd_of_dark (by simpa [Text.Dark] using dark)]
    simp
  | append_singleton more b ih =>
    by_cases blank : Text.isBlank b = true
    · have gap : Text.Blank [b] := by simpa [Text.Blank] using blank
      have same := Text.trimEnd_gap gap (front ++ c :: more)
      simp only [List.append_assoc, List.cons_append] at same ⊢
      rw [same]
      exact ih
    · rw [Text.trimEnd_of_dark (by simpa [Text.Dark] using blank)]
      simp

/-- What the scanner takes off the front of a text is the text in front of a separator only if that
is enclosed. -/
theorem enclosed_of_split {text tail : List Char} {c : Char} (mark : c = ',' ∨ c = ')')
    (same : Text.trimEnd (splitPath none 0 (text ++ c :: tail)).1 = text) : Enclosed text := by
  rw [Enclosed]
  cases scanned : scan none 0 text with
  | none =>
    have short := splitPath_stopped scanned (c :: tail)
    have shorter := length_trimEnd_le (splitPath none 0 (text ++ c :: tail)).1
    rw [same] at shorter
    omega
  | some place =>
    obtain ⟨quote, depth⟩ := place
    have split := splitPath_append scanned (c :: tail)
    rw [splitPath_cons] at split
    cases met : step quote depth c with
    | none =>
      obtain ⟨rfl, rfl⟩ := step_separator mark met
      rfl
    | some place =>
      have dark : Text.isBlank c = false := by
        rcases mark with rfl | rfl
        · decide
        · decide
      have long := lt_length_trimEnd text dark (splitPath place.1 place.2 tail).1
      simp only [met] at split
      simp only [split] at same
      rw [same] at long
      exact absurd long (by omega)

/-- A text that is a path as it stands, without blanks at its ends. -/
structure Usable (text : String) : Prop where
  reads : ∃ path, Path.parse text = .ok path
  trimmed : Text.trim text.toList = text.toList

namespace Usable

variable {text : String}

theorem read (usable : Usable text) : ∃ path, Path.read text.toList = .ok path := by
  obtain ⟨path, done⟩ := usable.reads
  simp only [Path.parse, usable.trimmed] at done
  split at done
  next path read => exact ⟨path, read⟩
  next => cases done

theorem starts (usable : Usable text) : ∃ rest, text.toList = '$' :: rest := by
  obtain ⟨path, done⟩ := usable.read
  obtain ⟨⟨root, behind⟩, done, -⟩ := Except.bind_eq_ok.mp done
  simp only [Path.readRoot] at done
  split at done
  next shape => exact ⟨_, shape⟩
  next shape => exact ⟨_, shape⟩
  next shape => exact ⟨_, shape⟩
  next => cases done

theorem dark (usable : Usable text) : Text.Dark text.toList.reverse := by
  rw [← usable.trimmed, Text.trim, Text.trimEnd, List.reverse_reverse]
  intro c mem
  have kept := List.head?_dropWhile_not Text.isBlank (Text.trimStart text.toList).reverse
  rw [Option.mem_def.mp mem] at kept
  simpa using kept

theorem pathText (usable : Usable text) (enclosed : Enclosed text.toList) :
    PathText text.toList := ⟨usable.starts, usable.dark, enclosed⟩

end Usable

/-! ## Calls with paths -/

/-- A path argument that is read as it is written ends where it was written to end. -/
theorem enclosed_of_readArgument {text : String} (usable : Usable text) {c : Char}
    (mark : c = ',' ∨ c = ')') {fuel : Nat} {tail rest : List Char}
    (done : readArgument fuel (text.toList ++ c :: tail) = .ok (.path text, rest)) :
    Enclosed text.toList ∧ rest = c :: tail := by
  obtain ⟨body, shape⟩ := usable.starts
  have plain : readPlain (text.toList ++ c :: tail) = .ok (.path text, rest) := by
    cases fuel with
    | zero => cases done
    | succ fuel =>
      rw [shape, List.cons_append] at done ⊢
      simpa only [readArgument, afterStart?_of_ne (by decide : '$' ≠ 'S')] using done
  have same : Text.trimEnd (splitPath none 0 (text.toList ++ c :: tail)).1 = text.toList := by
    rw [shape, List.cons_append] at plain ⊢
    simp only [readPlain, Except.ok.injEq, Prod.mk.injEq, Argument.path.injEq] at plain
    rw [← shape, ← plain.1, String.toList_ofList]
  have enclosed := enclosed_of_split mark same
  refine ⟨enclosed, ?_⟩
  have ends : EndsArgument (c :: tail) := ⟨[], c, tail, rfl, Text.blank_nil, mark⟩
  have next : Text.trimStart (c :: tail) = c :: tail := EndsArgument.trimStart Text.blank_nil mark tail
  rw [readPlain_path (usable.pathText enclosed) ends, next] at plain
  simp only [Except.ok.injEq, Prod.mk.injEq] at plain
  exact plain.2.symm

theorem listed_starts {text : String} (usable : Usable text) (texts : List (List Char)) :
    ∃ rest, listed (text.toList :: texts) = '$' :: rest := by
  obtain ⟨body, shape⟩ := usable.starts
  cases texts with
  | nil => exact ⟨body ++ [')'], by simp [listed, shape]⟩
  | cons second texts =>
    exact ⟨body ++ ',' :: ' ' :: listed (second :: texts), by simp [listed, shape]⟩

theorem trimStart_listed {text : String} (usable : Usable text) (texts : List (List Char)) :
    Text.trimStart (listed (text.toList :: texts)) = listed (text.toList :: texts) := by
  obtain ⟨rest, shape⟩ := listed_starts usable texts
  rw [shape]
  exact Text.trimStart_gap_cons Text.blank_nil (by decide) rest

/-- The first argument is taken off the front, and behind a comma the others are read. -/
theorem readArguments_cons {fuel : Nat} {text rest : List Char} {argument : Argument}
    {arguments : List Argument}
    (done : readArguments fuel text = .ok (argument :: arguments, rest)) :
    ∃ fuel' ahead, readArgument fuel' (Text.trimStart text) = .ok (argument, ahead) ∧
      ∀ behind, Text.trimStart ahead = ',' :: behind →
        readArguments fuel' behind = .ok (arguments, rest) := by
  cases fuel with
  | zero => cases done
  | succ fuel =>
    obtain ⟨⟨first, ahead⟩, read, done⟩ := Except.bind_eq_ok.mp done
    dsimp only at done
    split at done
    next after comma =>
      obtain ⟨⟨others, final⟩, readOthers, done⟩ := Except.bind_eq_ok.mp done
      cases done
      refine ⟨fuel, ahead, read, ?_⟩
      intro behind same
      rw [comma, List.cons.injEq] at same
      rw [← same.2, readOthers]
    next after close =>
      cases done
      refine ⟨fuel, ahead, read, ?_⟩
      intro behind same
      simp [close] at same
    next => cases done

/-- Arguments that are read as they are written are enclosed, one after the other. -/
theorem enclosed_of_readArguments {first : String} {others : List String}
    (usable : ∀ text ∈ first :: others, Usable text) {fuel : Nat} {text rest : List Char}
    (shape : Text.trimStart text = listed ((first :: others).map String.toList))
    (done : readArguments fuel text = .ok ((first :: others).map Argument.path, rest)) :
    ∀ text ∈ first :: others, Enclosed text.toList := by
  induction others generalizing first fuel text with
  | nil =>
    obtain ⟨fuel, ahead, read, -⟩ := readArguments_cons done
    rw [shape] at read
    have ends := enclosed_of_readArgument (usable first List.mem_cons_self) (.inr rfl) read
    simpa using ends.1
  | cons second others ih =>
    obtain ⟨fuel, ahead, read, readOthers⟩ := readArguments_cons done
    rw [shape] at read
    have usableFirst := usable first List.mem_cons_self
    obtain ⟨enclosed, rfl⟩ := enclosed_of_readArgument usableFirst (.inl rfl) read
    have usableOthers : ∀ text ∈ second :: others, Usable text :=
      fun text mem => usable text (List.mem_cons_of_mem first mem)
    have next := trimStart_listed (usableOthers second List.mem_cons_self)
      (others.map String.toList)
    rw [List.forall_mem_cons]
    refine ⟨enclosed, ih usableOthers ?_ (readOthers _ rfl)⟩
    exact (Text.trimStart_gap Text.blank_space _).trans next

/-- A call is read behind its opening. -/
theorem readCall_of_parse {name : String} {texts : List (List Char)} {call : Call}
    (done : parse (callText name texts) = .ok call) :
    ∃ fuel rest, readCall (fuel + 1) (invocation name texts) = .ok (call, rest) := by
  have closed : ∃ body, invocation name texts = body ++ [')'] := by
    obtain ⟨body, shape⟩ := listed_closed texts
    exact ⟨name.toList ++ '(' :: body, by simp [invocation, shape]⟩
  have trimmed := trim_call Text.blank_nil closed Text.blank_nil
  simp only [List.nil_append, List.append_nil] at trimmed
  simp only [parse, callText, String.toList_ofList, trimmed] at done
  split at done
  next read =>
    obtain ⟨⟨inner, ahead⟩, read, ends⟩ := Except.bind_eq_ok.mp read
    dsimp only at ends
    split at ends
    next =>
      cases ends
      cases done
      exact ⟨_, ahead, read⟩
    next => cases ends
  next => cases done

/-- The arguments of a call that is read are read behind its parenthesis. -/
theorem readArguments_of_readCall {name : String} (named : IsName name.toList)
    {texts : List (List Char)} {body : List Char} (starts : listed texts = '$' :: body) {fuel : Nat}
    {arguments : List Argument} {rest : List Char}
    (done : readCall (fuel + 1) (invocation name texts) = .ok (.mk name arguments, rest)) :
    readArguments fuel (listed texts) = .ok (arguments, rest) := by
  obtain ⟨run, behind⟩ := span_name named Text.blank_nil (listed texts)
  have filled : name.toList.isEmpty = false := by simp [named.1]
  have opened : Text.trimStart ('(' :: listed texts) = '(' :: listed texts :=
    Text.trimStart_gap_cons Text.blank_nil (by decide) _
  have inside : Text.trimStart (listed texts) = '$' :: body := by
    rw [starts]
    exact Text.trimStart_gap_cons Text.blank_nil (by decide) body
  simp only [List.nil_append] at run behind
  simp only [readCall, invocation, run, behind, filled, opened, inside, Bool.false_eq_true,
    if_false] at done
  obtain ⟨⟨others, final⟩, read, done⟩ := Except.bind_eq_ok.mp done
  simp only [pure, Except.pure, Except.ok.injEq, Prod.mk.injEq, Call.mk.injEq] at done
  rw [starts, read, done.1.2, done.2]

/-- A call of usable paths is read as it is written exactly if all of them are enclosed, and they
are where their quotes are plain. -/
theorem parse_paths_iff {name : String} (named : IsName name.toList) {paths : List String}
    (usable : ∀ text ∈ paths, Usable text) :
    (parse (callText name (paths.map String.toList)) = .ok (.mk name (paths.map .path)) ↔
      ∀ text ∈ paths, Enclosed text.toList) ∧
    ∀ text ∈ paths, plain .outside text.toList = true → Enclosed text.toList := by
  refine ⟨⟨?_, ?_⟩, ?_⟩
  · intro done
    cases paths with
    | nil => simp
    | cons first others =>
      obtain ⟨fuel, rest, read⟩ := readCall_of_parse done
      have usableFirst := usable first List.mem_cons_self
      obtain ⟨body, starts⟩ := listed_starts usableFirst (others.map String.toList)
      have inner := readArguments_of_readCall named starts read
      exact enclosed_of_readArguments usable (trimStart_listed usableFirst _) inner
  · intro enclosed
    have spelled : List.Forall₂ ArgumentText (paths.map .path) (paths.map String.toList) := by
      simp only [List.forall₂_map_left_iff, List.forall₂_map_right_iff, List.forall₂_same]
      intro text mem
      simpa using ArgumentText.path ((usable text mem).pathText (enclosed text mem))
    exact parse_of_spelled (spelled_invocation named spelled)
  · intro text mem quotes
    obtain ⟨path, done⟩ := (usable text mem).read
    exact enclosed_of_plain done quotes

set_option maxRecDepth 2048 in
theorem parse_paths_quoted :
    IsName "Array".toList ∧ (∀ text ∈ ["$.a['x,y']", "$.b[?(@.c == \"d)\")]"], Usable text) ∧
      parse "States.Array($.a['x,y'], $.b[?(@.c == \"d)\")])" =
        .ok (.mk "Array" [.path "$.a['x,y']", .path "$.b[?(@.c == \"d)\")]"]) := by
  have named : IsName "Array".toList := by decide
  have member : Path.parse "$.a['x,y']" = .ok ⟨.input, [.child "a", .child "x,y"]⟩ := by cbv
  have filter : Path.parse "$.b[?(@.c == \"d)\")]" = .ok ⟨.input, [.child "b",
      .filter (.compare (.current [.child "c"]) .eq (.literal (.string "d)")))]⟩ := by cbv
  have usable : ∀ text ∈ ["$.a['x,y']", "$.b[?(@.c == \"d)\")]"], Usable text := by
    simp only [List.forall_mem_cons, List.not_mem_nil, false_imp_iff, implies_true, and_true]
    exact ⟨⟨⟨_, member⟩, by cbv⟩, ⟨⟨_, filter⟩, by cbv⟩⟩
  have quotes : ∀ text ∈ ["$.a['x,y']", "$.b[?(@.c == \"d)\")]"],
      plain .outside text.toList = true := by
    simp only [List.forall_mem_cons, List.not_mem_nil, false_imp_iff, implies_true, and_true]
    exact ⟨by cbv, by cbv⟩
  have written : callText "Array" (["$.a['x,y']", "$.b[?(@.c == \"d)\")]"].map String.toList) =
      "States.Array($.a['x,y'], $.b[?(@.c == \"d)\")])" := by cbv
  obtain ⟨split, enclosed⟩ := parse_paths_iff named usable
  have read := split.mpr fun text mem => enclosed text mem (quotes text mem)
  rw [written] at read
  exact ⟨named, usable, read⟩

set_option maxRecDepth 2048 in
/-- An escaped quote closes the quoted part as far as the scanner is concerned, so it is still in
quotes at the end of the call. -/
theorem escaped_quote_unread :
    Usable "$.a['it\\'s']" ∧
      callText "Array" ["$.a['it\\'s']".toList] = "States.Array($.a['it\\'s'])" ∧
      parse "States.Array($.a['it\\'s'])" =
        .error (.malformed "States.Array($.a['it\\'s'])" .noSeparator 26) := by
  have read : Path.parse "$.a['it\\'s']" = .ok ⟨.input, [.child "a", .child "it's"]⟩ := by cbv
  exact ⟨⟨⟨_, read⟩, by cbv⟩, by cbv, by cbv⟩

-- Two names with a quote each become one argument.
example : parse "States.Array($.it's, $.it's)" = .ok (.mk "Array" [.path "$.it's, $.it's"]) := by
  cbv

end Workflow.Intrinsic
