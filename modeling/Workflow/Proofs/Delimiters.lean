import Mathlib.Data.String.Basic
import Workflow.Proofs.Descent
import Workflow.Template

/-!
# Delimiters

Two readers look for the delimiters of an expression. One only says whether they are there: it asks
for the length of the trimmed text, for its beginning and for its end. The other one takes them off,
and looks for the end in what stands behind the beginning. Neither takes `{%}` for an expression,
where the delimiters would share a character.

A template is expanded by both. The first reader tells which strings are handed to the second one,
which refuses what has no delimiters. Since the readers agree, no string is ever refused for its
delimiters, and the strings that are left alone are those that would have been.
-/

namespace Workflow

namespace Functional

/-! ## The two readers -/

theorem startsWith_iff {first second : Char} {text : List Char} :
    startsWith first second text = true ↔ [first, second] <+: text := by
  rcases text with _ | ⟨a, _ | ⟨b, rest⟩⟩
  · simp [startsWith]
  · simp [startsWith]
  · simp only [startsWith, Bool.and_eq_true, beq_iff_eq, List.cons_prefix_cons, List.nil_prefix,
      and_true]
    exact and_congr eq_comm eq_comm

theorem endsWith_eq_startsWith_reverse (first second : Char) (text : List Char) :
    endsWith first second text = startsWith second first text.reverse := by
  rw [endsWith]
  rcases text.reverse with _ | ⟨b, _ | ⟨a, rest⟩⟩
  · rfl
  · rfl
  · exact Bool.and_comm _ _

theorem endsWith_iff {first second : Char} {text : List Char} :
    endsWith first second text = true ↔ [first, second] <:+ text := by
  rw [endsWith_eq_startsWith_reverse, startsWith_iff]
  exact (List.reverse_prefix : [first, second].reverse <+: text.reverse ↔ _)

theorem beforeEnd?_append (first second : Char) (before : List Char) :
    beforeEnd? first second (before ++ [first, second]) = some before := by
  induction before with
  | nil => exact if_pos ⟨rfl, rfl⟩
  | cons c before ih =>
      rw [List.cons_append, beforeEnd?, ih]
      · rfl
      · simp
      · simp [List.append_eq_cons_iff]

theorem beforeEnd?_eq_some_iff {first second : Char} {text before : List Char} :
    beforeEnd? first second text = some before ↔ text = before ++ [first, second] := by
  refine ⟨fun found => ?_, fun same => same ▸ beforeEnd?_append first second before⟩
  induction text using beforeEnd?.induct first second generalizing before with
  | case1 => cases found
  | case2 c => cases found
  | case3 a b isEnd =>
      rw [beforeEnd?, if_pos isEnd] at found
      cases found
      rw [isEnd.1, isEnd.2, List.nil_append]
  | case4 a b noEnd =>
      rw [beforeEnd?, if_neg noEnd] at found
      cases found
  | case5 a rest nonempty several ih =>
      rw [beforeEnd?] at found
      · obtain ⟨before, ended, rfl⟩ := Option.map_eq_some_iff.mp found
        rw [ih ended, List.cons_append]
      · exact nonempty
      · exact several

/-- A text that is long enough for two affixes of two characters has a part between them. -/
theorem exists_between {text : List Char} {a b c d : Char} :
    4 ≤ text.length ∧ [a, b] <+: text ∧ [c, d] <:+ text ↔
      ∃ inside, text = a :: b :: (inside ++ [c, d]) := by
  constructor
  · rintro ⟨long, ⟨rest, rfl⟩, ended⟩
    have fits : [c, d].length ≤ rest.length := by simpa using long
    obtain ⟨inside, rfl⟩ :=
      List.suffix_of_suffix_length_le ended (List.suffix_append [a, b] rest) fits
    exact ⟨inside, rfl⟩
  · rintro ⟨inside, rfl⟩
    refine ⟨by simp, ⟨inside ++ [c, d], rfl⟩, ⟨a :: b :: inside, rfl⟩⟩

theorem isExpression_iff {text : String} :
    isExpression text = true ↔
      ∃ inside, Text.trim text.toList = '\x7b' :: '%' :: (inside ++ ['%', '\x7d']) := by
  rw [← exists_between, isExpression, Bool.and_eq_true, Bool.and_eq_true, decide_eq_true_eq,
    startsWith_iff, endsWith_iff, and_assoc]

/-- The affixes are of two bytes each, so the length may be told in bytes: the only shorter text that
has both of them is `{%}`. -/
theorem isExpression_iff_bytes {text : String} :
    isExpression text = true ↔
      4 ≤ (Text.trimmed text).utf8ByteSize ∧ ['\x7b', '%'] <+: (Text.trimmed text).toList ∧
        ['%', '\x7d'] <:+ (Text.trimmed text).toList := by
  rw [isExpression_iff, ← exists_between, Text.trimmed, String.utf8ByteSize_ofList,
    String.toList_ofList]
  refine and_congr_left fun ⟨⟨rest, opened⟩, ended⟩ => ?_
  rw [← opened] at ended ⊢
  rcases rest with _ | ⟨c, _ | ⟨d, rest⟩⟩
  · exact iff_of_false (by decide) (by decide)
  · obtain ⟨front, same⟩ := ended
    obtain rfl : '\x7d' = c := by simpa using congrArg List.getLast? same
    exact iff_of_false (by decide) (by decide)
  · refine iff_of_true (by simp) ?_
    have first := c.utf8Size_pos
    have second := d.utf8Size_pos
    have affix : String.utf8Len ['\x7b', '%'] = 2 := by decide
    simp only [String.utf8Len_append, String.utf8Len_cons, affix]
    omega

theorem body?_eq_some_iff {text : String} {body : List Char} :
    body? text = some body ↔
      ∃ inside, Text.trim text.toList = '\x7b' :: '%' :: (inside ++ ['%', '\x7d']) ∧
        Text.trim inside = body := by
  rw [body?]
  split
  next rest opened =>
    simp only [Option.map_eq_some_iff, beforeEnd?_eq_some_iff, opened, List.cons.injEq, true_and]
  next shut =>
    refine iff_of_false nofun ?_
    rintro ⟨inside, delimited, -⟩
    exact shut _ delimited

/-- The two readers agree on every text. -/
theorem isExpression_iff_body? {text : String} :
    isExpression text = true ↔ ∃ body, body? text = some body := by
  simp only [isExpression_iff, body?_eq_some_iff]
  constructor
  · rintro ⟨inside, delimited⟩
    exact ⟨_, inside, delimited, rfl⟩
  · rintro ⟨_, inside, delimited, -⟩
    exact ⟨inside, delimited⟩

/-! ## What is refused -/

theorem evaluate_undelimited {text : String} (unasked : isExpression text = false)
    (scope : Scope) : evaluate text scope = .error ⟨text, .undelimited⟩ := by
  cases found : body? text with
  | none => rw [evaluate, found]
  | some body =>
      rw [isExpression_iff_body?.mpr ⟨body, found⟩] at unasked
      contradiction

/-- What has its delimiters can only be refused for the formula between them. -/
theorem evaluate_delimited {text : String} {scope : Scope} {error : Error}
    (asked : isExpression text = true) (failed : evaluate text scope = .error error) :
    ∃ reason, error = ⟨text, .formula reason⟩ := by
  obtain ⟨body, found⟩ := isExpression_iff_body?.mp asked
  rw [evaluate, found] at failed
  obtain ⟨reason, _, same⟩ := Except.mapError_eq_error.mp failed
  exact ⟨reason, same.symm⟩

theorem head?_toList_append {c : Char} {front : String} (rest : String)
    (begins : front.toList.head? = some c) : (front ++ rest).toList.head? = some c := by
  rw [String.toList_append, List.head?_append, begins, Option.some_or]

/-- What is said about a formula begins with a capital letter. -/
theorem message_capital (reason : Formula.Error) :
    ∃ c, reason.message.toList.head? = some c ∧ c.isUpper = true := by
  cases reason with
  | parsing => exact ⟨'P', rfl, rfl⟩
  | badContext => exact ⟨'I', rfl, rfl⟩
  | undefinedName name =>
      exact ⟨'I', head?_toList_append _ (head?_toList_append name rfl), rfl⟩
  | unknownTransform name => exact ⟨'U', head?_toList_append name rfl, rfl⟩
  | repeatedKey key => exact ⟨'D', head?_toList_append key rfl, rfl⟩
  | badIndex => exact ⟨'I', rfl, rfl⟩
  | badFilter => exact ⟨'I', rfl, rfl⟩
  | badOperands operator left right =>
      have operands := head?_toList_append right.text
        (head?_toList_append ", right: " (head?_toList_append left.text
          (rfl : "Invalid binary operation, left: ".toList.head? = some 'I')))
      exact ⟨'I', head?_toList_append operator.shown (head?_toList_append _ operands), rfl⟩
  | notNumber text => exact ⟨'C', head?_toList_append _ (head?_toList_append text rfl), rfl⟩
  | notNumeric => exact ⟨'C', rfl, rfl⟩
  | badJson => exact ⟨'C', rfl, rfl⟩

/-- So it is never said in the words for missing delimiters. -/
theorem message_ne_undelimited (reason : Formula.Error) :
    reason.message ≠ "expression must be wrapped in \x7b% %\x7d" := by
  intro same
  obtain ⟨c, begins, capital⟩ := message_capital reason
  rw [same] at begins
  obtain rfl : 'e' = c := Option.some.inj begins
  cases capital

/-! ## Strings of a template -/

/-- What is made of a string of a template: it is evaluated, or it is left alone and evaluating it
would fail for its delimiters, whatever is in scope. -/
inductive Treated (scope : Scope) (text : String) : Except Error Json → Prop where
  | evaluated (asked : isExpression text = true) : Treated scope text (evaluate text scope)
  | copied (unasked : isExpression text = false)
      (refused : ∀ other, evaluate text other = .error ⟨text, .undelimited⟩) :
      Treated scope text (.ok (.string text))

section Walk

variable {scope : Scope} {template result : Json} {error : Error}

theorem treated_expand (scope : Scope) (text : String) :
    Treated scope text (expand scope (.string text)) := by
  rw [expand]
  split
  next asked => exact .evaluated asked
  next unasked =>
    rw [Bool.not_eq_true] at unasked
    exact .copied unasked (evaluate_undelimited unasked)

/-- Members are expanded as their values are. -/
theorem expandItems_values (scope : Scope) (members : List (String × Json)) :
    expandItems scope (members.map Prod.snd) =
      (expandMembers scope members).map (List.map Prod.snd) := by
  induction members with
  | nil => rfl
  | cons member rest ih =>
      rw [List.map_cons, expandItems, expandMembers, ih]
      cases expand scope member.2 with
      | error error => rfl
      | ok first => cases expandMembers scope rest <;> rfl

/-- A template that is no string is expanded child by child. -/
theorem expandItems_children (scope : Scope) (container : ∀ text, template ≠ .string text) :
    expandItems scope template.children = (expand scope template).map Json.children := by
  cases template with
  | string text => exact absurd rfl (container text)
  | array items =>
      rw [expand, Json.children]
      cases expandItems scope items <;> rfl
  | object members =>
      rw [expand, Json.children, expandItems_values]
      cases expandMembers scope members <;> rfl
  | _ => rfl

theorem expandItems_eq_ok {items results : List Json}
    (expands : expandItems scope items = .ok results) {index : Nat} {item : Json}
    (stands : items[index]? = some item) :
    ∃ value, expand scope item = .ok value ∧ results[index]? = some value := by
  induction items generalizing results index with
  | nil => cases stands
  | cons first rest ih =>
      rw [expandItems] at expands
      obtain ⟨value, here, expands⟩ := Except.bind_eq_ok.mp expands
      obtain ⟨others, there, expands⟩ := Except.bind_eq_ok.mp expands
      cases expands
      cases index with
      | zero =>
          cases stands
          exact ⟨value, here, rfl⟩
      | succ index => exact ih there stands

/-- The first item that fails decides. -/
theorem expandItems_eq_error {items : List Json}
    (expands : expandItems scope items = .error error) :
    ∃ (index : Nat) (item : Json), items[index]? = some item ∧ expand scope item = .error error ∧
      ∀ earlier < index, ∀ other, items[earlier]? = some other →
        ∃ value, expand scope other = .ok value := by
  induction items with
  | nil => cases expands
  | cons first rest ih =>
      rw [expandItems] at expands
      rcases Except.bind_eq_error.mp expands with here | ⟨value, here, expands⟩
      · exact ⟨0, first, rfl, here, fun earlier before => absurd before (Nat.not_lt_zero _)⟩
      rcases Except.bind_eq_error.mp expands with there | ⟨others, _, expands⟩
      · obtain ⟨index, item, stands, failed, before⟩ := ih there
        refine ⟨index + 1, item, stands, failed, fun earlier less other isOther => ?_⟩
        cases earlier with
        | zero =>
            cases isOther
            exact ⟨value, here⟩
        | succ earlier => exact before earlier (Nat.lt_of_succ_lt_succ less) other isOther
      · cases expands

theorem ne_string_of_child {index : Nat} {child : Json}
    (stands : template.children[index]? = some child) (text : String) :
    template ≠ .string text := by
  rintro rfl
  cases stands

/-- What stands at a place of a template expands by itself, and stands at that place again. -/
theorem expand_at (expands : expand scope template = .ok result) {place : List Nat} {inner : Json}
    (stands : template.at? place = some inner) :
    ∃ value, expand scope inner = .ok value ∧ result.at? place = some value := by
  induction place generalizing template result with
  | nil =>
      cases stands
      exact ⟨result, expands, rfl⟩
  | cons index place ih =>
      obtain ⟨child, isChild, below⟩ := Option.bind_eq_some_iff.mp stands
      have each := expandItems_children scope (ne_string_of_child isChild)
      rw [expands] at each
      obtain ⟨nested, expandsChild, isNested⟩ := expandItems_eq_ok each isChild
      obtain ⟨value, expandsInner, found⟩ := ih expandsChild below
      refine ⟨value, expandsInner, ?_⟩
      rw [Json.at?, isNested]
      exact found

/-- A template fails as the first of its strings that fails. -/
theorem expand_eq_error (expands : expand scope template = .error error) :
    ∃ place text, template.at? place = some (.string text) ∧
      expand scope (.string text) = .error error ∧
      ∀ earlier < place, ∀ other, template.at? earlier = some (.string other) →
        ∃ value, expand scope (.string other) = .ok value := by
  induction template using Json.byChildren with
  | step template ih =>
      by_cases isString : ∃ text, template = .string text
      · obtain ⟨text, rfl⟩ := isString
        exact ⟨[], text, rfl, expands, fun earlier before => absurd before (List.not_lt_nil _)⟩
      have container : ∀ text, template ≠ .string text := not_exists.mp isString
      have each := expandItems_children scope container
      rw [expands] at each
      obtain ⟨index, child, isChild, failed, before⟩ := expandItems_eq_error each
      obtain ⟨place, text, stands, failed, within⟩ := ih child (List.mem_of_getElem? isChild) failed
      refine ⟨index :: place, text, ?_, failed, fun earlier less other isOther => ?_⟩
      · rw [Json.at?, isChild]
        exact stands
      cases earlier with
      | nil => exact absurd (Option.some.inj isOther) (container other)
      | cons first rest =>
          obtain ⟨sibling, isSibling, below⟩ := Option.bind_eq_some_iff.mp isOther
          rcases List.cons_lt_cons_iff.mp less with sooner | ⟨rfl, inside⟩
          · obtain ⟨value, expandsSibling⟩ := before first sooner sibling isSibling
            obtain ⟨inner, expandsInner, _⟩ := expand_at expandsSibling below
            exact ⟨inner, expandsInner⟩
          · cases isSibling.symm.trans isChild
            exact within rest inside other below

end Walk

/-- The two readers of delimiters agree on every text. So the expander of templates never fails in
the words for missing delimiters: each string that it meets is evaluated, or it is one that would
have been refused for its delimiters, and is left where it stands. It meets the strings in the order
of their places, up to the first one whose formula is refused. -/
theorem delimiters_agree :
    (∀ text, isExpression text = true ↔ ∃ body, body? text = some body) ∧
    (∀ text, isExpression text = true ↔
      4 ≤ (Text.trimmed text).utf8ByteSize ∧ ['\x7b', '%'] <+: (Text.trimmed text).toList ∧
        ['%', '\x7d'] <:+ (Text.trimmed text).toList) ∧
    ∀ scope template,
      (∀ error, expand scope template = .error error →
        error.cause.message ≠ "expression must be wrapped in \x7b% %\x7d") ∧
      (∀ result, expand scope template = .ok result →
        ∀ place text, template.at? place = some (.string text) →
          ∃ value, result.at? place = some value ∧ Treated scope text (.ok value)) ∧
      (∀ error, expand scope template = .error error →
        ∃ place text, template.at? place = some (.string text) ∧
          Treated scope text (.error error) ∧
          ∀ earlier < place, ∀ other, template.at? earlier = some (.string other) →
            ∃ value, Treated scope other (.ok value)) := by
  refine ⟨fun text => isExpression_iff_body?, fun text => isExpression_iff_bytes,
    fun scope template => ⟨?_, ?_, ?_⟩⟩
  · intro error expands
    obtain ⟨place, text, _, failed, _⟩ := expand_eq_error expands
    rw [expand] at failed
    split at failed
    next asked =>
      obtain ⟨reason, rfl⟩ := evaluate_delimited asked failed
      exact message_ne_undelimited reason
    next unasked => cases failed
  · intro result expands place text stands
    obtain ⟨value, expandsText, found⟩ := expand_at expands stands
    exact ⟨value, found, expandsText ▸ treated_expand scope text⟩
  · intro error expands
    obtain ⟨place, text, stands, failed, before⟩ := expand_eq_error expands
    refine ⟨place, text, stands, failed ▸ treated_expand scope text, ?_⟩
    intro earlier less other isOther
    obtain ⟨value, expandsOther⟩ := before earlier less other isOther
    exact ⟨value, expandsOther ▸ treated_expand scope other⟩

/-! ## Delimiters that share a character -/

/-- A value that looks like delimiters. -/
def naming : Scope where
  input := .object [("name", .string "\x7b%\x7d")]
  context := .null
  bindings := []

/-- A string whose delimiters would share a character, and an expression among white space. -/
def greeting (last : Json) : Json :=
  .object [("all", .array [.string "\x7b%\x7d", .string "\u2003\x7b% name %\x7d\x09", last])]

set_option maxRecDepth 20000 in
theorem evaluate_padded :
    evaluate "\u2003\x7b% name %\x7d\x09" naming = .ok (.string "\x7b%\x7d") := by
  cbv

set_option maxRecDepth 20000 in
theorem evaluate_empty :
    evaluate "\x7b%%\x7d" naming = .error ⟨"\x7b%%\x7d", .formula .parsing⟩ := by
  cbv

theorem expand_greeting (last : Json) :
    expand naming (greeting last) =
      (expand naming last).map fun value =>
        .object [("all", .array [.string "\x7b%\x7d", .string "\x7b%\x7d", value])] := by
  have shared : isExpression "\x7b%\x7d" = false := by decide
  have padded : isExpression "\u2003\x7b% name %\x7d\x09" = true := by decide
  simp only [greeting, expand, expandMembers, expandItems, shared, padded, if_true, evaluate_padded,
    Bool.false_eq_true, if_false]
  cases expand naming last <;> rfl

theorem delimiters_agree_greeting :
    Treated naming "\x7b%\x7d" (.ok (.string "\x7b%\x7d")) ∧
      Treated naming "\u2003\x7b% name %\x7d\x09" (.ok (.string "\x7b%\x7d")) ∧
      expand naming (greeting (.string "\x7b%%\x7d")) =
        .error ⟨"\x7b%%\x7d", .formula .parsing⟩ ∧
      (Cause.formula .parsing).message ≠ "expression must be wrapped in \x7b% %\x7d" ∧
      ∃ place text, (greeting (.string "\x7b%%\x7d")).at? place = some (.string text) ∧
        Treated naming text (.error ⟨"\x7b%%\x7d", .formula .parsing⟩) := by
  obtain ⟨_, _, treats⟩ := delimiters_agree
  have expands := expand_greeting .null
  have fails : expand naming (greeting (.string "\x7b%%\x7d")) =
      .error ⟨"\x7b%%\x7d", .formula .parsing⟩ := by
    have empty : isExpression "\x7b%%\x7d" = true := by decide
    rw [expand_greeting, expand, if_pos empty, evaluate_empty]
    rfl
  obtain ⟨_, places, _⟩ := treats naming (greeting .null)
  obtain ⟨silent, _, firstFailure⟩ := treats naming (greeting (.string "\x7b%%\x7d"))
  obtain ⟨value, stands, shared⟩ := places _ expands [0, 0] _ rfl
  cases stands
  obtain ⟨value, stands, padded⟩ := places _ expands [0, 1] _ rfl
  cases stands
  obtain ⟨place, text, asked, treated, _⟩ := firstFailure _ fails
  exact ⟨shared, padded, fails, silent _ fails, place, text, asked, treated⟩

end Functional

end Workflow
