import Workflow.Proofs.Assignments
import Workflow.Proofs.Records

/-!
# Changes of variables

What a block of the path dialect makes of the variables, entry by entry. Every entry is evaluated in
the scope of the block, so what it asks for does not depend on the entries in front of it; the
changes are then made in the order of the entries, and the last one for a name decides.

A key that ends in `.$` sets the name in front of that ending. When its path finds nothing, every
such ending is taken off before the variable is removed, so a name that itself ends in `.$` is set
under one name and removed under another.
-/

namespace Workflow

namespace Template

/-! ## Dynamic keys -/

theorem dynamicName?_mark (name : String) : dynamicName? (name ++ ".$") = some name := by
  simp [dynamicName?]

theorem dynamicName?_eq_some {key name : String} (isDynamic : dynamicName? key = some name) :
    key = name ++ ".$" := by
  rw [dynamicName?] at isDynamic
  split at isDynamic
  next rest reversed =>
    cases isDynamic
    have chars := congrArg List.reverse reversed
    rw [List.reverse_reverse] at chars
    rw [← String.toList_inj, chars]
    simp
  next => cases isDynamic

theorem dynamicName?_eq_none_iff {key : String} :
    dynamicName? key = none ↔ ∀ name, key ≠ name ++ ".$" := by
  constructor
  · rintro isPlain name rfl
    rw [dynamicName?_mark] at isPlain
    cases isPlain
  · intro isPlain
    rw [Option.eq_none_iff_forall_not_mem]
    intro name isDynamic
    exact isPlain name (dynamicName?_eq_some isDynamic)

end Template

namespace Pipeline

open Evaluation (Error run_bind_ok_iff run_pure_ok_iff run_adapt_ok_iff run_lifted_ok_iff)
open Template (dynamicName?)

theorem withoutMarks_mark (name : String) : withoutMarks (name ++ ".$") = withoutMarks name := by
  simp [withoutMarks, withoutMarks.dropMarks]

theorem length_dropMarks_le (chars : List Char) :
    (withoutMarks.dropMarks chars).length ≤ chars.length := by
  induction chars using withoutMarks.dropMarks.induct with
  | case1 rest ih =>
    rw [withoutMarks.dropMarks]
    exact ih.trans (Nat.le_add_right _ 2)
  | case2 rest other =>
    rw [withoutMarks.dropMarks]
    exact other

/-- Only a name that ends in `.$` loses anything. -/
theorem withoutMarks_eq_self_iff {name : String} :
    withoutMarks name = name ↔ ∀ stem, name ≠ stem ++ ".$" := by
  constructor
  · rintro kept stem rfl
    rw [withoutMarks_mark] at kept
    have shorter := length_dropMarks_le stem.toList.reverse
    have length := congrArg (fun name => name.toList.length) kept
    simp [withoutMarks] at length
    simp at shorter
    omega
  · intro plain
    have unmarked := Template.dynamicName?_eq_none_iff.mpr plain
    rw [withoutMarks, withoutMarks.dropMarks]
    · simp
    · intro rest reversed
      rw [Template.dynamicName?, reversed] at unmarked
      cases unmarked

/-! ## Changes -/

/-- What an entry does to the variables. -/
inductive Change where
  | set (name : String) (value : Json)
  | remove (name : String)

/-- The variable that is changed. -/
def Change.name : Change → String
  | .set name _ => name
  | .remove name => name

/-- The value that the variable has then. -/
def Change.value? : Change → Option Json
  | .set _ value => some value
  | .remove _ => none

def Change.apply (bindings : Variables) : Change → Variables
  | .set name value => Json.insert name value bindings
  | .remove name => Json.erase name bindings

/-- What an entry asks for in a scope, with the source of random numbers before and after. -/
inductive Asks (scope : Scope) : (source : Random.Source) → (entry : String × Json) → Change →
    (later : Random.Source) → Prop where
  | plain {source later : Random.Source} {key : String} {value found : Json}
      (isPlain : ∀ name, key ≠ name ++ ".$")
      (expands : (Template.expand scope value).run source = (.ok found, later)) :
      Asks scope source (key, value) (.set key found) later
  | call {source later : Random.Source} {name text : String} {found : Json}
      (isCall : Intrinsic.looksLike text = true)
      (evaluates : (Intrinsic.evaluate text scope).run source = (.ok found, later)) :
      Asks scope source (name ++ ".$", .string text) (.set name found) later
  | found {source : Random.Source} {name text : String} {found : Json}
      (isPath : Intrinsic.looksLike text = false)
      (evaluates : Path.evaluate text scope = .ok (some found)) :
      Asks scope source (name ++ ".$", .string text) (.set name found) source
  | missing {source : Random.Source} {name text : String}
      (isPath : Intrinsic.looksLike text = false)
      (evaluates : Path.evaluate text scope = .ok none) :
      Asks scope source (name ++ ".$", .string text) (.remove (withoutMarks name)) source

/-- What entries ask for, one after the other, all in one scope. -/
inductive AllAsk (scope : Scope) : (source : Random.Source) → (entries : List (String × Json)) →
    (changes : List Change) → (later : Random.Source) → Prop where
  | nil {source : Random.Source} : AllAsk scope source [] [] source
  | cons {source next later : Random.Source} {entry : String × Json}
      {entries : List (String × Json)} {change : Change} {changes : List Change}
      (first : Asks scope source entry change next)
      (rest : AllAsk scope next entries changes later) :
      AllAsk scope source (entry :: entries) (change :: changes) later

/-! ## Entries -/

theorem dynamicValue_call_iff (key : String) {text : String} {scope : Scope}
    {source later : Random.Source} {found : Option Json}
    (isCall : Intrinsic.looksLike text = true) :
    (Template.dynamicValue key (.string text) scope).run source = (.ok found, later) ↔
      ∃ result, (Intrinsic.evaluate text scope).run source = (.ok result, later) ∧
        found = some result := by
  rw [Template.dynamicValue, if_pos isCall]
  simp only [run_bind_ok_iff, run_adapt_ok_iff, run_pure_ok_iff]
  constructor
  · rintro ⟨result, _, evaluates, rfl, rfl⟩
    exact ⟨result, evaluates, rfl⟩
  · rintro ⟨result, evaluates, rfl⟩
    exact ⟨result, later, evaluates, rfl, rfl⟩

theorem dynamicValue_path_iff (key : String) {text : String} {scope : Scope}
    {source later : Random.Source} {found : Option Json}
    (isPath : Intrinsic.looksLike text = false) :
    (Template.dynamicValue key (.string text) scope).run source = (.ok found, later) ↔
      Path.evaluate text scope = .ok found ∧ source = later := by
  rw [Template.dynamicValue, isPath]
  exact run_lifted_ok_iff

theorem expandEntry_plain_iff {key : String} {value : Json} {scope : Scope}
    {source later : Random.Source} {written : Option (String × Json)}
    (isPlain : ∀ name, key ≠ name ++ ".$") :
    (Template.expandEntry key value scope).run source = (.ok written, later) ↔
      ∃ found, (Template.expand scope value).run source = (.ok found, later) ∧
        written = some (key, found) := by
  rw [Template.expandEntry, Template.dynamicName?_eq_none_iff.mpr isPlain]
  simp only [run_bind_ok_iff, run_pure_ok_iff]
  constructor
  · rintro ⟨found, _, expands, rfl, rfl⟩
    exact ⟨found, expands, rfl⟩
  · rintro ⟨found, expands, rfl⟩
    exact ⟨found, later, expands, rfl, rfl⟩

theorem expandEntry_mark_iff {name : String} {value : Json} {scope : Scope}
    {source later : Random.Source} {written : Option (String × Json)} :
    (Template.expandEntry (name ++ ".$") value scope).run source = (.ok written, later) ↔
      ∃ found, (Template.dynamicValue (name ++ ".$") value scope).run source = (.ok found, later) ∧
        written = found.map fun value => (name, value) := by
  rw [Template.expandEntry, Template.dynamicName?_mark]
  simp only [run_bind_ok_iff, run_pure_ok_iff]
  constructor
  · rintro ⟨found, _, evaluates, rfl, rfl⟩
    exact ⟨found, evaluates, rfl⟩
  · rintro ⟨found, evaluates, rfl⟩
    exact ⟨found, later, evaluates, rfl, rfl⟩

/-- The change that the outcome of an entry stands for. -/
def changeOf (key : String) : Option (String × Json) → Change
  | some (name, found) => .set name found
  | none => .remove (withoutMarks key)

/-- An entry asks for a change exactly if its expansion stands for that change. -/
theorem asks_iff {scope : Scope} {key : String} {value : Json} {source later : Random.Source}
    {change : Change} :
    Asks scope source (key, value) change later ↔
      ∃ written, (Template.expandEntry key value scope).run source = (.ok written, later) ∧
        change = changeOf key written := by
  constructor
  · intro asks
    cases asks with
    | plain isPlain expands =>
      exact ⟨_, (expandEntry_plain_iff isPlain).mpr ⟨_, expands, rfl⟩, rfl⟩
    | call isCall evaluates =>
      refine ⟨_, expandEntry_mark_iff.mpr ⟨some _, ?_, rfl⟩, rfl⟩
      exact (dynamicValue_call_iff _ isCall).mpr ⟨_, evaluates, rfl⟩
    | found isPath evaluates =>
      refine ⟨_, expandEntry_mark_iff.mpr ⟨some _, ?_, rfl⟩, rfl⟩
      exact (dynamicValue_path_iff _ isPath).mpr ⟨evaluates, rfl⟩
    | missing isPath evaluates =>
      refine ⟨none, expandEntry_mark_iff.mpr ⟨none, ?_, rfl⟩, ?_⟩
      · exact (dynamicValue_path_iff _ isPath).mpr ⟨evaluates, rfl⟩
      · rw [changeOf, withoutMarks_mark]
  · rintro ⟨written, expands, rfl⟩
    cases isDynamic : dynamicName? key with
    | none =>
      have isPlain := Template.dynamicName?_eq_none_iff.mp isDynamic
      obtain ⟨found, evaluates, rfl⟩ := (expandEntry_plain_iff isPlain).mp expands
      exact .plain isPlain evaluates
    | some name =>
      obtain rfl := Template.dynamicName?_eq_some isDynamic
      obtain ⟨found, yields, rfl⟩ := expandEntry_mark_iff.mp expands
      cases value with
      | string text =>
        cases isCall : Intrinsic.looksLike text with
        | true =>
          obtain ⟨result, evaluates, rfl⟩ := (dynamicValue_call_iff _ isCall).mp yields
          exact .call isCall evaluates
        | false =>
          obtain ⟨evaluates, rfl⟩ := (dynamicValue_path_iff _ isCall).mp yields
          cases found with
          | some result => exact .found isCall evaluates
          | none =>
            rw [Option.map_none, changeOf, withoutMarks_mark]
            exact .missing isCall evaluates
      | _ => cases yields

theorem assignEntry_run_iff {scope : Scope} {before after : Variables} {key : String} {value : Json}
    {source later : Random.Source} :
    (assignEntry .path scope before key value).run source = (.ok after, later) ↔
      ∃ change, Asks scope source (key, value) change later ∧ after = change.apply before := by
  simp only [asks_iff, assignEntry, run_bind_ok_iff]
  constructor
  · rintro ⟨written, next, expands, assigns⟩
    rcases written with _ | ⟨name, found⟩
    all_goals
      obtain ⟨rfl, rfl⟩ := run_pure_ok_iff.mp assigns
      exact ⟨_, ⟨_, expands, rfl⟩, rfl⟩
  · rintro ⟨change, ⟨written, expands, rfl⟩, rfl⟩
    refine ⟨written, later, expands, ?_⟩
    rcases written with _ | ⟨name, found⟩
    all_goals exact run_pure_ok_iff.mpr ⟨rfl, rfl⟩

/-! ## Blocks -/

theorem assignEntries_run_iff {scope : Scope} {before after : Variables}
    {entries : List (String × Json)} {source later : Random.Source} :
    (assignEntries .path scope before entries).run source = (.ok after, later) ↔
      ∃ changes, AllAsk scope source entries changes later ∧
        after = changes.foldl Change.apply before := by
  induction entries generalizing before source with
  | nil =>
    rw [assignEntries, run_pure_ok_iff]
    constructor
    · rintro ⟨rfl, rfl⟩
      exact ⟨[], .nil, rfl⟩
    · rintro ⟨_, ⟨⟩, rfl⟩
      exact ⟨rfl, rfl⟩
  | cons entry rest ih =>
    rcases entry with ⟨key, value⟩
    simp only [assignEntries, run_bind_ok_iff, assignEntry_run_iff, ih]
    constructor
    · rintro ⟨_, _, ⟨change, first, rfl⟩, changes, others, rfl⟩
      exact ⟨change :: changes, .cons first others, rfl⟩
    · rintro ⟨_, first | ⟨first, others⟩, rfl⟩
      exact ⟨_, _, ⟨_, first, rfl⟩, _, others, rfl⟩

theorem sortedKeys_apply {bindings : Variables} (sorted : Json.SortedKeys bindings)
    (change : Change) : Json.SortedKeys (change.apply bindings) := by
  cases change with
  | set name value => exact Json.sortedKeys_insert sorted name value
  | remove name => exact Json.sortedKeys_erase sorted name

theorem lookup_apply {bindings : Variables} (sorted : Json.SortedKeys bindings) (change : Change)
    (name : String) :
    Json.lookup name (change.apply bindings) =
      if change.name = name then change.value? else Json.lookup name bindings := by
  cases change with
  | set other value =>
    by_cases same : other = name
    · subst same
      simp [Change.apply, Change.name, Change.value?, Json.lookup_insert_self]
    · simp [Change.apply, Change.name, same, Json.lookup_insert_of_ne (Ne.symm same)]
  | remove other =>
    simp [Change.apply, Change.name, Change.value?, Json.lookup_erase sorted, eq_comm]

/-- The last change of a variable decides, and one that is not changed keeps its value. -/
theorem lookup_changed {bindings : Variables} (sorted : Json.SortedKeys bindings)
    (changes : List Change) (name : String) :
    Json.lookup name (changes.foldl Change.apply bindings) =
      match (changes.filter fun change => change.name = name).getLast? with
      | some change => change.value?
      | none => Json.lookup name bindings := by
  induction changes using List.reverseRecOn with
  | nil => rfl
  | append_singleton changes change ih =>
    have sortedThen : Json.SortedKeys (changes.foldl Change.apply bindings) :=
      List.foldlRecOn changes Change.apply sorted fun _ sorted change _ =>
        sortedKeys_apply sorted change
    rw [List.foldl_append, List.foldl_cons, List.foldl_nil, lookup_apply sortedThen, ih,
      List.filter_append]
    by_cases same : change.name = name
    · simp [same]
    · simp [same]

/-- A block of the path dialect makes the changes that its entries ask for, in their order, and each
entry is evaluated in the scope of the block. A variable that no entry changes keeps its value. What
is removed is the name of the entry, unless that name itself ends in `.$`. -/
theorem applyAssign_changes {env : Env} {scope : Scope} (dialect : env.dialect = .path)
    (sorted : Json.SortedKeys env.bindings) (entries : List (String × Json)) :
    (∀ source after later,
      (applyAssign (.object entries) scope env).run source = (.ok after, later) ↔
        ∃ changes, AllAsk scope source entries changes later ∧
          after = changes.foldl Change.apply env.bindings) ∧
    (∀ (changes : List Change) (name : String),
      Json.lookup name (changes.foldl Change.apply env.bindings) =
        match (changes.filter fun change => change.name = name).getLast? with
        | some change => change.value?
        | none => Json.lookup name env.bindings) ∧
    (∀ name, withoutMarks name = name ↔ ∀ stem, name ≠ stem ++ ".$") := by
  refine ⟨?_, lookup_changed sorted, fun name => withoutMarks_eq_self_iff⟩
  intro source after later
  rw [applyAssign, dialect]
  exact assignEntries_run_iff

/-- A variable that is given up, one that is set, and one whose name ends in a mark. -/
def held : Env where
  context := .null
  bindings := [("gone", .nat 1), ("x", .nat 2), ("x.$", .nat 3)]
  config := {}
  dialect := .path

def renewal : List (String × Json) :=
  [("gone.$", .string "$.missing"), ("x", .nat 4), ("y.$", .string "$x")]

set_option maxRecDepth 20000 in
theorem evaluate_missing : Path.evaluate "$.missing" (held.scope .null) = .ok none := by
  have read : Path.parse "$.missing" = .ok ⟨.input, [.child "missing"]⟩ := by cbv
  rw [Path.evaluate, read]
  rfl

set_option maxRecDepth 20000 in
theorem evaluate_x : Path.evaluate "$x" (held.scope .null) = .ok (some (.nat 2)) := by
  have read : Path.parse "$x" = .ok ⟨.variable "x", []⟩ := by cbv
  rw [Path.evaluate, read]
  rfl

theorem applyAssign_changes_renewal :
    held.dialect = .path ∧ Json.SortedKeys held.bindings ∧
      (applyAssign (.object renewal) (held.scope .null) held).run default =
        (.ok [("x", .nat 4), ("x.$", .nat 3), ("y", .nat 2)], default) := by
  have sorted : Json.SortedKeys held.bindings := by
    simp only [Json.SortedKeys, held]
    decide
  have removed : Asks (held.scope .null) default ("gone.$", .string "$.missing")
      (.remove (withoutMarks "gone")) default := by
    rw [show "gone.$" = "gone" ++ ".$" by decide]
    exact .missing (by decide) evaluate_missing
  have set : Asks (held.scope .null) default ("x", .nat 4) (.set "x" (.nat 4)) default := by
    refine .plain ?_ rfl
    rw [← Template.dynamicName?_eq_none_iff]
    decide
  have read : Asks (held.scope .null) default ("y.$", .string "$x") (.set "y" (.nat 2))
      default := by
    rw [show "y.$" = "y" ++ ".$" by decide]
    exact .found (by decide) evaluate_x
  refine ⟨rfl, sorted, ?_⟩
  rw [(applyAssign_changes rfl sorted renewal).1]
  refine ⟨_, .cons removed (.cons set (.cons read .nil)), ?_⟩
  cbv

/-- A name that ends in `.$` is removed under another name. -/
theorem marked_name_kept :
    (applyAssign (.object [("x.$.$", .string "$.missing")]) (held.scope .null) held).run default =
        (.ok [("gone", .nat 1), ("x.$", .nat 3)], default) := by
  have removed : Asks (held.scope .null) default ("x.$.$", .string "$.missing")
      (.remove (withoutMarks "x.$")) default := by
    rw [show "x.$.$" = "x.$" ++ ".$" by decide]
    exact .missing (by decide) evaluate_missing
  rw [applyAssign]
  refine assignEntries_run_iff.mpr ⟨_, .cons removed .nil, ?_⟩
  cbv

end Pipeline

end Workflow
