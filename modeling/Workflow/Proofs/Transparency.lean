import Workflow.Proofs.Changes
import Workflow.Proofs.Delimiters
import Workflow.Proofs.Members
import Workflow.Proofs.Placement

/-!
# Transparency

A template is data but for the places where it asks for a value. Where it asks for none it expands
to itself; where it asks for one, the value that was found stands in the result as it is, whatever
it looks like, since neither expander ever looks at a value that it has found.

Where a value stands is told by the layers of the template around it, objects and arrays, one within
the other. An array keeps the places of its items. In the path dialect a layer that is an object can
lose what is nested in it: a dynamic key further on may have the same name, and what it finds is
written over it.
-/

namespace Workflow

/-! ## Parts of documents -/

namespace Json

/-- A document stands somewhere in another one. -/
inductive Part (inner : Json) : Json → Prop where
  | whole : Part inner inner
  | item {items : List Json} {item : Json} (isItem : item ∈ items) (part : Part inner item) :
      Part inner (.array items)
  | member {members : List (String × Json)} {member : String × Json}
      (isMember : member ∈ members) (part : Part inner member.2) : Part inner (.object members)

end Json

/-! ## Layers -/

/-- What is around a document in the one that it is nested in. -/
inductive Layer where
  | item (before after : List Json)
  | member (before : List (String × Json)) (key : String) (after : List (String × Json))

namespace Layer

/-- The document that a layer makes of what is nested in it. -/
def fill (inner : Json) : Layer → Json
  | item before after => .array (before ++ inner :: after)
  | member before key after => .object (before ++ (key, inner) :: after)

/-- The step that leads through a layer. -/
def step : Layer → Path.Step
  | item before _ => .position before.length
  | member _ key _ => .name key

/-- What layers make of a document, the outermost one first. -/
def fillAll (layers : List Layer) (inner : Json) : Json :=
  layers.foldr (fun layer below => layer.fill below) inner

/-- The steps that lead through layers. -/
abbrev steps (layers : List Layer) : List Path.Step := layers.map step

theorem sorted_of_fill {layer : Layer} {inner : Json} (sorted : (layer.fill inner).Sorted) :
    inner.Sorted := by
  cases layer with
  | item before after =>
      exact Json.sorted_of_mem_items sorted (List.mem_append_right before List.mem_cons_self)
  | member before key after =>
      have isMember : (key, inner) ∈ before ++ (key, inner) :: after :=
        List.mem_append_right before List.mem_cons_self
      exact Json.sorted_of_mem_members sorted.2 isMember

end Layer

theorem Json.ne_of_sorted_append {before after : List (String × Json)} {key : String}
    {value : Json} (sorted : SortedKeys (before ++ (key, value) :: after)) :
    ∀ member ∈ before, member.1 ≠ key := by
  intro member isBefore
  have less := (List.pairwise_append.mp sorted).2.2 member isBefore _ List.mem_cons_self
  exact String.ne_of_lt less

theorem Json.lt_of_sorted_append {before after : List (String × Json)} {key : String}
    {value : Json} (sorted : SortedKeys (before ++ (key, value) :: after)) :
    ∀ member ∈ after, key < member.1 :=
  (List.pairwise_cons.mp (List.pairwise_append.mp sorted).2.1).1

/-! ## The functional dialect -/

namespace Functional

/-- No string in a template is a whole expression. -/
def Unasking (template : Json) : Prop :=
  ∀ text, Json.Part (.string text) template → isExpression text = false

section Transparent

variable {scope : Scope}

mutual

theorem expand_of_unasking (scope : Scope) (template : Json) (unasking : Unasking template) :
    expand scope template = .ok template := by
  match template with
  | .null => rfl
  | .bool value => rfl
  | .number value => rfl
  | .string text =>
      rw [expand, unasking text .whole]
      rfl
  | .array items =>
      rw [expand, expandItems_of_unasking scope items fun item isItem text part =>
        unasking text (.item isItem part)]
      rfl
  | .object members =>
      rw [expand, expandMembers_of_unasking scope members fun member isMember text part =>
        unasking text (.member isMember part)]
      rfl

theorem expandItems_of_unasking (scope : Scope) (items : List Json)
    (unasking : ∀ item ∈ items, Unasking item) : expandItems scope items = .ok items := by
  match items with
  | [] => rfl
  | item :: rest =>
      rw [expandItems, expand_of_unasking scope item (unasking item List.mem_cons_self),
        expandItems_of_unasking scope rest fun other isRest =>
          unasking other (List.mem_cons_of_mem item isRest)]
      rfl

theorem expandMembers_of_unasking (scope : Scope) (members : List (String × Json))
    (unasking : ∀ member ∈ members, Unasking member.2) :
    expandMembers scope members = .ok members := by
  match members with
  | [] => rfl
  | (key, value) :: rest =>
      rw [expandMembers, expand_of_unasking scope value (unasking (key, value) List.mem_cons_self),
        expandMembers_of_unasking scope rest fun other isRest =>
          unasking other (List.mem_cons_of_mem _ isRest)]
      rfl

end

/-- Members keep their keys. -/
theorem expandMembers_append {before after : List (String × Json)} {key : String} {inner : Json}
    {results : List (String × Json)}
    (distinct : ∀ member ∈ before, member.1 ≠ key)
    (expands : expandMembers scope (before ++ (key, inner) :: after) = .ok results) :
    ∃ below, expand scope inner = .ok below ∧ Json.lookup key results = some below := by
  induction before generalizing results with
  | nil =>
      rw [List.nil_append, expandMembers] at expands
      obtain ⟨below, found, expands⟩ := Except.bind_eq_ok.mp expands
      obtain ⟨others, _, expands⟩ := Except.bind_eq_ok.mp expands
      cases expands
      exact ⟨below, found, if_pos rfl⟩
  | cons member before ih =>
      rcases List.forall_mem_cons.mp distinct with ⟨different, distinct⟩
      rw [List.cons_append, expandMembers] at expands
      obtain ⟨first, _, expands⟩ := Except.bind_eq_ok.mp expands
      obtain ⟨others, rest, expands⟩ := Except.bind_eq_ok.mp expands
      cases expands
      obtain ⟨below, found, stands⟩ := ih distinct rest
      exact ⟨below, found, (if_neg different).trans stands⟩

/-- What is nested in a template expands by itself, and stands where it stood. -/
theorem expand_layer {layer : Layer} {inner result : Json} (sorted : (layer.fill inner).Sorted)
    (expands : expand scope (layer.fill inner) = .ok result) :
    ∃ below, expand scope inner = .ok below ∧ layer.step.find? result = some below := by
  cases layer with
  | item before after =>
      rw [Layer.fill, expand] at expands
      obtain ⟨results, items, rfl⟩ := Except.map_eq_ok.mp expands
      exact expandItems_eq_ok items (by simp)
  | member before key after =>
      rw [Layer.fill, expand] at expands
      obtain ⟨results, members, rfl⟩ := Except.map_eq_ok.mp expands
      exact expandMembers_append (Json.ne_of_sorted_append sorted.1) members

/-- The value of an expression stands where the expression stood, however deep that is. -/
theorem expand_fillAll {layers : List Layer} {text : String} {result : Json}
    (isWhole : isExpression text = true) (sorted : (Layer.fillAll layers (.string text)).Sorted)
    (expands : expand scope (Layer.fillAll layers (.string text)) = .ok result) :
    ∃ value, evaluate text scope = .ok value ∧
      Path.find? (Layer.steps layers) result = some value := by
  induction layers generalizing result with
  | nil =>
      rw [Layer.fillAll, List.foldr_nil, expand, if_pos isWhole] at expands
      exact ⟨result, expands, rfl⟩
  | cons layer layers ih =>
      obtain ⟨below, nested, stands⟩ := expand_layer sorted expands
      obtain ⟨value, evaluates, found⟩ := ih (Layer.sorted_of_fill sorted) nested
      refine ⟨value, evaluates, ?_⟩
      rw [Layer.steps, List.map_cons, Path.find?, stands]
      exact found

end Transparent

end Functional

/-! ## The path dialect -/

namespace Template

open Evaluation (run_bind_ok_iff run_pure_ok_iff)
open Pipeline (dynamicValue_path_iff)

/-- No key at any depth of a template ends in `.$`. -/
def Unmarked (template : Json) : Prop :=
  ∀ members, Json.Part (.object members) template → ∀ member ∈ members, ∀ name,
    member.1 ≠ name ++ ".$"

/-- A dynamic key with this value is dropped. -/
def FindsNothing (scope : Scope) (value : Json) : Prop :=
  ∃ text, value = .string text ∧ Intrinsic.looksLike text = false ∧
    Path.evaluate text scope = .ok none

/-- Nothing is written over what is nested in a layer. -/
def Keeps (scope : Scope) : Layer → Prop
  | .item _ _ => True
  | .member _ key after => ∀ value, (key ++ ".$", value) ∈ after → FindsNothing scope value

/-- What an entry that was expanded adds to an object. -/
def written (entry : Option (String × Json)) (members : List (String × Json)) :
    List (String × Json) :=
  match entry with
  | some (name, value) => Json.insert name value members
  | none => members

theorem lt_mark (name : String) : name < name ++ ".$" := by
  rw [String.lt_iff_toList_lt, String.toList_append]
  induction name.toList with
  | nil => exact .nil
  | cons char chars ih => exact .cons ih

mutual

/-- A template without dynamic keys is expanded to itself, and nothing is drawn. -/
theorem expand_of_unmarked (scope : Scope) (template : Json) (sorted : template.Sorted)
    (unmarked : Unmarked template) : expand scope template = pure template := by
  match template with
  | .null => rfl
  | .bool value => rfl
  | .number value => rfl
  | .string text => rfl
  | .array items =>
      rw [expand, expandItems_of_unmarked scope items sorted fun item isItem members part =>
        unmarked members (.item isItem part)]
      exact pure_bind _ _
  | .object members =>
      rw [expand, expandMembers_of_unmarked scope [] members sorted.2 (unmarked members .whole)
        fun member isMember members part => unmarked members (.member isMember part),
        Json.overlay_of_sorted sorted.1]
      exact pure_bind _ _

theorem expandItems_of_unmarked (scope : Scope) (items : List Json)
    (sorted : Json.SortedItems items) (unmarked : ∀ item ∈ items, Unmarked item) :
    expandItems scope items = pure items := by
  match items with
  | [] => rfl
  | item :: rest =>
      rw [expandItems, expand_of_unmarked scope item sorted.1 (unmarked item List.mem_cons_self),
        expandItems_of_unmarked scope rest sorted.2 fun other isRest =>
          unmarked other (List.mem_cons_of_mem item isRest)]
      rw [pure_bind, pure_bind]

theorem expandMembers_of_unmarked (scope : Scope) (earlier members : List (String × Json))
    (sorted : Json.SortedMembers members)
    (plain : ∀ member ∈ members, ∀ name, member.1 ≠ name ++ ".$")
    (unmarked : ∀ member ∈ members, Unmarked member.2) :
    expandMembers scope earlier members = pure (Json.overlay earlier members) := by
  match members with
  | [] => rfl
  | (key, value) :: rest =>
      have isPlain := dynamicName?_eq_none_iff.mpr (plain (key, value) List.mem_cons_self)
      rw [expandMembers, isPlain,
        expand_of_unmarked scope value sorted.1 (unmarked (key, value) List.mem_cons_self)]
      dsimp only
      rw [pure_bind]
      exact expandMembers_of_unmarked scope _ rest sorted.2
        (fun member isRest => plain member (List.mem_cons_of_mem _ isRest))
        (fun member isRest => unmarked member (List.mem_cons_of_mem _ isRest))

end

section Entries

variable {scope : Scope} {source later : Random.Source}

/-- Members are expanded one by one. -/
theorem run_expandMembers_cons_iff {key : String} {value : Json}
    {earlier rest result : List (String × Json)} :
    (expandMembers scope earlier ((key, value) :: rest)).run source = (.ok result, later) ↔
      ∃ entry next, (expandEntry key value scope).run source = (.ok entry, next) ∧
        (expandMembers scope (written entry earlier) rest).run next = (.ok result, later) := by
  rw [expandMembers, expandEntry]
  cases isDynamic : dynamicName? key with
  | some name =>
      simp only [run_bind_ok_iff, run_pure_ok_iff]
      constructor
      · rintro ⟨found, next, asks, expands⟩
        refine ⟨_, next, ⟨found, next, asks, rfl, rfl⟩, ?_⟩
        cases found <;> exact expands
      · rintro ⟨_, _, ⟨found, next, asks, rfl, rfl⟩, expands⟩
        refine ⟨found, next, asks, ?_⟩
        cases found <;> exact expands
  | none =>
      simp only [run_bind_ok_iff, run_pure_ok_iff]
      constructor
      · rintro ⟨found, next, nested, expands⟩
        exact ⟨_, next, ⟨found, next, nested, rfl, rfl⟩, expands⟩
      · rintro ⟨_, _, ⟨found, next, nested, rfl, rfl⟩, expands⟩
        exact ⟨found, next, nested, expands⟩

theorem run_expandMembers_append {before after earlier result : List (String × Json)}
    (expands : (expandMembers scope earlier (before ++ after)).run source = (.ok result, later)) :
    ∃ middle next, (expandMembers scope middle after).run next = (.ok result, later) := by
  induction before generalizing earlier source with
  | nil => exact ⟨earlier, source, expands⟩
  | cons member before ih =>
      obtain ⟨entry, next, _, expands⟩ := run_expandMembers_cons_iff.mp expands
      exact ih expands

theorem expandEntry_eq_none {name : String} {value : Json} {entry : Option (String × Json)}
    (nothing : FindsNothing scope value)
    (expands : (expandEntry (name ++ ".$") value scope).run source = (.ok entry, later)) :
    entry = none := by
  obtain ⟨text, rfl, isPath, missing⟩ := nothing
  obtain ⟨found, asks, rfl⟩ := Pipeline.expandEntry_mark_iff.mp expands
  obtain ⟨evaluates, _⟩ := (dynamicValue_path_iff _ isPath).mp asks
  cases evaluates.symm.trans missing
  rfl

/-- A name that no entry writes keeps its value. -/
theorem lookup_expandMembers {name : String} {members earlier result : List (String × Json)}
    (others : ∀ member ∈ members, member.1 ≠ name)
    (nothing : ∀ value, (name ++ ".$", value) ∈ members → FindsNothing scope value)
    (expands : (expandMembers scope earlier members).run source = (.ok result, later)) :
    Json.lookup name result = Json.lookup name earlier := by
  induction members generalizing earlier source with
  | nil =>
      rw [expandMembers] at expands
      rw [(run_pure_ok_iff.mp expands).1]
  | cons member rest ih =>
      rcases member with ⟨key, value⟩
      rcases List.forall_mem_cons.mp others with ⟨different, others⟩
      obtain ⟨entry, next, expandsEntry, expands⟩ := run_expandMembers_cons_iff.mp expands
      rw [ih others (fun value isLater => nothing value (List.mem_cons_of_mem _ isLater)) expands]
      match entry with
      | none => rfl
      | some (other, found) =>
          refine Json.lookup_insert_of_ne ?_ found earlier
          rintro rfl
          have isName := Pipeline.expandEntry_name ⟨source, congrArg Prod.fst expandsEntry⟩
          cases isDynamic : dynamicName? key with
          | none =>
              rw [isDynamic] at isName
              exact different isName.symm
          | some stem =>
              rw [isDynamic] at isName
              obtain rfl : name = stem := isName
              obtain rfl := dynamicName?_eq_some isDynamic
              cases expandEntry_eq_none (nothing value List.mem_cons_self) expandsEntry

/-- An item of an expanded array stands where it stood. -/
theorem run_expandItems_append {before after : List Json} {inner : Json} {results : List Json}
    (expands : (expandItems scope (before ++ inner :: after)).run source = (.ok results, later)) :
    ∃ below start finish, (expand scope inner).run start = (.ok below, finish) ∧
      results[before.length]? = some below := by
  induction before generalizing source results later with
  | nil =>
      simp only [List.nil_append, expandItems, run_bind_ok_iff, run_pure_ok_iff] at expands
      obtain ⟨below, _, nested, others, _, _, rfl, rfl⟩ := expands
      exact ⟨below, _, _, nested, rfl⟩
  | cons item before ih =>
      simp only [List.cons_append, expandItems, run_bind_ok_iff, run_pure_ok_iff] at expands
      obtain ⟨_, _, _, others, _, rest, rfl, rfl⟩ := expands
      exact ih rest

/-- What is nested under a plain key stands there, unless something is written over it. -/
theorem run_expandMembers_plain {before after earlier result : List (String × Json)}
    {key : String} {inner : Json} (plain : ∀ name, key ≠ name ++ ".$")
    (sorted : Json.SortedKeys (before ++ (key, inner) :: after))
    (kept : Keeps scope (.member before key after))
    (expands : (expandMembers scope earlier (before ++ (key, inner) :: after)).run source =
      (.ok result, later)) :
    ∃ below start finish, (expand scope inner).run start = (.ok below, finish) ∧
      Json.lookup key result = some below := by
  obtain ⟨middle, start, expands⟩ := run_expandMembers_append expands
  obtain ⟨_, finish, expandsEntry, expands⟩ := run_expandMembers_cons_iff.mp expands
  obtain ⟨below, nested, rfl⟩ := (Pipeline.expandEntry_plain_iff plain).mp expandsEntry
  refine ⟨below, start, finish, nested, ?_⟩
  have others : ∀ member ∈ after, member.1 ≠ key := fun member isAfter same =>
    String.ne_of_lt (Json.lt_of_sorted_append sorted member isAfter) same.symm
  rw [lookup_expandMembers others kept expands, written, Json.lookup_insert_self]

/-- What a dynamic key finds stands under its name: no later key can write there. -/
theorem run_expandMembers_dynamic {before after earlier result : List (String × Json)}
    {name : String} {value : Json}
    (sorted : Json.SortedKeys (before ++ (name ++ ".$", value) :: after))
    (expands : (expandMembers scope earlier (before ++ (name ++ ".$", value) :: after)).run source =
      (.ok result, later)) :
    ∃ found start finish,
      (dynamicValue (name ++ ".$") value scope).run start = (.ok found, finish) ∧
        ∀ inserted, found = some inserted → Json.lookup name result = some inserted := by
  obtain ⟨middle, start, expands⟩ := run_expandMembers_append expands
  obtain ⟨_, finish, expandsEntry, expands⟩ := run_expandMembers_cons_iff.mp expands
  obtain ⟨found, asks, rfl⟩ := Pipeline.expandEntry_mark_iff.mp expandsEntry
  refine ⟨found, start, finish, asks, ?_⟩
  rintro value rfl
  have greater := Json.lt_of_sorted_append sorted
  have others : ∀ member ∈ after, member.1 ≠ name := fun member isAfter same =>
    String.ne_of_lt ((lt_mark name).trans (greater member isAfter)) same.symm
  have unwritten : ∀ value, (name ++ ".$", value) ∈ after → FindsNothing scope value :=
    fun value isAfter => absurd (greater _ isAfter) (String.lt_irrefl _)
  rw [lookup_expandMembers others unwritten expands]
  exact Json.lookup_insert_self ..

/-- What is nested in a layer that keeps it expands by itself, and stands where it stood. -/
theorem run_expand_layer {layer : Layer} {inner result : Json}
    (isOpen : ∀ text, inner ≠ .string text) (sorted : (layer.fill inner).Sorted)
    (kept : Keeps scope layer)
    (expands : (expand scope (layer.fill inner)).run source = (.ok result, later)) :
    ∃ below start finish, (expand scope inner).run start = (.ok below, finish) ∧
      layer.step.find? result = some below := by
  cases layer with
  | item before after =>
      simp only [Layer.fill, expand, run_bind_ok_iff, run_pure_ok_iff] at expands
      obtain ⟨results, _, expands, rfl, rfl⟩ := expands
      exact run_expandItems_append expands
  | member before key after =>
      simp only [Layer.fill, expand, run_bind_ok_iff, run_pure_ok_iff] at expands
      obtain ⟨members, _, expands, rfl, rfl⟩ := expands
      cases isDynamic : dynamicName? key with
      | none =>
          have plain := dynamicName?_eq_none_iff.mp isDynamic
          exact run_expandMembers_plain plain sorted.1 kept expands
      | some name =>
          -- A dynamic key has no value but a text, so nothing is nested under it.
          obtain rfl := dynamicName?_eq_some isDynamic
          obtain ⟨_, _, _, asks, _⟩ := run_expandMembers_dynamic sorted.1 expands
          cases inner with
          | string text => exact absurd rfl (isOpen text)
          | _ => cases asks

theorem dynamicValue_eq_pure (key : String) {text : String} {found : Option Json}
    (isPath : Intrinsic.looksLike text = false) (evaluates : Path.evaluate text scope = .ok found) :
    dynamicValue key (.string text) scope = pure found := by
  rw [dynamicValue, isPath, evaluates]
  rfl

/-- The template that layers make of an object that has a dynamic key. -/
def nest (layers : List Layer) (before : List (String × Json)) (name : String) (value : Json)
    (after : List (String × Json)) : Json :=
  Layer.fillAll layers (.object (before ++ (name ++ ".$", value) :: after))

theorem nest_ne_string (layers : List Layer) (before : List (String × Json)) (name : String)
    (value : Json) (after : List (String × Json)) (text : String) :
    nest layers before name value after ≠ .string text := by
  cases layers with
  | nil => exact nofun
  | cons layer layers => cases layer <;> exact nofun

/-- What a dynamic key finds stands where the key stood, however deep that is. -/
theorem run_expand_nest {layers : List Layer} {before after : List (String × Json)}
    {name : String} {value result : Json} (sorted : (nest layers before name value after).Sorted)
    (kept : ∀ layer ∈ layers, Keeps scope layer)
    (expands : (expand scope (nest layers before name value after)).run source =
      (.ok result, later)) :
    ∃ found start finish,
      (dynamicValue (name ++ ".$") value scope).run start = (.ok found, finish) ∧
        ∀ inserted, found = some inserted →
          Path.find? (Layer.steps layers ++ [.name name]) result = some inserted := by
  induction layers generalizing source later result with
  | nil =>
      rw [nest, Layer.fillAll, List.foldr_nil] at sorted expands
      simp only [expand, run_bind_ok_iff, run_pure_ok_iff] at expands
      obtain ⟨members, _, expands, rfl, rfl⟩ := expands
      obtain ⟨found, start, finish, asks, stands⟩ := run_expandMembers_dynamic sorted.1 expands
      refine ⟨found, start, finish, asks, fun value isFound => ?_⟩
      exact (congrArg (Option.bind · some) (stands value isFound)).trans rfl
  | cons layer layers ih =>
      rcases List.forall_mem_cons.mp kept with ⟨keptHere, kept⟩
      obtain ⟨below, _, _, nested, atLayer⟩ :=
        run_expand_layer (nest_ne_string layers before name value after) sorted keptHere expands
      obtain ⟨found, start, finish, asks, stands⟩ := ih (Layer.sorted_of_fill sorted) kept nested
      refine ⟨found, start, finish, asks, fun value isFound => ?_⟩
      rw [Layer.steps, List.map_cons, List.cons_append, Path.find?, atLayer]
      exact stands value isFound

end Entries

/-- Templates are transparent to data. Where nothing is asked for, either dialect expands a template
to itself; where something is asked for, what was found stands there verbatim. In the path dialect
this holds unless what a dynamic key of a layer finds is written over what is nested beside it. -/
theorem templates_transparent (scope : Scope) :
    (∀ template : Json, template.Sorted → Unmarked template →
      expand scope template = pure template) ∧
    (∀ template, Functional.Unasking template →
      Functional.expand scope template = .ok template) ∧
    (∀ layers before name value after source result later,
      (nest layers before name value after).Sorted → (∀ layer ∈ layers, Keeps scope layer) →
      (expand scope (nest layers before name value after)).run source = (.ok result, later) →
      ∃ found start finish,
        (dynamicValue (name ++ ".$") value scope).run start = (.ok found, finish) ∧
          ∀ inserted, found = some inserted →
            Path.find? (Layer.steps layers ++ [.name name]) result = some inserted) ∧
    (∀ layers text result, Functional.isExpression text = true →
      (Layer.fillAll layers (.string text)).Sorted →
      Functional.expand scope (Layer.fillAll layers (.string text)) = .ok result →
      ∃ value, Functional.evaluate text scope = .ok value ∧
        Path.find? (Layer.steps layers) result = some value) := by
  refine ⟨expand_of_unmarked scope, Functional.expand_of_unasking scope, ?_, ?_⟩
  · intro layers before name value after source result later
    exact run_expand_nest
  · intro layers text result
    exact Functional.expand_fillAll

/-- A value that looks like a template of either dialect. -/
def disguised : Json :=
  .object [("call", .string "States.UUID()"), ("formula", .string "\x7b% $now() %\x7d"),
    ("path.$", .string "$.secret")]

def disguise : Scope where
  input := .object [("given", disguised)]
  context := .null
  bindings := []

/-- An array in an object, each with something beside what is nested in it. -/
def wrapping : List Layer :=
  [.member [] "list" [("other", .null)], .item [.null] []]

/-- Layers around the value, at the place where it was asked for. -/
def revealed (entry : Json) : Json :=
  .object [("list", .array [.null, entry]), ("other", .null)]

set_option maxRecDepth 20000 in
theorem evaluate_given : Path.evaluate "$.given" disguise = .ok (some disguised) := by
  have read : Path.parse "$.given" = .ok ⟨.input, [.child "given"]⟩ := by cbv
  rw [Path.evaluate, read]
  rfl

theorem expand_wrapping :
    (expand disguise (nest wrapping [] "found" (.string "$.given") [])).run default =
      (.ok (revealed (.object [("found", disguised)])), default) := by
  have dynamic : dynamicName? "found.$" = some "found" := by decide
  have list : dynamicName? "list" = none := by decide
  have other : dynamicName? "other" = none := by decide
  have asks := dynamicValue_eq_pure "found.$" (by decide) evaluate_given
  change (expand disguise (revealed (.object [("found.$", .string "$.given")]))).run default = _
  simp only [revealed, expand, expandItems, expandMembers, dynamic, list, other, pure_bind,
    asks]
  rfl

set_option maxRecDepth 20000 in
theorem evaluate_given_formula :
    Functional.evaluate "\x7b% given %\x7d" disguise = .ok disguised := by
  cbv

theorem expand_formula_wrapping :
    Functional.expand disguise (Layer.fillAll wrapping (.string "\x7b% given %\x7d")) =
      .ok (revealed disguised) := by
  have isWhole : Functional.isExpression "\x7b% given %\x7d" = true := by decide
  change Functional.expand disguise (revealed (.string "\x7b% given %\x7d")) = _
  simp only [revealed, Functional.expand, Functional.expandMembers, Functional.expandItems, isWhole,
    if_true, evaluate_given_formula]
  rfl

theorem templates_transparent_disguised :
    expand disguise (.string "\x7b% given %\x7d") = pure (.string "\x7b% given %\x7d") ∧
      Functional.expand disguise (.object [("found.$", .string "$.given")]) =
        .ok (.object [("found.$", .string "$.given")]) ∧
      Path.find? (Layer.steps wrapping ++ [.name "found"])
        (revealed (.object [("found", disguised)])) = some disguised ∧
      Path.find? (Layer.steps wrapping) (revealed disguised) = some disguised := by
  obtain ⟨unchanged, unasked, path, functional⟩ := templates_transparent disguise
  have unmarked : Unmarked (.string "\x7b% given %\x7d") := fun _ part => nomatch part
  have unasking : Functional.Unasking (.object [("found.$", .string "$.given")]) := by
    rintro text (_ | _ | ⟨isMember, part⟩)
    cases List.mem_singleton.mp isMember
    cases part
    decide
  have sorted (inner : Json) (isSorted : inner.Sorted) :
      (Layer.fillAll wrapping inner).Sorted := by
    have keys : "list" < "other" := by decide +kernel
    exact ⟨List.pairwise_pair.mpr keys, ⟨trivial, isSorted, trivial⟩, trivial, trivial⟩
  refine ⟨unchanged _ trivial unmarked, unasked _ unasking, ?_, ?_⟩
  · have kept : ∀ layer ∈ wrapping, Keeps disguise layer := by
      simp [wrapping, Keeps]
    have entry : (Json.object [("found.$", .string "$.given")]).Sorted :=
      ⟨List.pairwise_singleton .., trivial, trivial⟩
    obtain ⟨found, _, _, asks, stands⟩ :=
      path wrapping [] "found" (.string "$.given") [] default _ default (sorted _ entry) kept
        expand_wrapping
    apply stands
    obtain ⟨evaluates, _⟩ := (dynamicValue_path_iff _ (by decide)).mp asks
    exact Except.ok.inj (evaluates.symm.trans evaluate_given)
  · obtain ⟨value, evaluates, stands⟩ :=
      functional wrapping "\x7b% given %\x7d" _ (by decide) (sorted _ trivial)
        expand_formula_wrapping
    cases evaluates.symm.trans evaluate_given_formula
    exact stands

/-! ## Entries that are written over -/

def rivals : Scope where
  input := .object [("x", .nat 1), ("y", .nat 2)]
  context := .null
  bindings := []

set_option maxRecDepth 20000 in
theorem evaluate_rival_x : Path.evaluate "$.x" rivals = .ok (some (.nat 1)) := by
  have read : Path.parse "$.x" = .ok ⟨.input, [.child "x"]⟩ := by cbv
  rw [Path.evaluate, read]
  rfl

set_option maxRecDepth 20000 in
theorem evaluate_rival_y : Path.evaluate "$.y" rivals = .ok (some (.nat 2)) := by
  have read : Path.parse "$.y" = .ok ⟨.input, [.child "y"]⟩ := by cbv
  rw [Path.evaluate, read]
  rfl

/-- What is nested under a key is lost when a dynamic key has that name. -/
theorem nested_entry_replaced :
    Path.evaluate "$.x" rivals = .ok (some (.nat 1)) ∧
      expand rivals (nest [.member [] "a" [("a.$", .string "$.y")]] [] "b" (.string "$.x") []) =
        pure (.object [("a", .nat 2)]) ∧
      Path.find? [.name "a", .name "b"] (.object [("a", .nat 2)]) = none := by
  have plain : dynamicName? "a" = none := by decide
  have outer : dynamicName? "a.$" = some "a" := by decide
  have inner : dynamicName? "b.$" = some "b" := by decide
  have first := dynamicValue_eq_pure "b.$" (by decide) evaluate_rival_x
  have second := dynamicValue_eq_pure "a.$" (by decide) evaluate_rival_y
  refine ⟨evaluate_rival_x, ?_, rfl⟩
  change expand rivals (.object [("a", .object [("b.$", .string "$.x")]),
    ("a.$", .string "$.y")]) = _
  simp only [expand, expandMembers, plain, outer, inner, pure_bind, first, second]
  rfl

end Template

end Workflow
