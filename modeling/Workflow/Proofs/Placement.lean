import Mathlib.Data.List.Basic
import Workflow.Scope

/-!
# Placing and reading at reference paths

Reading follows all matches of a selector chain at once, while placing walks down one branch of the
document and builds the objects that are missing. On reference paths both address the same place.
`Path.find?` is that place read step by step; the selector semantics reduces to it, and the laws of
placing are proved against it by induction on the steps, one case for each kind of value that a step
can meet.

Placing fails only where a step meets a value that it does not fit. `Path.encounters` lists what
each step meets, where an object made for a missing member counts as empty.
-/

namespace Workflow

/-! ## Members in key order -/

namespace Json

theorem mem_of_lookup {key : String} {value : Json} {members : List (String × Json)}
    (found : lookup key members = some value) : (key, value) ∈ members := by
  induction members with
  | nil => simp at found
  | cons member rest ih =>
      rcases member with ⟨name, old⟩
      by_cases same : name = key
      · simp only [lookup, same, if_true, Option.some.injEq] at found
        simp [same, found]
      · simp only [lookup, same, if_false] at found
        exact List.mem_cons_of_mem _ (ih found)

theorem insert_of_lookup {key : String} {value : Json} {members : List (String × Json)}
    (sorted : SortedKeys members) (found : lookup key members = some value) :
    insert key value members = members := by
  induction members with
  | nil => simp at found
  | cons member rest ih =>
      rcases member with ⟨name, old⟩
      rcases List.pairwise_cons.mp sorted with ⟨first, later⟩
      by_cases same : name = key
      · simp only [lookup, same, if_true, Option.some.injEq] at found
        simp [insert, same, found]
      · simp only [lookup, same, if_false] at found
        have after : name < key := first _ (mem_of_lookup found)
        have notBefore : ¬key < name := String.lt_asymm after
        have different : ¬key = name := fun equal => same equal.symm
        simp [insert, different, notBefore, ih later found]

theorem insert_insert (key : String) (first second : Json) (members : List (String × Json)) :
    insert key second (insert key first members) = insert key second members := by
  induction members with
  | nil => simp [insert]
  | cons member rest ih =>
      rcases member with ⟨name, old⟩
      by_cases same : key = name
      · simp [insert, same]
      · by_cases before : key < name
        · simp [insert, same, before]
        · simp [insert, same, before, ih]

theorem mem_insert {member : String × Json} {key : String} {value : Json}
    {members : List (String × Json)} (present : member ∈ insert key value members) :
    member = (key, value) ∨ member ∈ members := by
  induction members with
  | nil => simpa [insert] using present
  | cons head rest ih =>
      rcases head with ⟨name, old⟩
      by_cases same : key = name
      · simp only [insert, same, if_true, List.mem_cons] at present
        rcases present with here | there
        · exact Or.inl (by simpa [same] using here)
        · exact Or.inr (List.mem_cons_of_mem _ there)
      · by_cases before : key < name
        · simpa [insert, same, before] using present
        · simp only [insert, same, before, if_false, List.mem_cons] at present
          rcases present with here | there
          · exact Or.inr (List.mem_cons.mpr (Or.inl here))
          · rcases ih there with new | kept
            · exact Or.inl new
            · exact Or.inr (List.mem_cons_of_mem _ kept)

theorem sortedKeys_insert {members : List (String × Json)} (sorted : SortedKeys members)
    (key : String) (value : Json) : SortedKeys (insert key value members) := by
  induction members with
  | nil => simp [insert, SortedKeys]
  | cons head rest ih =>
      rcases head with ⟨name, old⟩
      rcases List.pairwise_cons.mp sorted with ⟨first, later⟩
      by_cases same : key = name
      · subst key
        simp only [insert, if_true]
        exact List.pairwise_cons.mpr ⟨first, later⟩
      · by_cases before : key < name
        · simp only [insert, same, before, if_false, if_true]
          refine List.pairwise_cons.mpr ⟨?_, sorted⟩
          intro member present
          rcases List.mem_cons.mp present with here | there
          · simpa [here] using before
          · exact String.lt_trans before (first member there)
        · simp only [insert, same, before, if_false]
          refine List.pairwise_cons.mpr ⟨?_, ih later⟩
          intro member present
          rcases mem_insert present with rfl | there
          · by_cases after : name < key
            · exact after
            · have equal := String.le_antisymm (String.not_lt.mp after) (String.not_lt.mp before)
              exact absurd equal same
          · exact first member there

theorem sortedMembers_insert {members : List (String × Json)} {value : Json}
    (sorted : SortedMembers members) (valueSorted : value.Sorted) (key : String) :
    SortedMembers (insert key value members) := by
  induction members with
  | nil => exact ⟨valueSorted, trivial⟩
  | cons head rest ih =>
      rcases head with ⟨name, old⟩
      by_cases same : key = name
      · simpa [insert, same, SortedMembers] using And.intro valueSorted sorted.2
      · by_cases before : key < name
        · simpa [insert, same, before, SortedMembers] using And.intro valueSorted sorted
        · simpa [insert, same, before, SortedMembers] using And.intro sorted.1 (ih sorted.2)

theorem sortedItems_set {items : List Json} {value : Json} (sorted : SortedItems items)
    (valueSorted : value.Sorted) (place : Nat) : SortedItems (items.set place value) := by
  induction items generalizing place with
  | nil => exact sorted
  | cons head rest ih =>
      cases place with
      | zero => exact ⟨valueSorted, sorted.2⟩
      | succ place => exact ⟨sorted.1, ih sorted.2 place⟩

theorem sorted_of_mem_members {member : String × Json} {members : List (String × Json)}
    (sorted : SortedMembers members) (present : member ∈ members) : member.2.Sorted := by
  induction members with
  | nil => simp at present
  | cons head rest ih =>
      rcases head with ⟨name, value⟩
      rcases List.mem_cons.mp present with here | there
      · subst member
        exact sorted.1
      · exact ih sorted.2 there

theorem sorted_of_mem_items {item : Json} {items : List Json} (sorted : SortedItems items)
    (present : item ∈ items) : item.Sorted := by
  induction items with
  | nil => simp at present
  | cons head rest ih =>
      rcases List.mem_cons.mp present with here | there
      · subst item
        exact sorted.1
      · exact ih sorted.2 there

end Json

namespace Path

/-! ## Reading at reference paths -/

/-- What a step leads to in a document, if it leads anywhere. -/
def Step.find? : Step → Json → Option Json
  | .name key, .object members => Json.lookup key members
  | .position place, .array items => items[place]?
  | _, _ => none

/-- What steps lead to in a document, one after the other. -/
def find? : List Step → Json → Option Json
  | [], document => some document
  | step :: rest, document => (step.find? document).bind (find? rest)

theorem apply_of_step? {selector : Selector} {step : Step} (known : selector.step? = some step)
    (node : Json) : selector.apply node = .ok (step.find? node).toList := by
  cases selector with
  | child name =>
      simp only [Selector.step?, Option.some.injEq] at known
      subst step
      cases node <;> simp [Selector.apply, Json.get?, Step.find?]
  | index position =>
      simp only [Selector.step?] at known
      split at known
      · next natural =>
          cases known
          cases node with
          | array items =>
              have notNegative : ¬position < 0 := by omega
              by_cases inside : position < items.length
              · have resolved : resolveIndex position items.length = some position.toNat := by
                  simp [resolveIndex, notNegative, natural, inside]
                simp [Selector.apply, resolved, Step.find?]
              · have outside : items[position.toNat]? = none := by
                  rw [List.getElem?_eq_none_iff]
                  omega
                simp [Selector.apply, resolveIndex, notNegative, inside, Step.find?, outside]
          | _ => simp [Selector.apply, Step.find?]
      · simp at known
  | _ => simp [Selector.step?] at known

/-- Along a reference path there is never more than one match. -/
theorem selectFrom_of_steps? {selectors : List Selector} {steps : List Step}
    (known : steps? selectors = some steps) (found : Option Json) :
    selectFrom selectors found.toList = .ok (found.bind (find? steps)).toList := by
  induction selectors generalizing steps found with
  | nil =>
      simp only [steps?, Option.some.injEq] at known
      subst steps
      cases found <;> simp [selectFrom, find?]
  | cons selector rest ih =>
      simp only [steps?] at known
      split at known
      · next step later knownStep knownLater =>
          cases known
          cases found with
          | none => exact ih knownLater none
          | some node =>
              have first : inEach selector.apply [node] = .ok (step.find? node).toList := by
                simp [inEach, apply_of_step? knownStep, bind, Except.bind, pure, Except.pure]
              rw [Option.toList_some, selectFrom, first]
              exact ih knownLater (step.find? node)
      · simp at known

theorem valueOf_of_steps? {selectors : List Selector} {steps : List Step}
    (known : steps? selectors = some steps) (document : Json) :
    valueOf selectors document = .ok (find? steps document) := by
  have single := selectFrom_of_steps? known (some document)
  simp only [Option.toList_some, Option.bind_some] at single
  rw [valueOf, select, single]
  cases find? steps document <;> rfl

/-- Evaluating a reference path follows its steps from the input. -/
theorem evaluate_of_reference? {text : String} {path : Path} {steps : List Step}
    (read : parse text = .ok path) (reference : path.reference? = some steps) (scope : Scope) :
    evaluate text scope = .ok (find? steps scope.input) := by
  rcases path with ⟨root, selectors⟩
  cases root with
  | input =>
      have known : steps? selectors = some steps := reference
      simp [evaluate, read, value?, Root.value?, valueOf_of_steps? known, bind, Except.bind,
        Except.mapError]
  | _ => simp [reference?] at reference

/-- Placing at a reference path is placing along its steps. -/
theorem place_of_reference? {text : String} {path : Path} {steps : List Step}
    (read : parse text = .ok path) (reference : path.reference? = some steps)
    (document value : Json) :
    place text document value =
      (placeAt steps document value).mapError fun obstacle => .blocked text obstacle := by
  simp only [place, read, bind, Except.bind, reference]
  cases placeAt steps document value <;> rfl

/-! ## One step of placing -/

namespace Step

/-- What a step of placing goes on with; a missing member counts as an empty object. -/
def enter? : Step → Json → Option Json
  | .name key, .object members => some ((Json.lookup key members).getD (.object []))
  | .position place, .array items => items[place]?
  | _, _ => none

/-- A document with what a step leads to replaced. -/
def put : Step → Json → Json → Json
  | .name key, .object members, below => .object (Json.insert key below members)
  | .position place, .array items, below => .array (items.set place below)
  | _, document, _ => document

/-- A name fits objects, a position fits arrays that are long enough. -/
def Fits : Step → Json → Prop
  | .name _, .object _ => True
  | .position place, .array items => place < items.length
  | _, _ => False

variable {step : Step} {document node below : Json}

theorem enter?_isSome_iff_fits : (step.enter? document).isSome ↔ step.Fits document := by
  cases step <;> cases document <;> simp [enter?, Fits]

/-- Placing enters what reading finds, or an empty object where reading finds nothing. -/
theorem find?_of_enter? (entered : step.enter? document = some node) :
    step.find? document = some node ∨ step.find? document = none ∧ node = .object [] := by
  cases step <;> cases document <;> simp only [enter?, reduceCtorEq] at entered
  case name.object key members =>
    cases found : Json.lookup key members with
    | none =>
        simp only [found, Option.getD_none, Option.some.injEq] at entered
        exact Or.inr ⟨found, entered.symm⟩
    | some value =>
        simp only [found, Option.getD_some, Option.some.injEq] at entered
        exact Or.inl (by simp [find?, found, entered])
  case position.array place items => exact Or.inl entered

theorem enter?_of_find? (found : step.find? document = some node) :
    step.enter? document = some node := by
  cases step <;> cases document <;> simp_all [enter?, find?]

theorem find?_put (entered : step.enter? document = some node) (below : Json) :
    step.find? (step.put document below) = some below := by
  cases step <;> cases document <;> simp only [enter?, reduceCtorEq] at entered
  case name.object key members => exact Json.lookup_insert_self key below members
  case position.array place items =>
    have inside : place < items.length := (List.getElem?_eq_some_iff.mp entered).1
    simp [find?, put, inside]

theorem put_put (document first second : Json) :
    step.put (step.put document first) second = step.put document second := by
  cases step <;> cases document <;> simp [put, Json.insert_insert]

theorem find?_put_of_ne {other : Step} (entered : step.enter? document = some node)
    (different : other ≠ step) (below : Json) :
    other.find? (step.put document below) = other.find? document := by
  cases step <;> cases document <;> simp only [enter?, reduceCtorEq] at entered
  case name.object key members =>
    cases other with
    | name otherKey =>
        have differentKeys : otherKey ≠ key := fun same => different (by rw [same])
        exact Json.lookup_insert_of_ne differentKeys below members
    | position place => rfl
  case position.array place items =>
    cases other with
    | name key => rfl
    | position otherPlace =>
        have differentPlaces : place ≠ otherPlace := fun same => different (by rw [same])
        simp [find?, put, differentPlaces]

theorem put_of_find? (sorted : document.Sorted) (found : step.find? document = some node) :
    step.put document node = document := by
  cases step <;> cases document <;> simp only [find?, reduceCtorEq] at found
  case name.object key members =>
    simp only [put, Json.insert_of_lookup sorted.1 found]
  case position.array place items =>
    rcases List.getElem?_eq_some_iff.mp found with ⟨inside, here⟩
    rw [put, ← here, List.set_getElem_self]

theorem sorted_of_find? (sorted : document.Sorted) (found : step.find? document = some node) :
    node.Sorted := by
  cases step <;> cases document <;> simp only [find?, reduceCtorEq] at found
  case name.object key members =>
    exact Json.sorted_of_mem_members sorted.2 (Json.mem_of_lookup found)
  case position.array place items =>
    exact Json.sorted_of_mem_items sorted (List.mem_of_getElem? found)

theorem sorted_of_enter? (sorted : document.Sorted) (entered : step.enter? document = some node) :
    node.Sorted := by
  rcases find?_of_enter? entered with found | ⟨_, rfl⟩
  · exact sorted_of_find? sorted found
  · exact ⟨List.Pairwise.nil, trivial⟩

theorem sorted_put (sorted : document.Sorted) (belowSorted : below.Sorted) :
    (step.put document below).Sorted := by
  cases step <;> cases document <;> try exact sorted
  case name.object key members =>
    exact ⟨Json.sortedKeys_insert sorted.1 key below,
      Json.sortedMembers_insert sorted.2 belowSorted key⟩
  case position.array place items => exact Json.sortedItems_set sorted belowSorted place

end Step

/-- A step of placing goes on below and puts back what comes of it, unless it does not fit. -/
theorem placeAt_cons (step : Step) (rest : List Step) (document value : Json) :
    (∃ node, step.enter? document = some node ∧
      placeAt (step :: rest) document value = (placeAt rest node value).map (step.put document)) ∨
    step.enter? document = none ∧
      ∃ obstacle, placeAt (step :: rest) document value = .error obstacle := by
  cases step with
  | name key =>
      cases document with
      | object members => exact Or.inl ⟨_, rfl, rfl⟩
      | _ => exact Or.inr ⟨rfl, _, rfl⟩
  | position place =>
      cases document with
      | array items =>
          cases here : items[place]? with
          | none => exact Or.inr ⟨here, .outOfBounds place items.length, by simp [placeAt, here]⟩
          | some node =>
              refine Or.inl ⟨node, here, ?_⟩
              simp only [placeAt, here]
              rfl
      | _ => exact Or.inr ⟨rfl, _, rfl⟩

theorem placeAt_cons_eq_ok {step : Step} {rest : List Step} {document value placed : Json}
    (succeeds : placeAt (step :: rest) document value = .ok placed) :
    ∃ node below, step.enter? document = some node ∧ placeAt rest node value = .ok below ∧
      placed = step.put document below := by
  rcases placeAt_cons step rest document value with ⟨node, entered, goes⟩ | ⟨_, obstacle, stops⟩
  · rw [goes] at succeeds
    cases inner : placeAt rest node value with
    | error obstacle => simp [inner, Except.map] at succeeds
    | ok below =>
        simp only [inner, Except.map, Except.ok.injEq] at succeeds
        exact ⟨node, below, entered, inner, succeeds.symm⟩
  · simp [stops] at succeeds

/-! ## Laws of placing -/

theorem find?_placeAt {steps : List Step} {document value placed : Json}
    (succeeds : placeAt steps document value = .ok placed) : find? steps placed = some value := by
  induction steps generalizing document placed with
  | nil =>
      simp only [placeAt, Except.ok.injEq] at succeeds
      simp [find?, succeeds]
  | cons step rest ih =>
      rcases placeAt_cons_eq_ok succeeds with ⟨node, below, entered, inner, rfl⟩
      simp [find?, Step.find?_put entered, ih inner]

theorem placeAt_placeAt {steps : List Step} {document value placed : Json}
    (succeeds : placeAt steps document value = .ok placed) (again : Json) :
    placeAt steps placed again = placeAt steps document again := by
  induction steps generalizing document placed with
  | nil => rfl
  | cons step rest ih =>
      rcases placeAt_cons_eq_ok succeeds with ⟨node, below, entered, inner, rfl⟩
      have enteredAgain : step.enter? (step.put document below) = some below :=
        Step.enter?_of_find? (Step.find?_put entered below)
      have same := ih inner
      rcases placeAt_cons step rest document again with ⟨first, toFirst, goesFirst⟩ | ⟨none, _⟩
      · rcases placeAt_cons step rest (step.put document below) again with
          ⟨second, toSecond, goesSecond⟩ | ⟨none, _⟩
        · have sameNode : node = first := by simpa [entered] using toFirst
          have sameBelow : below = second := by simpa [enteredAgain] using toSecond
          subst sameNode sameBelow
          rw [goesFirst, goesSecond, same]
          congr 1
          funext deeper
          exact Step.put_put document below deeper
        · simp [enteredAgain] at none
      · simp [entered] at none

theorem find?_empty {steps : List Step} (further : steps ≠ []) :
    find? steps (.object []) = none := by
  cases steps with
  | nil => exact absurd rfl further
  | cons step rest => cases step <;> rfl

/-- Placing leaves alone what stands beside the place. -/
theorem find?_placeAt_of_apart {steps others : List Step} {document value placed : Json}
    (succeeds : placeAt steps document value = .ok placed) (notAbove : ¬others <+: steps)
    (notBelow : ¬steps <+: others) : find? others placed = find? others document := by
  induction steps generalizing others document placed with
  | nil => exact absurd List.nil_prefix notBelow
  | cons step rest ih =>
      rcases placeAt_cons_eq_ok succeeds with ⟨node, below, entered, inner, rfl⟩
      cases others with
      | nil => exact absurd List.nil_prefix notAbove
      | cons other later =>
          by_cases same : other = step
          · subst other
            have laterNotAbove : ¬later <+: rest := fun shared =>
              notAbove (List.cons_prefix_cons.mpr ⟨rfl, shared⟩)
            have laterNotBelow : ¬rest <+: later := fun shared =>
              notBelow (List.cons_prefix_cons.mpr ⟨rfl, shared⟩)
            have belowSame := ih inner laterNotAbove laterNotBelow
            simp only [find?, Step.find?_put entered, Option.bind_some, belowSame]
            rcases Step.find?_of_enter? entered with present | ⟨absent, rfl⟩
            · simp [present]
            · have further : later ≠ [] := fun empty =>
                laterNotAbove (empty ▸ List.nil_prefix)
              simp [absent, find?_empty further]
          · simp [find?, Step.find?_put_of_ne entered same]

/-- Placing what is already there changes nothing. -/
theorem placeAt_of_find? {steps : List Step} {document value : Json} (sorted : document.Sorted)
    (found : find? steps document = some value) : placeAt steps document value = .ok document := by
  induction steps generalizing document with
  | nil =>
      simp only [find?, Option.some.injEq] at found
      simp [placeAt, found]
  | cons step rest ih =>
      rcases Option.bind_eq_some_iff.mp found with ⟨node, here, there⟩
      have entered := Step.enter?_of_find? here
      rcases placeAt_cons step rest document value with ⟨first, toFirst, goes⟩ | ⟨none, _⟩
      · have sameNode : node = first := by simpa [entered] using toFirst
        subst sameNode
        rw [goes, ih (Step.sorted_of_find? sorted here) there]
        simp [Except.map, Step.put_of_find? sorted here]
      · simp [entered] at none

theorem sorted_placeAt {steps : List Step} {document value placed : Json}
    (sorted : document.Sorted) (valueSorted : value.Sorted)
    (succeeds : placeAt steps document value = .ok placed) : placed.Sorted := by
  induction steps generalizing document placed with
  | nil =>
      simp only [placeAt, Except.ok.injEq] at succeeds
      exact succeeds ▸ valueSorted
  | cons step rest ih =>
      rcases placeAt_cons_eq_ok succeeds with ⟨node, below, entered, inner, rfl⟩
      exact Step.sorted_put sorted (ih (Step.sorted_of_enter? sorted entered) inner)

/-! ## When placing fails -/

/-- The steps of placing, each with the value that it meets. -/
def encounters : List Step → Json → List (Step × Json)
  | [], _ => []
  | step :: rest, document =>
    (step, document) ::
      match step.enter? document with
      | some node => encounters rest node
      | none => []

/-- Placing fails exactly when some step does not fit the value that it meets. -/
theorem placeAt_eq_error_iff (steps : List Step) (document value : Json) :
    (∃ obstacle, placeAt steps document value = .error obstacle) ↔
      ∃ met ∈ encounters steps document, ¬met.1.Fits met.2 := by
  induction steps generalizing document with
  | nil => simp [placeAt, encounters]
  | cons step rest ih =>
      rcases placeAt_cons step rest document value with ⟨node, entered, goes⟩ | ⟨none, stops⟩
      · have fits : step.Fits document := by
          rw [← Step.enter?_isSome_iff_fits, entered]
          rfl
        simp only [encounters, entered, List.mem_cons, exists_eq_or_imp, fits, not_true_eq_false,
          false_or, ← ih node, goes]
        cases placeAt rest node value <;> simp [Except.map]
      · have misfit : ¬step.Fits document := by
          rw [← Step.enter?_isSome_iff_fits, none]
          simp
        simp [encounters, none, misfit, stops]

/-! ## Reference paths as texts -/

theorem step?_inj {first second : Selector} {step : Step} (ofFirst : first.step? = some step)
    (ofSecond : second.step? = some step) : first = second := by
  cases first <;> simp only [Selector.step?, Option.some.injEq, reduceCtorEq] at ofFirst
  case child name =>
    subst step
    cases second <;> simp only [Selector.step?, Option.some.injEq, reduceCtorEq] at ofSecond
    case child otherName => rw [Step.name.inj ofSecond]
    case index position => split at ofSecond <;> simp at ofSecond
  case index position =>
    split at ofFirst <;> simp only [Option.some.injEq, reduceCtorEq] at ofFirst
    next natural =>
      subst step
      cases second <;> simp only [Selector.step?, Option.some.injEq, reduceCtorEq] at ofSecond
      case index otherPosition =>
        split at ofSecond <;> simp only [Option.some.injEq, reduceCtorEq, Step.position.injEq]
          at ofSecond
        have equal : position = otherPosition := by omega
        rw [equal]

/-- A selector list whose steps begin another's begins it. -/
theorem prefix_of_steps? {first second : List Selector} {steps others : List Step}
    (ofFirst : steps? first = some steps) (ofSecond : steps? second = some others)
    (shared : steps <+: others) : first <+: second := by
  induction first generalizing second steps others with
  | nil => exact List.nil_prefix
  | cons selector rest ih =>
      simp only [steps?] at ofFirst
      split at ofFirst
      · next step later knownStep knownLater =>
          cases ofFirst
          cases second with
          | nil =>
              simp only [steps?, Option.some.injEq] at ofSecond
              simp [← ofSecond] at shared
          | cons otherSelector otherRest =>
              simp only [steps?] at ofSecond
              split at ofSecond
              · next otherStep otherLater knownOther knownOtherLater =>
                  cases ofSecond
                  rcases List.cons_prefix_cons.mp shared with ⟨rfl, sharedLater⟩
                  have same := step?_inj knownStep knownOther
                  subst same
                  exact List.cons_prefix_cons.mpr
                    ⟨rfl, ih knownLater knownOtherLater sharedLater⟩
              · simp at ofSecond
      · simp at ofFirst

theorem steps?_of_reference? {path : Path} {steps : List Step}
    (reference : path.reference? = some steps) : steps? path.selectors = some steps := by
  rcases path with ⟨root, selectors⟩
  cases root with
  | input => exact reference
  | _ => simp [reference?] at reference

/-- A reference path writes to the one place that it reads, and to nothing else, and keeps the keys
of objects in order. Placing fails only where a step does not fit the value that it meets. -/
theorem place_evaluate_laws {text : String} {path : Path} {steps : List Step}
    (read : parse text = .ok path) (reference : path.reference? = some steps) :
    (∀ document value placed, place text document value = .ok placed →
      (∀ scope : Scope, evaluate text { scope with input := placed } = .ok (some value)) ∧
      (∀ again, place text placed again = place text document again) ∧
      (document.Sorted → value.Sorted → placed.Sorted) ∧
      ∀ (beside : String) (other : Path) (others : List Step), parse beside = .ok other →
        other.reference? = some others → ¬other.selectors <+: path.selectors →
        ¬path.selectors <+: other.selectors → ∀ scope : Scope,
          evaluate beside { scope with input := placed } =
            evaluate beside { scope with input := document }) ∧
    (∀ (scope : Scope) (value : Json), scope.input.Sorted →
      evaluate text scope = .ok (some value) →
      place text scope.input value = .ok scope.input) ∧
    ∀ document value,
      ((∃ error, place text document value = .error error) ↔
        ∃ met ∈ encounters steps document, ¬met.1.Fits met.2) ∧
      ∀ error, place text document value = .error error →
        ∃ obstacle, error = .blocked text obstacle := by
  have places := place_of_reference? read reference
  have evaluates := evaluate_of_reference? read reference
  have known := steps?_of_reference? reference
  refine ⟨?_, ?_, ?_⟩
  · intro document value placed succeeds
    have inner : placeAt steps document value = .ok placed := by
      rw [places] at succeeds
      cases along : placeAt steps document value with
      | ok result =>
          rw [along] at succeeds
          cases succeeds
          rfl
      | error obstacle =>
          rw [along] at succeeds
          cases succeeds
    refine ⟨?_, ?_, ?_, ?_⟩
    · intro scope
      rw [evaluates, find?_placeAt inner]
    · intro again
      rw [places, places, placeAt_placeAt inner again]
    · intro sorted valueSorted
      exact sorted_placeAt sorted valueSorted inner
    · intro beside other others otherRead otherReference notAbove notBelow scope
      have otherKnown := steps?_of_reference? otherReference
      have apart := find?_placeAt_of_apart inner
        (fun shared => notAbove (prefix_of_steps? otherKnown known shared))
        (fun shared => notBelow (prefix_of_steps? known otherKnown shared))
      rw [evaluate_of_reference? otherRead otherReference,
        evaluate_of_reference? otherRead otherReference, apart]
  · intro scope value sorted found
    have inner : find? steps scope.input = some value := by
      simpa [evaluates] using found
    rw [places, placeAt_of_find? sorted inner]
    rfl
  · intro document value
    rw [places, ← placeAt_eq_error_iff steps document value]
    cases placeAt steps document value with
    | ok result =>
        refine ⟨⟨?_, ?_⟩, ?_⟩
        · rintro ⟨error, failed⟩
          cases failed
        · rintro ⟨obstacle, failed⟩
          cases failed
        · intro error failed
          cases failed
    | error obstacle =>
        refine ⟨⟨fun _ => ⟨obstacle, rfl⟩, fun _ => ⟨.blocked text obstacle, rfl⟩⟩, ?_⟩
        intro error failed
        cases failed
        exact ⟨obstacle, rfl⟩

set_option maxRecDepth 20000 in
/-- A missing object is made on the way, and what is placed in it is read back and written again;
the member beside it stays. -/
theorem place_evaluate_laws_missing_object :
    let document : Json := .object [("a", .object [("b", .null)])]
    let placed : Json := .object [("a", .object [("b", .null), ("c", .object [("d", .nat 7)])])]
    place "$.a.c.d" document (.nat 7) = .ok placed ∧
      evaluate "$.a.c.d" { (default : Scope) with input := placed } = .ok (some (.nat 7)) ∧
      place "$.a.c.d" placed .null = place "$.a.c.d" document .null ∧
      evaluate "$.a['b']" { (default : Scope) with input := placed } =
        evaluate "$.a['b']" { (default : Scope) with input := document } := by
  intro document placed
  have read : parse "$.a.c.d" = .ok ⟨.input, [.child "a", .child "c", .child "d"]⟩ := by cbv
  have readBeside : parse "$.a['b']" = .ok ⟨.input, [.child "a", .child "b"]⟩ := by cbv
  have succeeds : place "$.a.c.d" document (.nat 7) = .ok placed := by cbv
  rcases (place_evaluate_laws read rfl).1 _ _ _ succeeds with ⟨reads, again, _, beside⟩
  refine ⟨succeeds, reads _, again _, beside _ _ _ readBeside rfl ?_ ?_ _⟩ <;>
    simp [List.cons_prefix_cons]

end Path

end Workflow
