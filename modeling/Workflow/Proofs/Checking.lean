import Mathlib.Logic.Basic
import Workflow.Definition.Load

/-!
# Checking

Loading is a chain of checks. What each of them says is stated once, as the condition under which it
succeeds; both that a loaded document is sound and that a written one is loaded again are read off
these.
-/

namespace Workflow

/-! ## Outcomes -/

section Outcomes

variable {ε δ α β : Type}

theorem Except.bind_eq_ok {result : Except ε α} {f : α → Except ε β} {value : β} :
    result >>= f = .ok value ↔ ∃ found, result = .ok found ∧ f found = .ok value := by
  cases result with
  | ok found =>
      constructor
      · exact fun same => ⟨found, rfl, same⟩
      · rintro ⟨_, same, holds⟩
        cases same
        exact holds
  | error error =>
      constructor
      · intro same
        cases same
      · rintro ⟨_, same, _⟩
        cases same

theorem Except.ok_of_forM {f : α → Except ε Unit} {items : List α}
    (done : items.forM f = .ok ()) {item : α} (isItem : item ∈ items) : f item = .ok () := by
  induction items with
  | nil => cases isItem
  | cons first rest ih =>
      rcases Except.bind_eq_ok.mp done with ⟨⟨⟩, firstDone, restDone⟩
      rcases List.mem_cons.mp isItem with same | isRest
      · exact same ▸ firstDone
      · exact ih restDone isRest

theorem Except.exists_of_mapM {f : α → Except ε β} {items : List α} {values : List β}
    (done : items.mapM f = .ok values) {value : β} (isValue : value ∈ values) :
    ∃ item ∈ items, f item = .ok value := by
  induction items generalizing values with
  | nil =>
      rw [List.mapM_nil] at done
      cases done
      cases isValue
  | cons first rest ih =>
      rw [List.mapM_cons] at done
      rcases Except.bind_eq_ok.mp done with ⟨firstValue, firstDone, done⟩
      rcases Except.bind_eq_ok.mp done with ⟨others, restDone, done⟩
      cases done
      rcases List.mem_cons.mp isValue with same | isOther
      · exact ⟨first, List.mem_cons_self, same ▸ firstDone⟩
      · rcases ih restDone isOther with ⟨item, isItem, same⟩
        exact ⟨item, List.mem_cons_of_mem _ isItem, same⟩

theorem Except.forM_eq_ok {f : α → Except ε Unit} {items : List α} :
    items.forM f = .ok () ↔ ∀ item ∈ items, f item = .ok () := by
  refine ⟨fun done item mem => Except.ok_of_forM done mem, fun each => ?_⟩
  induction items with
  | nil => rfl
  | cons first rest ih =>
    refine Except.bind_eq_ok.mpr ⟨(), each first List.mem_cons_self, ?_⟩
    exact ih fun item mem => each item (List.mem_cons_of_mem _ mem)

theorem Except.bind_unit_eq_ok {first : Except ε Unit} {second : Unit → Except ε Unit} :
    first >>= second = .ok () ↔ first = .ok () ∧ second () = .ok () := by
  rw [Except.bind_eq_ok]
  constructor
  · rintro ⟨⟨⟩, done, rest⟩
    exact ⟨done, rest⟩
  · rintro ⟨done, rest⟩
    exact ⟨(), done, rest⟩

theorem Except.bind_eq_error {result : Except ε α} {f : α → Except ε β} {error : ε} :
    result >>= f = .error error ↔
      result = .error error ∨ ∃ value, result = .ok value ∧ f value = .error error := by
  cases result with
  | error other =>
    change Except.error other = .error error ↔ _
    simp
  | ok value =>
    change f value = .error error ↔ _
    simp

theorem Except.error_of_bind {result : Except ε α} {f : α → Except ε β} {value : α} {error : ε}
    (found : result = .ok value) (failed : result >>= f = .error error) :
    f value = .error error := by
  rw [found] at failed
  exact failed

theorem Except.map_eq_ok {f : α → β} {result : Except ε α} {value : β} :
    result.map f = .ok value ↔ ∃ found, result = .ok found ∧ f found = value := by
  cases result with
  | error error => exact iff_of_false nofun nofun
  | ok found =>
    constructor
    · rintro ⟨⟩
      exact ⟨found, rfl, rfl⟩
    · rintro ⟨_, ⟨⟩, rfl⟩
      rfl

theorem Except.mapError_eq_ok {result : Except ε α} {wrap : ε → δ} {value : α} :
    result.mapError wrap = .ok value ↔ result = .ok value := by
  cases result with
  | error error => exact iff_of_false nofun nofun
  | ok other =>
    change Except.ok other = .ok value ↔ _
    rw [Except.ok.injEq, Except.ok.injEq]

theorem Except.mapError_eq_error {result : Except ε α} {wrap : ε → δ} {error : δ} :
    result.mapError wrap = .error error ↔ ∃ found, result = .error found ∧ wrap found = error := by
  cases result with
  | error found =>
    constructor
    · rintro ⟨⟩
      exact ⟨found, rfl, rfl⟩
    · rintro ⟨_, ⟨⟩, rfl⟩
      rfl
  | ok value => exact iff_of_false nofun nofun

end Outcomes

namespace Definition

/-! ## Checks -/

theorem checkKeys_eq_ok {name type dialect : String} {allowed : String → Bool}
    {members : List (String × Json)} :
    checkKeys name type dialect allowed members = .ok () ↔
      ∀ key value, (key, value) ∈ members → allowed key = true := by
  rw [checkKeys]
  split
  next key value found =>
    constructor
    · intro failed
      cases failed
    · intro all
      have foreign := List.find?_some found
      have isAllowed := all key value (List.mem_of_find?_eq_some found)
      simp [isAllowed] at foreign
  next none =>
    refine ⟨fun _ key value mem => ?_, fun _ => rfl⟩
    simpa using List.find?_eq_none.mp none (key, value) mem

/-- What is checked of a graph: it lists states, each of which has a name of fitting length and was
checked. -/
theorem checkGraph_eq_ok {fuel : Nat} {inherited : Dialect} {members : List (String × Json)} :
    checkGraph (fuel + 1) inherited members = .ok () ↔
      ∃ states, Json.lookup "States" members = some (.object states) ∧
        ∀ name raw, (name, raw) ∈ states →
          ¬ (name.length = 0 ∨ maxNameLength < name.length) ∧
            ∃ fields, raw = .object fields ∧ checkState fuel name inherited fields = .ok () := by
  rw [checkGraph]
  cases found : Json.lookup "States" members with
  | none =>
    constructor
    · intro failed
      cases failed
    · rintro ⟨states, missing, _⟩
      cases missing
  | some value =>
    cases value with
    | object states =>
      simp only [Except.forM_eq_ok, Option.some.injEq, Json.object.injEq, exists_eq_left']
      constructor
      · intro each name raw mem
        have checked := each (name, raw) mem
        dsimp only at checked
        split at checked
        next => cases checked
        next fits =>
          refine ⟨fits, ?_⟩
          split at checked
          next fields => exact ⟨fields, rfl, checked⟩
          next => cases checked
      · rintro each ⟨name, raw⟩ mem
        rcases each name raw mem with ⟨fits, fields, rfl, checked⟩
        dsimp only
        rw [if_neg fits]
        exact checked
    | _ =>
      constructor
      · intro failed
        cases failed
      · rintro ⟨states, same, _⟩
        cases same

/-- Checks the document of a graph in a state. -/
def checkPart (fuel : Nat) (name key : String) (inherited dialect : Dialect) (misfit : Misfit) :
    Json → Except Error Unit
  | .object fields => do
    checkKeys name key dialect.name graphFields.contains fields
    checkGraph fuel inherited fields
  | _ => .error (.misfit misfit)

/-- What is checked of a graph in the document of a state. -/
def PartChecked (fuel : Nat) (name key : String) (inherited dialect : Dialect) (raw : Json) :
    Prop :=
  ∃ fields, raw = .object fields ∧
    checkKeys name key dialect.name graphFields.contains fields = .ok () ∧
      checkGraph fuel inherited fields = .ok ()

theorem checkPart_eq_ok {fuel : Nat} {name key : String} {inherited dialect : Dialect}
    {misfit : Misfit} {raw : Json} :
    checkPart fuel name key inherited dialect misfit raw = .ok () ↔
      PartChecked fuel name key inherited dialect raw := by
  rw [PartChecked]
  cases raw with
  | object fields =>
    simp only [checkPart, Except.bind_unit_eq_ok, Json.object.injEq, exists_eq_left']
  | _ =>
    constructor
    · intro failed
      cases failed
    · rintro ⟨fields, same, _⟩
      cases same

theorem checkState_eq_ok {fuel : Nat} {name : String} {inherited : Dialect}
    {members : List (String × Json)} :
    checkState (fuel + 1) name inherited members = .ok () ↔
      ∃ dialect, checkFields name inherited members = .ok dialect ∧
        (∀ key ∈ ["ItemProcessor", "Iterator"], ∀ raw, Json.lookup key members = some raw →
          PartChecked fuel name key inherited dialect raw) ∧
        ∀ raw, Json.lookup "Branches" members = some raw → ∃ branches, raw = .array branches ∧
          ∀ branch ∈ branches, PartChecked fuel name "Branch" inherited dialect branch := by
  rw [checkState, Except.bind_eq_ok]
  refine exists_congr fun dialect => and_congr_right fun _ => ?_
  rw [Except.bind_unit_eq_ok, Except.forM_eq_ok]
  refine and_congr (forall₂_congr fun key _ => ?_) ?_
  · cases found : Json.lookup key members with
    | none => exact iff_of_true rfl (by simp)
    | some raw =>
      simp only [Option.some.injEq, forall_eq']
      rw [← @checkPart_eq_ok _ _ _ _ _ (.processor key name)]
      cases raw <;> rfl
  · cases found : Json.lookup "Branches" members with
    | none => exact iff_of_true rfl (by simp)
    | some raw =>
      simp only [Option.some.injEq, forall_eq']
      cases raw with
      | array branches =>
        simp only [Except.forM_eq_ok, Json.array.injEq, exists_eq_left']
        refine forall₂_congr fun branch _ => ?_
        rw [← @checkPart_eq_ok _ _ _ _ _ (.branch name)]
        cases branch <;> rfl
      | _ =>
        constructor
        · intro failed
          cases failed
        · rintro ⟨branches, same, _⟩
          cases same

/-! ## Loading -/

theorem some_of_fit {α : Type} {found : Option α} {value : α} (fits : fit found = .ok value) :
    found = some value := by
  cases found with
  | none => cases fits
  | some found =>
      cases fits
      rfl

theorem machineOf_eq_ok {fields : Record.Fields} {machine : Machine} :
    machineOf (.object fields) = .ok machine ↔
      Record.optional Dialect.read? "QueryLanguage" fields = some machine.dialect ∧
      Record.optional Json.toUnsigned? "TimeoutSeconds" fields = some machine.timeout ∧
      Record.optional Json.string? "Version" fields = some machine.version ∧
      readGraph (Json.object fields).depth (.object fields) = .ok machine.graph := by
  rw [machineOf]
  constructor
  · intro done
    rcases Except.bind_eq_ok.mp done with ⟨dialect, dialectRead, done⟩
    rcases Except.bind_eq_ok.mp done with ⟨timeout, timeoutRead, done⟩
    rcases Except.bind_eq_ok.mp done with ⟨version, versionRead, done⟩
    rcases Except.bind_eq_ok.mp done with ⟨graph, graphRead, done⟩
    cases done
    exact ⟨some_of_fit dialectRead, some_of_fit timeoutRead, some_of_fit versionRead, graphRead⟩
  · rintro ⟨dialect, timeout, version, graph⟩
    refine Except.bind_eq_ok.mpr ⟨_, by rw [dialect]; rfl, ?_⟩
    refine Except.bind_eq_ok.mpr ⟨_, by rw [timeout]; rfl, ?_⟩
    refine Except.bind_eq_ok.mpr ⟨_, by rw [version]; rfl, ?_⟩
    exact Except.bind_eq_ok.mpr ⟨_, graph, rfl⟩

theorem load_eq_ok {fields : Record.Fields} {inherited : Dialect} {machine : Machine} :
    load (.object fields) inherited = .ok machine ↔
      checkKeys "" "StateMachine" "any" machineFields.contains fields = .ok () ∧
      ∃ dialect, declaredDialect "" inherited fields = .ok dialect ∧
        checkGraph (Json.object fields).depth dialect fields = .ok () ∧
        machineOf (.object fields) = .ok machine ∧
        validate dialect machine.graph = .ok () := by
  rw [load]
  constructor
  · intro done
    rcases Except.bind_eq_ok.mp done with ⟨⟨⟩, keys, done⟩
    rcases Except.bind_eq_ok.mp done with ⟨dialect, declared, done⟩
    rcases Except.bind_eq_ok.mp done with ⟨⟨⟩, checked, done⟩
    rcases Except.bind_eq_ok.mp done with ⟨found, read, done⟩
    rcases Except.bind_eq_ok.mp done with ⟨⟨⟩, validated, done⟩
    cases done
    refine ⟨keys, dialect, declared, checked, ?_, validated⟩
    cases same : machineOf (.object fields) with
    | error misfit =>
      rw [same] at read
      cases read
    | ok machine =>
      rw [same] at read
      cases read
      rfl
  · rintro ⟨keys, dialect, declared, checked, read, validated⟩
    refine Except.bind_eq_ok.mpr ⟨_, keys, ?_⟩
    refine Except.bind_eq_ok.mpr ⟨_, declared, ?_⟩
    refine Except.bind_eq_ok.mpr ⟨_, checked, ?_⟩
    refine Except.bind_eq_ok.mpr ⟨machine, by rw [read]; rfl, ?_⟩
    exact Except.bind_eq_ok.mpr ⟨_, validated, rfl⟩

end Definition

end Workflow
