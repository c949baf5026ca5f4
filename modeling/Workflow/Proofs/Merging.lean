import Workflow.Intrinsic.Eval
import Workflow.Proofs.Documents

/-!
# Merging

What a key has after a merge depends only on what it had in either object: a value of the second
object replaces one of the first, but of two objects a deep merge makes their own. So objects in key
order obey a law of merging as soon as each key does, and the laws of deep merging are inductions
over the depth of the objects. A deep merge is associative only where the objects agree on which
values are objects: a value that is none and is replaced by an object would else hide an object that
stood in its place before.
-/

namespace Workflow

namespace Json

/-- The value at a path of keys. -/
def valueAt : List String → Json → Option Json
  | [], document => some document
  | key :: rest, document => (document.get? key).bind (valueAt rest)

/-- Whether a document is an object. -/
def IsObject : Json → Prop
  | .object _ => True
  | _ => False

/-- Whether two documents have objects at the same paths, of those that both have a value at. -/
def SameShape (left right : Json) : Prop :=
  ∀ path leftValue rightValue, valueAt path left = some leftValue →
    valueAt path right = some rightValue → (leftValue.IsObject ↔ rightValue.IsObject)

theorem exists_members {document : Json} (isObject : document.IsObject) :
    ∃ members, document = .object members := by
  cases document with
  | object members => exact ⟨members, rfl⟩
  | _ => cases isObject

/-- Two objects agree on their shapes just in case the values of their common keys do. -/
theorem sameShape_object_iff {left right : List (String × Json)} :
    SameShape (.object left) (.object right) ↔
      ∀ key leftValue rightValue, lookup key left = some leftValue →
        lookup key right = some rightValue → SameShape leftValue rightValue := by
  constructor
  · intro same key leftValue rightValue isLeft isRight path first second isFirst isSecond
    apply same (key :: path)
    · rw [valueAt, get?, isLeft]
      exact isFirst
    · rw [valueAt, get?, isRight]
      exact isSecond
  · intro below path first second isFirst isSecond
    cases path with
    | nil =>
        cases isFirst
        cases isSecond
        exact Iff.rfl
    | cons key rest =>
        obtain ⟨leftValue, isLeft, isFirst⟩ := Option.bind_eq_some_iff.mp isFirst
        obtain ⟨rightValue, isRight, isSecond⟩ := Option.bind_eq_some_iff.mp isSecond
        exact below key leftValue rightValue isLeft isRight rest first second isFirst isSecond

theorem sameShape_of_plain {left right : Json} (leftPlain : ¬left.IsObject)
    (rightPlain : ¬right.IsObject) : SameShape left right := by
  intro path first second isFirst isSecond
  cases path with
  | nil =>
      cases isFirst
      cases isSecond
      exact iff_of_false leftPlain rightPlain
  | cons key rest =>
      obtain ⟨value, isValue, -⟩ := Option.bind_eq_some_iff.mp isFirst
      cases left with
      | object members => exact absurd trivial leftPlain
      | _ => cases isValue

theorem SameShape.isObject_iff {left right : Json} (same : SameShape left right) :
    left.IsObject ↔ right.IsObject :=
  same [] left right rfl rfl

theorem sorted_of_lookup {members : List (String × Json)} (sorted : (Json.object members).Sorted)
    {key : String} {value : Json} (found : lookup key members = some value) : value.Sorted :=
  sorted_of_mem_members sorted.2 (mem_of_lookup found)

theorem sortedMembers_of_lookup {members : List (String × Json)} (keys : SortedKeys members)
    (each : ∀ key value, lookup key members = some value → value.Sorted) :
    SortedMembers members := by
  have all : ∀ member ∈ members, member.2.Sorted := fun member isMember =>
    each member.1 member.2 (lookup_of_mem keys isMember)
  clear each keys
  induction members with
  | nil => trivial
  | cons member rest ih =>
      exact ⟨all member List.mem_cons_self,
        ih fun other isOther => all other (List.mem_cons_of_mem _ isOther)⟩

/-- What holds of an object if it holds of the objects that its keys look up, holds of all. -/
@[elab_as_elim]
theorem nested_induction {motive : List (String × Json) → Prop}
    (step : ∀ members,
      (∀ key nested, lookup key members = some (.object nested) → motive nested) → motive members)
    (members : List (String × Json)) : motive members :=
  step members fun _ nested found =>
    have : depthOfMembers nested < depthOfMembers members := depth_le_of_lookup found
    nested_induction step nested
termination_by depthOfMembers members

theorem mem_keys_iff {members : List (String × Json)} {key : String} :
    key ∈ members.map Prod.fst ↔ lookup key members ≠ none := by
  constructor
  · intro isKey absent
    induction members with
    | nil => cases isKey
    | cons member rest ih =>
        rw [lookup] at absent
        split at absent
        · cases absent
        · next different =>
          rcases List.mem_cons.mp isKey with same | isKey
          · exact different same.symm
          · exact ih isKey absent
  · intro present
    obtain ⟨value, found⟩ := Option.ne_none_iff_exists'.mp present
    exact List.mem_map.mpr ⟨(key, value), mem_of_lookup found, rfl⟩

end Json

namespace Intrinsic

open Json (lookup valueAt IsObject SameShape SortedKeys)

/-! ## Keys -/

@[simp]
theorem mergeValue_none (deep : Bool) (value : Json) : mergeValue deep none value = value := by
  cases value <;> rfl

theorem mergeValue_object (members incoming : List (String × Json)) :
    mergeValue true (some (.object members)) (.object incoming) =
      .object (mergeMembers true members incoming) := by
  rw [mergeValue]
  rfl

theorem mergeValue_of_not_isObject {value : Json} (plain : ¬value.IsObject) (deep : Bool)
    (existing : Option Json) : mergeValue deep existing value = value := by
  cases value with
  | object members => exact absurd trivial plain
  | _ => rfl

theorem mergeValue_onto_plain {existing : Json} (plain : ¬existing.IsObject) (deep : Bool)
    (value : Json) : mergeValue deep (some existing) value = value := by
  cases value with
  | object members =>
      cases existing with
      | object members => exact absurd trivial plain
      | _ => rfl
  | _ => rfl

/-- A deep merge replaces a value, unless it merges two objects. -/
theorem mergeValue_cases (existing : Option Json) (value : Json) :
    (∃ members nested, existing = some (.object members) ∧ value = .object nested) ∨
      mergeValue true existing value = value := by
  by_cases isObject : value.IsObject
  · obtain ⟨nested, rfl⟩ := Json.exists_members isObject
    cases existing with
    | none => exact .inr (mergeValue_none _ _)
    | some existing =>
        by_cases ontoObject : existing.IsObject
        · obtain ⟨members, rfl⟩ := Json.exists_members ontoObject
          exact .inl ⟨members, nested, rfl, rfl⟩
        · exact .inr (mergeValue_onto_plain ontoObject true _)
  · exact .inr (mergeValue_of_not_isObject isObject true _)

theorem mergeValue_shallow (existing : Option Json) (value : Json) :
    mergeValue false existing value = value := by
  cases value with
  | object members =>
      cases existing with
      | none => rfl
      | some existing => cases existing <;> rfl
  | _ => rfl

/-- What a key has after a merge, by what it had in either object. -/
def mergeField (deep : Bool) (existing incoming : Option Json) : Option Json :=
  (incoming.map (mergeValue deep existing)).or existing

theorem lookup_mergeMembers (deep : Bool) {source : List (String × Json)}
    (nodup : (source.map Prod.fst).Nodup) (target : List (String × Json)) (key : String) :
    lookup key (mergeMembers deep target source) =
      mergeField deep (lookup key target) (lookup key source) := by
  induction source generalizing target with
  | nil => rfl
  | cons member rest ih =>
      rcases member with ⟨name, value⟩
      rcases List.nodup_cons.mp nodup with ⟨fresh, restNodup⟩
      rw [mergeMembers, ih restNodup]
      by_cases same : name = key
      · subst same
        have absent : lookup name rest = none := by
          apply Json.lookup_eq_none
          intro member isMember equal
          exact fresh (List.mem_map.mpr ⟨member, isMember, equal⟩)
        simp [mergeField, absent, lookup, Json.lookup_insert_self]
      · simp [mergeField, lookup, same, Json.lookup_insert_of_ne (Ne.symm same)]

theorem sortedKeys_mergeMembers (deep : Bool) {target : List (String × Json)}
    (sorted : SortedKeys target) (source : List (String × Json)) :
    SortedKeys (mergeMembers deep target source) := by
  induction source generalizing target with
  | nil => exact sorted
  | cons member rest ih => exact ih (Json.sortedKeys_insert sorted _ _)

/-- A merge of objects with their keys in order has its keys in order, too, at every depth. -/
theorem sorted_mergeMembers (deep : Bool) {target source : List (String × Json)}
    (targetSorted : (Json.object target).Sorted) (sourceSorted : (Json.object source).Sorted) :
    (Json.object (mergeMembers deep target source)).Sorted := by
  induction source using Json.nested_induction generalizing target with
  | step source ih =>
      have keys := sortedKeys_mergeMembers deep targetSorted.1 source
      refine ⟨keys, Json.sortedMembers_of_lookup keys fun key value found => ?_⟩
      rw [lookup_mergeMembers deep sourceSorted.1.nodup] at found
      cases isSource : lookup key source with
      | none =>
          rw [isSource] at found
          exact Json.sorted_of_lookup targetSorted found
      | some incoming =>
          rw [isSource] at found
          cases found
          have incomingSorted := Json.sorted_of_lookup sourceSorted isSource
          cases deep with
          | false =>
              rw [mergeValue_shallow]
              exact incomingSorted
          | true =>
              rcases mergeValue_cases (lookup key target) incoming with
                ⟨members, nested, isTarget, rfl⟩ | replaced
              · rw [isTarget, mergeValue_object]
                exact ih key nested isSource (Json.sorted_of_lookup targetSorted isTarget)
                  incomingSorted
              · rw [replaced]
                exact incomingSorted

theorem mergeMembers_shallow (target source : List (String × Json)) :
    mergeMembers false target source = Json.overlay target source := by
  induction source generalizing target with
  | nil => rfl
  | cons member rest ih =>
      rw [mergeMembers, mergeValue_shallow, ih]
      rfl

@[simp]
theorem mergeField_none_left (deep : Bool) (incoming : Option Json) :
    mergeField deep none incoming = incoming := by
  cases incoming <;> simp [mergeField]

@[simp]
theorem mergeField_none_right (deep : Bool) (existing : Option Json) :
    mergeField deep existing none = existing := rfl

@[simp]
theorem mergeField_some (deep : Bool) (existing : Option Json) (value : Json) :
    mergeField deep existing (some value) = some (mergeValue deep existing value) := rfl

/-! ## Laws of deep merging -/

section Deep

variable {first second third : List (String × Json)}

theorem lookup_deep (sorted : (Json.object second).Sorted) (key : String) :
    lookup key (mergeMembers true first second) =
      mergeField true (lookup key first) (lookup key second) :=
  lookup_mergeMembers true sorted.1.nodup first key

theorem mem_keys_deep (sorted : (Json.object second).Sorted) (key : String) :
    key ∈ (mergeMembers true first second).map Prod.fst ↔
      key ∈ first.map Prod.fst ∨ key ∈ second.map Prod.fst := by
  simp only [Json.mem_keys_iff, lookup_deep sorted]
  cases lookup key second with
  | none => simp
  | some value => simp

theorem deep_nil (sorted : (Json.object first).Sorted) : mergeMembers true [] first = first := by
  apply Json.ext_of_lookup (sortedKeys_mergeMembers true .nil first) sorted.1
  intro key
  rw [lookup_deep sorted, Json.lookup_nil, mergeField_none_left]

theorem deep_self (sorted : (Json.object first).Sorted) :
    mergeMembers true first first = first := by
  induction first using Json.nested_induction with
  | step first ih =>
      apply Json.ext_of_lookup (sortedKeys_mergeMembers true sorted.1 first) sorted.1
      intro key
      rw [lookup_deep sorted]
      cases found : lookup key first with
      | none => rfl
      | some value =>
          rw [mergeField_some]
          rcases mergeValue_cases (some value) value with ⟨members, nested, same, rfl⟩ | replaced
          · cases same
            rw [mergeValue_object, ih key _ found (Json.sorted_of_lookup sorted found)]
          · rw [replaced]

theorem mergeValue_self {value : Json} (sorted : value.Sorted) :
    mergeValue true (some value) value = value := by
  rcases mergeValue_cases (some value) value with ⟨members, nested, same, rfl⟩ | replaced
  · cases same
    rw [mergeValue_object, deep_self sorted]
  · exact replaced

theorem deep_again (firstSorted : (Json.object first).Sorted)
    (secondSorted : (Json.object second).Sorted) :
    mergeMembers true (mergeMembers true first second) second =
      mergeMembers true first second := by
  induction second using Json.nested_induction generalizing first with
  | step second ih =>
      have keys := sortedKeys_mergeMembers true firstSorted.1 second
      apply Json.ext_of_lookup (sortedKeys_mergeMembers true keys second) keys
      intro key
      rw [lookup_deep secondSorted, lookup_deep secondSorted]
      cases isSecond : lookup key second with
      | none => rfl
      | some value =>
          simp only [mergeField_some]
          rcases mergeValue_cases (lookup key first) value with
            ⟨members, nested, isFirst, rfl⟩ | replaced
          · rw [isFirst, mergeValue_object, mergeValue_object,
              ih key nested isSecond (Json.sorted_of_lookup firstSorted isFirst)
                (Json.sorted_of_lookup secondSorted isSecond)]
          · rw [replaced, mergeValue_self (Json.sorted_of_lookup secondSorted isSecond)]

/-- Where the second object has a value that is no object, so has the merge. -/
theorem valueAt_deep_second (secondSorted : (Json.object second).Sorted) {path : List String}
    {value : Json} (isSecond : valueAt path (.object second) = some value)
    (plain : ¬value.IsObject) :
    valueAt path (.object (mergeMembers true first second)) = some value := by
  induction path generalizing first second with
  | nil =>
      cases isSecond
      exact absurd trivial plain
  | cons key rest ih =>
      rw [valueAt, Json.get?] at isSecond ⊢
      rw [lookup_deep secondSorted]
      cases found : lookup key second with
      | none =>
          rw [found] at isSecond
          cases isSecond
      | some other =>
          rw [found] at isSecond
          rw [mergeField_some]
          rcases mergeValue_cases (lookup key first) other with
            ⟨members, nested, isFirst, rfl⟩ | replaced
          · rw [isFirst, mergeValue_object]
            exact ih (Json.sorted_of_lookup secondSorted found) isSecond
          · rw [replaced]
            exact isSecond

/-- Where the second object has nothing, nor on the way there a value that is no object, the merge
has the value of the first one. -/
theorem valueAt_deep_first (secondSorted : (Json.object second).Sorted) {path : List String}
    {value : Json} (isFirst : valueAt path (.object first) = some value)
    (absent : valueAt path (.object second) = none)
    (passable : ∀ front other, front <+: path → front ≠ path →
      valueAt front (.object second) = some other → other.IsObject) :
    valueAt path (.object (mergeMembers true first second)) = some value := by
  induction path generalizing first second with
  | nil => cases absent
  | cons key rest ih =>
      rw [valueAt, Json.get?] at isFirst absent ⊢
      rw [lookup_deep secondSorted]
      cases found : lookup key second with
      | none => exact isFirst
      | some other =>
          rw [found] at absent
          -- Neither path ends here, so the value in the second object must be an object.
          have goesOn : rest ≠ [] := by
            rintro rfl
            cases absent
          have isObject : other.IsObject := by
            apply passable [key] other ⟨rest, rfl⟩
            · intro ends
              exact goesOn (List.cons.inj ends).2.symm
            · rw [valueAt, Json.get?, found]
              rfl
          obtain ⟨nested, rfl⟩ := Json.exists_members isObject
          obtain ⟨existing, isExisting, isBelow⟩ := Option.bind_eq_some_iff.mp isFirst
          have ontoObject : existing.IsObject := by
            obtain ⟨next, later, rfl⟩ := List.exists_cons_of_ne_nil goesOn
            obtain ⟨member, isMember, -⟩ := Option.bind_eq_some_iff.mp isBelow
            cases existing with
            | object members => trivial
            | _ => cases isMember
          obtain ⟨members, rfl⟩ := Json.exists_members ontoObject
          rw [isExisting, mergeField_some, mergeValue_object]
          refine ih (Json.sorted_of_lookup secondSorted found) isBelow absent ?_
          intro front deeper isFront shorter isDeeper
          apply passable (key :: front) deeper (List.cons_prefix_cons.mpr ⟨rfl, isFront⟩)
          · intro whole
            exact shorter (List.cons.inj whole).2
          · rw [valueAt, Json.get?, found]
            exact isDeeper

theorem deep_assoc (firstSorted : (Json.object first).Sorted)
    (secondSorted : (Json.object second).Sorted) (thirdSorted : (Json.object third).Sorted)
    (firstSecond : SameShape (.object first) (.object second))
    (firstThird : SameShape (.object first) (.object third))
    (secondThird : SameShape (.object second) (.object third)) :
    mergeMembers true (mergeMembers true first second) third =
      mergeMembers true first (mergeMembers true second third) := by
  induction third using Json.nested_induction generalizing first second with
  | step third ih =>
      have leftKeys := sortedKeys_mergeMembers true firstSorted.1 second
      have rightKeys := sortedKeys_mergeMembers true secondSorted.1 third
      apply Json.ext_of_lookup (sortedKeys_mergeMembers true leftKeys third)
        (sortedKeys_mergeMembers true firstSorted.1 _)
      intro key
      rw [lookup_deep thirdSorted, lookup_deep secondSorted,
        lookup_mergeMembers true rightKeys.nodup, lookup_deep thirdSorted]
      cases isThird : lookup key third with
      | none => simp only [mergeField_none_right]
      | some last =>
          cases isSecond : lookup key second with
          | none => simp only [mergeField_none_right, mergeField_none_left]
          | some middle =>
              cases isFirst : lookup key first with
              | none => simp only [mergeField_none_left]
              | some existing =>
                  simp only [mergeField_some]
                  have early := Json.sameShape_object_iff.mp firstSecond key _ _ isFirst isSecond
                  have outer := Json.sameShape_object_iff.mp firstThird key _ _ isFirst isThird
                  have late := Json.sameShape_object_iff.mp secondThird key _ _ isSecond isThird
                  by_cases isObject : last.IsObject
                  · obtain ⟨ends, rfl⟩ := Json.exists_members isObject
                    obtain ⟨begins, rfl⟩ := Json.exists_members (outer.isObject_iff.mpr isObject)
                    obtain ⟨goes, rfl⟩ := Json.exists_members (late.isObject_iff.mpr isObject)
                    simp only [mergeValue_object]
                    rw [ih key ends isThird (Json.sorted_of_lookup firstSorted isFirst)
                      (Json.sorted_of_lookup secondSorted isSecond)
                      (Json.sorted_of_lookup thirdSorted isThird) early outer late]
                  · simp only [mergeValue_of_not_isObject isObject]

end Deep

theorem shallow_assoc {first second third : List (String × Json)} (firstSorted : SortedKeys first)
    (secondSorted : SortedKeys second) (thirdSorted : SortedKeys third) :
    mergeMembers false (mergeMembers false first second) third =
      mergeMembers false first (mergeMembers false second third) := by
  simp only [mergeMembers_shallow]
  have left := Json.sortedKeys_overlay firstSorted second
  have right := Json.sortedKeys_overlay secondSorted third
  apply Json.ext_of_lookup (Json.sortedKeys_overlay left third)
    (Json.sortedKeys_overlay firstSorted _)
  intro key
  rw [Json.lookup_overlay thirdSorted.nodup, Json.lookup_overlay secondSorted.nodup,
    Json.lookup_overlay right.nodup, Json.lookup_overlay thirdSorted.nodup, Option.or_assoc]

/-! ## The function -/

theorem apply_jsonMerge (config : Config) (deep : Bool) (left right : List (String × Json))
    (source : Random.Source) :
    (apply config "JsonMerge" [.object left, .object right, .bool deep]).run source =
      (.ok (.object (mergeMembers deep left right)), source) := by
  have plain : applyDrawing config "JsonMerge" [.object left, .object right, .bool deep] =
      Evaluation.ofExcept (.ok (.object (mergeMembers deep left right))) := rfl
  rw [run_apply_of_plain rfl rfl plain]
  rfl

/-- Merging objects answers with an object. A deep merge has the keys of both objects: the values of
the second one that are no objects are all there, and those of the first one are there if nothing
stands in their place or on the way there. The empty object changes nothing, and neither does what
was merged already. Shallow merges are associative, and so are deep ones of objects that agree on
which values are objects. -/
theorem apply_jsonMerge_laws (config : Config) {first second third : List (String × Json)}
    (firstSorted : (Json.object first).Sorted) (secondSorted : (Json.object second).Sorted)
    (thirdSorted : (Json.object third).Sorted) :
    (∀ deep left right source,
      (apply config "JsonMerge" [.object left, .object right, .bool deep]).run source =
        (.ok (.object (mergeMembers deep left right)), source)) ∧
    (∀ deep, (Json.object (mergeMembers deep first second)).Sorted) ∧
    (∀ key, key ∈ (mergeMembers true first second).map Prod.fst ↔
      key ∈ first.map Prod.fst ∨ key ∈ second.map Prod.fst) ∧
    mergeMembers true first [] = first ∧
    mergeMembers true [] first = first ∧
    mergeMembers true first first = first ∧
    mergeMembers true (mergeMembers true first second) second =
      mergeMembers true first second ∧
    (∀ path value, valueAt path (.object second) = some value → ¬value.IsObject →
      valueAt path (.object (mergeMembers true first second)) = some value) ∧
    (∀ path value, valueAt path (.object first) = some value →
      valueAt path (.object second) = none →
      (∀ front other, front <+: path → front ≠ path →
        valueAt front (.object second) = some other → other.IsObject) →
      valueAt path (.object (mergeMembers true first second)) = some value) ∧
    (SameShape (.object first) (.object second) → SameShape (.object first) (.object third) →
      SameShape (.object second) (.object third) →
      mergeMembers true (mergeMembers true first second) third =
        mergeMembers true first (mergeMembers true second third)) ∧
    mergeMembers false (mergeMembers false first second) third =
      mergeMembers false first (mergeMembers false second third) :=
  ⟨apply_jsonMerge config, fun deep => sorted_mergeMembers deep firstSorted secondSorted,
    mem_keys_deep secondSorted, rfl, deep_nil firstSorted, deep_self firstSorted,
    deep_again firstSorted secondSorted,
    fun _ _ isSecond plain => valueAt_deep_second secondSorted isSecond plain,
    fun _ _ isFirst absent passable => valueAt_deep_first secondSorted isFirst absent passable,
    deep_assoc firstSorted secondSorted thirdSorted,
    shallow_assoc firstSorted.1 secondSorted.1 thirdSorted.1⟩

/-- Three objects with an object each at the same key, two of which have a key in common there. -/
theorem apply_jsonMerge_laws_shared :
    ∃ first second third : List (String × Json),
      first = [("k", .object [("x", .nat 1)])] ∧ second = [("k", .object [("y", .nat 2)])] ∧
      third = [("k", .object [("x", .nat 3)])] ∧ (Json.object first).Sorted ∧
      (Json.object second).Sorted ∧ (Json.object third).Sorted ∧
      SameShape (.object first) (.object second) ∧ SameShape (.object first) (.object third) ∧
      SameShape (.object second) (.object third) ∧
      mergeMembers true (mergeMembers true first second) third =
        mergeMembers true first (mergeMembers true second third) := by
  have sorted (key : String) (value : Nat) :
      (Json.object [("k", .object [(key, .nat value)])]).Sorted := by
    simp [Json.Sorted, Json.SortedMembers, SortedKeys]
  have same (key other : String) (value otherValue : Nat) :
      SameShape (.object [("k", .object [(key, .nat value)])])
        (.object [("k", .object [(other, .nat otherValue)])]) := by
    refine Json.sameShape_object_iff.mpr fun name left right isLeft isRight => ?_
    obtain ⟨-, rfl⟩ : "k" = name ∧ .object [(key, .nat value)] = left := by
      simpa [lookup] using isLeft
    obtain ⟨-, rfl⟩ : "k" = name ∧ .object [(other, .nat otherValue)] = right := by
      simpa [lookup] using isRight
    refine Json.sameShape_object_iff.mpr fun name left right isLeft isRight => ?_
    obtain ⟨-, rfl⟩ : key = name ∧ .nat value = left := by
      simpa [lookup] using isLeft
    obtain ⟨-, rfl⟩ : other = name ∧ .nat otherValue = right := by
      simpa [lookup] using isRight
    exact Json.sameShape_of_plain id id
  have laws := apply_jsonMerge_laws {} (sorted "x" 1) (sorted "y" 2) (sorted "x" 3)
  exact ⟨_, _, _, rfl, rfl, rfl, sorted "x" 1, sorted "y" 2, sorted "x" 3, same _ _ _ _,
    same _ _ _ _, same _ _ _ _,
    laws.2.2.2.2.2.2.2.2.2.1 (same _ _ _ _) (same _ _ _ _) (same _ _ _ _)⟩

end Intrinsic

end Workflow
