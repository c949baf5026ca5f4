import Mathlib.Data.List.Basic
import Workflow.Proofs.Checking

/-!
# Descent

Equal values may stand at several places of a document, so what a descent finds is told by places:
the indices of the children to enter, from the root down. A descent visits every place of a document
once, in the lexicographic order of places. In that order a container stands before its contents,
and what is inside one child before what is inside the next.

A chain of selectors works on all that was found so far before it turns to the next selector. That
finds the same as following the whole chain from each value by itself, although another slice may
be the first to fail.
-/

namespace Workflow

/-! ## Places -/

namespace Json

/-- The value at a place, which is the index of the child to enter at each level. -/
def at? : Json → List Nat → Option Json
  | document, [] => some document
  | document, index :: rest => document.children[index]?.bind fun child => child.at? rest

mutual

/-- The document itself and every value inside it, each with its place. -/
def occurrences : Json → List (List Nat × Json)
  | .array items => ([], .array items) :: occurrencesOfItems 0 items
  | .object members => ([], .object members) :: occurrencesOfMembers 0 members
  | .null => [([], .null)]
  | .bool value => [([], .bool value)]
  | .number value => [([], .number value)]
  | .string value => [([], .string value)]

/-- The occurrences in each item, the first of which is the child of the given index. -/
def occurrencesOfItems : Nat → List Json → List (List Nat × Json)
  | _, [] => []
  | first, item :: rest =>
    item.occurrences.map (Prod.map (first :: ·) id) ++ occurrencesOfItems (first + 1) rest

/-- The occurrences in each member value, the first of which is the child of the given index. -/
def occurrencesOfMembers : Nat → List (String × Json) → List (List Nat × Json)
  | _, [] => []
  | first, (_, value) :: rest =>
    value.occurrences.map (Prod.map (first :: ·) id) ++ occurrencesOfMembers (first + 1) rest

end

theorem sizeOf_lt_of_mem_children {document child : Json} (isChild : child ∈ document.children) :
    sizeOf child < sizeOf document := by
  cases document with
  | array items =>
      have smaller : sizeOf child < sizeOf items := List.sizeOf_lt_of_mem isChild
      simp only [array.sizeOf_spec]
      omega
  | object members =>
      obtain ⟨⟨name, value⟩, isMember, rfl⟩ := List.mem_map.mp isChild
      have smaller := List.sizeOf_lt_of_mem isMember
      simp only [Prod.mk.sizeOf_spec] at smaller
      simp only [object.sizeOf_spec]
      omega
  | _ => cases isChild

/-- What holds of a document if it holds of its children, holds of all documents. -/
@[elab_as_elim]
theorem byChildren {motive : Json → Prop}
    (step : ∀ document, (∀ child ∈ document.children, motive child) → motive document)
    (document : Json) : motive document :=
  step document fun child isChild =>
    have : sizeOf child < sizeOf document := sizeOf_lt_of_mem_children isChild
    byChildren step child
termination_by sizeOf document

theorem descendantsOfMembers_eq (members : List (String × Json)) :
    descendantsOfMembers members = descendantsOfItems (members.map Prod.snd) := by
  induction members with
  | nil => rfl
  | cons member rest ih => rw [descendantsOfMembers, ih, List.map_cons, descendantsOfItems]

theorem descendants_eq (document : Json) :
    document.descendants = document :: descendantsOfItems document.children := by
  cases document with
  | object members => rw [descendants, descendantsOfMembers_eq, children]
  | _ => rfl

theorem occurrencesOfMembers_eq (first : Nat) (members : List (String × Json)) :
    occurrencesOfMembers first members = occurrencesOfItems first (members.map Prod.snd) := by
  induction members generalizing first with
  | nil => rfl
  | cons member rest ih => rw [occurrencesOfMembers, ih, List.map_cons, occurrencesOfItems]

theorem occurrences_eq (document : Json) :
    document.occurrences = ([], document) :: occurrencesOfItems 0 document.children := by
  cases document with
  | object members => rw [occurrences, occurrencesOfMembers_eq, children]
  | _ => rfl

/-! ### Every descendant, in order -/

theorem map_snd_occurrencesOfItems {items : List Json}
    (each : ∀ item ∈ items, item.occurrences.map Prod.snd = item.descendants) (first : Nat) :
    (occurrencesOfItems first items).map Prod.snd = descendantsOfItems items := by
  induction items generalizing first with
  | nil => rfl
  | cons item rest ih =>
      rw [List.forall_mem_cons] at each
      rw [occurrencesOfItems, descendantsOfItems, List.map_append, ih each.2, ← each.1,
        List.map_map]
      rfl

theorem map_snd_occurrences (document : Json) :
    document.occurrences.map Prod.snd = document.descendants := by
  induction document using byChildren with
  | step document each =>
      rw [occurrences_eq, descendants_eq, List.map_cons, map_snd_occurrencesOfItems each]

theorem mem_occurrencesOfItems {first : Nat} {items : List Json} {place : List Nat}
    {value : Json} :
    (place, value) ∈ occurrencesOfItems first items ↔
      ∃ index inner item, place = (first + index) :: inner ∧ items[index]? = some item ∧
        (inner, value) ∈ item.occurrences := by
  induction items generalizing first with
  | nil => simp [occurrencesOfItems]
  | cons item rest ih =>
      rw [occurrencesOfItems, List.mem_append, List.mem_map, ih]
      constructor
      · rintro (⟨⟨inner, found⟩, isInside, same⟩ | ⟨index, inner, other, rfl, isOther, isInside⟩)
        · cases same
          exact ⟨0, inner, item, rfl, rfl, isInside⟩
        · exact ⟨index + 1, inner, other, by rw [Nat.add_right_comm, Nat.add_assoc], isOther,
            isInside⟩
      · rintro ⟨index, inner, other, rfl, isOther, isInside⟩
        cases index with
        | zero =>
            cases isOther
            exact .inl ⟨(inner, value), isInside, rfl⟩
        | succ index =>
            exact .inr ⟨index, inner, other, by rw [Nat.add_right_comm, Nat.add_assoc], isOther,
              isInside⟩

/-- The occurrences of a document are the values at its places. -/
theorem mem_occurrences {document value : Json} {place : List Nat} :
    (place, value) ∈ document.occurrences ↔ document.at? place = some value := by
  induction document using byChildren generalizing place with
  | step document each =>
      rw [occurrences_eq, List.mem_cons, mem_occurrencesOfItems]
      cases place with
      | nil => simp [at?, eq_comm]
      | cons index rest =>
          rw [at?, Option.bind_eq_some_iff]
          constructor
          · rintro (same | ⟨offset, inner, child, same, isChild, isInside⟩)
            · cases same
            · rw [Nat.zero_add] at same
              cases same
              exact ⟨child, isChild, (each child (List.mem_of_getElem? isChild)).mp isInside⟩
          · rintro ⟨child, isChild, isInside⟩
            exact .inr ⟨index, rest, child, by rw [Nat.zero_add], isChild,
              (each child (List.mem_of_getElem? isChild)).mpr isInside⟩

theorem pairwise_occurrencesOfItems {items : List Json}
    (each : ∀ item ∈ items, item.occurrences.Pairwise fun left right => left.1 < right.1)
    (first : Nat) :
    (occurrencesOfItems first items).Pairwise fun left right => left.1 < right.1 := by
  induction items generalizing first with
  | nil => exact .nil
  | cons item rest ih =>
      rw [List.forall_mem_cons] at each
      rw [occurrencesOfItems, List.pairwise_append]
      refine ⟨?_, ih each.2 (first + 1), ?_⟩
      · rw [List.pairwise_map]
        exact each.1.imp fun before => List.cons_lt_cons_iff.mpr (.inr ⟨rfl, before⟩)
      · rintro left isLeft ⟨place, value⟩ isRight
        obtain ⟨inside, -, rfl⟩ := List.mem_map.mp isLeft
        obtain ⟨index, inner, other, rfl, -, -⟩ := mem_occurrencesOfItems.mp isRight
        exact List.cons_lt_cons_iff.mpr (.inl (by omega))

/-- Occurrences stand in the order of their places, so no place occurs twice. -/
theorem pairwise_occurrences (document : Json) :
    document.occurrences.Pairwise fun left right => left.1 < right.1 := by
  induction document using byChildren with
  | step document each =>
      rw [occurrences_eq, List.pairwise_cons]
      refine ⟨?_, pairwise_occurrencesOfItems each 0⟩
      rintro ⟨place, value⟩ isInside
      obtain ⟨index, inner, item, rfl, -, -⟩ := mem_occurrencesOfItems.mp isInside
      exact List.nil_lt_cons _ _

theorem at?_append (document : Json) (outer inner : List Nat) :
    document.at? (outer ++ inner) = (document.at? outer).bind fun value => value.at? inner := by
  induction outer generalizing document with
  | nil => rfl
  | cons index rest ih =>
      rw [List.cons_append, at?, at?]
      cases document.children[index]? with
      | none => rfl
      | some child => exact ih child

end Json

namespace Path

/-! ## What a descent selects -/

theorem inEach_of_ok {find : Json → Except Overrun (List Json)} {found : Json → List Json}
    (each : ∀ node, find node = .ok (found node)) (nodes : List Json) :
    inEach find nodes = .ok (nodes.flatMap found) := by
  induction nodes with
  | nil => rfl
  | cons node rest ih =>
      rw [inEach, each, ih]
      rfl

theorem select_singleton (selector : Selector) (document : Json) :
    select [selector] document = selector.apply document := by
  rw [select, selectFrom, inEach]
  cases selector.apply document with
  | error overrun => rfl
  | ok found => exact congrArg Except.ok (List.append_nil found)

/-- A descent applies its selector at every place, in the order of places. -/
theorem select_descend {inner : Selector} {found : Json → List Json}
    (each : ∀ node, inner.apply node = .ok (found node)) (document : Json) :
    select [.descend inner] document =
      .ok (document.occurrences.flatMap fun occurrence => found occurrence.2) := by
  rw [select_singleton, Selector.apply, inEach_of_ok each, ← Json.map_snd_occurrences,
    List.flatMap_map]

/-- The values of the members of a name, each with the place of the object that has the member. -/
def membersNamed (name : String) (document : Json) : List (List Nat × Json) :=
  document.occurrences.filterMap fun (place, holder) => (holder.get? name).map (place, ·)

theorem mem_membersNamed {name : String} {document value : Json} {place : List Nat} :
    (place, value) ∈ membersNamed name document ↔
      ∃ members, document.at? place = some (.object members) ∧
        Json.lookup name members = some value := by
  rw [membersNamed, List.mem_filterMap]
  constructor
  · rintro ⟨⟨place, holder⟩, isHolder, found⟩
    obtain ⟨value, found, same⟩ := Option.map_eq_some_iff.mp found
    cases same
    cases holder with
    | object members => exact ⟨members, Json.mem_occurrences.mp isHolder, found⟩
    | _ => cases found
  · rintro ⟨members, isHolder, found⟩
    exact ⟨(place, .object members), Json.mem_occurrences.mpr isHolder,
      Option.map_eq_some_iff.mpr ⟨value, found, rfl⟩⟩

theorem pairwise_membersNamed (name : String) (document : Json) :
    (membersNamed name document).Pairwise fun left right => left.1 < right.1 := by
  refine document.pairwise_occurrences.filterMap _ ?_
  intro left right before first isFirst second isSecond
  obtain ⟨value, -, rfl⟩ := Option.map_eq_some_iff.mp isFirst
  obtain ⟨other, -, rfl⟩ := Option.map_eq_some_iff.mp isSecond
  exact before

theorem select_descend_child (name : String) (document : Json) :
    select [.descend (.child name)] document =
      .ok ((membersNamed name document).map Prod.snd) := by
  have each (node : Json) :
      (Selector.child name).apply node = .ok (node.get? name).toList := by rw [Selector.apply]
  rw [select_descend each, membersNamed, List.map_filterMap, List.filterMap_eq_flatMap_toList]
  congr 2
  funext occurrence
  rw [Option.map_map]
  cases occurrence.2.get? name <;> rfl

/-- The children of every value of a document, each with its own place. -/
def properOccurrences (document : Json) : List (List Nat × Json) :=
  document.occurrences.flatMap fun (place, holder) =>
    holder.children.zipIdx.map fun (child, index) => (place ++ [index], child)

theorem mem_properOccurrences {document value : Json} {place : List Nat} :
    (place, value) ∈ properOccurrences document ↔
      place ≠ [] ∧ document.at? place = some value := by
  rw [properOccurrences, List.mem_flatMap]
  constructor
  · rintro ⟨⟨outer, holder⟩, isHolder, found⟩
    obtain ⟨⟨child, index⟩, isChild, same⟩ := List.mem_map.mp found
    cases same
    refine ⟨by simp, ?_⟩
    rw [Json.at?_append, Json.mem_occurrences.mp isHolder, Option.bind_some, Json.at?,
      List.mem_zipIdx_iff_getElem?.mp isChild]
    rfl
  · rintro ⟨proper, found⟩
    obtain ⟨outer, index, rfl⟩ := (List.eq_nil_or_concat place).resolve_left proper
    rw [List.concat_eq_append, Json.at?_append] at found
    obtain ⟨holder, isHolder, found⟩ := Option.bind_eq_some_iff.mp found
    obtain ⟨child, isChild, same⟩ := Option.bind_eq_some_iff.mp found
    cases same
    exact ⟨(outer, holder), Json.mem_occurrences.mpr isHolder, List.mem_map.mpr
      ⟨(value, index), List.mem_zipIdx_iff_getElem?.mpr isChild, by rw [List.concat_eq_append]⟩⟩

theorem nodup_properOccurrences (document : Json) :
    ((properOccurrences document).map Prod.fst).Nodup := by
  rw [List.Nodup, List.pairwise_map, properOccurrences, List.pairwise_flatMap]
  constructor
  · rintro ⟨place, holder⟩ -
    have indices : (holder.children.zipIdx.map Prod.snd).Nodup := by
      rw [List.zipIdx_map_snd]
      exact List.nodup_range'
    rw [List.Nodup, List.pairwise_map] at indices
    rw [List.pairwise_map]
    refine indices.imp fun apart same => apart ?_
    exact (List.cons.inj (List.append_cancel_left same)).1
  · refine document.pairwise_occurrences.imp fun before left isLeft right isRight same => ?_
    obtain ⟨child, -, rfl⟩ := List.mem_map.mp isLeft
    obtain ⟨other, -, rfl⟩ := List.mem_map.mp isRight
    have together := (List.append_inj' same rfl).1
    rw [together] at before
    exact List.lt_irrefl _ before

theorem select_descend_wildcard (document : Json) :
    select [.descend .wildcard] document = .ok ((properOccurrences document).map Prod.snd) := by
  have each (node : Json) : Selector.wildcard.apply node = .ok node.children := by
    rw [Selector.apply]
  rw [select_descend each, properOccurrences, List.map_flatMap]
  congr 2
  funext occurrence
  rw [List.map_map]
  exact (List.zipIdx_map_fst 0 occurrence.2.children).symm

/-! ## Chains of selectors -/

theorem selectFrom_chain (first second : List Selector) (nodes : List Json) :
    selectFrom (first ++ second) nodes = selectFrom first nodes >>= selectFrom second := by
  induction first generalizing nodes with
  | nil => rfl
  | cons selector rest ih =>
      rw [List.cons_append, selectFrom, selectFrom]
      cases inEach selector.apply nodes with
      | error overrun => rfl
      | ok found => exact ih found

/-- A chain of selectors finds nothing more once nothing is left. -/
@[simp]
theorem selectFrom_nil (selectors : List Selector) : selectFrom selectors [] = .ok [] := by
  induction selectors with
  | nil => rfl
  | cons selector rest ih => exact ih

theorem inEach_cons_eq_ok_iff {find : Json → Except Overrun (List Json)} {node : Json}
    {rest found : List Json} :
    inEach find (node :: rest) = .ok found ↔
      ∃ first others, find node = .ok first ∧ inEach find rest = .ok others ∧
        first ++ others = found := by
  rw [inEach, Except.bind_eq_ok]
  constructor
  · rintro ⟨first, isFirst, found⟩
    obtain ⟨others, isOthers, same⟩ := Except.bind_eq_ok.mp found
    exact ⟨first, others, isFirst, isOthers, Except.ok.inj same⟩
  · rintro ⟨first, others, isFirst, isOthers, same⟩
    exact ⟨first, isFirst, Except.bind_eq_ok.mpr ⟨others, isOthers, congrArg Except.ok same⟩⟩

theorem inEach_append_eq_ok_iff {find : Json → Except Overrun (List Json)}
    {left right found : List Json} :
    inEach find (left ++ right) = .ok found ↔
      ∃ first second, inEach find left = .ok first ∧ inEach find right = .ok second ∧
        first ++ second = found := by
  induction left generalizing found with
  | nil => simp [inEach]
  | cons node rest ih =>
      rw [List.cons_append, inEach_cons_eq_ok_iff]
      constructor
      · rintro ⟨first, others, isFirst, isOthers, rfl⟩
        obtain ⟨middle, last, isMiddle, isLast, rfl⟩ := ih.mp isOthers
        exact ⟨first ++ middle, last, inEach_cons_eq_ok_iff.mpr ⟨first, middle, isFirst, isMiddle,
          rfl⟩, isLast, List.append_assoc ..⟩
      · rintro ⟨both, last, isBoth, isLast, rfl⟩
        obtain ⟨first, middle, isFirst, isMiddle, rfl⟩ := inEach_cons_eq_ok_iff.mp isBoth
        exact ⟨first, middle ++ last, isFirst, ih.mpr ⟨middle, last, isMiddle, isLast, rfl⟩,
          (List.append_assoc ..).symm⟩

/-- What a chain of selectors finds in several documents, it finds in the first ones and then in
the others. -/
theorem selectFrom_append_eq_ok_iff {selectors : List Selector} {left right found : List Json} :
    selectFrom selectors (left ++ right) = .ok found ↔
      ∃ first second, selectFrom selectors left = .ok first ∧
        selectFrom selectors right = .ok second ∧ first ++ second = found := by
  induction selectors generalizing left right with
  | nil => simp [selectFrom]
  | cons selector rest ih =>
      simp only [selectFrom, Except.bind_eq_ok, inEach_append_eq_ok_iff]
      constructor
      · rintro ⟨nodes, ⟨early, late, isEarly, isLate, rfl⟩, isFound⟩
        obtain ⟨first, second, isFirst, isSecond, same⟩ := ih.mp isFound
        exact ⟨first, second, ⟨early, isEarly, isFirst⟩, ⟨late, isLate, isSecond⟩, same⟩
      · rintro ⟨first, second, ⟨early, isEarly, isFirst⟩, ⟨late, isLate, isSecond⟩, same⟩
        exact ⟨early ++ late, ⟨early, late, isEarly, isLate, rfl⟩,
          ih.mpr ⟨first, second, isFirst, isSecond, same⟩⟩

theorem selectFrom_eq_ok_iff {selectors : List Selector} {nodes found : List Json} :
    selectFrom selectors nodes = .ok found ↔ inEach (select selectors) nodes = .ok found := by
  induction nodes generalizing found with
  | nil => rw [selectFrom_nil, inEach]
  | cons node rest ih =>
      rw [← List.singleton_append, selectFrom_append_eq_ok_iff, List.singleton_append,
        inEach_cons_eq_ok_iff]
      simp only [ih, select]

theorem select_append_eq_ok_iff {first second : List Selector} {document : Json}
    {found : List Json} :
    select (first ++ second) document = .ok found ↔
      ∃ nodes, select first document = .ok nodes ∧ inEach (select second) nodes = .ok found := by
  rw [select, selectFrom_chain, Except.bind_eq_ok]
  simp only [selectFrom_eq_ok_iff, select]

/-- Follows a chain of selectors, but gives up as soon as a selector finds nothing. -/
def selectWhileFound : List Selector → List Json → Except Overrun (List Json)
  | [], nodes => .ok nodes
  | selector :: rest, nodes => do
    let found ← inEach selector.apply nodes
    if found.isEmpty then return found else selectWhileFound rest found

theorem selectWhileFound_eq (selectors : List Selector) (nodes : List Json) :
    selectWhileFound selectors nodes = selectFrom selectors nodes := by
  induction selectors generalizing nodes with
  | nil => rfl
  | cons selector rest ih =>
      rw [selectWhileFound, selectFrom]
      cases inEach selector.apply nodes with
      | error overrun => rfl
      | ok found =>
          cases found with
          | nil => exact (selectFrom_nil rest).symm
          | cons node others => exact ih (node :: others)

/-- A descent to a name selects the values of all members of that name, once each, in the order of
the places of the objects that have them. A descent to anything selects the value at every place
but the root, once each. A chain in two parts finds what the second part finds below each match of
the first, in order, and giving up when nothing is left finds the same. -/
theorem select_descends (document : Json) (name : String) :
    (∃ found : List (List Nat × Json),
      select [.descend (.child name)] document = .ok (found.map Prod.snd) ∧
      (found.Pairwise fun left right => left.1 < right.1) ∧
      ∀ place value, (place, value) ∈ found ↔
        ∃ members, document.at? place = some (.object members) ∧
          Json.lookup name members = some value) ∧
    (∃ found : List (List Nat × Json),
      select [.descend .wildcard] document = .ok (found.map Prod.snd) ∧
      (found.map Prod.fst).Nodup ∧
      ∀ place value, (place, value) ∈ found ↔
        place ≠ [] ∧ document.at? place = some value) ∧
    (∀ first second found, select (first ++ second) document = .ok found ↔
      ∃ nodes, select first document = .ok nodes ∧ inEach (select second) nodes = .ok found) ∧
    ∀ selectors, selectWhileFound selectors [document] = select selectors document := by
  refine ⟨⟨membersNamed name document, select_descend_child name document,
    pairwise_membersNamed name document, fun _ _ => mem_membersNamed⟩,
    ⟨properOccurrences document, select_descend_wildcard document,
    nodup_properOccurrences document, fun _ _ => mem_properOccurrences⟩,
    fun _ _ _ => select_append_eq_ok_iff, fun selectors => ?_⟩
  rw [selectWhileFound_eq, select]

example : select [.descend (.child "price")]
    (.object [("store", .object [("bike", .object [("price", .int 20)]),
      ("book", .array [.object [("price", .int 8)], .object [("price", .int 12)]])])]) =
    .ok [.int 20, .int 8, .int 12] := by
  cbv

end Path

end Workflow
