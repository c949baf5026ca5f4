import Workflow.Proofs.Scoping
import Workflow.Proofs.Waves

/-!
# Batches

The items of a Map are grouped twice, by their number and by their size in bytes, and what is left
of the groups becomes its units. Splitting by bytes is greedy: it goes on with a batch as long as
there is room. Of two batches under way, the larger one never saves a batch in the end and costs at
most one, so to close a batch early gains nothing, and no other split needs fewer batches. Neither
grouping loses or doubles an item, so the units carry the items in order and weigh as much as there
are items.
-/

namespace Workflow

/-- The host splits items by their size in bytes whenever it is asked to. -/
def History.SplitsByBytes (history : History) : Prop :=
  ∀ state group limit answer, ([], .asked (.split state group limit) answer) ∈ history →
    answer = some (Engine.splitByBytes limit [] 0 group)

namespace Engine

/-! ## Splitting by bytes -/

/-- The size of items in bytes. -/
def bytesOf (items : List Json) : Nat := (items.map fun item => item.text.utf8ByteSize).sum

/-- A batch is a single item, or its items keep to the limit in bytes. -/
def Fits (limit : Nat) (batch : List Json) : Prop := batch.length = 1 ∨ bytesOf batch ≤ limit

/-- A split of items into consecutive batches that fit. -/
structure Splits (limit : Nat) (items : List Json) (batches : List (List Json)) : Prop where
  inOrder : batches.flatten = items
  fit : ∀ batch ∈ batches, Fits limit batch

section Split

variable {limit size larger : Nat} {current other rest : List Json} {item : Json}

theorem bytesOf_append (first second : List Json) :
    bytesOf (first ++ second) = bytesOf first + bytesOf second := by
  simp [bytesOf]

theorem bytesOf_singleton (item : Json) : bytesOf [item] = item.text.utf8ByteSize := by
  simp [bytesOf]

theorem splitByBytes_start (limit : Nat) (item : Json) (rest : List Json) :
    splitByBytes limit [] 0 (item :: rest) = splitByBytes limit [item] (bytesOf [item]) rest := by
  rw [splitByBytes, bytesOf_singleton]
  simp

theorem splitByBytes_of_room (room : size + bytesOf [item] ≤ limit) :
    splitByBytes limit current size (item :: rest) =
      splitByBytes limit (current ++ [item]) (size + bytesOf [item]) rest := by
  rw [splitByBytes]
  simp only [← bytesOf_singleton, Nat.not_lt.mpr room, decide_false, Bool.and_false,
    Bool.false_eq_true, if_false]

theorem splitByBytes_of_full (nonempty : current ≠ []) (full : limit < size + bytesOf [item]) :
    splitByBytes limit current size (item :: rest) =
      current :: splitByBytes limit [item] (bytesOf [item]) rest := by
  rw [splitByBytes]
  simp only [← bytesOf_singleton, full, decide_true, Bool.and_true, Bool.not_eq_true',
    List.isEmpty_eq_false_iff.mpr nonempty, if_true]

theorem splitByBytes_nil (nonempty : current ≠ []) :
    splitByBytes limit current size [] = [current] := by
  rw [splitByBytes, List.isEmpty_eq_false_iff.mpr nonempty]
  rfl

/-- The batch under way and the items that are left make batches that fit, none of them empty. -/
theorem splitByBytes_keeps (nonempty : current ≠ []) (fits : Fits limit current) :
    Splits limit (current ++ rest) (splitByBytes limit current (bytesOf current) rest) ∧
      ∀ batch ∈ splitByBytes limit current (bytesOf current) rest, batch ≠ [] := by
  induction rest generalizing current with
  | nil =>
      rw [splitByBytes_nil nonempty]
      exact ⟨⟨by simp, by simpa using fits⟩, by simpa using nonempty⟩
  | cons item rest ih =>
      by_cases room : bytesOf current + bytesOf [item] ≤ limit
      · rw [splitByBytes_of_room room, ← bytesOf_append, List.append_cons]
        refine ih (by simp) (Or.inr ?_)
        rwa [bytesOf_append]
      · rw [splitByBytes_of_full nonempty (Nat.lt_of_not_le room)]
        rcases ih (List.cons_ne_nil item []) (Or.inl rfl) with ⟨⟨inOrder, fit⟩, noneEmpty⟩
        refine ⟨⟨?_, List.forall_mem_cons.mpr ⟨fits, fit⟩⟩,
          List.forall_mem_cons.mpr ⟨nonempty, noneEmpty⟩⟩
        rw [List.flatten_cons, inOrder]
        rfl

theorem splitByBytes_splits (limit : Nat) (items : List Json) :
    Splits limit items (splitByBytes limit [] 0 items) ∧
      ∀ batch ∈ splitByBytes limit [] 0 items, batch ≠ [] := by
  cases items with
  | nil => exact ⟨⟨rfl, fun _ isBatch => nomatch isBatch⟩, fun _ isBatch => nomatch isBatch⟩
  | cons item rest =>
      rw [splitByBytes_start]
      exact splitByBytes_keeps (List.cons_ne_nil item []) (Or.inl rfl)

/-! ## No split needs fewer batches -/

/-- How many batches come of the items that are left depends on the size of the batch under way
alone. A larger one makes for no fewer batches, and for at most one more. -/
theorem splitByBytes_length_mono (nonempty : current ≠ []) (nonemptyOther : other ≠ [])
    (le : size ≤ larger) :
    (splitByBytes limit current size rest).length ≤
        (splitByBytes limit other larger rest).length ∧
      (splitByBytes limit other larger rest).length ≤
        (splitByBytes limit current size rest).length + 1 := by
  induction rest generalizing current other size larger with
  | nil => simp [splitByBytes_nil nonempty, splitByBytes_nil nonemptyOther]
  | cons item rest ih =>
      by_cases room : larger + bytesOf [item] ≤ limit
      · rw [splitByBytes_of_room room, splitByBytes_of_room (by omega)]
        exact ih (by simp) (by simp) (by omega)
      · rw [splitByBytes_of_full nonemptyOther (Nat.lt_of_not_le room)]
        by_cases roomLess : size + bytesOf [item] ≤ limit
        · -- Only the smaller batch takes the item in: it is ahead of the new batch of the larger.
          rw [splitByBytes_of_room roomLess, List.length_cons]
          have ahead := ih (List.cons_ne_nil item [])
            (List.append_ne_nil_of_right_ne_nil current (List.cons_ne_nil item []))
            (Nat.le_add_left (bytesOf [item]) size)
          omega
        · rw [splitByBytes_of_full nonempty (Nat.lt_of_not_le roomLess)]
          simp

/-- A batch under way is worth having in front of the items that are left. -/
theorem splitByBytes_length_start (nonempty : current ≠ []) :
    (splitByBytes limit current size rest).length ≤
      (splitByBytes limit [] 0 rest).length + 1 := by
  cases rest with
  | nil => simp [splitByBytes_nil nonempty]
  | cons item rest =>
      rw [splitByBytes_start]
      by_cases room : size + bytesOf [item] ≤ limit
      · rw [splitByBytes_of_room room]
        exact (splitByBytes_length_mono (by simp) (by simp) (by omega)).2
      · rw [splitByBytes_of_full nonempty (Nat.lt_of_not_le room)]
        simp

theorem splitByBytes_append (room : size + bytesOf other ≤ limit) :
    splitByBytes limit current size (other ++ rest) =
      splitByBytes limit (current ++ other) (size + bytesOf other) rest := by
  induction other generalizing current size with
  | nil => simp [bytesOf]
  | cons item other ih =>
      have cut : bytesOf (item :: other) = bytesOf [item] + bytesOf other :=
        bytesOf_append [item] other
      rw [List.cons_append, splitByBytes_of_room (by omega), ih (by omega), cut, Nat.add_assoc,
        List.append_assoc]
      rfl

/-- A batch that fits is not cut. -/
theorem splitByBytes_of_fits (nonempty : other ≠ []) (fits : Fits limit other) :
    splitByBytes limit [] 0 (other ++ rest) = splitByBytes limit other (bytesOf other) rest := by
  rcases fits with single | room
  · rcases List.length_eq_one_iff.mp single with ⟨item, rfl⟩
    exact splitByBytes_start limit item rest
  · rw [splitByBytes_append (by omega), Nat.zero_add, List.nil_append]

theorem splitByBytes_length_le {batches : List (List Json)}
    (fit : ∀ batch ∈ batches, Fits limit batch) :
    (splitByBytes limit [] 0 batches.flatten).length ≤ batches.length := by
  induction batches with
  | nil => exact Nat.le_refl 0
  | cons batch batches ih =>
      rcases List.forall_mem_cons.mp fit with ⟨fits, fit⟩
      rw [List.flatten_cons, List.length_cons]
      by_cases nonempty : batch = []
      · rw [nonempty, List.nil_append]
        exact Nat.le_succ_of_le (ih fit)
      · rw [splitByBytes_of_fits nonempty fits]
        exact (splitByBytes_length_start nonempty).trans (Nat.succ_le_succ (ih fit))

end Split

/-- Splitting by bytes keeps all items in order, in batches that are not empty and that fit, and no
other split into batches that fit has fewer of them. -/
theorem splitByBytes_minimal (limit : Nat) (items : List Json) :
    Splits limit items (splitByBytes limit [] 0 items) ∧
      (∀ batch ∈ splitByBytes limit [] 0 items, batch ≠ []) ∧
      ∀ others, Splits limit items others →
        (splitByBytes limit [] 0 items).length ≤ others.length := by
  refine ⟨(splitByBytes_splits limit items).1, (splitByBytes_splits limit items).2, ?_⟩
  intro others splits
  rw [← splits.inOrder]
  exact splitByBytes_length_le splits.fit

/-- Items of two, two, five and four bytes. -/
def literals : List Json := [.array [], .object [], .bool false, .bool true]

theorem splitByBytes_minimal_literals :
    Splits 4 literals [[.array []], [.object []], [.bool false], [.bool true]] ∧
      splitByBytes 4 [] 0 literals = [[.array [], .object []], [.bool false], [.bool true]] ∧
      (splitByBytes 4 [] 0 literals).length ≤ 4 := by
  have splits : Splits 4 literals [[.array []], [.object []], [.bool false], [.bool true]] := by
    refine ⟨rfl, fun batch isBatch => Or.inl ?_⟩
    simp only [List.mem_cons, List.not_mem_nil, or_false] at isBatch
    rcases isBatch with rfl | rfl | rfl | rfl <;> rfl
  exact ⟨splits, rfl, (splitByBytes_minimal 4 literals).2.2 _ splits⟩

/-! ## Groups of items -/

theorem groupsOf_flatten (size : Nat) (inputs : List Json) :
    (Visit.groupsOf size inputs).flatten = inputs := by
  rw [Visit.groupsOf]
  split
  · exact List.flatten_singleton
  · exact chunks_flatten (by omega) (Nat.le_refl _)

theorem groupsOf_length_le {size : Nat} {inputs group : List Json} (positive : 0 < size)
    (isGroup : group ∈ Visit.groupsOf size inputs) : group.length ≤ size := by
  rw [Visit.groupsOf, if_neg (by omega)] at isGroup
  exact chunks_length_le isGroup

/-- Groups that are split carry the same items. -/
theorem flatMap_splitByBytes (limit : Nat) (groups : List (List Json)) :
    (groups.flatMap (splitByBytes limit [] 0)).flatten = groups.flatten := by
  induction groups with
  | nil => rfl
  | cons group rest ih =>
      rw [List.flatMap_cons, List.flatten_append, ih, List.flatten_cons,
        (splitByBytes_splits limit group).1.inOrder]

theorem length_le_of_mem_splitByBytes {limit : Nat} {group part : List Json}
    (isPart : part ∈ splitByBytes limit [] 0 group) : part.length ≤ group.length := by
  have sublist := List.sublist_flatten_of_mem isPart
  rw [(splitByBytes_splits limit group).1.inOrder] at sublist
  exact sublist.length_le

/-! ## Units -/

/-- The items that a unit hands to the processor. -/
def WorkUnit.items (unit : WorkUnit) : List Json :=
  match unit.input.get? "Items" with
  | some (.array items) => items
  | _ => []

/-- What holds of the units that stand for the inputs of a Map: each has few items, of a small size,
where zero and no number are no bounds, weighs as much as it has items, and is given the same
besides. -/
structure Batched (size limit : Option Nat) (extra : Option Json) (inputs : List Json)
    (units : List WorkUnit) : Prop where
  places : (withPlaces units).map Prod.fst = List.range units.length
  nonempty : ∀ unit ∈ units, unit.items ≠ []
  inOrder : units.flatMap WorkUnit.items = inputs
  few : ∀ unit ∈ units, ∀ most, size = some most → 0 < most → unit.items.length ≤ most
  fit : ∀ unit ∈ units, ∀ most, limit = some most → Fits most unit.items
  alike : ∀ unit ∈ units, unit.input.get? "BatchInput" = extra ∧ unit.shown = unit.input
  weight : ∀ unit ∈ units, unit.weight = unit.items.length
  weighs : (units.map WorkUnit.weight).sum = inputs.length

section Units

variable {size limit : Option Nat} {extra : Option Json} {inputs : List Json}
  {groups : List (List Json)}

theorem batchUnit_items (extra : Option Json) (items : List Json) :
    (Visit.batchUnit extra items).items = items := by
  cases extra <;> rfl

theorem batchUnit_extra (extra : Option Json) (items : List Json) :
    (Visit.batchUnit extra items).input.get? "BatchInput" = extra := by
  cases extra <;> rfl

theorem batched_of_groups (inOrder : groups.flatten = inputs)
    (few : ∀ group ∈ groups, ∀ most, size = some most → 0 < most → group.length ≤ most)
    (fit : ∀ group ∈ groups, ∀ most, limit = some most → Fits most group) :
    Batched size limit extra inputs
      ((groups.filter fun group => !group.isEmpty).map (Visit.batchUnit extra)) := by
  have each {holds : WorkUnit → Prop}
      (held : ∀ group ∈ groups, group ≠ [] → holds (Visit.batchUnit extra group)) :
      ∀ unit ∈ (groups.filter fun group => !group.isEmpty).map (Visit.batchUnit extra),
        holds unit := by
    intro unit isUnit
    rcases List.mem_map.mp isUnit with ⟨group, isKept, rfl⟩
    rcases List.mem_filter.mp isKept with ⟨isGroup, kept⟩
    exact held group isGroup (by simpa using kept)
  have kept : (groups.filter fun group => !group.isEmpty).flatten = inputs := by
    rw [List.flatten_filter_not_isEmpty, inOrder]
  refine ⟨withPlaces_places _, each fun group _ nonempty => ?_, ?_,
    each fun group isGroup _ => ?_, each fun group isGroup _ => ?_,
    each fun group _ _ => ⟨batchUnit_extra extra group, rfl⟩, each fun group _ _ => ?_, ?_⟩
  · rwa [batchUnit_items]
  · simp only [List.flatMap_map, batchUnit_items, List.flatMap_id']
    exact kept
  · rw [batchUnit_items]
    exact few group isGroup
  · rw [batchUnit_items]
    exact fit group isGroup
  · rw [batchUnit_items]
    rfl
  · rw [← kept, List.length_flatten, List.map_map]
    rfl

end Units

/-! ## Runs -/

section Runs

variable {visit : Visit}

theorem splitsByBytes_append {earlier later : History}
    (splits : (earlier ++ later).SplitsByBytes) : earlier.SplitsByBytes ∧ later.SplitsByBytes :=
  ⟨fun _ _ _ _ isAsked => splits _ _ _ _ (List.mem_append_left later isAsked),
    fun _ _ _ _ isAsked => splits _ _ _ _ (List.mem_append_right earlier isAsked)⟩

/-- Every group is split, and the parts are put together in order. -/
theorem run_splitGroups_ok {limit : Nat} {groups parts : List (List Json)} {history : History}
    (run : Run (.alone (visit.splitGroups limit groups).run) history (.alone (.done (.ok parts))))
    (splits : history.SplitsByBytes) : parts = groups.flatMap (splitByBytes limit [] 0) := by
  induction groups generalizing parts history with
  | nil =>
      cases run.done_inv.2
      rfl
  | cons group rest ih =>
      rcases run_bind_append_ok run with ⟨_, _, answer, rfl, asks, run⟩
      rcases splitsByBytes_append splits with ⟨splitsFirst, splits⟩
      rw [run_ask_ok asks] at splitsFirst
      have answered := splitsFirst visit.name group limit answer List.mem_cons_self
      subst answered
      rcases run_bind_append_ok run with ⟨_, _, others, rfl, first, run⟩
      cases run.done_inv.2
      rw [ih first (splitsByBytes_append splits).1]
      rfl

theorem run_limitGroups_ok {limit : Option Nat} {groups parts : List (List Json)}
    {history : History}
    (run : Run (.alone (visit.limitGroups limit groups).run) history (.alone (.done (.ok parts))))
    (splits : history.SplitsByBytes) :
    parts = match limit with
      | some limit => groups.flatMap (splitByBytes limit [] 0)
      | none => groups := by
  cases limit with
  | none =>
      cases run.done_inv.2
      rfl
  | some limit => exact run_splitGroups_ok run splits

theorem run_batchInput_ok {batcher : ItemBatcher} {history : History} {extra : Option Json}
    (run : Run (.alone (visit.batchInput batcher).run) history (.alone (.done (.ok extra)))) :
    match batcher.batchInput with
      | some template => ∃ value, extra = some value ∧
          (visit.env.dialect.expand template visit.scope).Returns value
      | none => extra = none := by
  rw [Visit.batchInput] at run
  cases given : batcher.batchInput with
  | none =>
      rw [given] at run
      cases run.done_inv.2
      rfl
  | some template =>
      rw [given] at run
      rcases run_map_ok run with ⟨value, evaluates, rfl⟩
      exact ⟨value, rfl, run_evaluate_ok evaluates⟩

theorem run_selectItems_length {mapping : Mapping} {index : Nat} {items : List Json}
    {selected : List WorkUnit} {history : History}
    (run : Run (.alone (visit.selectItems mapping index items).run) history
      (.alone (.done (.ok selected)))) : selected.length = items.length := by
  induction items generalizing index selected history with
  | nil =>
      cases run.done_inv.2
      rfl
  | cons item rest ih =>
      rcases run_bind_ok run with ⟨_, _, input, _, run⟩
      rcases run_bind_ok run with ⟨_, _, others, selects, run⟩
      cases run.done_inv.2
      rw [List.length_cons, List.length_cons, ih selects]

/-- The settings of a batcher come to numbers and to something that all batches are given. -/
structure Settles (visit : Visit) (batcher : ItemBatcher) (size limit : Option Nat)
    (extra : Option Json) : Prop where
  size : Pipeline.resolveOptional .unsigned "MaxItemsPerBatch" batcher.maxItems.dynamic
    visit.scope = .ok size
  limit : Pipeline.resolveOptional .unsigned "MaxInputBytesPerBatch" batcher.maxBytes.dynamic
    visit.scope = .ok limit
  extra : match batcher.batchInput with
    | some template => ∃ value, extra = some value ∧
        (visit.env.dialect.expand template visit.scope).Returns value
    | none => extra = none

theorem run_batch_ok {batcher : ItemBatcher} {selected units : List WorkUnit} {history : History}
    (run : Run (.alone (visit.batch batcher selected).run) history (.alone (.done (.ok units))))
    (splits : history.SplitsByBytes) :
    ∃ size limit extra, Settles visit batcher size limit extra ∧
      Batched size limit extra (selected.map WorkUnit.input) units := by
  rcases run_bind_append_ok run with ⟨_, _, size, rfl, isSize, run⟩
  rcases splitsByBytes_append splits with ⟨_, splits⟩
  rcases run_bind_append_ok run with ⟨_, _, limit, rfl, isLimit, run⟩
  rcases splitsByBytes_append splits with ⟨_, splits⟩
  rcases run_bind_append_ok run with ⟨_, _, groups, rfl, limits, run⟩
  rcases splitsByBytes_append splits with ⟨splits, _⟩
  rcases run_bind_ok run with ⟨_, _, extra, isExtra, run⟩
  cases run.done_inv.2
  refine ⟨size, limit, extra, ⟨run_ofExcept_ok isSize, run_ofExcept_ok isLimit,
    run_batchInput_ok isExtra⟩, ?_⟩
  rw [run_limitGroups_ok limits splits]
  cases limit with
  | none =>
      refine batched_of_groups (groupsOf_flatten _ _) ?_ fun _ _ _ same => nomatch same
      rintro group isGroup most rfl positive
      exact groupsOf_length_le positive isGroup
  | some limit =>
      refine batched_of_groups ?_ ?_ ?_
      · rw [flatMap_splitByBytes, groupsOf_flatten]
      · rintro part isPart most rfl positive
        rcases List.mem_flatMap.mp isPart with ⟨group, isGroup, isPart⟩
        exact (length_le_of_mem_splitByBytes isPart).trans (groupsOf_length_le positive isGroup)
      · rintro part isPart _ ⟨⟩
        rcases List.mem_flatMap.mp isPart with ⟨group, _, isPart⟩
        exact (splitByBytes_splits limit group).1.fit part isPart

end Runs

/-- The units that a batcher makes of the inputs of a Map carry them all, in order, in batches that
keep to both bounds and are given the same besides. In a Map, their weights sum to the number of
items, of which failures are tolerated. -/
theorem batch_carries_inputs (visit : Visit) (batcher : ItemBatcher) :
    (∀ selected units history,
      Run (.alone (visit.batch batcher selected).run) history (.alone (.done (.ok units))) →
      history.SplitsByBytes →
      ∃ size limit extra, Settles visit batcher size limit extra ∧
        Batched size limit extra (selected.map WorkUnit.input) units) ∧
    ∀ mapping processor result history, mapping.batcher = some batcher →
      Run (.alone (visit.runMap mapping (some processor)).run) history
        (.alone (.done (.ok result))) →
      history.SplitsByBytes →
      ∃ items selected units size limit extra tolerance concurrency outputs,
        ∃ reading selecting tolerating running : History,
          Run (.alone (visit.readItems mapping).run) reading (.alone (.done (.ok items))) ∧
          Run (.alone (visit.selectItems mapping 0 items).run) selecting
            (.alone (.done (.ok selected))) ∧
          (units.map WorkUnit.weight).sum = items.length ∧
          Settles visit batcher size limit extra ∧
          Batched size limit extra (selected.map WorkUnit.input) units ∧
          Run (.alone (visit.tolerance mapping items.length).run) tolerating
            (.alone (.done (.ok tolerance))) ∧
          Run (.alone (runUnits visit processor
            { state := visit.name, items := items.length, tolerance,
              cancelWave := visit.env.config.cancelWave } concurrency units).run) running
            (.alone (.done (.ok outputs))) := by
  refine ⟨fun _ _ _ run splits => run_batch_ok run splits, ?_⟩
  intro mapping processor result history given run splits
  rcases run_bind_append_ok run with ⟨reading, _, items, rfl, reads, run⟩
  rcases splitsByBytes_append splits with ⟨_, splits⟩
  rcases run_bind_append_ok run with ⟨selecting, _, selected, rfl, selects, run⟩
  rcases splitsByBytes_append splits with ⟨_, splits⟩
  rcases run_bind_append_ok run with ⟨_, _, units, rfl, batches, run⟩
  rcases splitsByBytes_append splits with ⟨splits, _⟩
  rw [Visit.groupUnits, given] at batches
  rcases run_batch_ok batches splits with ⟨size, limit, extra, settles, batched⟩
  have weight : (units.map WorkUnit.weight).sum = items.length := by
    rw [batched.weighs, List.length_map, run_selectItems_length selects]
  rcases run_bind_ok run with ⟨tolerating, _, tolerance, tolerates, run⟩
  rcases run_bind_ok run with ⟨_, _, concurrency, _, run⟩
  rcases run_bind_ok run with ⟨running, _, outputs, runs, run⟩
  exact ⟨items, selected, units, size, limit, extra, tolerance, concurrency, outputs, reading,
    selecting, tolerating, running, reads, selects, weight, settles, batched, tolerates, runs⟩

/-- A Map of literals, in batches of up to three items that keep to four bytes. -/
def literalsVisit : Visit := { eachVisit with effective := .array literals }

def literalsBatcher : ItemBatcher :=
  { maxItems := { given := some (.literal 3) }, maxBytes := { given := some (.literal 4) }
    batchInput := some (.string "shared") }

def literalsMapping : Mapping := { batcher := some literalsBatcher }

def literalsSelected : List WorkUnit := literals.map fun item => ⟨1, item, item⟩

def literalsUnits : List WorkUnit :=
  [[.array [], .object []], [.bool false], [.bool true]].map
    (Visit.batchUnit (some (.string "shared")))

/-- The first of two groups is cut in two. -/
def literalsHistory : History :=
  [([], .asked (.split "Each" [.array [], .object [], .bool false] 4)
      (some [[.array [], .object []], [.bool false]])),
    ([], .asked (.split "Each" [.bool true] 4) (some [[.bool true]])), ([], .drew)]

theorem run_literals : Run (.alone (literalsVisit.batch literalsBatcher literalsSelected).run)
    literalsHistory (.alone (.done (.ok literalsUnits))) := by
  refine .step (.ask _ _ _) ?_
  refine .step (.ask _ _ _) ?_
  refine .step (.draw _ _ default) ?_
  exact .refl _

theorem literalsHistory_splits : literalsHistory.SplitsByBytes := by
  intro state group limit answer isAsked
  simp only [literalsHistory, List.mem_cons, List.not_mem_nil, or_false, Prod.mk.injEq, true_and,
    reduceCtorEq, Mark.asked.injEq] at isAsked
  rcases isAsked with ⟨same, answered⟩ | ⟨same, answered⟩
  all_goals
    cases same
    exact eq_of_heq answered

/-- The whole Map, the processor of which gives back what it is given. -/
def literalsRun : History :=
  literalsHistory ++ ([], .gathered 3 (runUnit literalsVisit echo (withPlaces literalsUnits))) ::
    (withPlaces literalsUnits).map (fun (place, unit) =>
      ([], .absorbed place (.finished (.ok unit.input)))) ++ [([], .resumed)]

theorem run_literalsMap :
    Run (.alone (literalsVisit.runMap literalsMapping (some echo)).run) literalsRun
      (.alone (.done (.ok (.array (literalsUnits.map WorkUnit.input))))) := by
  refine .step (.ask _ _ _) ?_
  refine .step (.ask _ _ _) ?_
  refine .step (.draw _ _ default) ?_
  refine .step (.gather 3 _ _ _ _) ?_
  refine .step (.absorb (by decide) (.finished _)) ?_
  refine .step (.absorb (by decide) (.finished _)) ?_
  refine .step (.absorb (by decide) (.finished _)) ?_
  refine .step (.resume _ _ _ _ _) ?_
  exact .refl _

theorem literalsRun_splits : literalsRun.SplitsByBytes := by
  intro state group limit answer isAsked
  have isEarlier : ([], .asked (.split state group limit) answer) ∈ literalsHistory := by
    simpa [literalsRun, literalsUnits] using isAsked
  exact literalsHistory_splits state group limit answer isEarlier

theorem batch_carries_inputs_literals :
    (∃ size limit extra, Batched size limit extra literals literalsUnits) ∧
      ∃ items : List Json, ∃ units : List WorkUnit, ∃ history : History,
        Run (.alone (literalsVisit.readItems literalsMapping).run) history
          (.alone (.done (.ok items))) ∧
        (units.map WorkUnit.weight).sum = items.length := by
  have carries := batch_carries_inputs literalsVisit literalsBatcher
  rcases carries.1 _ _ _ run_literals literalsHistory_splits with ⟨size, limit, extra, _, batched⟩
  rcases carries.2 _ _ _ _ rfl run_literalsMap literalsRun_splits with
    ⟨items, _, units, _, _, _, _, _, _, reading, _, _, _, reads, _, weight, _⟩
  exact ⟨⟨size, limit, extra, batched⟩, items, units, reading, reads, weight⟩

end Engine

end Workflow
