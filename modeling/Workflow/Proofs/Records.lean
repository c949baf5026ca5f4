import Workflow.Proofs.Choices
import Workflow.Proofs.Doubles

/-!
# Records

Every record of a definition is read again from the document it is written as. A field that was
read is written so that it reads the same, whatever the document spelled it as, and a field that is
unset is left out, which reads as unset. Numbers are the one thing that could be lost on the way,
as there is no JSON for a float that is not finite; no number of a document becomes one.
-/

namespace Workflow

/-! ## Proper documents -/

namespace Json

mutual

/-- Whether every number is one that a document can hold. -/
def Ranged : Json → Prop
  | .number (.int value) => (Number.int value).InRange
  | .number (.float value) => value.isFinite = true
  | .array items => RangedItems items
  | .object members => RangedMembers members
  | _ => True

def RangedItems : List Json → Prop
  | [] => True
  | item :: rest => item.Ranged ∧ RangedItems rest

def RangedMembers : List (String × Json) → Prop
  | [] => True
  | (_, value) :: rest => value.Ranged ∧ RangedMembers rest

end

/-- What a document is like that was read from a text: its keys are in order, and its numbers are
signed or unsigned 64-bit integers and finite doubles. -/
structure Proper (document : Json) : Prop where
  sorted : document.Sorted
  ranged : document.Ranged

theorem ranged_of_mem_items {items : List Json} (ranged : RangedItems items) {item : Json}
    (mem : item ∈ items) : item.Ranged := by
  induction items with
  | nil => cases mem
  | cons first rest ih =>
    rcases List.mem_cons.mp mem with rfl | mem
    · exact ranged.1
    · exact ih ranged.2 mem

theorem ranged_of_mem_members {members : List (String × Json)} (ranged : RangedMembers members)
    {key : String} {value : Json} (mem : (key, value) ∈ members) : value.Ranged := by
  induction members with
  | nil => cases mem
  | cons first rest ih =>
    rcases List.mem_cons.mp mem with rfl | mem
    · exact ranged.1
    · exact ih ranged.2 mem

theorem Proper.item {items : List Json} (proper : (Json.array items).Proper) {item : Json}
    (mem : item ∈ items) : item.Proper :=
  ⟨sorted_of_mem_items proper.sorted mem, ranged_of_mem_items proper.ranged mem⟩

theorem Proper.member {members : List (String × Json)} (proper : (Json.object members).Proper)
    {key : String} {value : Json} (mem : (key, value) ∈ members) : value.Proper :=
  ⟨sorted_of_mem_members proper.sorted.2 mem, ranged_of_mem_members proper.ranged mem⟩

end Json

namespace Json

/-! ## Erased keys -/

theorem erase_sublist (key : String) (members : List (String × Json)) :
    (erase key members).Sublist members := by
  induction members with
  | nil => exact List.Sublist.refl _
  | cons first rest ih =>
    rcases first with ⟨name, value⟩
    rw [erase]
    split
    · exact List.sublist_cons_self _ _
    · exact ih.cons_cons _

theorem sortedKeys_erase {members : List (String × Json)} (sorted : SortedKeys members)
    (key : String) : SortedKeys (erase key members) :=
  sorted.sublist (erase_sublist key members)

theorem lookup_erase {members : List (String × Json)} (sorted : SortedKeys members)
    (key name : String) :
    lookup name (erase key members) = if name = key then none else lookup name members := by
  induction members with
  | nil => exact (ite_self none).symm
  | cons first rest ih =>
    rcases first with ⟨other, value⟩
    rcases List.pairwise_cons.mp sorted with ⟨before, restSorted⟩
    by_cases erased : other = key
    · subst erased
      rw [erase, if_pos rfl]
      by_cases same : name = other
      · subst same
        rw [if_pos rfl]
        exact lookup_eq_none fun member mem => (String.ne_of_lt (before member mem)).symm
      · rw [if_neg same, lookup, if_neg (Ne.symm same)]
    · rw [erase, if_neg erased, lookup, ih restSorted, lookup]
      by_cases here : other = name
      · subst here
        simp only [if_true, if_neg erased]
      · simp only [if_neg here]

end Json

namespace Record

variable {α : Type} {fields members : Fields}

/-- The fields of a record hold proper documents. -/
def Proper (fields : Fields) : Prop :=
  ∀ name value, Json.lookup name fields = some value → value.Proper

theorem proper_of_object (proper : (Json.object fields).Proper) : Proper fields :=
  fun _ _ found => proper.member (Json.mem_of_lookup found)

theorem proper_of_fields? {names : List String} {document : Json} (proper : document.Proper)
    (found : fields? names document = some fields) : Proper fields := by
  cases document with
  | object members =>
    cases found
    exact proper_of_object proper
  | array items =>
    rw [fields?] at found
    split at found
    · cases found
      intro name value isField
      exact proper.item (List.of_mem_zip (Json.mem_of_lookup isField)).2
    · cases found
  | _ => cases found

/-! ## Shown fields -/

/-- Every field of a record is shown as it is written, and only if it is set. -/
def Shows (members : Fields) (written : List (String × Option Json)) : Prop :=
  ∀ field ∈ written, Json.lookup field.1 members = field.2

@[simp]
theorem shows_nil : Shows members [] := fun _ isField => nomatch isField

@[simp]
theorem shows_cons {name : String} {value : Option Json} {rest : List (String × Option Json)} :
    Shows members ((name, value) :: rest) ↔
      Json.lookup name members = value ∧ Shows members rest :=
  List.forall_mem_cons

@[simp]
theorem shows_append {first second : List (String × Option Json)} :
    Shows members (first ++ second) ↔ Shows members first ∧ Shows members second :=
  List.forall_mem_append

theorem lookup_of_nodup {written : List (String × Option Json)}
    (nodup : (written.map Prod.fst).Nodup) {field : String × Option Json}
    (mem : field ∈ written) : written.lookup field.1 = some field.2 := by
  induction written with
  | nil => cases mem
  | cons first rest ih =>
    rcases first with ⟨name, value⟩
    rcases List.nodup_cons.mp nodup with ⟨fresh, restNodup⟩
    rcases List.mem_cons.mp mem with rfl | mem
    · simp
    · have different : (field.1 == name) = false := by
        rw [beq_eq_false_iff_ne]
        intro same
        exact fresh (List.mem_map.mpr ⟨field, mem, same⟩)
      rw [List.lookup_cons, different]
      exact ih restNodup mem

theorem shows_object {written : List (String × Option Json)}
    (nodup : (written.map Prod.fst).Nodup) :
    Shows (Json.overlay [] (settled written)) written := by
  intro field mem
  rw [lookup_object nodup, lookup_of_nodup nodup mem]
  rfl

/-- To read a record that was written, it is enough to read its fields. -/
theorem read_object {read : Json → Option α} {written : List (String × Option Json)} {found : α}
    (nodup : (written.map Prod.fst).Nodup)
    (reads : ∀ members, Shows members written → read (.object members) = some found) :
    read (object written) = some found :=
  reads _ (shows_object nodup)

/-- Leaving out keys hides no field that is set. -/
theorem shows_filter {keep : String → Bool} {written : List (String × Option Json)}
    (shows : Shows members written)
    (unset : ∀ field ∈ written, keep field.1 = false → field.2 = none) :
    Shows (members.filter fun (key, _) => keep key) written := by
  intro field mem
  rw [lookup_filter]
  by_cases kept : keep field.1 = true
  · rw [if_pos kept]
    exact shows field mem
  · rw [if_neg kept]
    exact (unset field mem (Bool.not_eq_true _ ▸ kept)).symm

theorem lookup_present (fields : Fields) (key : String) :
    ((fields.map fun (name, value) => (name, some value)).lookup key).join =
      Json.lookup key fields := by
  induction fields with
  | nil => rfl
  | cons first rest ih =>
    rcases first with ⟨name, value⟩
    rw [List.map_cons, List.lookup_cons, Json.lookup]
    by_cases same : name = key
    · rw [if_pos same, beq_iff_eq.mpr same.symm]
      rfl
    · rw [if_neg same, beq_eq_false_iff_ne.mpr (Ne.symm same)]
      exact ih

/-! ## Restored fields -/

/-- Whatever is read from a proper document is written as a document from which it is read. -/
structure Restores (read : Json → Option α) (write : α → Json) : Prop where
  strict : read .null = none
  again : ∀ value found, value.Proper → read value = some found → read (write found) = some found

section Fields

variable {read : Json → Option α} {write : α → Json} {name : String}

theorem required_restored (restores : Restores read write) (proper : Proper fields) {found : α}
    (was : required read name fields = some found)
    (shown : Json.lookup name members = some (write found)) :
    required read name members = some found := by
  rcases Option.bind_eq_some_iff.mp was with ⟨value, isField, fits⟩
  rw [required, shown]
  exact restores.again value found (proper name value isField) fits

theorem optional_restored (restores : Restores read write) (proper : Proper fields)
    {found : Option α} (was : optional read name fields = some found)
    (shown : Json.lookup name members = found.map write) :
    optional read name members = some found := by
  cases found with
  | none =>
    rw [optional, shown]
    rfl
  | some found =>
    rw [optional] at was
    split at was
    · cases was
    · cases was
    next value _ isField =>
      rcases Option.map_eq_some_iff.mp was with ⟨_, fits, same⟩
      cases same
      have again := restores.again value found (proper name value isField) fits
      exact optional_eq_of_read shown again restores.strict

theorem nullable_restored {found : Option (Option String)}
    (shown : Json.lookup name members = nullableText found) :
    nullable Json.string? name members = some found := by
  rw [nullable, shown]
  rcases found with _ | _ | text <;> rfl

theorem any_restored (shown : Json.lookup name members = any name fields) :
    any name members = any name fields := by
  have real : any name fields ≠ some .null := by
    rw [any]
    split
    · intro same
      cases same
    next noNull => exact noNull
  rw [any.eq_def name members, shown]
  split
  next isNull => exact absurd isNull real
  next => rfl

theorem any_again {found : Option Json} (was : found = any name fields)
    (shown : Json.lookup name members = found) : found = any name members := by
  rw [was] at shown ⊢
  exact (any_restored shown).symm

theorem mapM_restored (restores : Restores read write) {documents : List Json}
    (proper : ∀ document ∈ documents, document.Proper) {items : List α}
    (was : documents.mapM read = some items) : (items.map write).mapM read = some items := by
  induction documents generalizing items with
  | nil =>
    cases was
    rfl
  | cons first rest ih =>
    rw [List.mapM_cons] at was
    rcases Option.bind_eq_some_iff.mp was with ⟨item, fits, was⟩
    rcases Option.bind_eq_some_iff.mp was with ⟨others, restDone, was⟩
    cases was
    have again := restores.again first item (proper first List.mem_cons_self) fits
    have below := ih (fun document mem => proper document (List.mem_cons_of_mem _ mem)) restDone
    rw [List.map_cons, List.mapM_cons, again, below]
    rfl

theorem restores_list (restores : Restores read write) :
    Restores (list read) (fun items => .array (items.map write)) := by
  refine ⟨rfl, ?_⟩
  intro value items proper was
  cases value with
  | array documents => exact mapM_restored restores (fun _ mem => proper.item mem) was
  | _ => cases was

theorem orElse_restored (restores : Restores read write) (proper : Proper fields)
    {items : List α} (was : orElse (list read) [] name fields = some items)
    (shown : Json.lookup name members = someList write items) :
    orElse (list read) [] name members = some items := by
  rw [orElse, shown]
  rw [orElse] at was
  cases items with
  | nil => rfl
  | cons item items =>
    split at was
    · cases was
    next value isField =>
      exact (restores_list restores).again value _ (proper name value isField) was

end Fields

/-! ## Plain values -/

theorem restores_string : Restores Json.string? Json.string where
  strict := rfl
  again _ _ _ _ := rfl

theorem restores_bool : Restores Json.bool? Json.bool where
  strict := rfl
  again _ _ _ _ := rfl

theorem nat_of_toUnsigned? {value : Json} {found : Nat} (was : value.toUnsigned? = some found) :
    Json.nat found = value := by
  rcases Option.bind_eq_some_iff.mp was with ⟨number, isNumber, fits⟩
  cases value with
  | number number =>
    cases isNumber
    cases number with
    | int whole =>
      rw [Number.toUnsigned?] at fits
      split at fits
      next range =>
        cases fits
        rw [Json.nat, Int.toNat_of_nonneg range.1]
      next => cases fits
    | float value => cases fits
  | _ => cases isNumber

theorem toUnsigned?_nat {value : Json} {found : Nat} (was : value.toUnsigned? = some found) :
    (Json.nat found).toUnsigned? = some found := by
  rwa [nat_of_toUnsigned? was]

theorem restores_unsigned : Restores Json.toUnsigned? Json.nat where
  strict := rfl
  again _ _ _ was := toUnsigned?_nat was

theorem restores_small : Restores Json.toSmall? Json.nat where
  strict := rfl
  again value found _ was := by
    rcases Option.filter_eq_some_iff.mp was with ⟨fits, small⟩
    exact Option.filter_eq_some_iff.mpr ⟨toUnsigned?_nat fits, small⟩

theorem isFinite_of_float? {value : Json} {found : Float} (proper : value.Proper)
    (was : float? value = some found) : found.isFinite = true := by
  rcases Option.map_eq_some_iff.mp was with ⟨number, isNumber, same⟩
  cases value with
  | number number =>
    cases isNumber
    cases number with
    | int whole =>
      cases same
      exact Double.isFinite_ofInt proper.ranged
    | float value =>
      cases same
      exact proper.ranged
  | _ => cases isNumber

theorem restores_float : Restores float? Json.ofFloat where
  strict := rfl
  again value found proper was := by
    have finite := isFinite_of_float? proper was
    simp only [Json.ofFloat, Number.ofFloat?, finite, if_true]
    rfl

theorem restores_dialect : Restores Dialect.read? (fun dialect => .string dialect.name) where
  strict := rfl
  again _ found _ _ := by
    cases found <;> rfl

theorem restores_jitter :
    Restores Retrier.readJitter? (fun full => .string (if full then "FULL" else "NONE")) where
  strict := rfl
  again _ found _ _ := by
    cases found <;> rfl

end Record

/-! ## Settings -/

theorem Given.restores {α : Type} {literal : Json → Option α} {write : α → Json}
    (restores : Record.Restores literal write) (texts : ∀ text, literal (.string text) = none) :
    Record.Restores (Given.read? literal) (Given.toJson write) where
  strict := by simp only [Given.read?, restores.strict]
  again value given proper was := by
    cases fits : literal value with
    | some found =>
      simp only [Given.read?, fits, Option.some.injEq] at was
      subst was
      have again := restores.again value found proper fits
      simp only [Given.toJson, Given.read?, again]
    | none =>
      cases value with
      | string text =>
        simp only [Given.read?, fits, Option.some.injEq] at was
        subst was
        simp only [Given.toJson, Given.read?, texts]
      | _ =>
        simp only [Given.read?, fits] at was
        cases was

theorem Setting.Read.restored {α : Type} {literal : Json → Option α} {write : α → Json}
    (restores : Record.Restores literal write) (texts : ∀ text, literal (.string text) = none)
    {name : String} {fields members : Record.Fields} (own : Record.Proper fields)
    {setting : Setting α} (read : setting.Read literal name fields)
    (shown : Record.Shows members (setting.toFields write name)) :
    setting.Read literal name members := by
  simp only [Setting.toFields, Record.shows_cons, Record.shows_nil, and_true] at shown
  exact
    { given := Record.optional_restored (Given.restores restores texts) own read.given shown.1
      path := Record.optional_restored Record.restores_string own read.path shown.2 }

theorem Setting.Read.restored_unsigned {name : String} {fields members : Record.Fields}
    (own : Record.Proper fields) {setting : Setting Nat}
    (read : setting.Read Json.toUnsigned? name fields)
    (shown : Record.Shows members (setting.toFields Json.nat name)) :
    setting.Read Json.toUnsigned? name members :=
  read.restored Record.restores_unsigned (fun _ => rfl) own shown

theorem TextSetting.Read.restored {name : String} {fields members : Record.Fields}
    (own : Record.Proper fields) {setting : TextSetting} (read : setting.Read name fields)
    (shown : Record.Shows members (setting.toFields name)) : setting.Read name members := by
  simp only [TextSetting.toFields, Record.shows_cons, Record.shows_nil, and_true] at shown
  exact
    { text := Record.optional_restored Record.restores_string own read.text shown.1
      path := Record.optional_restored Record.restores_string own read.path shown.2 }

/-! ## Policies -/

theorem Retrier.restores : Record.Restores Retrier.read? Retrier.toJson where
  strict := rfl
  again document retrier proper was := by
    rcases Retrier.read?_iff.mp was with ⟨fields, isRecord, read⟩
    have own := Record.proper_of_fields? proper isRecord
    rw [Retrier.toJson]
    refine Record.read_object (by simp) ?_
    intro members shown
    simp only [Record.shows_cons, Record.shows_nil, and_true] at shown
    rcases shown with ⟨errorEquals, interval, attempts, rate, maxDelay, jitter, comment⟩
    have names := Record.restores_list Record.restores_string
    exact Retrier.read?_iff.mpr ⟨members, rfl,
      { errorEquals := Record.required_restored names own read.errorEquals errorEquals
        interval := Record.optional_restored Record.restores_unsigned own read.interval interval
        attempts := Record.optional_restored Record.restores_small own read.attempts attempts
        rate := Record.optional_restored Record.restores_float own read.rate rate
        maxDelay := Record.optional_restored Record.restores_unsigned own read.maxDelay maxDelay
        jitter := Record.optional_restored Record.restores_jitter own read.jitter jitter
        comment := Record.optional_restored Record.restores_string own read.comment comment }⟩

theorem Catcher.restores : Record.Restores Catcher.read? Catcher.toJson where
  strict := rfl
  again document catcher proper was := by
    rcases Catcher.read?_iff.mp was with ⟨fields, isRecord, read⟩
    have own := Record.proper_of_fields? proper isRecord
    rw [Catcher.toJson]
    refine Record.read_object (by simp) ?_
    intro members shown
    simp only [Record.shows_cons, Record.shows_nil, and_true] at shown
    rcases shown with ⟨errorEquals, next, resultPath, output, assign, comment⟩
    have names := Record.restores_list Record.restores_string
    exact Catcher.read?_iff.mpr ⟨members, rfl,
      { errorEquals := Record.required_restored names own read.errorEquals errorEquals
        next := Record.required_restored Record.restores_string own read.next next
        resultPath := Record.nullable_restored resultPath
        output := Record.any_again read.output output
        assign := Record.any_again read.assign assign
        comment := Record.optional_restored Record.restores_string own read.comment comment }⟩

/-! ## Map records -/

theorem ItemBatcher.restores : Record.Restores ItemBatcher.read? ItemBatcher.toJson where
  strict := rfl
  again document batcher proper was := by
    rcases ItemBatcher.read?_iff.mp was with ⟨fields, isRecord, read⟩
    have own := Record.proper_of_fields? proper isRecord
    rw [ItemBatcher.toJson]
    refine Record.read_object (by simp [Setting.toFields]) ?_
    intro members shown
    simp only [Record.shows_append, Record.shows_cons, Record.shows_nil, and_true] at shown
    rcases shown with ⟨⟨maxItems, maxBytes⟩, batchInput⟩
    exact ItemBatcher.read?_iff.mpr ⟨members, rfl,
      { maxItems := read.maxItems.restored_unsigned own maxItems
        maxBytes := read.maxBytes.restored_unsigned own maxBytes
        batchInput := Record.any_again read.batchInput batchInput }⟩

theorem ResultWriter.restores : Record.Restores ResultWriter.read? ResultWriter.toJson where
  strict := rfl
  again document writer proper was := by
    rcases ResultWriter.read?_iff.mp was with ⟨fields, isRecord, read⟩
    have own := Record.proper_of_fields? proper isRecord
    rw [ResultWriter.toJson]
    refine Record.read_object (by simp) ?_
    intro members shown
    simp only [Record.shows_cons, Record.shows_nil, and_true] at shown
    rcases shown with ⟨resource, config, parameters, arguments⟩
    exact ResultWriter.read?_iff.mpr ⟨members, rfl,
      { resource := Record.required_restored Record.restores_string own read.resource resource
        config := Record.any_again read.config config
        parameters := Record.any_again read.parameters parameters
        arguments := Record.any_again read.arguments arguments }⟩

section Reader

variable {config : ReaderConfig}

/-- The settings that an item reader passes on do not hold those it knows. -/
structure ReaderConfig.Separate (config : ReaderConfig) : Prop where
  sorted : Json.SortedKeys config.extra
  noItems : Json.lookup "MaxItems" config.extra = none
  noPath : Json.lookup "MaxItemsPath" config.extra = none

theorem ReaderConfig.separate_of_read? {document : Json} (proper : document.Proper)
    (was : ReaderConfig.read? document = some config) : config.Separate := by
  cases document with
  | object fields =>
    rw [ReaderConfig.read?] at was
    rcases Option.bind_eq_some_iff.mp was with ⟨maxItems, _, was⟩
    cases was
    have sorted := proper.sorted.1
    have pathless := Json.sortedKeys_erase sorted "MaxItemsPath"
    refine ⟨Json.sortedKeys_erase pathless _, ?_, ?_⟩
    · rw [Json.lookup_erase pathless, if_pos rfl]
    · rw [Json.lookup_erase pathless, Json.lookup_erase sorted, if_pos rfl, ite_self]
  | _ => cases was

def ReaderConfig.fields (config : ReaderConfig) : List (String × Option Json) :=
  config.maxItems.toFields Json.nat "MaxItems" ++
    config.extra.map fun (name, value) => (name, some value)

theorem ReaderConfig.Separate.nodup (separate : config.Separate) :
    (config.fields.map Prod.fst).Nodup := by
  have fresh : ∀ key, Json.lookup key config.extra = none → key ∉ config.extra.map Prod.fst := by
    intro key missing isExtra
    rcases List.mem_map.mp isExtra with ⟨⟨name, value⟩, mem, rfl⟩
    rw [Json.lookup_of_mem separate.sorted mem] at missing
    cases missing
  have names : config.fields.map Prod.fst =
      "MaxItems" :: "MaxItemsPath" :: config.extra.map Prod.fst := by
    rw [fields, Setting.toFields, List.map_append, List.map_map]
    rfl
  rw [names]
  refine List.nodup_cons.mpr ⟨?_, List.nodup_cons.mpr ⟨?_, separate.sorted.nodup⟩⟩
  · rw [List.mem_cons, not_or]
    exact ⟨by decide, fresh _ separate.noItems⟩
  · exact fresh _ separate.noPath

/-- What a written reader passes on is what it passed on before. -/
theorem ReaderConfig.Separate.extra_eq (separate : config.Separate) :
    Json.erase "MaxItems" (Json.erase "MaxItemsPath"
      (Json.overlay [] (Record.settled config.fields))) = config.extra := by
  have sorted := Record.sortedKeys_object config.fields
  have pathless := Json.sortedKeys_erase sorted "MaxItemsPath"
  apply Json.ext_of_lookup (Json.sortedKeys_erase pathless _) separate.sorted
  intro key
  rw [Json.lookup_erase pathless, Json.lookup_erase sorted]
  by_cases isItems : key = "MaxItems"
  · rw [if_pos isItems, isItems, separate.noItems]
  by_cases isPath : key = "MaxItemsPath"
  · rw [if_neg isItems, if_pos isPath, isPath, separate.noPath]
  have noItems : (key == "MaxItems") = false := beq_eq_false_iff_ne.mpr isItems
  have noPath : (key == "MaxItems" ++ "Path") = false := beq_eq_false_iff_ne.mpr isPath
  rw [if_neg isItems, if_neg isPath, Record.lookup_object separate.nodup, fields,
    Setting.toFields, List.cons_append, List.cons_append, List.nil_append, List.lookup_cons,
    noItems, List.lookup_cons, noPath]
  exact Record.lookup_present config.extra key

end Reader

theorem ReaderConfig.restores : Record.Restores ReaderConfig.read? ReaderConfig.toJson where
  strict := rfl
  again document config proper was := by
    have separate := ReaderConfig.separate_of_read? proper was
    cases document with
    | object fields =>
      rw [ReaderConfig.read?] at was
      rcases Option.bind_eq_some_iff.mp was with ⟨maxItems, maxItemsWas, was⟩
      cases was
      have own := Record.proper_of_object proper
      have shown := Record.shows_object separate.nodup
      rw [ReaderConfig.fields, Record.shows_append] at shown
      have read := (Setting.read?_iff.mp maxItemsWas).restored_unsigned own shown.1
      have extra := separate.extra_eq
      rw [ReaderConfig.fields] at extra
      rw [ReaderConfig.toJson, Record.object_eq, ReaderConfig.read?, Setting.read?_iff.mpr read,
        extra]
      rfl
    | _ => cases was

theorem ItemReader.restores : Record.Restores ItemReader.read? ItemReader.toJson where
  strict := rfl
  again document reader proper was := by
    rcases ItemReader.read?_iff.mp was with ⟨fields, isRecord, read⟩
    have own := Record.proper_of_fields? proper isRecord
    rw [ItemReader.toJson]
    refine Record.read_object (by simp) ?_
    intro members shown
    simp only [Record.shows_cons, Record.shows_nil, and_true] at shown
    rcases shown with ⟨resource, config, parameters, arguments⟩
    exact ItemReader.read?_iff.mpr ⟨members, rfl,
      { resource := Record.required_restored Record.restores_string own read.resource resource
        config := Record.optional_restored ReaderConfig.restores own read.config config
        parameters := Record.any_again read.parameters parameters
        arguments := Record.any_again read.arguments arguments }⟩

/-! ## States -/

section States

variable {fields members : Record.Fields} (own : Record.Proper fields)

include own

theorem Mapping.Read.restored {mapping : Mapping} (read : mapping.Read fields)
    (shown : Record.Shows members mapping.toFields) : mapping.Read members := by
  simp only [Mapping.toFields, Record.shows_append, Record.shows_cons, Record.shows_nil,
    and_true] at shown
  rcases shown with ⟨⟨⟨⟨items, itemsPath, itemSelector, reader, batcher, writer, label⟩,
    concurrency⟩, count⟩, percentage⟩
  exact
    { items := Record.any_again read.items items
      itemsPath := Record.optional_restored Record.restores_string own read.itemsPath itemsPath
      itemSelector := Record.any_again read.itemSelector itemSelector
      reader := Record.optional_restored ItemReader.restores own read.reader reader
      batcher := Record.optional_restored ItemBatcher.restores own read.batcher batcher
      writer := Record.optional_restored ResultWriter.restores own read.writer writer
      concurrency := read.concurrency.restored_unsigned own concurrency
      count := read.count.restored_unsigned own count
      percentage := read.percentage.restored Record.restores_float (fun _ => rfl) own percentage
      label := Record.optional_restored Record.restores_string own read.label label }

theorem Task.Read.restored {task : Task} (read : task.Read fields)
    (shown : Record.Shows members (StateKind.task task).toFields) : task.Read members := by
  simp only [StateKind.toFields, Record.shows_append, Record.shows_cons, Record.shows_nil,
    and_true] at shown
  rcases shown with ⟨⟨⟨resource, credentials⟩, timeout⟩, heartbeat⟩
  exact
    { resource := Record.required_restored Record.restores_string own read.resource resource
      timeout := read.timeout.restored_unsigned own timeout
      heartbeat := read.heartbeat.restored_unsigned own heartbeat
      credentials := Record.any_again read.credentials credentials }

theorem Common.Read.restored {common : Common} (read : common.Read fields)
    (shown : Record.Shows members common.toFields) : common.Read members := by
  simp only [Common.toFields, Record.shows_cons, Record.shows_nil, and_true] at shown
  rcases shown with ⟨comment, dialect, next, ends, inputPath, outputPath, resultPath, parameters,
    resultSelector, arguments, output, assign, retriers, catchers⟩
  exact
    { comment := Record.optional_restored Record.restores_string own read.comment comment
      dialect := Record.optional_restored Record.restores_dialect own read.dialect dialect
      next := Record.optional_restored Record.restores_string own read.next next
      ends := Record.optional_restored Record.restores_bool own read.ends ends
      inputPath := Record.nullable_restored inputPath
      outputPath := Record.nullable_restored outputPath
      resultPath := Record.nullable_restored resultPath
      retriers := Record.orElse_restored Retrier.restores own read.retriers retriers
      catchers := Record.orElse_restored Catcher.restores own read.catchers catchers
      parameters := Record.any_again read.parameters parameters
      resultSelector := Record.any_again read.resultSelector resultSelector
      arguments := Record.any_again read.arguments arguments
      output := Record.any_again read.output output
      assign := Record.any_again read.assign assign }

end States

end Workflow
