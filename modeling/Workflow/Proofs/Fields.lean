import Workflow.Definition.Writer
import Workflow.Proofs.Inversions
import Workflow.Proofs.Loading
import Workflow.Proofs.Placement

/-!
# Fields

A state that was read carries no field that its document does not have. So what is checked of the
keys of a document is known of the state: it carries only fields that are allowed in the dialect it
is written in, and none that belongs to the other one. Fields of the records inside a state are
another matter, as only its own keys are checked.
-/

namespace Workflow

/-! ## Missing fields -/

namespace Record

variable {α : Type} {read : Json → Option α} {name : String} {fields : Fields}

theorem optional_eq_of_read {value : Json} {found : α}
    (isField : Json.lookup name fields = some value) (fits : read value = some found)
    (strict : read .null = none) : optional read name fields = some (some found) := by
  rw [optional, isField]
  cases value with
  | null =>
      rw [strict] at fits
      cases fits
  | _ => simp only [fits, Option.map_some]

theorem unset_of_optional {found : Option α} (isFound : optional read name fields = some found)
    (write : α → Json) (missing : Json.lookup name fields = none) : found.map write = none := by
  rw [optional, missing] at isFound
  cases isFound
  rfl

theorem none_of_nullable {found : Option (Option α)}
    (isFound : nullable read name fields = some found)
    (missing : Json.lookup name fields = none) : found = none := by
  rw [nullable, missing] at isFound
  cases isFound
  rfl

theorem unset_of_nullable {found : Option (Option String)} {read : Json → Option String}
    (isFound : nullable read name fields = some found)
    (missing : Json.lookup name fields = none) : nullableText found = none := by
  rw [none_of_nullable isFound missing]
  rfl

theorem unset_of_orElse {found : List α} {read : Json → Option (List α)}
    (isFound : orElse read [] name fields = some found) (write : α → Json)
    (missing : Json.lookup name fields = none) : someList write found = none := by
  rw [orElse, missing] at isFound
  cases isFound
  rfl

theorem present_of_required {found : α} (isFound : required read name fields = some found)
    (missing : Json.lookup name fields = none) : False := by
  rw [required, missing] at isFound
  cases isFound

theorem any_of_missing (missing : Json.lookup name fields = none) : any name fields = none := by
  rw [any, missing]

theorem exists_of_mapM {documents : List Json} {items : List α}
    (done : documents.mapM read = some items) {item : α} (isItem : item ∈ items) :
    ∃ document ∈ documents, read document = some item := by
  induction documents generalizing items with
  | nil =>
      cases done
      cases isItem
  | cons first rest ih =>
      rw [List.mapM_cons] at done
      rcases Option.bind_eq_some_iff.mp done with ⟨firstItem, firstDone, done⟩
      rcases Option.bind_eq_some_iff.mp done with ⟨others, restDone, done⟩
      cases done
      rcases List.mem_cons.mp isItem with rfl | isOther
      · exact ⟨first, List.mem_cons_self, firstDone⟩
      · rcases ih restDone isOther with ⟨document, isDocument, fits⟩
        exact ⟨document, List.mem_cons_of_mem _ isDocument, fits⟩

theorem exists_of_list {items : List α} (done : orElse (list read) [] name fields = some items)
    {item : α} (isItem : item ∈ items) : ∃ documents,
      Json.lookup name fields = some (.array documents) ∧
        ∃ document ∈ documents, read document = some item := by
  rw [orElse] at done
  split at done
  case h_1 =>
    cases done
    cases isItem
  case h_2 value found =>
    cases value with
    | array documents => exact ⟨documents, found, exists_of_mapM done isItem⟩
    | _ => cases done

theorem lookup_filter (keep : String → Bool) (name : String) (fields : Fields) :
    Json.lookup name (fields.filter fun (key, _) => keep key) =
      if keep name then Json.lookup name fields else none := by
  induction fields with
  | nil => exact (ite_self none).symm
  | cons first rest ih =>
      rcases first with ⟨key, value⟩
      by_cases same : key = name
      · subst same
        by_cases kept : keep key = true
        · simp [kept, Json.lookup]
        · simpa [kept, Json.lookup] using ih
      · by_cases kept : keep key = true
        · simp [kept, Json.lookup, same, ih]
        · simp [kept, Json.lookup, same, ih]

end Record

/-! ## Records -/

/-- Of the fields that are written, none is set that a document does not have. -/
def Backed (fields : Record.Fields) (written : List (String × Option Json)) : Prop :=
  ∀ field ∈ written, Json.lookup field.1 fields = none → field.2 = none

section Backed

variable {fields : Record.Fields}

@[simp]
theorem backed_nil : Backed fields [] := fun _ isField => nomatch isField

@[simp]
theorem backed_cons {name : String} {value : Option Json} {rest : List (String × Option Json)} :
    Backed fields ((name, value) :: rest) ↔
      (Json.lookup name fields = none → value = none) ∧ Backed fields rest :=
  List.forall_mem_cons

@[simp]
theorem backed_append {first second : List (String × Option Json)} :
    Backed fields (first ++ second) ↔ Backed fields first ∧ Backed fields second :=
  List.forall_mem_append

theorem Setting.Read.backed {α : Type} {literal : Json → Option α} {name : String}
    {setting : Setting α} (read : setting.Read literal name fields) (write : α → Json) :
    Backed fields (setting.toFields write name) := by
  simp only [Setting.toFields, backed_cons, backed_nil, and_true]
  exact ⟨Record.unset_of_optional read.given _, Record.unset_of_optional read.path _⟩

theorem TextSetting.Read.backed {name : String} {setting : TextSetting}
    (read : setting.Read name fields) : Backed fields (setting.toFields name) := by
  simp only [TextSetting.toFields, backed_cons, backed_nil, and_true]
  exact ⟨Record.unset_of_optional read.text _, Record.unset_of_optional read.path _⟩

theorem Task.Read.backed {task : Task} (read : task.Read fields) :
    Backed fields (StateKind.task task).toFields := by
  simp only [StateKind.toFields, backed_append, backed_cons, backed_nil, and_true,
    read.credentials]
  exact ⟨⟨⟨fun missing => (Record.present_of_required read.resource missing).elim,
    Record.any_of_missing⟩, read.timeout.backed _⟩, read.heartbeat.backed _⟩

theorem Mapping.Read.backed {mapping : Mapping} (read : mapping.Read fields) :
    Backed fields mapping.toFields := by
  simp only [Mapping.toFields, backed_append, backed_cons, backed_nil, and_true, read.items,
    read.itemSelector]
  refine ⟨⟨⟨⟨Record.any_of_missing, Record.unset_of_optional read.itemsPath _,
    Record.any_of_missing, Record.unset_of_optional read.reader _,
    Record.unset_of_optional read.batcher _, Record.unset_of_optional read.writer _,
    Record.unset_of_optional read.label _⟩, ?_⟩, ?_⟩, ?_⟩
  · exact read.concurrency.backed _
  · exact read.count.backed _
  · exact read.percentage.backed _

theorem Backed.of_filter {keep : String → Bool} {written : List (String × Option Json)}
    (backed : Backed (fields.filter fun (key, _) => keep key) written) : Backed fields written := by
  intro field isField missing
  refine backed field isField ?_
  rw [Record.lookup_filter, missing, ite_self]

end Backed

theorem Common.Read.backed {known : Record.Fields} {common : Common} (read : common.Read known) :
    Backed known common.toFields := by
  simp only [Common.toFields, backed_cons, backed_nil, and_true, read.parameters,
    read.resultSelector, read.arguments, read.output, read.assign]
  exact ⟨Record.unset_of_optional read.comment _, Record.unset_of_optional read.dialect _,
    Record.unset_of_optional read.next _, Record.unset_of_optional read.ends _,
    Record.unset_of_nullable read.inputPath, Record.unset_of_nullable read.outputPath,
    Record.unset_of_nullable read.resultPath, Record.any_of_missing, Record.any_of_missing,
    Record.any_of_missing, Record.any_of_missing, Record.any_of_missing,
    Record.unset_of_orElse read.retriers _, Record.unset_of_orElse read.catchers _⟩

/-! ## States -/

namespace Definition

theorem present_of_readItems {α : Type} {read : Json → Except Misfit α} {name : String}
    {fields : Record.Fields} {items : List α}
    (done : readItems read (Json.lookup name fields) = .ok items)
    (missing : Json.lookup name fields = none) : False := by
  rw [missing] at done
  cases done

theorem unset_of_readOptional {read : Json → Except Misfit Graph} {name : String}
    {fields : Record.Fields} {found : Option Graph}
    (done : readOptional read (Json.lookup name fields) = .ok found)
    (missing : Json.lookup name fields = none) : Graph.optionToJson found = none := by
  rw [missing] at done
  cases done
  rfl

theorem KindRead.backed {nested : Json → Except Misfit Graph} {type : StateType}
    {fields : Record.Fields} {kind : StateKind} (read : KindRead nested fields type kind) :
    Backed fields kind.toFields := by
  cases read with
  | task taskRead => exact (Task.read?_iff.mp taskRead).backed
  | pass =>
      simp only [StateKind.toFields, backed_cons, backed_nil, and_true]
      exact Record.any_of_missing
  | choice branchesRead fallbackRead =>
      simp only [StateKind.toFields, backed_cons, backed_nil, and_true]
      exact ⟨fun missing => (present_of_readItems branchesRead missing).elim,
        Record.unset_of_optional fallbackRead _⟩
  | wait secondsRead timestampRead =>
      rw [StateKind.toFields, backed_append]
      exact ⟨(Setting.read?_iff.mp secondsRead).backed _,
        (TextSetting.read?_iff.mp timestampRead).backed⟩
  | succeed => exact backed_nil
  | fail errorRead causeRead =>
      rw [StateKind.toFields, backed_append]
      exact ⟨(TextSetting.read?_iff.mp errorRead).backed, (TextSetting.read?_iff.mp causeRead).backed⟩
  | map processorRead iteratorRead mappingRead =>
      simp only [StateKind.toFields, backed_cons]
      exact ⟨unset_of_readOptional processorRead, unset_of_readOptional iteratorRead,
        (Mapping.read?_iff.mp mappingRead).backed⟩
  | parallel branchesRead =>
      simp only [StateKind.toFields, backed_cons, backed_nil, and_true]
      exact fun missing => (present_of_readItems branchesRead missing).elim

structure Reads (fields : Record.Fields) (state : State) : Prop where
  typed : ∀ name, declaredType name fields = .ok state.type
  common : state.common.Read (fields.filter fun (name, _) => state.type.knows name)
  kind : Backed fields state.kind.toFields

theorem reads_of_readState {fuel : Nat} {fields : List (String × Json)} {state : State}
    (read : readState fuel (.object fields) = .ok state) : Reads fields state := by
  rcases parsed_of_readState read with ⟨_, _, _, same, parsed⟩
  cases same
  exact ⟨parsed.declared, Common.read?_iff.mp parsed.common, parsed.kind.backed⟩

end Definition

/-- The fields of a state that are not its type, as they are written. -/
def State.fields (state : State) : List (String × Option Json) :=
  state.common.toFields ++ state.kind.toFields

def State.Carries (state : State) (name : String) : Prop :=
  ∃ value, (name, some value) ∈ state.fields

/-- The documents of the records inside a state. -/
def State.records (state : State) : List Json :=
  state.common.catchers.map Catcher.toJson ++
    match state.kind with
    | .choice branches _ => branches.map Branch.toJson
    | .map _ _ mapping =>
      (mapping.reader.map ItemReader.toJson).toList ++
      ((mapping.reader.bind ItemReader.config).map ReaderConfig.toJson).toList ++
      (mapping.batcher.map ItemBatcher.toJson).toList ++
      (mapping.writer.map ResultWriter.toJson).toList
    | _ => []

def Foreign (dialect : Dialect) (name : String) : Prop :=
  match dialect with
  | .path => name ∈ ["Output", "Arguments"]
  | .functional => name ∈ ["Parameters", "ResultPath"] ∨ "Path".toList <:+ name.toList

instance (dialect : Dialect) (name : String) : Decidable (Foreign dialect name) :=
  match dialect with
  | .path => inferInstanceAs (Decidable (_ ∈ _))
  | .functional => inferInstanceAs (Decidable (_ ∨ _))

namespace StateType

def fieldsIn (type : StateType) : Dialect → List String
  | .path => commonFields ++ type.sharedFields ++ type.pathFields
  | .functional => commonFields ++ type.sharedFields ++ type.functionalFields

theorem mem_fieldsIn_iff {type : StateType} {dialect : Dialect} {name : String} :
    name ∈ type.fieldsIn dialect ↔ type.allows dialect name = true := by
  cases dialect <;> simp [fieldsIn, allows, or_assoc]

/-- No field of the other dialect is allowed on a state of any type. -/
theorem not_foreign_of_allows {type : StateType} {dialect : Dialect} {name : String}
    (allowed : type.allows dialect name = true) : ¬ Foreign dialect name := by
  have native : ∀ field ∈ type.fieldsIn dialect, ¬ Foreign dialect field := by
    cases dialect <;> cases type <;> decide
  exact native name (mem_fieldsIn_iff.mpr allowed)

end StateType

def Catcher.Native (dialect : Dialect) (catcher : Catcher) : Prop :=
  match dialect with
  | .path => catcher.output = none
  | .functional => catcher.resultPath = none

namespace Definition

theorem native_of_read? {dialect : Dialect} {members : List (String × Json)} {catcher : Catcher}
    (read : Catcher.read? (.object members) = some catcher)
    (missing : Json.lookup (foreignCatchField dialect) members = none) :
    catcher.Native dialect := by
  rcases Catcher.read?_iff.mp read with ⟨fields, same, read⟩
  cases same
  cases dialect with
  | path => exact read.output.trans (Record.any_of_missing missing)
  | functional => exact Record.none_of_nullable read.resultPath missing

section Checks

variable {name : String} {inherited dialect : Dialect} {fields : List (String × Json)}
  {state : State}

theorem missing_of_checkKeys {type : String} {allowed : String → Bool} {key : String}
    (checked : checkKeys name type dialect.name allowed fields = .ok ())
    (foreign : allowed key = false) : Json.lookup key fields = none := by
  rw [checkKeys] at checked
  split at checked
  case h_1 => cases checked
  case h_2 noForeign =>
    have all := List.find?_eq_none.mp noForeign
    cases found : Json.lookup key fields with
    | none => rfl
    | some value =>
        have isForeign := all (key, value) (Json.mem_of_lookup found)
        simp [foreign] at isForeign

/-- A state that was checked and read carries only fields that its type allows in its dialect. -/
theorem allows_of_carries (checked : checkFields name inherited fields = .ok dialect)
    (reads : Reads fields state) {field : String} (carries : state.Carries field) :
    state.type.allows dialect field = true := by
  rcases checks_of_checkFields checked with ⟨type, checks⟩
  have sameType := checks.typed
  rw [reads.typed name] at sameType
  cases sameType
  rcases carries with ⟨value, isField⟩
  by_contra foreign
  have missing := missing_of_checkKeys checks.keys (Bool.not_eq_true _ ▸ foreign)
  have backed : Backed fields state.fields := by
    rw [State.fields, backed_append]
    exact ⟨reads.common.backed.of_filter, reads.kind⟩
  cases backed _ isField missing

/-- Whoever reads the dialect finds the one that the check has found. -/
theorem dialect_of_declaredDialect {own : Option Dialect}
    (declared : declaredDialect name inherited fields = .ok dialect)
    (read : Record.optional Dialect.read? "QueryLanguage" fields = some own) :
    own.getD inherited = dialect := by
  rw [declaredDialect] at declared
  split at declared
  case h_1 missing =>
    cases declared
    rw [Record.optional, missing] at read
    cases read
    rfl
  case h_2 value isField =>
    split at declared
    case h_1 found fits =>
      cases declared
      rw [Record.optional_eq_of_read isField fits rfl] at read
      cases read
      rfl
    case h_2 => cases declared

/-- A state is read with the dialect that its fields were checked in. -/
theorem dialectOr_of_checkFields (checked : checkFields name inherited fields = .ok dialect)
    (reads : Reads fields state) : state.dialectOr inherited = dialect := by
  rcases checks_of_checkFields checked with ⟨type, checks⟩
  have known : state.type.knows "QueryLanguage" = true := by
    cases state.type <;> rfl
  have read := reads.common.dialect
  rw [Record.optional, Record.lookup_filter, if_pos known] at read
  exact dialect_of_declaredDialect checks.declared read

/-- The catchers of a state carry no field of the other dialect, unless they were written as lists
of fields. -/
theorem native_of_checkFields (checked : checkFields name inherited fields = .ok dialect)
    (reads : Reads fields state) {catcher : Catcher} (isCatcher : catcher ∈ state.common.catchers) :
    ∃ documents, Json.lookup "Catch" fields = some (.array documents) ∧
      ∃ document ∈ documents, Catcher.read? document = some catcher ∧
        ∀ members, document = .object members → catcher.Native dialect := by
  rcases checks_of_checkFields checked with ⟨type, checks⟩
  rcases Record.exists_of_list reads.common.catchers isCatcher with
    ⟨documents, found, document, isDocument, read⟩
  rw [Record.lookup_filter] at found
  have found : Json.lookup "Catch" fields = some (.array documents) := by
    split at found
    · exact found
    · cases found
  refine ⟨documents, found, document, isDocument, read, ?_⟩
  rintro members rfl
  have catchers := checks.catchers
  rw [checkCatchers, found] at catchers
  simp only at catchers
  split at catchers
  case isTrue => cases catchers
  case isFalse native =>
    have missing : Json.lookup (foreignCatchField dialect) members = none := by
      by_contra present
      refine native (List.any_eq_true.mpr ⟨_, isDocument, ?_⟩)
      exact Option.isSome_iff_ne_none.mpr present
    exact native_of_read? read missing

end Checks

end Definition

end Workflow
