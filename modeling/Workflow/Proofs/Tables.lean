import Mathlib
import Workflow.Proofs.Likeness

/-!
# Tables

What is kept of the fields of each record of a definition. Fields that must be there and paths keep
everything, optional fields lose a null, lists of policies are lost when they are empty, and
whatever a record does not know is lost.
-/

namespace Workflow

open Json (Anything NonNull Every Filled Exact IsText NamesDialect)
open Record (Table Kept Law Lawful Copies)

namespace Record

variable {α : Type} {read : Json → Option α} {write : α → Json} {kept : Json → Prop}

theorem copies_names : Copies (list Json.string?) namesToJson Anything where
  strict := rfl
  alike value found proper was := by
    have alike := copies_string.list.alike value found proper was
    exact iff_of_true (alike.mpr fun _ _ _ _ => trivial) trivial

/-- A record that is an object is copied as far as its table says, one that is a list of fields is
not. -/
theorem copies_record {fieldsOf : α → List (String × Option Json)} {table : Table}
    (strict : read .null = none) (nodup : ∀ found, ((fieldsOf found).map Prod.fst).Nodup)
    (lawful : ∀ fields found, Proper fields → read (.object fields) = some found →
      Lawful fields (fieldsOf found) table) :
    Copies read (fun found => object (fieldsOf found)) (Kept table) where
  strict := strict
  alike value found proper was := by
    cases value with
    | object fields =>
      have laws := lawful fields found (proper_of_object proper) was
      exact laws.alike_iff (nodup found) proper.sorted.1
    | _ => exact iff_of_false id id

/-- The text of an expression is copied as it is. -/
theorem Copies.given (copies : Copies read write kept) (texts : ∀ text, kept (.string text)) :
    Copies (Given.read? read) (Given.toJson write) kept where
  strict := by simp only [Given.read?, copies.strict]
  alike value given proper was := by
    cases fits : read value with
    | some found =>
      simp only [Given.read?, fits, Option.some.injEq] at was
      subst was
      exact copies.alike value found proper fits
    | none =>
      cases value with
      | string text =>
        simp only [Given.read?, fits, Option.some.injEq] at was
        subst was
        exact iff_of_true (Json.alike_refl _) (texts text)
      | _ =>
        simp only [Given.read?, fits] at was
        cases was

end Record

/-! ## Settings -/

/-- What is kept of a setting. -/
def Setting.table (kept : Json → Prop) (name : String) : Table :=
  [(name, NonNull kept), (name ++ "Path", NonNull Anything)]

theorem Setting.Read.lawful {α : Type} {literal : Json → Option α} {write : α → Json}
    {kept : Json → Prop} (copies : Copies literal write kept) (texts : ∀ text, kept (.string text))
    {name : String} {fields : Record.Fields} (own : Record.Proper fields) {setting : Setting α}
    (read : setting.Read literal name fields) :
    Lawful fields (setting.toFields write name) (Setting.table kept name) :=
  .cons ((copies.given texts).optional own read.given)
    (.cons (Record.copies_string.optional own read.path) .nil)

theorem Setting.Read.lawful_unsigned {name : String} {fields : Record.Fields}
    (own : Record.Proper fields) {setting : Setting Nat}
    (read : setting.Read Json.toUnsigned? name fields) :
    Lawful fields (setting.toFields Json.nat name) (Setting.table Anything name) :=
  read.lawful Record.copies_unsigned (fun _ => trivial) own

theorem TextSetting.Read.lawful {name : String} {fields : Record.Fields}
    (own : Record.Proper fields) {setting : TextSetting} (read : setting.Read name fields) :
    Lawful fields (setting.toFields name) (Setting.table Anything name) :=
  .cons (Record.copies_string.optional own read.text)
    (.cons (Record.copies_string.optional own read.path) .nil)

/-! ## Policies -/

def Retrier.table : Table :=
  [("ErrorEquals", Anything), ("IntervalSeconds", NonNull Anything),
   ("MaxAttempts", NonNull Anything), ("BackoffRate", NonNull Exact),
   ("MaxDelaySeconds", NonNull Anything), ("JitterStrategy", NonNull IsText),
   ("Comment", NonNull Anything)]

theorem Retrier.copies : Copies Retrier.read? Retrier.toJson (Kept Retrier.table) := by
  refine Record.copies_record rfl (fun _ => by simp) fun fields retrier own was => ?_
  rcases Retrier.read?_iff.mp was with ⟨_, isRecord, read⟩
  cases isRecord
  exact .cons (Record.copies_names.required own read.errorEquals)
    (.cons (Record.copies_unsigned.optional own read.interval)
    (.cons (Record.copies_small.optional own read.attempts)
    (.cons (Record.copies_float.optional own read.rate)
    (.cons (Record.copies_unsigned.optional own read.maxDelay)
    (.cons (Record.copies_jitter.optional own read.jitter)
    (.cons (Record.copies_string.optional own read.comment) .nil))))))

def Catcher.table : Table :=
  [("ErrorEquals", Anything), ("Next", Anything), ("ResultPath", Anything),
   ("Output", NonNull Anything), ("Assign", NonNull Anything), ("Comment", NonNull Anything)]

theorem Catcher.copies : Copies Catcher.read? Catcher.toJson (Kept Catcher.table) := by
  refine Record.copies_record rfl (fun _ => by simp) fun fields catcher own was => ?_
  rcases Catcher.read?_iff.mp was with ⟨_, isRecord, read⟩
  cases isRecord
  exact .cons (Record.copies_names.required own read.errorEquals)
    (.cons (Record.copies_string.required own read.next)
    (.cons (Record.nullable_law read.resultPath)
    (.cons (Record.any_law read.output)
    (.cons (Record.any_law read.assign)
    (.cons (Record.copies_string.optional own read.comment) .nil)))))

/-! ## Map records -/

/-- What is kept of the settings of an item reader: those that it does not know are passed on. -/
def ReaderConfig.table (fields : Record.Fields) : Table :=
  Setting.table Anything "MaxItems" ++
    (Json.erase "MaxItems" (Json.erase "MaxItemsPath" fields)).map fun (name, _) => (name, Anything)

/-- Whether all settings of an item reader are kept. -/
def ReaderConfig.Kept : Json → Prop
  | .object fields => Record.Fits (ReaderConfig.table fields) fields
  | _ => False

/-- Settings that are passed on are kept as they are. -/
theorem Record.lawful_present {fields extra : Record.Fields}
    (present : ∀ name value, (name, value) ∈ extra → Json.lookup name fields = some value) :
    Lawful fields (extra.map fun (name, value) => (name, some value))
      (extra.map fun (name, _) => (name, Anything)) := by
  induction extra with
  | nil => exact .nil
  | cons first rest ih =>
    rcases first with ⟨name, value⟩
    refine .cons ?_ (ih fun name value mem => present name value (List.mem_cons_of_mem _ mem))
    rw [Law, present name value List.mem_cons_self]
    exact iff_of_true (Json.alike_refl value) fun _ _ => trivial

theorem ReaderConfig.copies :
    Copies ReaderConfig.read? ReaderConfig.toJson ReaderConfig.Kept where
  strict := rfl
  alike value config proper was := by
    have separate := ReaderConfig.separate_of_read? proper was
    cases value with
    | object fields =>
      rw [ReaderConfig.read?] at was
      rcases Option.bind_eq_some_iff.mp was with ⟨maxItems, maxItemsWas, was⟩
      cases was
      have own := Record.proper_of_object proper
      have sublist := (Json.erase_sublist "MaxItems" _).trans
        (Json.erase_sublist "MaxItemsPath" fields)
      have laws := ((Setting.read?_iff.mp maxItemsWas).lawful_unsigned own).append
        (Record.lawful_present fun name value mem =>
          Json.lookup_of_mem proper.sorted.1 (sublist.subset mem))
      exact laws.alike_iff separate.nodup proper.sorted.1
    | _ => cases was

def ItemReader.table : Table :=
  [("Resource", Anything), ("ReaderConfig", NonNull ReaderConfig.Kept),
   ("Parameters", NonNull Anything), ("Arguments", NonNull Anything)]

theorem ItemReader.copies : Copies ItemReader.read? ItemReader.toJson (Kept ItemReader.table) := by
  refine Record.copies_record rfl (fun _ => by simp) fun fields reader own was => ?_
  rcases ItemReader.read?_iff.mp was with ⟨_, isRecord, read⟩
  cases isRecord
  exact .cons (Record.copies_string.required own read.resource)
    (.cons (ReaderConfig.copies.optional own read.config)
    (.cons (Record.any_law read.parameters)
    (.cons (Record.any_law read.arguments) .nil)))

def ItemBatcher.table : Table :=
  Setting.table Anything "MaxItemsPerBatch" ++ Setting.table Anything "MaxInputBytesPerBatch" ++
    [("BatchInput", NonNull Anything)]

theorem ItemBatcher.copies :
    Copies ItemBatcher.read? ItemBatcher.toJson (Kept ItemBatcher.table) := by
  refine Record.copies_record rfl (fun _ => by simp [Setting.toFields]) ?_
  intro fields batcher own was
  rcases ItemBatcher.read?_iff.mp was with ⟨_, isRecord, read⟩
  cases isRecord
  exact ((read.maxItems.lawful_unsigned own).append (read.maxBytes.lawful_unsigned own)).append
    (.cons (Record.any_law read.batchInput) .nil)

def ResultWriter.table : Table :=
  [("Resource", Anything), ("WriterConfig", NonNull Anything),
   ("Parameters", NonNull Anything), ("Arguments", NonNull Anything)]

theorem ResultWriter.copies :
    Copies ResultWriter.read? ResultWriter.toJson (Kept ResultWriter.table) := by
  refine Record.copies_record rfl (fun _ => by simp) fun fields writer own was => ?_
  rcases ResultWriter.read?_iff.mp was with ⟨_, isRecord, read⟩
  cases isRecord
  exact .cons (Record.copies_string.required own read.resource)
    (.cons (Record.any_law read.config)
    (.cons (Record.any_law read.parameters)
    (.cons (Record.any_law read.arguments) .nil)))

def Mapping.table : Table :=
  [("Items", NonNull Anything), ("ItemsPath", NonNull Anything),
   ("ItemSelector", NonNull Anything), ("ItemReader", NonNull (Kept ItemReader.table)),
   ("ItemBatcher", NonNull (Kept ItemBatcher.table)),
   ("ResultWriter", NonNull (Kept ResultWriter.table)), ("Label", NonNull Anything)] ++
  Setting.table Anything "MaxConcurrency" ++ Setting.table Anything "ToleratedFailureCount" ++
  Setting.table Exact "ToleratedFailurePercentage"

/-! ## States -/

def Common.table : Table :=
  [("Comment", NonNull Anything), ("QueryLanguage", NonNull NamesDialect),
   ("Next", NonNull Anything), ("End", NonNull Anything), ("InputPath", Anything),
   ("OutputPath", Anything), ("ResultPath", Anything), ("Parameters", NonNull Anything),
   ("ResultSelector", NonNull Anything), ("Arguments", NonNull Anything),
   ("Output", NonNull Anything), ("Assign", NonNull Anything),
   ("Retry", Filled (Kept Retrier.table)), ("Catch", Filled (Kept Catcher.table))]

def Task.table : Table :=
  [("Resource", Anything), ("Credentials", NonNull Anything)] ++
  Setting.table Anything "TimeoutSeconds" ++ Setting.table Anything "HeartbeatSeconds"

section States

variable {fields : Record.Fields} (own : Record.Proper fields)

include own

theorem Mapping.Read.lawful {mapping : Mapping} (read : mapping.Read fields) :
    Lawful fields mapping.toFields Mapping.table := by
  have named : Lawful fields _ _ :=
    .cons (Record.any_law read.items)
      (.cons (Record.copies_string.optional own read.itemsPath)
      (.cons (Record.any_law read.itemSelector)
      (.cons (ItemReader.copies.optional own read.reader)
      (.cons (ItemBatcher.copies.optional own read.batcher)
      (.cons (ResultWriter.copies.optional own read.writer)
      (.cons (Record.copies_string.optional own read.label) .nil))))))
  exact ((named.append (read.concurrency.lawful_unsigned own)).append
    (read.count.lawful_unsigned own)).append
      (read.percentage.lawful Record.copies_float (fun _ => trivial) own)

theorem Task.Read.lawful {task : Task} (read : task.Read fields) :
    Lawful fields (StateKind.task task).toFields Task.table := by
  have named : Lawful fields _ _ :=
    .cons (Record.copies_string.required own read.resource)
      (.cons (Record.any_law read.credentials) .nil)
  exact (named.append (read.timeout.lawful_unsigned own)).append
    (read.heartbeat.lawful_unsigned own)

theorem Common.Read.lawful {common : Common} (read : common.Read fields) :
    Lawful fields common.toFields Common.table :=
  .cons (Record.copies_string.optional own read.comment)
    (.cons (Record.copies_dialect.optional own read.dialect)
    (.cons (Record.copies_string.optional own read.next)
    (.cons (Record.copies_bool.optional own read.ends)
    (.cons (Record.nullable_law read.inputPath)
    (.cons (Record.nullable_law read.outputPath)
    (.cons (Record.nullable_law read.resultPath)
    (.cons (Record.any_law read.parameters)
    (.cons (Record.any_law read.resultSelector)
    (.cons (Record.any_law read.arguments)
    (.cons (Record.any_law read.output)
    (.cons (Record.any_law read.assign)
    (.cons (Retrier.copies.orElse own read.retriers)
    (.cons (Catcher.copies.orElse own read.catchers) .nil)))))))))))))

end States

end Workflow
