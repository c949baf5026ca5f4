import Workflow.Definition.Reader

/-!
# Inversions

What each record of a definition is read from. A reader succeeds just in case every field of its
record is read, so its success is the conjunction of these readings.
-/

namespace Workflow

open Record (optional orElse required nullable)

/-! ## Settings -/

/-- What a setting is read from. -/
structure Setting.Read {α : Type} (literal : Json → Option α) (name : String)
    (fields : Record.Fields) (setting : Setting α) : Prop where
  given : optional (Given.read? literal) name fields = some setting.given
  path : optional Json.string? (name ++ "Path") fields = some setting.path

theorem Setting.read?_iff {α : Type} {literal : Json → Option α} {name : String}
    {fields : Record.Fields} {setting : Setting α} :
    Setting.read? literal name fields = some setting ↔ setting.Read literal name fields := by
  rw [Setting.read?]
  constructor
  · intro was
    rcases Option.bind_eq_some_iff.mp was with ⟨given, givenWas, was⟩
    rcases Option.bind_eq_some_iff.mp was with ⟨path, pathWas, was⟩
    cases was
    exact ⟨givenWas, pathWas⟩
  · rintro ⟨given, path⟩
    simp only [given, path, Option.bind_eq_bind, Option.bind_some]
    rfl

structure TextSetting.Read (name : String) (fields : Record.Fields) (setting : TextSetting) :
    Prop where
  text : optional Json.string? name fields = some setting.text
  path : optional Json.string? (name ++ "Path") fields = some setting.path

theorem TextSetting.read?_iff {name : String} {fields : Record.Fields} {setting : TextSetting} :
    TextSetting.read? name fields = some setting ↔ setting.Read name fields := by
  rw [TextSetting.read?]
  constructor
  · intro was
    rcases Option.bind_eq_some_iff.mp was with ⟨text, textWas, was⟩
    rcases Option.bind_eq_some_iff.mp was with ⟨path, pathWas, was⟩
    cases was
    exact ⟨textWas, pathWas⟩
  · rintro ⟨text, path⟩
    simp only [text, path, Option.bind_eq_bind, Option.bind_some]
    rfl

/-! ## Policies -/

structure Retrier.Read (fields : Record.Fields) (retrier : Retrier) : Prop where
  errorEquals : required (Record.list Json.string?) "ErrorEquals" fields = some retrier.errorEquals
  interval : optional Json.toUnsigned? "IntervalSeconds" fields = some retrier.intervalSeconds
  attempts : optional Json.toSmall? "MaxAttempts" fields = some retrier.maxAttempts
  rate : optional Record.float? "BackoffRate" fields = some retrier.backoffRate
  maxDelay : optional Json.toUnsigned? "MaxDelaySeconds" fields = some retrier.maxDelaySeconds
  jitter : optional Retrier.readJitter? "JitterStrategy" fields = some retrier.fullJitter
  comment : optional Json.string? "Comment" fields = some retrier.comment

theorem Retrier.read?_iff {document : Json} {retrier : Retrier} :
    Retrier.read? document = some retrier ↔ ∃ fields, Record.fields? ["ErrorEquals",
      "IntervalSeconds", "MaxAttempts", "BackoffRate", "MaxDelaySeconds", "JitterStrategy",
      "Comment"] document = some fields ∧ retrier.Read fields := by
  rw [Retrier.read?]
  constructor
  · intro was
    rcases Option.bind_eq_some_iff.mp was with ⟨fields, isRecord, was⟩
    rcases Option.bind_eq_some_iff.mp was with ⟨errorEquals, errorEqualsWas, was⟩
    rcases Option.bind_eq_some_iff.mp was with ⟨interval, intervalWas, was⟩
    rcases Option.bind_eq_some_iff.mp was with ⟨attempts, attemptsWas, was⟩
    rcases Option.bind_eq_some_iff.mp was with ⟨rate, rateWas, was⟩
    rcases Option.bind_eq_some_iff.mp was with ⟨maxDelay, maxDelayWas, was⟩
    rcases Option.bind_eq_some_iff.mp was with ⟨jitter, jitterWas, was⟩
    rcases Option.bind_eq_some_iff.mp was with ⟨comment, commentWas, was⟩
    cases was
    exact ⟨fields, isRecord, errorEqualsWas, intervalWas, attemptsWas, rateWas, maxDelayWas,
      jitterWas, commentWas⟩
  · rintro ⟨fields, isRecord, errorEquals, interval, attempts, rate, maxDelay, jitter, comment⟩
    simp only [isRecord, errorEquals, interval, attempts, rate, maxDelay, jitter, comment,
      Option.bind_eq_bind, Option.bind_some]
    rfl

structure Catcher.Read (fields : Record.Fields) (catcher : Catcher) : Prop where
  errorEquals : required (Record.list Json.string?) "ErrorEquals" fields = some catcher.errorEquals
  next : required Json.string? "Next" fields = some catcher.next
  resultPath : nullable Json.string? "ResultPath" fields = some catcher.resultPath
  output : catcher.output = Record.any "Output" fields
  assign : catcher.assign = Record.any "Assign" fields
  comment : optional Json.string? "Comment" fields = some catcher.comment

theorem Catcher.read?_iff {document : Json} {catcher : Catcher} :
    Catcher.read? document = some catcher ↔ ∃ fields, Record.fields? ["ErrorEquals", "Next",
      "ResultPath", "Output", "Assign", "Comment"] document = some fields ∧
        catcher.Read fields := by
  rw [Catcher.read?]
  constructor
  · intro was
    rcases Option.bind_eq_some_iff.mp was with ⟨fields, isRecord, was⟩
    rcases Option.bind_eq_some_iff.mp was with ⟨errorEquals, errorEqualsWas, was⟩
    rcases Option.bind_eq_some_iff.mp was with ⟨next, nextWas, was⟩
    rcases Option.bind_eq_some_iff.mp was with ⟨resultPath, resultPathWas, was⟩
    rcases Option.bind_eq_some_iff.mp was with ⟨comment, commentWas, was⟩
    cases was
    exact ⟨fields, isRecord, errorEqualsWas, nextWas, resultPathWas, rfl, rfl, commentWas⟩
  · rintro ⟨fields, isRecord, errorEquals, next, resultPath, output, assign, comment⟩
    simp only [isRecord, errorEquals, next, resultPath, ← output, ← assign, comment,
      Option.bind_eq_bind, Option.bind_some]
    rfl

/-! ## Map records -/

structure ItemReader.Read (fields : Record.Fields) (reader : ItemReader) : Prop where
  resource : required Json.string? "Resource" fields = some reader.resource
  config : optional ReaderConfig.read? "ReaderConfig" fields = some reader.config
  parameters : reader.parameters = Record.any "Parameters" fields
  arguments : reader.arguments = Record.any "Arguments" fields

theorem ItemReader.read?_iff {document : Json} {reader : ItemReader} :
    ItemReader.read? document = some reader ↔ ∃ fields, Record.fields? ["Resource",
      "ReaderConfig", "Parameters", "Arguments"] document = some fields ∧ reader.Read fields := by
  rw [ItemReader.read?]
  constructor
  · intro was
    rcases Option.bind_eq_some_iff.mp was with ⟨fields, isRecord, was⟩
    rcases Option.bind_eq_some_iff.mp was with ⟨resource, resourceWas, was⟩
    rcases Option.bind_eq_some_iff.mp was with ⟨config, configWas, was⟩
    cases was
    exact ⟨fields, isRecord, resourceWas, configWas, rfl, rfl⟩
  · rintro ⟨fields, isRecord, resource, config, parameters, arguments⟩
    simp only [isRecord, resource, config, ← parameters, ← arguments, Option.bind_eq_bind,
      Option.bind_some]
    rfl

structure ItemBatcher.Read (fields : Record.Fields) (batcher : ItemBatcher) : Prop where
  maxItems : batcher.maxItems.Read Json.toUnsigned? "MaxItemsPerBatch" fields
  maxBytes : batcher.maxBytes.Read Json.toUnsigned? "MaxInputBytesPerBatch" fields
  batchInput : batcher.batchInput = Record.any "BatchInput" fields

theorem ItemBatcher.read?_iff {document : Json} {batcher : ItemBatcher} :
    ItemBatcher.read? document = some batcher ↔ ∃ fields, Record.fields? ["MaxItemsPerBatch",
      "MaxItemsPerBatchPath", "MaxInputBytesPerBatch", "MaxInputBytesPerBatchPath",
      "BatchInput"] document = some fields ∧ batcher.Read fields := by
  rw [ItemBatcher.read?]
  constructor
  · intro was
    rcases Option.bind_eq_some_iff.mp was with ⟨fields, isRecord, was⟩
    rcases Option.bind_eq_some_iff.mp was with ⟨maxItems, maxItemsWas, was⟩
    rcases Option.bind_eq_some_iff.mp was with ⟨maxBytes, maxBytesWas, was⟩
    cases was
    exact ⟨fields, isRecord, Setting.read?_iff.mp maxItemsWas, Setting.read?_iff.mp maxBytesWas,
      rfl⟩
  · rintro ⟨fields, isRecord, maxItems, maxBytes, batchInput⟩
    simp only [isRecord, Setting.read?_iff.mpr maxItems, Setting.read?_iff.mpr maxBytes,
      ← batchInput, Option.bind_eq_bind, Option.bind_some]
    rfl

structure ResultWriter.Read (fields : Record.Fields) (writer : ResultWriter) : Prop where
  resource : required Json.string? "Resource" fields = some writer.resource
  config : writer.config = Record.any "WriterConfig" fields
  parameters : writer.parameters = Record.any "Parameters" fields
  arguments : writer.arguments = Record.any "Arguments" fields

theorem ResultWriter.read?_iff {document : Json} {writer : ResultWriter} :
    ResultWriter.read? document = some writer ↔ ∃ fields, Record.fields? ["Resource",
      "WriterConfig", "Parameters", "Arguments"] document = some fields ∧ writer.Read fields := by
  rw [ResultWriter.read?]
  constructor
  · intro was
    rcases Option.bind_eq_some_iff.mp was with ⟨fields, isRecord, was⟩
    rcases Option.bind_eq_some_iff.mp was with ⟨resource, resourceWas, was⟩
    cases was
    exact ⟨fields, isRecord, resourceWas, rfl, rfl, rfl⟩
  · rintro ⟨fields, isRecord, resource, config, parameters, arguments⟩
    simp only [isRecord, resource, ← config, ← parameters, ← arguments, Option.bind_eq_bind,
      Option.bind_some]
    rfl

/-- What a Map does beside running its processor is read from. -/
structure Mapping.Read (fields : Record.Fields) (mapping : Mapping) : Prop where
  items : mapping.items = Record.any "Items" fields
  itemsPath : optional Json.string? "ItemsPath" fields = some mapping.itemsPath
  itemSelector : mapping.itemSelector = Record.any "ItemSelector" fields
  reader : optional ItemReader.read? "ItemReader" fields = some mapping.reader
  batcher : optional ItemBatcher.read? "ItemBatcher" fields = some mapping.batcher
  writer : optional ResultWriter.read? "ResultWriter" fields = some mapping.writer
  concurrency : mapping.maxConcurrency.Read Json.toUnsigned? "MaxConcurrency" fields
  count : mapping.toleratedCount.Read Json.toUnsigned? "ToleratedFailureCount" fields
  percentage : mapping.toleratedPercentage.Read Record.float? "ToleratedFailurePercentage" fields
  label : optional Json.string? "Label" fields = some mapping.label

theorem Mapping.read?_iff {fields : Record.Fields} {mapping : Mapping} :
    Mapping.read? fields = some mapping ↔ mapping.Read fields := by
  rw [Mapping.read?]
  constructor
  · intro was
    rcases Option.bind_eq_some_iff.mp was with ⟨itemsPath, itemsPathWas, was⟩
    rcases Option.bind_eq_some_iff.mp was with ⟨reader, readerWas, was⟩
    rcases Option.bind_eq_some_iff.mp was with ⟨batcher, batcherWas, was⟩
    rcases Option.bind_eq_some_iff.mp was with ⟨writer, writerWas, was⟩
    rcases Option.bind_eq_some_iff.mp was with ⟨concurrency, concurrencyWas, was⟩
    rcases Option.bind_eq_some_iff.mp was with ⟨count, countWas, was⟩
    rcases Option.bind_eq_some_iff.mp was with ⟨percentage, percentageWas, was⟩
    rcases Option.bind_eq_some_iff.mp was with ⟨label, labelWas, was⟩
    cases was
    exact
      { items := rfl
        itemsPath := itemsPathWas
        itemSelector := rfl
        reader := readerWas
        batcher := batcherWas
        writer := writerWas
        concurrency := Setting.read?_iff.mp concurrencyWas
        count := Setting.read?_iff.mp countWas
        percentage := Setting.read?_iff.mp percentageWas
        label := labelWas }
  · intro read
    simp only [read.itemsPath, read.reader, read.batcher, read.writer,
      Setting.read?_iff.mpr read.concurrency, Setting.read?_iff.mpr read.count,
      Setting.read?_iff.mpr read.percentage, read.label, ← read.items, ← read.itemSelector,
      Option.bind_eq_bind, Option.bind_some]
    rfl

/-! ## States -/

structure Task.Read (fields : Record.Fields) (task : Task) : Prop where
  resource : required Json.string? "Resource" fields = some task.resource
  timeout : task.timeout.Read Json.toUnsigned? "TimeoutSeconds" fields
  heartbeat : task.heartbeat.Read Json.toUnsigned? "HeartbeatSeconds" fields
  credentials : task.credentials = Record.any "Credentials" fields

theorem Task.read?_iff {fields : Record.Fields} {task : Task} :
    Task.read? fields = some task ↔ task.Read fields := by
  rw [Task.read?]
  constructor
  · intro was
    rcases Option.bind_eq_some_iff.mp was with ⟨resource, resourceWas, was⟩
    rcases Option.bind_eq_some_iff.mp was with ⟨timeout, timeoutWas, was⟩
    rcases Option.bind_eq_some_iff.mp was with ⟨heartbeat, heartbeatWas, was⟩
    cases was
    exact ⟨resourceWas, Setting.read?_iff.mp timeoutWas, Setting.read?_iff.mp heartbeatWas, rfl⟩
  · rintro ⟨resource, timeout, heartbeat, credentials⟩
    simp only [resource, Setting.read?_iff.mpr timeout, Setting.read?_iff.mpr heartbeat,
      ← credentials, Option.bind_eq_bind, Option.bind_some]
    rfl

/-- What states have in common, read from the fields that their type knows. -/
structure Common.Read (known : Record.Fields) (common : Common) : Prop where
  comment : optional Json.string? "Comment" known = some common.comment
  dialect : optional Dialect.read? "QueryLanguage" known = some common.dialect
  next : optional Json.string? "Next" known = some common.next
  ends : optional Json.bool? "End" known = some common.ends
  inputPath : nullable Json.string? "InputPath" known = some common.inputPath
  outputPath : nullable Json.string? "OutputPath" known = some common.outputPath
  resultPath : nullable Json.string? "ResultPath" known = some common.resultPath
  retriers : orElse (Record.list Retrier.read?) [] "Retry" known = some common.retriers
  catchers : orElse (Record.list Catcher.read?) [] "Catch" known = some common.catchers
  parameters : common.parameters = Record.any "Parameters" known
  resultSelector : common.resultSelector = Record.any "ResultSelector" known
  arguments : common.arguments = Record.any "Arguments" known
  output : common.output = Record.any "Output" known
  assign : common.assign = Record.any "Assign" known

theorem Common.read?_iff {type : StateType} {fields : Record.Fields} {common : Common} :
    Common.read? type fields = some common ↔
      common.Read (fields.filter fun (name, _) => type.knows name) := by
  rw [Common.read?]
  constructor
  · intro was
    rcases Option.bind_eq_some_iff.mp was with ⟨comment, commentWas, was⟩
    rcases Option.bind_eq_some_iff.mp was with ⟨dialect, dialectWas, was⟩
    rcases Option.bind_eq_some_iff.mp was with ⟨next, nextWas, was⟩
    rcases Option.bind_eq_some_iff.mp was with ⟨ends, endsWas, was⟩
    rcases Option.bind_eq_some_iff.mp was with ⟨inputPath, inputPathWas, was⟩
    rcases Option.bind_eq_some_iff.mp was with ⟨outputPath, outputPathWas, was⟩
    rcases Option.bind_eq_some_iff.mp was with ⟨resultPath, resultPathWas, was⟩
    rcases Option.bind_eq_some_iff.mp was with ⟨retriers, retriersWas, was⟩
    rcases Option.bind_eq_some_iff.mp was with ⟨catchers, catchersWas, was⟩
    cases was
    exact ⟨commentWas, dialectWas, nextWas, endsWas, inputPathWas, outputPathWas, resultPathWas,
      retriersWas, catchersWas, rfl, rfl, rfl, rfl, rfl⟩
  · intro read
    simp only [read.comment, read.dialect, read.next, read.ends, read.inputPath, read.outputPath,
      read.resultPath, read.retriers, read.catchers, ← read.parameters, ← read.resultSelector,
      ← read.arguments, ← read.output, ← read.assign, Option.bind_eq_bind, Option.bind_some]
    rfl

end Workflow
