import Workflow.Proofs.Branches
import Workflow.Proofs.Numerals
import Workflow.Proofs.Scanning
import Workflow.Proofs.Scoping
import Workflow.Proofs.Waves

/-!
# Writes

The outputs of a Map are written side by side, and the calls of the writer complete in any order.
What each of them comes to is taken as given. A tally of writes holds the values by their places and
the complaints in the order of completion; that order is lost when they are sorted, since there is
only one way to put texts in order. So how the state ends is a function of what the calls come to.
-/

namespace Workflow.Engine

open Decimal (natText digits)
open Visit (WriteTally)

/-! ## Calls of a resource -/

/-- What a call of a resource comes to when it is answered. -/
def replied (resource : String) (timeout : Option Nat) : Reply → Outcome
  | .output value => .ok value
  | .failed failure => .error (.failed failure)
  | .crashed => .error (.reserved .taskFailed ("resource '" ++ resource ++ "' did not complete: "))
  | .late =>
    .error <| .reserved .timeout <|
      "resource '" ++ resource ++ "' did not complete within " ++ natText (timeout.getD 0) ++
        " seconds"
  | .unknown => .error (.unknownResource resource)

theorem invoke_eq (resource : String) (input : Json) (timeout : Option Nat) :
    (invoke resource input timeout).run =
      .ask (.call resource input timeout) fun reply => .done (replied resource timeout reply) := by
  refine congrArg (Program.ask _) (funext fun reply => ?_)
  cases reply <;> rfl

/-! ## Texts in order -/

/-- Whether a text may stand before another one. -/
def precedes (left right : String) : Bool := !decide (right < left)

theorem precedes_iff {left right : String} : precedes left right = true ↔ left ≤ right := by
  rw [precedes, Bool.not_eq_true', decide_eq_false_iff_not]
  exact String.not_lt

/-- Texts in increasing order. -/
def inOrder (texts : List String) : List String := texts.mergeSort precedes

theorem pairwise_inOrder (texts : List String) : (inOrder texts).Pairwise (· ≤ ·) := by
  refine (List.pairwise_mergeSort ?_ ?_ texts).imp precedes_iff.mp
  · intro first second third before after
    exact precedes_iff.mpr (String.le_trans (precedes_iff.mp before) (precedes_iff.mp after))
  · intro left right
    rw [Bool.or_eq_true, precedes_iff, precedes_iff]
    exact String.le_total left right

theorem inOrder_perm (texts : List String) : (inOrder texts).Perm texts :=
  List.mergeSort_perm texts precedes

theorem inOrder_eq_nil_iff {texts : List String} : inOrder texts = [] ↔ texts = [] := by
  constructor
  · intro empty
    have perm := inOrder_perm texts
    rw [empty] at perm
    exact perm.nil_eq.symm
  · rintro rfl
    exact (inOrder_perm []).eq_nil

/-- There is one way to put texts in order. -/
theorem inOrder_eq_of_perm {texts others : List String} (perm : texts.Perm others) :
    inOrder texts = inOrder others := by
  have same : (inOrder texts).Perm (inOrder others) :=
    (inOrder_perm texts).trans (perm.trans (inOrder_perm others).symm)
  refine same.eq_of_pairwise ?_ (pairwise_inOrder texts) (pairwise_inOrder others)
  intro left right _ _
  exact String.le_antisymm

/-! ## What writes come to -/

section Results

variable (results : Nat → Except Failure Json)

/-- How the call at a place ends. -/
abbrev outcomeAt (place : Nat) : Outcome := (results place).mapError .failed

/-- What the call at a place leaves there: its value, or `null` when it failed. -/
def valueAt (place : Nat) : Json := outputOf (outcomeAt results place)

/-- What is said of a failed call, with the place of its output. -/
def complaint (place : Nat) (failure : Failure) : String :=
  "output " ++ natText place ++ ": " ++ failure.shown

/-- What is said of the call at a place, if it failed. -/
def complaint? (place : Nat) : Option String :=
  match results place with
  | .ok _ => none
  | .error failure => some (complaint place failure)

/-- What is said of all calls, in the order of the texts. -/
def complaints (count : Nat) : List String :=
  inOrder ((List.range count).filterMap (complaint? results))

/-- How the calls are told of. -/
def failedWrites (name : String) (count : Nat) (texts : List String) : Fault :=
  .reserved .resultWriterFailed <|
    natText texts.length ++ " of " ++ natText count ++ " writes failed in Map state '" ++ name ++
      "': " ++ String.intercalate "; " texts

/-- What writes come to, by what each call comes to. -/
def writeVerdict (name : String) (count : Nat) : Outcome :=
  match complaints results count with
  | [] => .ok (.array ((List.range count).map (valueAt results)))
  | texts => .error (failedWrites name count texts)

variable {results} {count : Nat}

theorem valueAt_of_ok {place : Nat} {value : Json} (succeeds : results place = .ok value) :
    valueAt results place = value := by
  rw [valueAt, outcomeAt, succeeds]
  rfl

theorem valueAt_of_error {place : Nat} {failure : Failure}
    (fails : results place = .error failure) : valueAt results place = .null := by
  rw [valueAt, outcomeAt, fails]
  rfl

/-- A complaint tells which output it is about. -/
theorem complaint_inj {place other : Nat} {failure further : Failure}
    (same : complaint place failure = complaint other further) : place = other := by
  have chars := congrArg String.toList same
  simp only [complaint, natText, String.toList_append, String.toList_ofList, List.append_assoc,
    List.append_cancel_left_eq] at chars
  have numeral (number : Nat) (rest : List Char) :
      (digits number ++ (": ".toList ++ rest)).takeWhile Decimal.isDigit = digits number := by
    refine (Path.span_append (fun _ => Decimal.isDigit_of_mem_digits) ?_).1
    rintro _ ⟨⟩
    decide
  have sameDigits := congrArg (List.takeWhile Decimal.isDigit) chars
  rw [numeral, numeral] at sameDigits
  rw [← Decimal.nat_digits place, sameDigits, Decimal.nat_digits]

theorem complaint?_eq_some_iff {place : Nat} {text : String} :
    complaint? results place = some text ↔
      ∃ failure, results place = .error failure ∧ text = complaint place failure := by
  rw [complaint?]
  cases results place <;> simp [eq_comm]

theorem nodup_complaints : (complaints results count).Nodup := by
  refine (inOrder_perm _).nodup_iff.mpr (List.nodup_range.filterMap ?_)
  intro place other text isFirst isSecond
  rcases complaint?_eq_some_iff.mp isFirst with ⟨failure, _, rfl⟩
  rcases complaint?_eq_some_iff.mp isSecond with ⟨further, _, same⟩
  exact complaint_inj same

/-- When no call fails, the values stand at the places of their outputs. -/
theorem writeVerdict_of_values {name : String} {values : List Json} (length : values.length = count)
    (succeed : ∀ place value, values[place]? = some value → results place = .ok value) :
    writeVerdict results name count = .ok (.array values) := by
  have at_place (place : Nat) (inside : place < values.length) :
      results place = .ok values[place] := succeed place _ (List.getElem?_eq_getElem inside)
  have silent : complaints results count = [] := by
    rw [complaints, inOrder_eq_nil_iff, List.filterMap_eq_nil_iff]
    intro place inside
    rw [complaint?, at_place place (length ▸ List.mem_range.mp inside)]
  have isValues : (List.range count).map (valueAt results) = values := by
    apply List.ext_getElem
    · simp [length]
    · intro place _ inside
      simpa using valueAt_of_ok (at_place place inside)
  rw [writeVerdict, silent, isValues]

/-- When a call fails, all that fail are told of. -/
theorem writeVerdict_of_failure {name : String} {place : Nat} {failure : Failure}
    (inside : place < count) (fails : results place = .error failure) :
    writeVerdict results name count =
      .error (failedWrites name count (complaints results count)) := by
  have told : complaint place failure ∈ complaints results count := by
    refine (inOrder_perm _).mem_iff.mpr (List.mem_filterMap.mpr ⟨place, ?_, ?_⟩)
    · exact List.mem_range.mpr inside
    · exact complaint?_eq_some_iff.mpr ⟨failure, fails, rfl⟩
  rw [writeVerdict]
  cases texts : complaints results count with
  | nil => simp [texts] at told
  | cons text rest => rfl

end Results

/-- What a tally of writes makes of a Map. -/
def Visit.WriteTally.outcome (name : String) (count : Nat) (tally : WriteTally) : Outcome :=
  match tally.fault, tally.failures with
  | some fault, _ => .error fault
  | none, [] => .ok (.array tally.written)
  | none, failures => .error (failedWrites name count (inOrder failures))

section Wrote

variable {results : Nat → Except Failure Json} {count : Nat} {seen left : List Nat}
  {tally : WriteTally}

/-- A tally that has taken in the call at a place. -/
def Visit.WriteTally.take (results : Nat → Except Failure Json) (tally : WriteTally)
    (place : Nat) : WriteTally :=
  match results place with
  | .ok value => { tally with written := tally.written.set place value }
  | .error failure => { tally with failures := tally.failures ++ [complaint place failure] }

/-- The tally goes on, whatever a call comes to. -/
theorem absorb_outcomeAt (results : Nat → Except Failure Json) (tally : WriteTally)
    (place : Nat) :
    tally.absorb place (.finished (outcomeAt results place)) =
      .more (tally.take results place) := by
  rw [WriteTally.take, outcomeAt]
  cases results place <;> rfl

/-- A tally describes the calls that were seen. -/
structure Wrote (results : Nat → Except Failure Json) (count : Nat) (seen left : List Nat)
    (tally : WriteTally) : Prop where
  whole : (seen ++ left).Perm (List.range count)
  written : tally.written = (List.range count).map fun place =>
    if place ∈ seen then valueAt results place else .null
  failures : tally.failures.Perm (seen.filterMap (complaint? results))
  fault : tally.fault = none

theorem wrote_start (results : Nat → Except Failure Json) (outputs : List Json) :
    Wrote results outputs.length [] (List.range outputs.length)
      { written := outputs.map fun _ => .null } where
  whole := .refl _
  written := by simp [List.map_const']
  failures := .refl _
  fault := rfl

/-- Whatever call completes next, the tally describes it too. -/
theorem Wrote.take (wrote : Wrote results count seen left tally) {place : Nat}
    (isLeft : place ∈ left) :
    Wrote results count (place :: seen) (left.erase place) (tally.take results place) := by
  have whole := (erase_perm seen isLeft).trans wrote.whole
  cases result : results place with
  | ok value =>
      have silent : complaint? results place = none := by rw [complaint?, result]
      rw [WriteTally.take, result]
      refine ⟨whole, ?_, ?_, wrote.fault⟩
      · dsimp only
        rw [wrote.written]
        apply List.ext_getElem
        · simp
        · intro index inside _
          by_cases here : place = index
          · subst here
            simpa using (valueAt_of_ok result).symm
          · simp [List.getElem_set_ne here, Ne.symm here]
      · rw [List.filterMap_cons_none silent]
        exact wrote.failures
  | error failure =>
      have complains : complaint? results place = some (complaint place failure) := by
        rw [complaint?, result]
      rw [WriteTally.take, result]
      refine ⟨whole, ?_, ?_, wrote.fault⟩
      · dsimp only
        rw [wrote.written]
        apply List.map_congr_left
        intro other _
        by_cases here : other = place
        · subst here
          simp [valueAt_of_error result]
        · simp [here]
      · rw [List.filterMap_cons_some complains]
        exact (List.perm_append_singleton _ _).trans (wrote.failures.cons _)

/-- A tally that has seen all calls makes of them what they come to. -/
theorem Wrote.outcome (wrote : Wrote results count seen [] tally) (name : String) :
    tally.outcome name count = writeVerdict results name count := by
  have all : seen.Perm (List.range count) := by
    simpa using wrote.whole
  have written : tally.written = (List.range count).map (valueAt results) := by
    rw [wrote.written]
    apply List.map_congr_left
    intro place inside
    rw [if_pos (all.mem_iff.mpr inside)]
  have failures : inOrder tally.failures = complaints results count :=
    inOrder_eq_of_perm (wrote.failures.trans (all.filterMap _))
  rw [WriteTally.outcome, writeVerdict, wrote.fault, ← failures, written]
  cases isEmpty : tally.failures with
  | nil => rw [inOrder_eq_nil_iff.mpr rfl]
  | cons text texts =>
      cases ordered : inOrder (text :: texts) with
      | nil => cases inOrder_eq_nil_iff.mp ordered
      | cons first rest => simp only [ordered]

end Wrote

/-! ## The group of writes -/

/-- Where a member of a group calls a resource, the call comes to what is given for its place. -/
def Answers (resource : String) (results : Nat → Except Failure Json)
    (entry : List Nat × Mark) : Prop :=
  ∀ place input (reply : Reply), entry = ([place], .asked (.call resource input none) reply) →
    replied resource none reply = outcomeAt results place

/-- The call for each output. -/
abbrev callsOf (writer : ResultWriter) (inputs : List Json) (index : Nat) : Program Outcome :=
  (invoke writer.resource (inputs.getD index .null) none).run

section Writing

variable {name : String} {writer : ResultWriter} {inputs : List Json} {count : Nat}
  {results : Nat → Except Failure Json}

/-- What a group of writes may be at: each call that is left is not answered yet, or it has come to
what is given for it. -/
inductive Writing (name : String) (writer : ResultWriter) (inputs : List Json) (count : Nat)
    (results : Nat → Except Failure Json) : Process Outcome → Prop where
  | going {seen left : List Nat} {member : Nat → Process Outcome} {tally : WriteTally}
      (wrote : Wrote results count seen left tally)
      (members : ∀ place ∈ left, member place = .alone (callsOf writer inputs place) ∨
        member place = .alone (.done (outcomeAt results place))) :
      Writing name writer inputs count results
        (.group left member false tally WriteTally.absorb fun tally =>
          .done (tally.outcome name count))
  | ended : Writing name writer inputs count results
      (.alone (.done (writeVerdict results name count)))

/-- A step of the group leads to what the group may be at, whichever call it answers or takes in. -/
theorem Writing.step {before after : Process Outcome} {entry : List Nat × Mark}
    (writing : Writing name writer inputs count results before) (step : Step before entry after)
    (calm : entry.2.Calm) (answers : Answers writer.resource results entry) :
    Writing name writer inputs count results after ∧ History.gathered [entry] = [] := by
  cases writing with
  | ended => cases step
  | @going seen left member tally wrote members =>
      cases step with
      | @member _ _ _ _ _ _ _ _ place path mark process isLeft step =>
          refine ⟨.going wrote ?_, rfl⟩
          intro other otherIsLeft
          by_cases same : other = place
          · subst same
            rw [Function.update_self]
            rcases members other isLeft with unanswered | answered
            · -- The only step of a call is its answer, and that is the one given for its place.
              rw [unanswered, callsOf, invoke_eq] at step
              cases step with
              | ask _ _ reply =>
                  have comes := answers other _ reply rfl
                  exact Or.inr (congrArg (fun outcome => Process.alone (.done outcome)) comes)
            · rw [answered] at step
              cases step
          · rw [Function.update_of_ne same]
            exact members other otherIsLeft
      | @absorb _ _ _ _ _ _ _ place completion isLeft completes =>
          cases completion with
          | crashed => exact absurd rfl (calm place)
          | finished outcome =>
              have done := completes.eq_done
              have isOutcome : outcome = outcomeAt results place := by
                rcases members place isLeft with unanswered | answered
                · rw [unanswered, callsOf, invoke_eq] at done
                  cases done
                · exact Program.done.inj (Process.alone.inj (done.symm.trans answered))
              subst isOutcome
              rw [absorb_outcomeAt]
              exact ⟨.going (wrote.take isLeft) fun other isRest =>
                members other (List.mem_of_mem_erase isRest), rfl⟩
      | resume =>
          refine ⟨?_, rfl⟩
          dsimp only
          rw [wrote.outcome name]
          exact .ended

theorem Writing.run {before after : Process Outcome} {history : History}
    (writing : Writing name writer inputs count results before) (run : Run before history after)
    (calm : history.Calm) (answers : ∀ entry ∈ history, Answers writer.resource results entry) :
    Writing name writer inputs count results after ∧ history.gathered = [] := by
  induction run with
  | refl process => exact ⟨writing, rfl⟩
  | @step _ _ _ entry later step run ih =>
      rcases List.forall_mem_cons.mp calm with ⟨calmHere, calm⟩
      rcases List.forall_mem_cons.mp answers with ⟨answersHere, answers⟩
      rcases writing.step step calmHere answersHere with ⟨writing, nothing⟩
      rcases ih writing calm answers with ⟨writing, rest⟩
      refine ⟨writing, ?_⟩
      rw [← List.singleton_append, History.gathered_append, nothing, rest, List.append_nil]

end Writing

/-! ## The inputs of the writer -/

section Inputs

variable {visit : Visit} {writer : ResultWriter}

theorem run_writerInput_gathered {output : Json} {history : History}
    {after : Process (Except Fault Json)}
    (run : Run (.alone (visit.writerInput writer output).run) history after) :
    history.gathered = [] := by
  rcases evaluate_inv run with ⟨rfl, _⟩ | ⟨result, later, rfl, run⟩
  · rfl
  cases result with
  | error fault =>
      rcases run.done_inv with ⟨rfl, _⟩
      rfl
  | ok input =>
      rcases writer with ⟨_, config, _, _⟩
      cases config <;> rcases run.done_inv with ⟨rfl, _⟩ <;> rfl

/-- What the writer is given is made without a call. -/
theorem run_writerInputs_gathered {outputs : List Json} {history : History}
    {after : Process (Except Fault (List Json))}
    (run : Run (.alone (visit.writerInputs writer outputs).run) history after) :
    history.gathered = [] := by
  induction outputs generalizing history after with
  | nil =>
      rcases run.done_inv with ⟨rfl, _⟩
      rfl
  | cons output rest ih =>
      rcases run.bind_inv with ⟨_, _, first, _⟩ | ⟨earlier, later, result, rfl, first, run⟩
      · exact run_writerInput_gathered first
      rw [History.gathered_append, run_writerInput_gathered first, List.nil_append]
      cases result with
      | error fault =>
          rcases run.done_inv with ⟨rfl, _⟩
          rfl
      | ok input =>
          rcases run.bind_inv with ⟨_, _, others, _⟩ | ⟨_, last, result, rfl, others, run⟩
          · exact ih others
          rw [History.gathered_append, ih others, List.nil_append]
          cases result <;> rcases run.done_inv with ⟨rfl, _⟩ <;> rfl

theorem run_writerInputs_length {outputs inputs : List Json} {history : History}
    (run : Run (.alone (visit.writerInputs writer outputs).run) history
      (.alone (.done (.ok inputs)))) : inputs.length = outputs.length := by
  induction outputs generalizing inputs history with
  | nil =>
      cases run.done_inv.2
      rfl
  | cons output rest ih =>
      rcases run_bind_ok run with ⟨_, _, input, _, run⟩
      rcases run_bind_ok run with ⟨_, _, others, writes, run⟩
      cases run.done_inv.2
      rw [List.length_cons, List.length_cons, ih writes]

/-- Goes on from what the writer is given. -/
def writeAll (visit : Visit) (writer : ResultWriter) (outputs : List Json) :
    Except Fault (List Json) → Program Outcome
  | .ok inputs => .gather inputs.length (callsOf writer inputs)
      { written := outputs.map fun _ => .null } WriteTally.absorb
      fun tally => .done (tally.outcome visit.name outputs.length)
  | .error fault => .done (.error fault)

theorem writeResults_eq (visit : Visit) (writer : ResultWriter) (outputs : List Json) :
    (visit.writeResults writer outputs).run =
      (visit.writerInputs writer outputs).run.bind (writeAll visit writer outputs) := by
  refine congrArg (Program.bind _) (funext fun result => ?_)
  cases result with
  | error fault => rfl
  | ok inputs =>
      refine congrArg (Program.gather _ _ _ _) (funext fun tally => ?_)
      rcases tally with ⟨written, failures, fault⟩
      cases fault with
      | some fault => rfl
      | none =>
          cases failures with
          | nil => rfl
          | cons text texts =>
              have same := (inOrder_perm (text :: texts)).length_eq
              simp only [WriteTally.outcome, failedWrites, same]
              rfl

end Inputs

/-! ## Answers that are given -/

/-- The reply that comes to a value or a failure. -/
def replyOf : Except Failure Json → Reply
  | .ok value => .output value
  | .error failure => .failed failure

theorem replied_replyOf (resource : String) (timeout : Option Nat) (result : Except Failure Json) :
    replied resource timeout (replyOf result) = result.mapError .failed := by
  cases result <;> rfl

/-- What has not ended can go on without a crash, with the answers that are given. -/
theorem progress_answers {α : Type} (resource : String) (results : Nat → Except Failure Json)
    (process : Process α) :
    (∃ value, process = .alone (.done value)) ∨
      ∃ entry after, Step process entry after ∧ entry.2.Calm ∧ Answers resource results entry := by
  rcases process.progress with ended | ⟨path, mark, after, step, calm⟩
  · exact Or.inl ended
  right
  by_cases answers : Answers resource results (path, mark)
  · exact ⟨_, _, step, calm, answers⟩
  -- Only the answer of a call can be another one than is given, and it can be given again.
  simp only [Answers, not_forall] at answers
  rcases answers with ⟨place, input, reply, same, _⟩
  cases same
  rcases step.reanswer (replyOf (results place)) with ⟨after, step⟩
  refine ⟨_, _, step, nofun, ?_⟩
  rintro _ _ _ same
  cases same
  exact replied_replyOf resource none (results place)

theorem ends_answers {α : Type} (resource : String) (results : Nat → Except Failure Json)
    {process : Process α} (accessible : Acc Process.Leads process) :
    ∃ history value, Run process history (.alone (.done value)) ∧ history.Calm ∧
      ∀ entry ∈ history, Answers resource results entry := by
  rcases Process.ends_with (progress_answers resource results) accessible with
    ⟨history, value, run, kept⟩
  exact ⟨history, value, run, fun entry isEntry => (kept entry isEntry).1,
    fun entry isEntry => (kept entry isEntry).2⟩

/-- Whatever the order in which the calls of a writer complete, writing the outputs of a Map has one
result. When every call comes to a value, these stand at the places of their outputs; else the
complaints of all calls that failed are told, each of them once and in the order of their texts. -/
theorem writeResults_settles (visit : Visit) (writer : ResultWriter) (outputs : List Json)
    (results : Nat → Except Failure Json) {history : History} {process : Process Outcome}
    (run : Run (.alone (visit.writeResults writer outputs).run) history process)
    (calm : history.Calm) (answers : ∀ entry ∈ history, Answers writer.resource results entry) :
    (∀ result, process = .alone (.done result) →
      (∃ fault, result = .error fault ∧ history.gathered = [] ∧
        Run (.alone (visit.writerInputs writer outputs).run) history
          (.alone (.done (.error fault)))) ∨
      ∃ inputs earlier, Run (.alone (visit.writerInputs writer outputs).run) earlier
          (.alone (.done (.ok inputs))) ∧ inputs.length = outputs.length ∧
        history.gathered = [(outputs.length, callsOf writer inputs)] ∧
          result = writeVerdict results visit.name outputs.length) ∧
    (Acc Process.Leads process ∧ ∃ further result, Run process further (.alone (.done result)) ∧
      further.Calm ∧ ∀ entry ∈ further, Answers writer.resource results entry) ∧
    (∀ values : List Json, values.length = outputs.length →
      (∀ place value, values[place]? = some value → results place = .ok value) →
        writeVerdict results visit.name outputs.length = .ok (.array values)) ∧
    ∀ place < outputs.length, ∀ failure, results place = .error failure → ∃ texts : List String,
      texts.Perm ((List.range outputs.length).filterMap (complaint? results)) ∧ texts.Nodup ∧
        texts.Pairwise (· ≤ ·) ∧ writeVerdict results visit.name outputs.length =
          .error (failedWrites visit.name outputs.length texts) := by
  have accessible := run.accessible (Program.terminates _)
  refine ⟨?_, ⟨accessible, ends_answers _ _ accessible⟩, fun values => writeVerdict_of_values, ?_⟩
  · rintro result rfl
    rw [writeResults_eq] at run
    rcases run.bind_done_inv with ⟨earlier, later, made, rfl, first, run⟩
    have unbegun := run_writerInputs_gathered first
    cases made with
    | error fault =>
        rcases run.done_inv with ⟨rfl, same⟩
        cases same
        rw [List.append_nil]
        exact Or.inl ⟨fault, rfl, unbegun, first⟩
    | ok inputs =>
        have length := run_writerInputs_length first
        rcases run.gather_inv with ⟨_, unfinished⟩ | ⟨rest, rfl, group⟩
        · exact absurd rfl (unfinished _)
        have start : Writing visit.name writer inputs outputs.length results
            (.group (List.range inputs.length) (fun place => .alone (callsOf writer inputs place))
              false { written := outputs.map fun _ => .null } WriteTally.absorb
              fun tally => .done (tally.outcome visit.name outputs.length)) := by
          rw [length]
          exact .going (wrote_start results outputs) fun place _ => Or.inl rfl
        have isRest {entry : List Nat × Mark} (isLater : entry ∈ rest) :
            entry ∈ earlier ++ ([], .gathered inputs.length (callsOf writer inputs)) :: rest :=
          List.mem_append_right _ (List.mem_cons_of_mem _ isLater)
        rcases start.run group (fun entry isLater => calm entry (isRest isLater))
          (fun entry isLater => answers entry (isRest isLater)) with ⟨writing, nothing⟩
        refine Or.inr ⟨inputs, earlier, first, length, ?_, ?_⟩
        · rw [History.gathered_append, unbegun, ← length]
          exact congrArg (_ :: ·) nothing
        · generalize ended : Process.alone (.done result) = process at writing
          cases writing with
          | going => cases ended
          | ended =>
              cases ended
              rfl
  · intro place inside failure fails
    exact ⟨_, inOrder_perm _, nodup_complaints, pairwise_inOrder _,
      writeVerdict_of_failure inside fails⟩

def stores : ResultWriter := { resource := "store" }

/-- No output can be stored. -/
def unstored (_ : Nat) : Except Failure Json := .error ⟨"Full", none⟩

/-- The call for the second output completes first. -/
def unstoredHistory : History :=
  [([], .drew), ([], .drew), ([], .gathered 2 (callsOf stores [.bool true, .bool false])),
    ([1], .asked (.call "store" (.bool false) none) (.failed ⟨"Full", none⟩)),
    ([], .absorbed 1 (.finished (.error (.failed ⟨"Full", none⟩)))),
    ([0], .asked (.call "store" (.bool true) none) (.failed ⟨"Full", none⟩)),
    ([], .absorbed 0 (.finished (.error (.failed ⟨"Full", none⟩)))), ([], .resumed)]

def unstoredFault : Fault :=
  .reserved .resultWriterFailed
    "2 of 2 writes failed in Map state 'Each': output 0: Full; output 1: Full"

/-- The complaints as they come. -/
def unstoredTally : WriteTally :=
  { written := [.null, .null]
    failures := [complaint 1 ⟨"Full", none⟩, complaint 0 ⟨"Full", none⟩] }

theorem run_stores :
    Run (.alone (eachVisit.writeResults stores [.bool true, .bool false]).run) unstoredHistory
      (.alone (.done (.error unstoredFault))) := by
  have ordered : inOrder unstoredTally.failures = ["output 0: Full", "output 1: Full"] := by
    have isOrdered : precedes "output 0: Full" "output 1: Full" = true := by decide +kernel
    have swapped : unstoredTally.failures.Perm ["output 0: Full", "output 1: Full"] := by
      have texts : unstoredTally.failures = ["output 1: Full", "output 0: Full"] := by
        decide +kernel
      rw [texts]
      exact .swap ..
    rw [inOrder_eq_of_perm swapped]
    exact List.mergeSort_of_pairwise (List.pairwise_pair.mpr isOrdered)
  have told : unstoredTally.outcome "Each" 2 = .error unstoredFault := by
    change Except.error (failedWrites "Each" 2 (inOrder unstoredTally.failures)) = _
    rw [ordered]
    refine congrArg (fun cause => Except.error (Fault.reserved .resultWriterFailed cause)) ?_
    decide +kernel
  rw [← told, writeResults_eq]
  refine .step (.draw _ _ default) ?_
  refine .step (.draw _ _ default) ?_
  refine .step (.gather 2 _ _ _ _) ?_
  refine .step (.member (by decide) (.ask _ _ _)) ?_
  refine .step (.absorb (by decide) (.finished _)) ?_
  refine .step (.member (by decide) (.ask _ _ _)) ?_
  refine .step (.absorb (by decide) (.finished _)) ?_
  refine .step (.resume _ _ _ _ _) ?_
  exact .refl _

theorem unstoredHistory_calm : unstoredHistory.Calm := by
  intro entry isEntry
  simp only [unstoredHistory, List.mem_cons, List.not_mem_nil, or_false] at isEntry
  rcases isEntry with rfl | rfl | rfl | rfl | rfl | rfl | rfl | rfl <;>
    exact fun _ same => nomatch same

theorem unstoredHistory_answers :
    ∀ entry ∈ unstoredHistory, Answers stores.resource unstored entry := by
  intro entry isEntry place input reply isCall
  simp only [unstoredHistory, List.mem_cons, List.not_mem_nil, or_false] at isEntry
  rcases isEntry with rfl | rfl | rfl | rfl | rfl | rfl | rfl | rfl <;> cases isCall <;> rfl

/-- The complaints are told in the order of their texts, not in that of their calls. -/
theorem writeResults_settles_unstored :
    unstoredHistory.Calm ∧ (∀ entry ∈ unstoredHistory, Answers stores.resource unstored entry) ∧
      writeVerdict unstored "Each" 2 = .error unstoredFault := by
  refine ⟨unstoredHistory_calm, unstoredHistory_answers, ?_⟩
  rcases (writeResults_settles eachVisit stores [.bool true, .bool false] unstored run_stores
    unstoredHistory_calm unstoredHistory_answers).1 _ rfl with
    ⟨_, _, unbegun, _⟩ | ⟨_, _, _, _, _, settled⟩
  · cases unbegun
  · exact settled.symm

end Workflow.Engine
