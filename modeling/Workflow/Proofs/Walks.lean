import Mathlib.Data.List.Chain
import Workflow.Proofs.Calls

/-!
# Walks

An invocation of a graph is known by what it asks: it enters a state, looks at the time, does what
the state does and reports the state when it has completed. However often a state is attempted, and
whether it is caught or not, it is reported once, unless the invocation ends there. So the reports
are a walk along the states of the graph, and what the invocation ends with is told by the last of
them.
-/

namespace Workflow

/-! ## Exchanges of states -/

/-- A request that neither enters a state nor completes one. -/
def Request.Inner : Request → Prop
  | .enter => False
  | .completed _ => False
  | _ => True

/-- A report of a completed state, to which there is no answer. -/
abbrev Exchange.reporting (report : StepReport) : Exchange := ⟨.completed report, ()⟩

/-- The report of a state that completed. -/
def Exchange.report? : Exchange → Option StepReport
  | ⟨.completed report, _⟩ => some report
  | _ => none

/-- The reports among some exchanges. -/
def reportsOf (exchanges : List Exchange) : List StepReport :=
  exchanges.filterMap Exchange.report?

/-- Whether to retry was asked last. -/
def EndsInRetry (exchanges : List Exchange) : Prop :=
  ∃ report again, exchanges.getLast? = some ⟨.retry report, again⟩

/-- Where a state goes after it has asked something: if it had to be caught, because no retry came
of its last failure, where one of its catchers says; else where it departs to by itself. -/
def State.Goes (state : State) (inner : List Exchange) (next : Option String) : Prop :=
  EndsInRetry inner ∧ (∃ catcher ∈ state.common.catchers, next = some catcher.next) ∨
    ¬ EndsInRetry inner ∧ state.Departs next

theorem State.Goes.leaves {state : State} {inner : List Exchange} {next : Option String}
    (goes : state.Goes inner next) : state.Leaves next := by
  rcases goes with ⟨_, catcher, isCatcher, same⟩ | ⟨_, departs⟩
  · rw [same]
    exact State.leaves_catcher isCatcher
  · exact departs.leaves

/-! ## Passages -/

/-- What a state asks from being entered to being completed. -/
structure Passage where
  entered : Instant
  /-- What was asked in its attempts and between them. -/
  inner : List Exchange
  report : StepReport

namespace Passage

def exchanges (passage : Passage) : List Exchange :=
  ⟨.enter, true⟩ :: ⟨.now, passage.entered⟩ ::
    (passage.inner ++ [Exchange.reporting passage.report])

/-- A passage through a state, in an invocation with a stack. -/
structure Of (states : List (String × State)) (stack : List String) (passage : Passage)
    (state : State) : Prop where
  isState : Graph.find? passage.report.state states = some state
  type : passage.report.type = state.type
  stack : passage.report.stack = stack
  inner : ∀ exchange ∈ passage.inner, exchange.1.Inner

/-- A state passes its output on to one of its successors. -/
def Leads (states : List (String × State)) (passage later : Passage) : Prop :=
  ∃ state, Graph.find? passage.report.state states = some state ∧
    later.report.state ∈ state.successors ∧
    state.Goes passage.inner (some later.report.state) ∧
    later.report.input = passage.report.output

/-- A state ends its graph by itself. -/
def Ends (states : List (String × State)) (passage : Passage) : Prop :=
  ∃ state, Graph.find? passage.report.state states = some state ∧
    (state.type = .succeed ∨ state.transition = some .finish) ∧ ¬ EndsInRetry passage.inner

end Passage

theorem reportsOf_append (earlier later : List Exchange) :
    reportsOf (earlier ++ later) = reportsOf earlier ++ reportsOf later :=
  List.filterMap_append

theorem reportsOf_inner {exchanges : List Exchange}
    (inner : ∀ exchange ∈ exchanges, exchange.1.Inner) : reportsOf exchanges = [] := by
  apply List.filterMap_eq_nil_iff.mpr
  rintro ⟨request, answer⟩ isExchange
  have isInner := inner _ isExchange
  cases request with
  | completed report => cases isInner
  | _ => rfl

theorem reportsOf_enter {exchanges : List Exchange} (granted : Bool)
    (inner : ∀ exchange ∈ exchanges, exchange.1.Inner) :
    reportsOf (⟨.enter, granted⟩ :: exchanges) = [] := by
  have unreported : reportsOf (⟨.enter, granted⟩ :: exchanges) = reportsOf exchanges := rfl
  rw [unreported, reportsOf_inner inner]

theorem Passage.Of.reportsOf_exchanges {states : List (String × State)} {stack : List String}
    {passage : Passage} {state : State} (isOf : passage.Of states stack state) :
    reportsOf passage.exchanges = [passage.report] := by
  have onlyLater : reportsOf passage.exchanges =
      reportsOf (passage.inner ++ [Exchange.reporting passage.report]) := rfl
  rw [onlyLater, reportsOf_append, reportsOf_inner isOf.inner]
  rfl

/-- A state that goes nowhere else was not caught. -/
theorem Passage.Of.ends {states : List (String × State)} {stack : List String} {passage : Passage}
    {state : State} (isOf : passage.Of states stack state)
    (goes : state.Goes passage.inner none) : passage.Ends states := by
  rcases goes with ⟨_, catcher, _, same⟩ | ⟨uncaught, departs⟩
  · cases same
  · exact ⟨state, isOf.isState, departs, uncaught⟩

theorem Request.Ordinary.inner {request : Request} (ordinary : request.Ordinary) :
    request.Inner := by
  cases request <;> trivial

theorem Request.Pausing.inner {request : Request} (pausing : request.Pausing) :
    request.Inner := by
  cases request <;> trivial

theorem not_endsInRetry_of_ordinary {exchanges : List Exchange}
    (ordinary : ∀ exchange ∈ exchanges, exchange.1.Ordinary) : ¬ EndsInRetry exchanges := by
  rintro ⟨report, again, isLast⟩
  exact ordinary _ (List.mem_of_getLast? isLast)

theorem endsInRetry_append_cons {earlier later : List Exchange} {exchange : Exchange}
    (notRetry : ∀ report, exchange.1 ≠ .retry report) :
    EndsInRetry (earlier ++ exchange :: later) ↔ EndsInRetry later := by
  simp only [EndsInRetry]
  rw [List.getLast?_append_cons, List.getLast?_cons]
  cases later.getLast? with
  | some other => rfl
  | none =>
      constructor
      · rintro ⟨report, again, isLast⟩
        cases isLast
        exact absurd rfl (notRetry report)
      · rintro ⟨report, again, isLast⟩
        cases isLast

namespace Engine

variable {shared : Shared}

/-! ## Retries -/

section Attempted

variable {α : Type} {state : String} {retriers : List Retrier}
  {attempt : Nat → Program (Except Fault α)} {allowed : Outcome → Prop}
  {post : Except Fault α → Prop} {fuel retries : Nat} {counts : List Nat}
  {efforts : List (Effort α)}

/-- Attempts that ask what is ordinary neither enter a state nor complete one, and the pauses
between them do not either. -/
theorem Attempted.inner {after : Process (Except Fault α × Nat)}
    (attempted : Attempted state retriers attempt fuel counts retries efforts after)
    (attempts : ∀ retries, (attempt retries).Ensures ⟨allowed, Request.Ordinary⟩ post) :
    ∀ exchange ∈ History.exchanges (efforts.flatMap Effort.history), exchange.1.Inner := by
  intro exchange isExchange
  rw [History.exchanges_flatMap] at isExchange
  rcases List.mem_flatMap.mp isExchange with ⟨effort, isEffort, isPart⟩
  rcases attempted.among isEffort with ⟨run, among⟩
  rw [Effort.history, History.exchanges_append] at isPart
  rcases List.mem_append.mp isPart with isTried | isPause
  · exact (run.exchanges_asks (attempts _) exchange isTried).inner
  · exact (among.pausing_exchanges exchange isPause).inner

/-- Whether to retry is asked last exactly when the last attempt has failed. -/
theorem Attempted.endsInRetry {result : Except Fault α} {count : Nat}
    (attempted : Attempted state retriers attempt fuel counts retries efforts
      (.alone (.done (result, count))))
    (attempts : ∀ retries, (attempt retries).Ensures ⟨allowed, Request.Ordinary⟩ post) :
    EndsInRetry (History.exchanges (efforts.flatMap Effort.history)) ↔
      failureOf? result ≠ none := by
  generalize ended : Process.alone (.done (result, count)) = after at attempted
  induction attempted with
  | trying run unfinished goesOn => exact absurd ended.symm (goesOn _)
  | settled run unfailed =>
      cases ended
      have ordinary := not_endsInRetry_of_ordinary (run.exchanges_asks (attempts _))
      simp [Effort.history, ordinary, unfailed]
  | pausing run plans part goesOn => exact absurd ended.symm (goesOn _)
  | @declined _ _ _ tried failure plan again run plans exhausted =>
      cases ended
      have isLast : EndsInRetry (History.exchanges (tried ++ offer state failure plan again)) := by
        rw [History.exchanges_append]
        exact ⟨_, again, List.getLast?_concat⟩
      have failed : failureOf? (.error (.failed failure) : Except Fault α) ≠ none :=
        Option.some_ne_none failure
      simp [Effort.history, isLast, failed]
  | @again _ _ _ tried failure plan efforts _ run plans further ih =>
      have whole : History.exchanges (tried ++ granted state failure plan ++
          efforts.flatMap Effort.history) =
            (tried ++ offer state failure plan true).exchanges ++
              ⟨.sleep (pauseOf plan), ()⟩ :: History.exchanges (efforts.flatMap Effort.history) := by
        simp [granted, History.exchanges_append]
      rw [← ih ended, List.flatMap_cons, Effort.history, whole]
      exact endsInRetry_append_cons fun report same => by cases same

end Attempted

/-! ## States -/

section States

variable {name : String} {state : State} {raw : Json} {frame : Frame}

/-- An attempt of a state asks what is ordinary, and departs as the state may. -/
theorem ensures_attemptOf (shared : Shared) (name : String) (state : State) (raw : Json)
    (frame : Frame) (entered : Instant) (retries : Nat) :
    (attemptOf shared name state raw frame entered retries).Ensures
      (.blaming (fun _ => True) Request.Ordinary)
      (Settles (fun _ => True) fun ended => state.Departs ended.next) :=
  ensures_attempt (tolerant_anything fun _ ordinary => ordinary) shared (owns_anything _ _ _)
    (fun graph _ => behaves_anything shared graph) raw _ rfl _

theorem Stay.Tries.departs {stay : Stay} {ended : Ended} {retries : Nat}
    (tries : stay.Tries shared name state raw frame (.alone (.done (.ok ended, retries)))) :
    state.Departs ended.next := by
  rcases tries.result with ⟨last, isLast, same, _⟩
  have run := (tries.among (List.mem_of_getLast? isLast)).1
  rw [same] at run
  exact run.ensures (ensures_attemptOf shared name state raw frame stay.entered last.retries)

/-- A run of a state reports nothing and has no result, or it reports the state at its end, with the
output it passes on. -/
theorem stateRunner_runs {history : History} {after : Process (Except Fault Ended)}
    (run : Run (.alone (stateRunner shared name state raw frame)) history after) :
    (∀ exchange ∈ history.exchanges, exchange.1.Inner) ∧
        (∀ ended, after ≠ .alone (.done (.ok ended))) ∨
      ∃ entered inner ended, (∀ exchange ∈ inner, exchange.1.Inner) ∧
        history.exchanges = ⟨.now, entered⟩ :: (inner ++
          [Exchange.reporting (stepReport name state.type raw frame ended)]) ∧
        after = .alone (.done (.ok ended)) ∧ state.Goes inner ended.next := by
  rcases stateRunner_stays run with ⟨nothing, unfinished⟩ | ⟨stay, whole, isOf⟩
  · rw [nothing]
    exact Or.inl ⟨fun _ isExchange => absurd isExchange List.not_mem_nil, fun _ => unfinished _⟩
  have attempts := ensures_attemptOf shared name state raw frame stay.entered
  rcases isOf.tries with ⟨_, begun, _⟩
  have inner := begun.inner attempts
  have split : history.exchanges = ⟨.now, stay.entered⟩ ::
      (History.exchanges (stay.efforts.flatMap Effort.history) ++ stay.settling.exchanges) := by
    rw [whole, Stay.history, History.exchanges_asked, History.exchanges_append]
  have silent : stay.settling.exchanges = [] →
      ∀ exchange ∈ history.exchanges, exchange.1.Inner := by
    intro nothing exchange isExchange
    rw [split, nothing, List.append_nil] at isExchange
    rcases List.mem_cons.mp isExchange with same | isTried
    · rw [same]
      trivial
    · exact inner exchange isTried
  cases isOf with
  | attempting tries unfinished nothing goesOn =>
      exact Or.inl ⟨silent (by rw [nothing]; rfl), fun _ => goesOn _⟩
  | settling tries unasked goesOn => exact Or.inl ⟨silent unasked, fun _ => goesOn _⟩
  | settled tries settled =>
      have asked := tries.endsInRetry attempts
      generalize stay.settling = settling at split silent settled
      cases settled with
      | succeeded ended =>
          have unasked := asked.not.mpr (not_not.mpr rfl)
          exact Or.inr ⟨stay.entered, _, ended, inner, split, rfl, Or.inr ⟨unasked, tries.departs⟩⟩
      | fatal => exact Or.inl ⟨silent rfl, fun _ same => by cases same⟩
      | uncaught => exact Or.inl ⟨silent rfl, fun _ same => by cases same⟩
      | @caught failure _ catcher _ _ claims =>
          have isAsked := asked.mpr (Option.some_ne_none failure)
          exact Or.inr ⟨stay.entered, _, _, inner, split, rfl,
            Or.inl ⟨isAsked, catcher, List.mem_of_find?_eq_some claims, rfl⟩⟩
      | spoiled => exact Or.inl ⟨silent rfl, fun _ same => by cases same⟩

end States

/-! ## Walks -/

/-- The faults that a walk can end with, each with what was asked after the last completed state. -/
inductive Fails (shared : Shared) (states : List (String × State)) (frame : Frame) :
    List Exchange → Fault → Prop where
  | exhausted : Fails shared states frame [] (.tooManyTransitions shared.config.maxTransitions)
  | refused : Fails shared states frame [⟨.enter, false⟩]
      (.tooManyTransitions shared.config.maxTransitions)
  /-- No state is run, for there is none of that name. -/
  | unknown {target : String} (missing : Graph.find? target states = none) :
      Fails shared states frame [⟨.enter, true⟩] (.malformed (.unknownTarget target))
  /-- A state is run, and the fault is its own. -/
  | within {name : String} {state : State} {input : Json} {bindings : Variables}
      {history : History} {fault : Fault} (isState : Graph.find? name states = some state)
      (run : Run (.alone (stateRunner shared name state input { frame with bindings })) history
        (.alone (.done (.error fault))))
      (inner : ∀ exchange ∈ history.exchanges, exchange.1.Inner) :
      Fails shared states frame (⟨.enter, true⟩ :: history.exchanges) fault

/-- Whatever variables are bound, the faults are the same. -/
theorem Fails.rebind {states : List (String × State)} {frame : Frame} {bindings : Variables}
    {tail : List Exchange} {fault : Fault}
    (fails : Fails shared states { frame with bindings } tail fault) :
    Fails shared states frame tail fault := by
  cases fails with
  | exhausted => exact .exhausted
  | refused => exact .refused
  | unknown missing => exact .unknown missing
  | within isState run inner => exact .within isState run inner

/-- What an invocation asks is what it asks in its passages, each with a report, and then a tail
without a report, of a state that has not completed. Every state passes its output on to the next
one. An output is that of the last state, which ends the graph. -/
structure Walked (shared : Shared) (states : List (String × State)) (name : String) (input : Json)
    (frame : Frame) (exchanges : List Exchange) (after : Process Outcome) (passages : List Passage)
    (tail : List Exchange) : Prop where
  whole : exchanges = passages.flatMap Passage.exchanges ++ tail
  silent : reportsOf tail = []
  entered : ∀ passage ∈ passages, ∃ state, passage.Of states frame.stack state
  starts : ∀ passage ∈ passages.head?, passage.report.state = name ∧ passage.report.input = input
  leads : passages.IsChain (Passage.Leads states)
  returns : ∀ output, after = .alone (.done (.ok output)) →
    tail = [] ∧ ∃ last ∈ passages.getLast?, last.report.output = output ∧ last.Ends states
  fails : ∀ fault, after = .alone (.done (.error fault)) → Fails shared states frame tail fault

section Walked

variable {states : List (String × State)} {name : String} {input : Json} {frame : Frame}
  {exchanges tail : List Exchange} {after : Process Outcome} {passage : Passage} {state : State}

/-- A walk that is held up before it has completed a state. -/
theorem walked_waiting (silent : reportsOf tail = []) (goesOn : after.Unfinished) :
    Walked shared states name input frame tail after [] tail :=
  ⟨rfl, silent, by simp, by simp, .nil, fun _ same => absurd same (goesOn _),
    fun _ same => absurd same (goesOn _)⟩

/-- A walk that fails before it has completed a state. -/
theorem walked_failed {fault : Fault} (silent : reportsOf tail = [])
    (fails : Fails shared states frame tail fault) :
    Walked shared states name input frame tail (.alone (.done (.error fault))) [] tail where
  whole := rfl
  silent := silent
  entered := by simp
  starts := by simp
  leads := .nil
  returns := by
    intro output same
    cases same
  fails := by
    intro other same
    cases same
    exact fails

/-- A walk that ends with its first state. -/
theorem walked_last (isOf : passage.Of states frame.stack state)
    (sameName : passage.report.state = name) (sameInput : passage.report.input = input)
    (ends : passage.Ends states) :
    Walked shared states name input frame passage.exchanges
      (.alone (.done (.ok passage.report.output))) [passage] [] where
  whole := by simp
  silent := rfl
  entered := by
    intro other isEntry
    rw [List.mem_singleton.mp isEntry]
    exact ⟨state, isOf⟩
  starts := by
    intro other isHead
    cases isHead
    exact ⟨sameName, sameInput⟩
  leads := .singleton passage
  returns := by
    intro output same
    cases same
    exact ⟨rfl, passage, rfl, rfl, ends⟩
  fails := by
    intro fault same
    cases same

/-- A walk that goes on from its first state. -/
theorem Walked.cons {next : String} {bindings : Variables} {passages : List Passage}
    (walked : Walked shared states next passage.report.output { frame with bindings } exchanges
      after passages tail)
    (isOf : passage.Of states frame.stack state) (sameName : passage.report.state = name)
    (sameInput : passage.report.input = input) (goes : state.Goes passage.inner (some next)) :
    Walked shared states name input frame (passage.exchanges ++ exchanges) after
      (passage :: passages) tail where
  whole := by rw [walked.whole, List.flatMap_cons, List.append_assoc]
  silent := walked.silent
  entered := by
    intro other isEntry
    rcases List.mem_cons.mp isEntry with same | isLater
    · rw [same]
      exact ⟨state, isOf⟩
    · exact walked.entered other isLater
  starts := by
    intro other isHead
    cases isHead
    exact ⟨sameName, sameInput⟩
  leads := by
    refine walked.leads.cons fun later isHead => ?_
    rcases walked.starts later isHead with ⟨isNext, isOutput⟩
    rw [← isNext] at goes
    exact ⟨state, isOf.isState, goes.leaves, goes, isOutput⟩
  returns := by
    intro output same
    rcases walked.returns output same with ⟨nothing, last, isLast, sameOutput, ends⟩
    refine ⟨nothing, last, ?_, sameOutput, ends⟩
    rw [List.getLast?_cons, Option.mem_def.mp isLast]
    rfl
  fails := fun fault same => (walked.fails fault same).rebind

theorem reportsOf_passages {passages : List Passage} {stack : List String}
    (entered : ∀ passage ∈ passages, ∃ state, passage.Of states stack state) :
    reportsOf (passages.flatMap Passage.exchanges) = passages.map Passage.report := by
  induction passages with
  | nil => rfl
  | cons passage rest ih =>
      rcases entered passage List.mem_cons_self with ⟨state, isOf⟩
      have later := ih fun other isRest => entered other (List.mem_cons_of_mem _ isRest)
      rw [List.flatMap_cons, reportsOf_append, isOf.reportsOf_exchanges, later]
      rfl

/-- What is reported of a call that has ended. -/
abbrev Call.report (call : Call) (ended : Ended) : StepReport :=
  stepReport call.name call.state.type call.input call.frame ended

/-- A call that has ended is a passage through its state. -/
theorem Call.Of.passes {call : Call} {ended : Ended} (isOf : call.Of shared)
    (isState : Graph.find? call.name states = some call.state)
    (ends : call.after = .alone (.done (.ok ended))) :
    ∃ entered inner, Passage.Of states call.frame.stack ⟨entered, inner, call.report ended⟩
        call.state ∧ call.state.Goes inner ended.next ∧
      call.marks.exchanges = Passage.exchanges ⟨entered, inner, call.report ended⟩ := by
  rcases stateRunner_runs isOf with ⟨_, noResult⟩ |
    ⟨entered, inner, other, isInner, whole, same, goes⟩
  · exact absurd ends (noResult ended)
  · cases same.symm.trans ends
    refine ⟨entered, inner, ⟨isState, rfl, rfl, isInner⟩, goes, ?_⟩
    rw [Call.marks, History.exchanges_asked, whole]
    rfl

/-- A call that has not ended reports nothing. -/
theorem Call.Of.silent {call : Call} (isOf : call.Of shared)
    (noResult : ∀ ended, call.after ≠ .alone (.done (.ok ended))) :
    ∀ exchange ∈ call.history.exchanges, exchange.1.Inner := by
  rcases stateRunner_runs isOf with ⟨inner, _⟩ | ⟨_, _, ended, _, _, same, _⟩
  · exact inner
  · exact absurd same (noResult ended)

/-- Calls in a row are a walk along their states. -/
theorem Called.walked {calls : List Call} {rest : History}
    (called : Called shared states name input frame calls rest after) :
    ∃ passages tail, Walked shared states name input frame
      (History.exchanges (calls.flatMap Call.marks ++ rest)) after passages tail := by
  induction called with
  | waiting goesOn => exact ⟨[], _, walked_waiting rfl goesOn⟩
  | exhausted => exact ⟨[], _, walked_failed rfl .exhausted⟩
  | refused => exact ⟨[], _, walked_failed rfl .refused⟩
  | unknown input frame missing => exact ⟨[], _, walked_failed rfl (.unknown missing)⟩
  | within isOf isState unfinished goesOn =>
      have inner := isOf.silent fun _ => unfinished _
      refine ⟨[], _, walked_waiting ?_ goesOn⟩
      simpa [Call.marks] using reportsOf_enter true inner
  | @failed call fault isOf isState fails =>
      have inner := isOf.silent fun ended same => by cases fails.symm.trans same
      have run : Run _ call.history call.after := isOf
      rw [fails] at run
      refine ⟨[], ⟨.enter, true⟩ :: call.history.exchanges, ?_⟩
      simpa [Call.marks] using
        walked_failed (reportsOf_enter true inner) (.within isState run inner)
  | @ended call ended isOf isState ends last =>
      rcases isOf.passes isState ends with ⟨entered, inner, passes, goes, whole⟩
      rw [last] at goes
      refine ⟨[⟨entered, inner, call.report ended⟩], [], ?_⟩
      simpa [whole] using walked_last passes rfl rfl (passes.ends goes)
  | @next call ended _ _ _ _ isOf isState ends leaves further ih =>
      rcases isOf.passes isState ends with ⟨entered, inner, passes, goes, whole⟩
      rw [leaves] at goes
      rcases ih with ⟨passages, later, walked⟩
      refine ⟨⟨entered, inner, call.report ended⟩ :: passages, later, ?_⟩
      rw [List.flatMap_cons, List.append_assoc, History.exchanges_append, whole]
      exact walked.cons passes rfl rfl goes

end Walked

/-- What an invocation of a graph asks is a walk of the graph from its first state on the input, and
its reports are the reports of the walk. -/
def Walks (shared : Shared) (graph : Graph) (input : Json) (frame : Frame)
    (exchanges : List Exchange) (after : Process Outcome) : Prop :=
  ∃ passages tail,
    Walked shared graph.states graph.startAt input frame exchanges after passages tail ∧
    reportsOf exchanges = passages.map Passage.report

theorem runGraph_walks {graph : Graph} {input : Json} {frame : Frame} {history : History}
    {after : Process Outcome}
    (run : Run (.alone (runGraph shared graph input frame)) history after) :
    Walks shared graph input frame history.exchanges after := by
  rcases runGraph_called run with ⟨calls, rest, whole, called⟩
  rcases called.walked with ⟨passages, tail, walked⟩
  rw [← whole] at walked
  refine ⟨passages, tail, walked, ?_⟩
  rw [walked.whole, reportsOf_append, walked.silent, List.append_nil]
  exact reportsOf_passages walked.entered

end Engine

end Workflow
