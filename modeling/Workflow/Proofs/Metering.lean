import Mathlib.Algebra.Order.BigOperators.Group.List
import Mathlib.Algebra.Order.Group.Nat
import Workflow.Proofs.Ledger
import Workflow.Schedule.Turn

/-!
# Metering

State entries are metered by one count for a whole run: every invocation, however deep it is nested,
asks for its entries, and each one that is asked for is counted, whether it is granted or not. So
once an entry was refused none is granted, and no more are granted than the limit says. Every entry
of a ledger was granted, and no two of them by the same answer. The scheduler keeps such a count in
its world, and answers from it whenever a program has its turn.
-/

namespace Workflow

/-! ## Entries that were granted -/

def Mark.grants : Mark → Bool
  | .asked .enter granted => granted
  | _ => false

namespace History

/-- How many state entries were granted, at any depth. -/
def granted (history : History) : Nat := history.countP fun event => event.2.grants

theorem granted_append (earlier later : History) :
    granted (earlier ++ later) = granted earlier + granted later :=
  List.countP_append

theorem granted_cons (path : List Nat) (mark : Mark) (later : History) :
    granted ((path, mark) :: later) = granted later + if mark.grants then 1 else 0 :=
  List.countP_cons

theorem granted_flatMap {α : Type*} (items : List α) (part : α → History) :
    granted (items.flatMap part) = (items.map fun item => granted (part item)).sum := by
  induction items with
  | nil => rfl
  | cons first rest ih =>
      rw [List.flatMap_cons, granted_append, ih, List.map_cons, List.sum_cons]

/-- The first so many members of the group that is under way have been granted so many entries. -/
def currentlyGranted (count : Nat) (history : History) : Nat :=
  ((List.range count).map fun place => granted (current place history)).sum

theorem currentlyGranted_eq_zero {history : History}
    (idle : ∀ place, current place history = []) (count : Nat) :
    currentlyGranted count history = 0 := by
  simp [currentlyGranted, idle, granted]

theorem currentlyGranted_member (count other : Nat) (path : List Nat) (mark : Mark)
    (later : History) :
    currentlyGranted count ((other :: path, mark) :: later) ≤
      currentlyGranted count later + if mark.grants then 1 else 0 := by
  induction count with
  | zero => exact Nat.zero_le _
  | succ count ih =>
      simp only [currentlyGranted, List.range_succ, List.map_append, List.sum_append,
        List.map_cons, List.map_nil, List.sum_singleton] at ih ⊢
      by_cases same : other = count
      · subst same
        have others : ((List.range other).map fun place =>
            granted (current place ((other :: path, mark) :: later))) =
              (List.range other).map fun place => granted (current place later) := by
          apply List.map_congr_left
          intro place inside
          have differs : other ≠ place := (Nat.ne_of_lt (List.mem_range.mp inside)).symm
          rw [current, if_neg differs]
        rw [others, current, if_pos rfl, granted_cons]
        omega
      · rw [current, if_neg same]
        omega

/-- What is granted to the members of groups is granted in the run of the task that begins them. -/
theorem granted_tasks (history : History) (count : Nat) :
    (history.tasks.map fun task => granted task.2).sum + currentlyGranted count history ≤
      granted history := by
  induction history generalizing count with
  | nil =>
      have idle : currentlyGranted count [] = 0 := currentlyGranted_eq_zero (fun _ => rfl) count
      simp [tasks, idle]
  | cons event later ih =>
      rcases event with ⟨_ | ⟨other, path⟩, mark⟩
      · cases mark with
        | gathered members member =>
            rw [currentlyGranted_eq_zero (fun _ => rfl), tasks, granted_cons, List.map_append,
              List.sum_append, List.map_map]
            have new := ih members
            exact Nat.le_add_right_of_le (by rwa [Nat.add_zero, Nat.add_comm])
        | resumed =>
            have none := ih 0
            rw [currentlyGranted_eq_zero (fun _ => rfl), granted_cons]
            exact Nat.le_add_right_of_le none
        | _ => exact (ih count).trans (granted_cons _ _ later ▸ Nat.le_add_right _ _)
      · have same := ih count
        have member := currentlyGranted_member count other path mark later
        rw [granted_cons, tasks]
        · omega
        · simp

end History

/-! ## One count for a run -/

/-- Every entry that is asked for, at any depth, is answered from one count: it is granted when
fewer than the limit were asked for before it, and counted either way. -/
def History.MeteredFrom (limit : Nat) : (asked : Nat) → History → Prop
  | _, [] => True
  | asked, (_, .asked .enter granted) :: later =>
    granted = decide (asked < limit) ∧ MeteredFrom limit (asked + 1) later
  | asked, _ :: later => MeteredFrom limit asked later

abbrev History.Metered (limit : Nat) (history : History) : Prop := history.MeteredFrom limit 0

namespace History

variable {limit asked : Nat} {history : History}

/-- How many state entries were asked for, at any depth. -/
def requested (history : History) : Nat :=
  history.countP fun event => match event.2 with
    | .asked .enter _ => true
    | _ => false

theorem meteredFrom_append {earlier later : History} : MeteredFrom limit asked (earlier ++ later) ↔
    MeteredFrom limit asked earlier ∧ MeteredFrom limit (asked + earlier.requested) later := by
  induction earlier generalizing asked with
  | nil => exact (true_and _).symm.to_iff
  | cons event earlier ih =>
      rcases event with ⟨path, mark⟩
      cases mark with
      | asked request answer =>
          cases request with
          | enter =>
              have shift : asked + 1 + requested earlier =
                  asked + requested ((path, .asked .enter answer) :: earlier) := by
                simp only [requested, List.countP_cons, if_true]
                omega
              rw [List.cons_append, MeteredFrom, MeteredFrom, ih, and_assoc, shift]
          | _ => exact ih
      | _ => exact ih

theorem MeteredFrom.granted_le (metered : history.MeteredFrom limit asked) :
    history.granted ≤ limit - asked := by
  induction history generalizing asked with
  | nil => exact Nat.zero_le _
  | cons event later ih =>
      rcases event with ⟨path, mark⟩
      rw [granted_cons]
      cases mark with
      | asked request answer =>
          cases request with
          | enter =>
              rcases metered with ⟨answered, metered⟩
              have rest := ih metered
              rw [Mark.grants, answered]
              by_cases under : asked < limit
              · simp only [under, decide_true, if_true]
                omega
              · simp only [under, decide_false, Bool.false_eq_true, if_false]
                omega
          | _ => exact ih metered
      | _ => exact ih metered

theorem MeteredFrom.refused {earlier later : History} {path : List Nat}
    (metered : (earlier ++ (path, .asked .enter false) :: later).MeteredFrom limit asked) :
    later.granted = 0 := by
  induction earlier generalizing asked with
  | nil =>
      rcases metered with ⟨refused, metered⟩
      have spent : ¬ asked < limit := of_decide_eq_false refused.symm
      have rest := metered.granted_le
      omega
  | cons event earlier ih =>
      rcases event with ⟨other, mark⟩
      cases mark with
      | asked request answer =>
          cases request with
          | enter => exact ih metered.2
          | _ => exact ih metered
      | _ => exact ih metered

theorem not_mem_of_granted_eq_zero (none : history.granted = 0) (path : List Nat) :
    (path, .asked .enter true) ∉ history := by
  intro isGranted
  exact List.countP_eq_zero.mp none _ isGranted rfl

end History

namespace Engine

variable {shared : Shared}

/-! ## Entries and attempts -/

theorem Effort.granted_le {α : Type} (efforts : List (Effort α)) :
    (efforts.map fun effort => effort.tried.granted).sum ≤
      History.granted (efforts.flatMap Effort.history) := by
  rw [History.granted_flatMap]
  refine List.sum_le_sum fun effort _ => ?_
  rw [Effort.history, History.granted_append]
  exact Nat.le_add_right _ _

/-- What is granted in the attempts of an entry is granted after the entry itself. -/
theorem Entry.Of.granted_le {entry : Entry} (isOf : entry.Of shared) :
    (entry.tasks.map fun task => task.2.granted).sum + 1 ≤ entry.call.marks.granted := by
  have within : (entry.tasks.map fun task => task.2.granted).sum ≤
      History.granted (entry.efforts.flatMap Effort.history) := by
    refine le_trans ?_ (Effort.granted_le entry.efforts)
    rw [Entry.tasks]
    generalize entry.efforts = efforts
    induction efforts with
    | nil => exact Nat.le_refl _
    | cons first rest ih =>
        have own := History.granted_tasks first.tried 0
        simp only [List.flatMap_cons, List.map_append, List.sum_append, List.map_cons,
          List.sum_cons]
        omega
  have part : History.granted (entry.efforts.flatMap Effort.history) ≤
      entry.call.history.granted := by
    cases isOf with
    | waiting _ unbegun =>
        rw [Entry.efforts_of_none unbegun]
        exact Nat.zero_le _
    | begun isStay whole =>
        rw [Entry.efforts_of_some isStay, whole, Stay.history, History.granted_cons,
          History.granted_append]
        omega
  rw [Call.marks, History.granted_cons, Mark.grants, if_pos rfl]
  omega

/-- No more states are entered, at all depths, than were granted. -/
theorem Ledger.length_le {agenda : Agenda} {entries : List Entry}
    (ledger : Ledger shared agenda entries) :
    entries.length ≤ (agenda.map fun task => task.2.granted).sum := by
  induction ledger with
  | nil => exact Nat.le_refl _
  | write rest ih =>
      rw [List.map_cons, List.sum_cons]
      exact ih.trans (Nat.le_add_left _ _)
  | @branch _ _ _ efforts _ _ _ attempted rest ih =>
      have tried := Effort.granted_le efforts
      simp only [List.map_append, List.sum_append, List.map_map, Function.comp_def, List.map_cons,
        List.sum_cons] at ih ⊢
      omega
  | @graph _ _ _ new tail _ inner _ _ called areOf hosts rest ih =>
      -- Each of the new entries was granted, and what runs in it was granted after that.
      have each : (new.flatMap inner |>.map fun task => task.2.granted).sum + new.length ≤
          History.granted ((new.map Entry.call).flatMap Call.marks) := by
        clear ih rest called
        induction new with
        | nil => exact Nat.le_refl _
        | cons first later ihNew =>
            have own := (areOf first List.mem_cons_self).granted_le
            rw [(hosts first List.mem_cons_self).tasks, List.map_map] at own
            have others := ihNew (fun entry isLater => areOf entry (List.mem_cons_of_mem _ isLater))
              fun entry isLater => hosts entry (List.mem_cons_of_mem _ isLater)
            simp only [List.flatMap_cons, List.map_append, List.sum_append, List.length_cons,
              List.map_cons, History.granted_append, Function.comp_def] at own others ⊢
            omega
      simp only [List.map_append, List.sum_append, List.map_cons, List.sum_cons,
        List.length_append, History.granted_append] at ih ⊢
      omega

theorem Recorded.length_le {machine : Machine} {inherited : Dialect} {id : String}
    {caller : Option Json} {input : Json} {history : History} {entries : List Entry}
    (recorded : Recorded shared machine inherited id caller input history entries) :
    entries.length ≤ history.granted := by
  cases recorded with
  | waiting => exact Nat.le_refl _
  | started ledger => simpa [History.granted_cons, Mark.grants] using ledger.length_le

end Engine

/-! ## The count of a world -/

namespace Schedule

variable {σ α : Type}

def Turn.world : Turn σ α → World σ
  | .done _ world => world
  | .crashed world => world
  | .held _ world => world

/-- A turn is a run of the task by itself whose entries are answered from the count of the world,
which goes on from there. -/
def Turn.Metered (turn : Turn σ α) (process : Process α) (world : World σ) : Prop :=
  turn.world.config = world.config ∧ ∃ history after, Run process history after ∧
    (∀ value later, turn = .done value later → after = .alone (.done value)) ∧
    history.MeteredFrom world.config.maxTransitions world.entered ∧
    turn.world.entered = world.entered + history.requested

theorem Turn.Metered.idle {turn : Turn σ α} {process : Process α} {world : World σ}
    (goesOn : ∀ value later, turn ≠ .done value later) (config : turn.world.config = world.config)
    (counted : turn.world.entered = world.entered) : turn.Metered process world :=
  ⟨config, [], process, .refl _, fun value later ends => absurd ends (goesOn value later), trivial,
    counted⟩

theorem Turn.Metered.step {turn : Turn σ α} {first second : Process α} {before world : World σ}
    {event : List Nat × Mark} (step : Step first event second)
    (metered : turn.Metered second world) (config : world.config = before.config)
    (answered : History.MeteredFrom before.config.maxTransitions before.entered [event])
    (counted : world.entered = before.entered + History.requested [event]) :
    turn.Metered first before := by
  rcases metered with ⟨same, history, after, run, ends, metered, total⟩
  rw [counted, config] at metered
  refine ⟨same.trans config, event :: history, after, .step step run, ends,
    History.meteredFrom_append.mpr ⟨answered, metered⟩, ?_⟩
  have both : History.requested ([event] ++ history) =
      History.requested [event] + history.requested := List.countP_append
  rw [total, counted, Nat.add_assoc, ← both]
  rfl

theorem spawnMembers_world (parent : Nat) (member : Nat → Program Outcome) (index count : Nat)
    (world : World σ) :
    (spawnMembers parent member index count world).entered = world.entered ∧
      (spawnMembers parent member index count world).config = world.config := by
  induction count generalizing index world with
  | zero => exact ⟨rfl, rfl⟩
  | succ count ih => exact ih _ _

/-- The scheduler meters the entries of every program that has its turn. -/
theorem runProgram_metered (host : Host σ) (id : Nat) (program : Program α) (world : World σ) :
    (runProgram host id program world).Metered (.alone program) world := by
  induction program generalizing world with
  | done value => exact ⟨rfl, [], _, .refl _, fun _ _ same => by cases same; rfl, trivial, rfl⟩
  | draw drawn next ih => exact .step (.draw drawn next world.source) (ih _ _) rfl trivial rfl
  | gather count member start absorb next ihMember ihNext =>
      rw [runProgram]
      split
      case isTrue none =>
        subst none
        refine .step (.gather 0 member start absorb next) ?_ rfl trivial rfl
        exact .step (.resume _ false start absorb next) (ihNext start world) rfl trivial rfl
      case isFalse =>
        rcases spawnMembers_world id member 0 count world with ⟨counted, config⟩
        exact .idle nofun config counted
  | ask request next ih =>
      cases request with
      | enter => exact .step (.ask _ next _) (ih _ _) rfl ⟨rfl, trivial⟩ rfl
      | now => exact .step (.ask _ next _) (ih _ _) rfl trivial rfl
      | sleep span =>
          simp only [runProgram]
          split
          · exact .step (.ask _ next _) (ih _ _) rfl trivial rfl
          · exact .idle nofun rfl rfl
      | wait report =>
          simp only [runProgram]
          split
          · exact .step (.ask _ next _) (ih _ _) rfl trivial rfl
          · exact .idle nofun rfl rfl
      | call resource input timeout =>
          simp only [runProgram]
          split
          · exact .step (.ask _ next _) (ih _ _) rfl trivial rfl
          · split
            · exact .idle nofun rfl rfl
            · split
              · exact .step (.ask (.call resource input _) _ .late) (ih _ _) rfl trivial rfl
              · exact .idle nofun rfl rfl
      | completed report =>
          simp only [runProgram]
          split
          · exact .idle nofun rfl rfl
          · exact .step (.ask _ next _) (ih _ _) rfl trivial rfl
      | retry report => exact .step (.ask _ next _) (ih _ _) rfl trivial rfl
      | heartbeat state seconds => exact .step (.ask _ next _) (ih _ _) rfl trivial rfl
      | credentials state value => exact .step (.ask _ next _) (ih _ _) rfl trivial rfl
      | split state items limit =>
          simp only [runProgram]
          split
          · exact .step (.ask _ next _) (ih _ _) rfl trivial rfl
          · exact .step (.ask _ next _) (ih _ _) rfl trivial rfl

end Schedule

end Workflow
