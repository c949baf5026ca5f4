import Workflow.Proofs.Members

/-!
# Choices

A rule is read from an object that has one predicate among its members, and written as that
predicate, with the variable that it tests. Apart from the keys that only a branch carries nothing
else may stand in the object, so a branch that was read is written back as it was. In the other
direction every rule that a document can hold is read back from what is written of it: lists are not
empty, and type tests have literal operands.

Both directions rest on the same two facts: the members of a rule that are looked at are its
predicate alone, and the key of the predicate tells which kind of rule it is.
-/

namespace Workflow

namespace Rule

/-! ## Operators -/

namespace Operator

theorem mem_list (operator : Operator) : operator ∈ list := by
  cases operator with
  | isKind kind => cases kind <;> decide
  | numeric order => cases order <;> decide
  | string order => cases order <;> decide
  | timestamp order => cases order <;> decide
  | _ => decide

theorem ofKey?_name (operator : Operator) : ofKey? operator.name = some (operator, false) := by
  have all : ∀ operator ∈ list, ofKey? operator.name = some (operator, false) := by
    decide +kernel
  exact all operator operator.mem_list

theorem ofKey?_pathKey {operator : Operator} (tests : operator.isTypeTest = false) :
    ofKey? operator.pathKey = some (operator, true) := by
  have all : ∀ operator ∈ list, operator.isTypeTest = false →
      ofKey? operator.pathKey = some (operator, true) := by
    decide +kernel
  exact all operator operator.mem_list tests

theorem key_of_ofKey? {key : String} {operator : Operator} {isPath : Bool}
    (named : ofKey? key = some (operator, isPath)) :
    key = if isPath then operator.pathKey else operator.name := by
  rw [ofKey?] at named
  split at named
  case h_1 other found =>
    have same := List.find?_some found
    cases named
    simpa using (beq_iff_eq.mp same).symm
  case h_2 =>
    rcases Option.map_eq_some_iff.mp named with ⟨other, found, same⟩
    have holds := List.find?_some found
    cases same
    simp only [Bool.and_eq_true, beq_iff_eq] at holds
    simpa using holds.2.symm

/-- Keys of operators come before the variable, and none is the key of another kind of rule or of a
branch. -/
theorem key_apart (operator : Operator) :
    ∀ key ∈ [operator.name, operator.pathKey], key < "Variable" ∧
      key ∉ ["And", "Or", "Not", "Condition"] ∧ key ∉ branchKeys := by
  have all : ∀ operator ∈ list, ∀ key ∈ [operator.name, operator.pathKey], key < "Variable" ∧
      key ∉ ["And", "Or", "Not", "Condition"] ∧ key ∉ branchKeys := by
    decide +kernel
  exact all operator operator.mem_list

end Operator

/-! ## Predicates -/

/-- The member of an object that holds the predicate of a rule. -/
def predicate : Rule → String × Json
  | .all rules => ("And", .array (listToJson rules))
  | .any rules => ("Or", .array (listToJson rules))
  | .not inner => ("Not", inner.toJson)
  | .test _ operator (.literal value) => (operator.name, value)
  | .test _ operator (.path text) => (operator.pathKey, .string text)
  | .condition text => ("Condition", .string text)

def subject? : Rule → Option String
  | .test subject _ _ => some subject
  | _ => none

/-- The members of the object that a rule is written as. -/
def written (rule : Rule) : List (String × Json) :=
  rule.predicate :: (rule.subject?.map fun subject => ("Variable", Json.string subject)).toList

theorem toJson_eq (rule : Rule) : rule.toJson = .object rule.written := by
  cases rule with
  | test subject operator operand => cases operand <;> simp [toJson, written, predicate, subject?]
  | _ => simp [toJson, written, predicate, subject?]

/-- What is known of the key of a predicate, whatever the rule. -/
theorem predicate_key (rule : Rule) :
    rule.predicate.1 < "Variable" ∧ rule.predicate.1 ∉ branchKeys := by
  cases rule with
  | test subject operator operand =>
      cases operand with
      | literal value =>
          rcases operator.key_apart operator.name (by simp) with ⟨before, _, apart⟩
          exact ⟨before, apart⟩
      | path text =>
          rcases operator.key_apart operator.pathKey (by simp) with ⟨before, _, apart⟩
          exact ⟨before, apart⟩
  | _ => simp only [predicate]; decide +kernel

theorem isSkipped_predicate (nested : Bool) (rule : Rule) :
    isSkipped nested rule.predicate.1 = false := by
  rcases rule.predicate_key with ⟨before, apart⟩
  have different := String.ne_of_lt before
  simp [isSkipped, different, apart]

theorem sortedKeys_written (rule : Rule) : Json.SortedKeys rule.written := by
  rcases rule.predicate_key with ⟨before, _⟩
  rw [Json.SortedKeys, written]
  cases rule.subject? with
  | none => exact List.pairwise_singleton _ _
  | some subject => exact List.pairwise_pair.mpr before

theorem lookup_written (rule : Rule) (key : String) :
    Json.lookup key rule.written =
      if key = "Variable" then rule.subject?.map Json.string
      else if key = rule.predicate.1 then some rule.predicate.2 else none := by
  have different := String.ne_of_lt rule.predicate_key.1
  rcases isPredicate : rule.predicate with ⟨name, value⟩
  rw [isPredicate] at different
  cases subject : rule.subject? with
  | none => simp only [written, isPredicate, subject, Json.lookup]; grind [Json.lookup]
  | some text => simp only [written, isPredicate, subject, Json.lookup]; grind [Json.lookup]

theorem lookup_written_of_branchKey (rule : Rule) {key : String} (isKey : key ∈ branchKeys) :
    Json.lookup key rule.written = none := by
  have isVariable : key ≠ "Variable" := by
    rintro rfl
    simp [branchKeys] at isKey
  have isPredicate : key ≠ rule.predicate.1 := by
    rintro rfl
    exact rule.predicate_key.2 isKey
  rw [lookup_written, if_neg isVariable, if_neg isPredicate]

/-! ## Members that are looked at -/

/-- The members of an object that a predicate is looked for in. -/
def considered (nested : Bool) (members : List (String × Json)) : List (String × Json) :=
  members.filter fun member => !isSkipped nested member.1

theorem readMembers_some_iff {nested : Bool} {subject : Option String} {first : Rule}
    {members : List (String × Json)} {found : Option Rule} :
    readMembers nested subject (some first) members = .ok found ↔
      found = some first ∧ considered nested members = [] := by
  induction members with
  | nil => simp [readMembers, considered, eq_comm]
  | cons member rest ih =>
      rcases member with ⟨key, value⟩
      by_cases skipped : isSkipped nested key = true
      · rw [readMembers, if_pos skipped, ih]
        simp [considered, skipped]
      · rw [readMembers, if_neg skipped]
        constructor
        · intro read
          rcases Except.bind_eq_ok.mp read with ⟨rule, _, read⟩
          rcases Except.bind_eq_ok.mp read with ⟨_, kept, _⟩
          cases kept
        · rintro ⟨_, none⟩
          simp [considered, skipped] at none

/-- A rule is read from members exactly when one of them is looked at and is its predicate. -/
theorem readMembers_none_iff {nested : Bool} {subject : Option String} {rule : Rule}
    {members : List (String × Json)} :
    readMembers nested subject none members = .ok (some rule) ↔
      ∃ key value, considered nested members = [(key, value)] ∧
        readPredicate subject key value = .ok rule := by
  induction members with
  | nil => simp [readMembers, considered]
  | cons member rest ih =>
      rcases member with ⟨key, value⟩
      by_cases skipped : isSkipped nested key = true
      · rw [readMembers, if_pos skipped, ih]
        simp [considered, skipped]
      · rw [readMembers, if_neg skipped]
        have looked : considered nested ((key, value) :: rest) =
            (key, value) :: considered nested rest := by
          simp [considered, skipped]
        rw [looked]
        constructor
        · intro read
          rcases Except.bind_eq_ok.mp read with ⟨first, firstRead, read⟩
          rcases Except.bind_eq_ok.mp read with ⟨_, kept, read⟩
          cases kept
          rcases readMembers_some_iff.mp read with ⟨same, alone⟩
          cases same
          exact ⟨key, value, by rw [alone], firstRead⟩
        · rintro ⟨_, _, same, firstRead⟩
          rcases List.cons_eq_cons.mp same with ⟨same, alone⟩
          cases same
          refine Except.bind_eq_ok.mpr ⟨rule, firstRead, ?_⟩
          exact Except.bind_eq_ok.mpr ⟨some rule, rfl, readMembers_some_iff.mpr ⟨rfl, alone⟩⟩

theorem readVariable_eq_ok_iff {nested : Bool} {members : List (String × Json)}
    {subject : Option String} :
    readVariable nested members = .ok subject ↔
      (nested = true → ∀ key ∈ branchKeys, Json.lookup key members = none) ∧
        Json.lookup "Variable" members = subject.map Json.string := by
  rw [readVariable]
  split
  case h_1 key found =>
    have carried := List.find?_some found
    have isKey := List.mem_of_find?_eq_some found
    simp only [Bool.and_eq_true] at carried
    constructor
    · intro read
      cases read
    · rintro ⟨free, _⟩
      rw [free carried.1 key isKey] at carried
      simp at carried
  case h_2 unfound =>
    have free := List.find?_eq_none.mp unfound
    have absent : nested = true → ∀ key ∈ branchKeys, Json.lookup key members = none := by
      intro isNested key isKey
      simpa [isNested] using free key isKey
    cases found : Json.lookup "Variable" members with
    | none => cases subject <;> simp_all
    | some value => cases value <;> cases subject <;> simp_all

theorem finish_some_iff {subject : Option String} {rule result : Rule} :
    finish subject (some rule) = .ok result ↔
      result = rule ∧ (rule.subject? = none → subject = none) := by
  cases rule <;> cases subject <;> simp [finish, subject?, eq_comm]

theorem subject?_of_readTest {subject : Option String} {key : String} {value : Json} {rule : Rule}
    (read : readTest subject key value = .ok rule) :
    rule.subject? = subject ∧ rule.predicate = (key, value) := by
  rw [readTest] at read
  split at read
  case h_1 => cases read
  case h_2 operator isPath named =>
    have isKey := Operator.key_of_ofKey? named
    split at read
    case h_1 => cases read
    case h_2 subject =>
      split at read
      case isTrue path =>
        split at read
        case h_1 text =>
          cases read
          simp [subject?, predicate, isKey, path]
        case h_2 => cases read
      case isFalse literal =>
        cases read
        simp [subject?, predicate, isKey, literal]

/-- What a predicate is read from: its key says which kind of rule it is. -/
inductive PredicateRead (subject : Option String) : String → Json → Rule → Prop where
  | all {items : List Json} {rules : List Rule} (filled : items ≠ [])
      (itemsRead : readItems "And" items = .ok rules) :
      PredicateRead subject "And" (.array items) (.all rules)
  | any {items : List Json} {rules : List Rule} (filled : items ≠ [])
      (itemsRead : readItems "Or" items = .ok rules) :
      PredicateRead subject "Or" (.array items) (.any rules)
  | not {members : List (String × Json)} {inner : Rule} (innerRead : read true members = .ok inner) :
      PredicateRead subject "Not" (.object members) (.not inner)
  | condition (text : String) :
      PredicateRead subject "Condition" (.string text) (.condition text)
  | test {key : String} {value : Json} {rule : Rule}
      (apart : key ∉ ["And", "Or", "Not", "Condition"])
      (testRead : readTest subject key value = .ok rule) : PredicateRead subject key value rule

theorem predicateRead_iff {subject : Option String} {key : String} {value : Json} {rule : Rule} :
    readPredicate subject key value = .ok rule ↔ PredicateRead subject key value rule := by
  constructor
  · intro done
    by_cases special : key ∈ ["And", "Or", "Not", "Condition"]
    · simp only [List.mem_cons, List.not_mem_nil, or_false] at special
      rcases special with rfl | rfl | rfl | rfl
      · cases value <;> simp [readPredicate] at done
        case array items =>
          split at done
          case isTrue => cases done
          case isFalse filled =>
            cases itemsRead : readItems "And" items with
            | error flaw => simp [itemsRead] at done
            | ok rules =>
                simp only [itemsRead] at done
                cases done
                exact .all filled itemsRead
      · cases value <;> simp [readPredicate] at done
        case array items =>
          split at done
          case isTrue => cases done
          case isFalse filled =>
            cases itemsRead : readItems "Or" items with
            | error flaw => simp [itemsRead] at done
            | ok rules =>
                simp only [itemsRead] at done
                cases done
                exact .any filled itemsRead
      · cases value <;> simp [readPredicate] at done
        case object members =>
          rcases Except.bind_eq_ok.mp done with ⟨subject, variableRead, done⟩
          rcases Except.bind_eq_ok.mp done with ⟨found, membersRead, done⟩
          rcases Except.bind_eq_ok.mp done with ⟨inner, finished, done⟩
          cases done
          refine .not (Except.bind_eq_ok.mpr ⟨subject, variableRead, ?_⟩)
          exact Except.bind_eq_ok.mpr ⟨found, membersRead, finished⟩
      · cases value <;> simp [readPredicate] at done
        case string text =>
          cases done
          exact .condition text
    · refine .test special ?_
      simp only [List.mem_cons, List.not_mem_nil, or_false, not_or] at special
      rcases special with ⟨notAnd, notOr, notNot, notCondition⟩
      cases value <;> simpa [readPredicate, notAnd, notOr, notNot, notCondition] using done
  · intro from_
    cases from_ with
    | all filled itemsRead =>
        simp [readPredicate, filled, itemsRead, bind, Except.bind, pure, Except.pure]
    | any filled itemsRead =>
        simp [readPredicate, filled, itemsRead, bind, Except.bind, pure, Except.pure]
    | not innerRead =>
        rcases Except.bind_eq_ok.mp innerRead with ⟨subject, variableRead, done⟩
        rcases Except.bind_eq_ok.mp done with ⟨found, membersRead, finished⟩
        rw [readPredicate, if_pos rfl, variableRead]
        simp [membersRead, finished, bind, Except.bind, pure, Except.pure]
    | condition text => simp [readPredicate]
    | test special testRead =>
        simp only [List.mem_cons, List.not_mem_nil, or_false, not_or] at special
        rcases special with ⟨notAnd, notOr, notNot, notCondition⟩
        cases value <;> simpa [readPredicate, notAnd, notOr, notNot, notCondition] using testRead

theorem PredicateRead.subject? {subject : Option String} {key : String} {value : Json}
    {rule : Rule} (done : PredicateRead subject key value rule) :
    rule.subject? = none ∨ rule.subject? = subject := by
  cases done with
  | test _ testRead => exact Or.inr (subject?_of_readTest testRead).1
  | _ => exact Or.inl rfl

/-- A rule is read from an object when its predicate is the only member that is looked at, and the
variable stands there if the predicate is a data test and only then. -/
theorem read_eq_ok_iff {nested : Bool} {members : List (String × Json)} {rule : Rule} :
    read nested members = .ok rule ↔
      (nested = true → ∀ key ∈ branchKeys, Json.lookup key members = none) ∧
      Json.lookup "Variable" members = rule.subject?.map Json.string ∧
      ∃ key value, considered nested members = [(key, value)] ∧
        PredicateRead rule.subject? key value rule := by
  constructor
  · intro done
    rcases Except.bind_eq_ok.mp done with ⟨subject, variableRead, done⟩
    rcases Except.bind_eq_ok.mp done with ⟨found, membersRead, done⟩
    cases found with
    | none => cases done
    | some other =>
        rcases finish_some_iff.mp done with ⟨rfl, unused⟩
        rcases readVariable_eq_ok_iff.mp variableRead with ⟨free, found⟩
        rcases readMembers_none_iff.mp membersRead with ⟨key, value, alone, predicateRead⟩
        have same : rule.subject? = subject := by
          rcases (predicateRead_iff.mp predicateRead).subject? with absent | same
          · rw [absent, unused absent]
          · exact same
        subst same
        exact ⟨free, found, key, value, alone, predicateRead_iff.mp predicateRead⟩
  · rintro ⟨free, found, key, value, alone, predicateRead⟩
    refine Except.bind_eq_ok.mpr ⟨rule.subject?, readVariable_eq_ok_iff.mpr ⟨free, found⟩, ?_⟩
    refine Except.bind_eq_ok.mpr ⟨some rule, ?_, finish_some_iff.mpr ⟨rfl, id⟩⟩
    exact readMembers_none_iff.mpr ⟨key, value, alone, predicateRead_iff.mpr predicateRead⟩

theorem readItem_object (key : String) (members : List (String × Json)) :
    readItem key (.object members) = read true members := by
  rw [readItem, read]

theorem mem_of_considered {nested : Bool} {members : List (String × Json)} {key : String}
    {value : Json} (alone : considered nested members = [(key, value)]) :
    (key, value) ∈ members := by
  have present : (key, value) ∈ considered nested members := by simp [alone]
  exact (List.mem_filter.mp present).1

theorem lookup_considered {nested : Bool} {key : String}
    (looked : isSkipped nested key = false) (members : List (String × Json)) :
    Json.lookup key (considered nested members) = Json.lookup key members := by
  have filtered := Record.lookup_filter (fun key => !isSkipped nested key) key members
  simpa [considered, looked] using filtered

/-! ## What was read is written back -/

/-- The object of a nested rule holds nothing but what the rule is written as. -/
theorem written_eq {members : List (String × Json)} (sorted : Json.SortedKeys members) {rule : Rule}
    (variableFound : Json.lookup "Variable" members = rule.subject?.map Json.string)
    (alone : considered true members = [rule.predicate]) : rule.written = members := by
  apply Json.ext_of_lookup rule.sortedKeys_written sorted
  intro key
  rw [lookup_written]
  split
  case isTrue isVariable => rw [isVariable, variableFound]
  case isFalse different =>
    have looked : isSkipped true key = false := by simp [isSkipped, different]
    -- Nothing but the variable is skipped in a nested rule, so every other key is looked at.
    rw [← lookup_considered looked, alone]
    rcases rule.predicate with ⟨name, value⟩
    simp [Json.lookup, eq_comm]

theorem toJson_of_read {members : List (String × Json)} {rule : Rule}
    (done : read true members = .ok rule) (sorted : Json.SortedKeys members)
    (same : ∀ subject key value, (key, value) ∈ members → ∀ rule,
      PredicateRead subject key value rule → rule.predicate = (key, value)) :
    rule.toJson = .object members := by
  rcases read_eq_ok_iff.mp done with ⟨_, variableFound, key, value, alone, predicateRead⟩
  rw [← same _ key value (mem_of_considered alone) rule predicateRead] at alone
  rw [toJson_eq, written_eq sorted variableFound alone]

mutual

theorem predicate_of_read (value : Json) (sorted : value.Sorted) {subject : Option String}
    {key : String} {rule : Rule} (done : PredicateRead subject key value rule) :
    rule.predicate = (key, value) := by
  cases value with
  | array items =>
      cases done with
      | all _ itemsRead => rw [predicate, listToJson_of_readItems items sorted itemsRead]
      | any _ itemsRead => rw [predicate, listToJson_of_readItems items sorted itemsRead]
      | test _ testRead => exact (subject?_of_readTest testRead).2
  | object members =>
      cases done with
      | not innerRead =>
          rw [predicate, toJson_of_read innerRead sorted.1]
          exact predicate_of_mem members sorted.2
      | test _ testRead => exact (subject?_of_readTest testRead).2
  | string text =>
      cases done with
      | condition => rfl
      | test _ testRead => exact (subject?_of_readTest testRead).2
  | _ =>
      cases done with
      | test _ testRead => exact (subject?_of_readTest testRead).2

theorem predicate_of_mem (members : List (String × Json)) (sorted : Json.SortedMembers members)
    (subject : Option String) (key : String) (value : Json) (present : (key, value) ∈ members)
    (rule : Rule) (done : PredicateRead subject key value rule) :
    rule.predicate = (key, value) := by
  cases members with
  | nil => cases present
  | cons head rest =>
      rcases head with ⟨name, other⟩
      rcases List.mem_cons.mp present with here | there
      · rw [Prod.mk.injEq] at here
        rw [here.2] at done ⊢
        exact predicate_of_read other sorted.1 done
      · exact predicate_of_mem rest sorted.2 subject key value there rule done

theorem listToJson_of_readItems (items : List Json) (sorted : Json.SortedItems items)
    {key : String} {rules : List Rule} (done : readItems key items = .ok rules) :
    listToJson rules = items := by
  cases items with
  | nil =>
      rw [readItems] at done
      cases done
      rfl
  | cons item rest =>
      rw [readItems] at done
      rcases Except.bind_eq_ok.mp done with ⟨first, firstRead, done⟩
      rcases Except.bind_eq_ok.mp done with ⟨others, othersRead, done⟩
      cases done
      rw [listToJson, toJson_of_readItem item sorted.1 firstRead,
        listToJson_of_readItems rest sorted.2 othersRead]

theorem toJson_of_readItem (item : Json) (sorted : item.Sorted) {key : String} {rule : Rule}
    (done : readItem key item = .ok rule) : rule.toJson = item := by
  cases item with
  | object members =>
      rw [readItem_object] at done
      exact toJson_of_read done sorted.1 (predicate_of_mem members sorted.2)
  | _ => cases done

end

/-! ## What was written is read back -/

mutual

/-- Rules that a document can hold: no list is empty, and type tests have literal operands. -/
def Writable : Rule → Prop
  | .all rules => rules ≠ [] ∧ AllWritable rules
  | .any rules => rules ≠ [] ∧ AllWritable rules
  | .not inner => inner.Writable
  | .test _ _ (.literal _) => True
  | .test _ operator (.path _) => operator.isTypeTest = false
  | .condition _ => True

def AllWritable : List Rule → Prop
  | [] => True
  | rule :: rest => rule.Writable ∧ AllWritable rest

end

theorem considered_written (nested : Bool) (rule : Rule) :
    considered nested rule.written = [rule.predicate] := by
  have looked := isSkipped_predicate nested rule
  have skipped : isSkipped nested "Variable" = true := by simp [isSkipped]
  cases subject : rule.subject? <;> simp [considered, written, subject, looked, skipped]

theorem read_written {rule : Rule}
    (predicateRead : PredicateRead rule.subject? rule.predicate.1 rule.predicate.2 rule) :
    read true rule.written = .ok rule := by
  refine read_eq_ok_iff.mpr ⟨?_, ?_, _, _, considered_written true rule, predicateRead⟩
  · intro _ key isKey
    exact rule.lookup_written_of_branchKey isKey
  · rw [lookup_written, if_pos rfl]

theorem listToJson_ne_nil {rules : List Rule} (filled : rules ≠ []) : listToJson rules ≠ [] := by
  cases rules with
  | nil => exact absurd rfl filled
  | cons rule rest => simp [listToJson]

mutual

theorem read_predicate (rule : Rule) (writable : rule.Writable) :
    PredicateRead rule.subject? rule.predicate.1 rule.predicate.2 rule := by
  cases rule with
  | all rules =>
      exact .all (listToJson_ne_nil writable.1) (readItems_listToJson "And" rules writable.2)
  | any rules =>
      exact .any (listToJson_ne_nil writable.1) (readItems_listToJson "Or" rules writable.2)
  | not inner =>
      have innerRead := read_written (read_predicate inner writable)
      simp only [predicate, toJson_eq]
      exact .not innerRead
  | test subject operator operand =>
      cases operand with
      | literal value =>
          refine .test (operator.key_apart operator.name (by simp)).2.1 ?_
          simp [predicate, Rule.subject?, readTest, Operator.ofKey?_name]
      | path text =>
          refine .test (operator.key_apart operator.pathKey (by simp)).2.1 ?_
          simp [predicate, Rule.subject?, readTest, Operator.ofKey?_pathKey writable]
  | condition text => exact .condition text

theorem readItems_listToJson (key : String) (rules : List Rule) (writable : AllWritable rules) :
    readItems key (listToJson rules) = .ok rules := by
  cases rules with
  | nil => rfl
  | cons rule rest =>
      have firstRead := read_written (read_predicate rule writable.1)
      have othersRead := readItems_listToJson key rest writable.2
      rw [listToJson, readItems, toJson_eq, readItem_object, firstRead, othersRead]
      rfl

end

end Rule

/-! ## Branches -/

namespace Branch

/-- The members that a branch has besides those of its rule. -/
def fields (branch : Branch) : List (String × Option Json) :=
  [("Next", some (.string branch.next)), ("Assign", branch.assign), ("Output", branch.output),
   ("Comment", branch.comment.map .string)]

theorem fields_nodup (branch : Branch) : (branch.fields.map Prod.fst).Nodup := by
  simp [fields]

theorem toJson_eq (branch : Branch) :
    branch.toJson = .object (Json.overlay branch.rule.written (Record.settled branch.fields)) := by
  rw [toJson, Rule.toJson_eq]
  rfl

theorem lookup_toJson (branch : Branch) (key : String) :
    Json.lookup key (Json.overlay branch.rule.written (Record.settled branch.fields)) =
      ((branch.fields.lookup key).join).or (Json.lookup key branch.rule.written) := by
  rw [Json.lookup_overlay (Record.settled_nodup branch.fields_nodup),
    Record.lookup_settled branch.fields_nodup]

/-- A branch is read from members that hold its rule and say what it has besides. -/
theorem read_eq_ok_iff {members : List (String × Json)} {branch : Branch} :
    read members = .ok branch ↔
      (∀ key ∈ Rule.branchKeys, Json.lookup key members = (branch.fields.lookup key).join) ∧
        Rule.read false members = .ok branch.rule := by
  have own : (∀ key ∈ Rule.branchKeys,
      Json.lookup key members = (branch.fields.lookup key).join) ↔
        Json.lookup "Next" members = some (.string branch.next) ∧
        Json.lookup "Assign" members = branch.assign ∧
        Json.lookup "Output" members = branch.output ∧
        Json.lookup "Comment" members = branch.comment.map .string := by
    simp [Rule.branchKeys, fields, List.lookup_cons]
  rw [own]
  constructor
  · intro done
    simp only [read, pure_bind] at done
    split at done
    case h_1 next nextFound =>
      split at done
      case h_1 commentFound =>
        rcases Except.bind_eq_ok.mp done with ⟨rule, ruleRead, done⟩
        cases done
        exact ⟨⟨nextFound, rfl, rfl, commentFound⟩, ruleRead⟩
      case h_2 comment commentFound =>
        rcases Except.bind_eq_ok.mp done with ⟨rule, ruleRead, done⟩
        cases done
        exact ⟨⟨nextFound, rfl, rfl, commentFound⟩, ruleRead⟩
      case h_3 => cases done
    case h_2 => cases done
  · rintro ⟨⟨next, assign, output, comment⟩, ruleRead⟩
    rcases branch with ⟨rule, target, assigned, given, remark⟩
    cases remark <;> simp_all [read, bind, Except.bind, pure, Except.pure]

/-- A branch that was read is written back as it was. -/
theorem toJson_of_read {members : List (String × Json)} {branch : Branch}
    (done : read members = .ok branch) (sorted : (Json.object members).Sorted) :
    branch.toJson = .object members := by
  rcases read_eq_ok_iff.mp done with ⟨own, ruleRead⟩
  rcases Rule.read_eq_ok_iff.mp ruleRead with ⟨_, variableFound, key, value, alone, predicateRead⟩
  have same := Rule.predicate_of_mem members sorted.2 _ key value (Rule.mem_of_considered alone) _
    predicateRead
  rw [toJson_eq, Json.object.injEq]
  apply Json.ext_of_lookup (Json.sortedKeys_overlay branch.rule.sortedKeys_written _) sorted.1
  intro name
  rw [lookup_toJson]
  by_cases isOwn : name ∈ Rule.branchKeys
  · rw [own name isOwn, Rule.lookup_written_of_branchKey _ isOwn, Option.or_none]
  · have unset : branch.fields.lookup name = none := by
      rw [List.lookup_eq_none_iff]
      simp only [Rule.branchKeys, List.mem_cons, List.not_mem_nil, or_false, not_or] at isOwn
      simp [fields, isOwn]
    rw [unset, Rule.lookup_written]
    by_cases isVariable : name = "Variable"
    · simp [isVariable, variableFound]
    · have looked : Rule.isSkipped false name = false := by
        simp [Rule.isSkipped, isVariable, isOwn]
      rw [← Rule.lookup_considered looked, alone, same]
      simp [Json.lookup, isVariable, eq_comm]

/-- A branch with a rule that a document can hold is read back from what is written of it. -/
theorem read_toJson (branch : Branch) (writable : branch.rule.Writable) :
    ∃ members, branch.toJson = .object members ∧ read members = .ok branch := by
  refine ⟨_, branch.toJson_eq, read_eq_ok_iff.mpr ⟨?_, Rule.read_eq_ok_iff.mpr ⟨?_, ?_, ?_⟩⟩⟩
  · intro key isKey
    rw [lookup_toJson, Rule.lookup_written_of_branchKey _ isKey, Option.or_none]
  · simp
  · have unset : branch.fields.lookup "Variable" = none := by simp [fields, List.lookup_cons]
    rw [lookup_toJson, unset, Rule.lookup_written, if_pos rfl]
    simp
  · have dropped : ∀ member ∈ Record.settled branch.fields,
        (!Rule.isSkipped false member.1) = false := by
      intro member isMember
      rcases List.mem_filterMap.mp isMember with ⟨field, isField, same⟩
      rcases Option.map_eq_some_iff.mp same with ⟨value, _, rfl⟩
      simp only [fields, List.mem_cons, List.not_mem_nil, or_false] at isField
      rcases isField with rfl | rfl | rfl | rfl <;> rfl
    refine ⟨_, _, ?_, Rule.read_predicate branch.rule writable⟩
    rw [Rule.considered,
      Json.filter_overlay_of_dropped (fun key => !Rule.isSkipped false key) dropped]
    exact Rule.considered_written false branch.rule

/-- Reading and writing branches undo each other: an object with its keys in order from which a
branch is read is what the branch is written as, and a branch that a document can hold is read from
the object that it is written as. -/
theorem read_toJson_inverse :
    (∀ members branch, (Json.object members).Sorted → read members = .ok branch →
      branch.toJson = .object members) ∧
    ∀ branch : Branch, branch.rule.Writable →
      ∃ members, branch.toJson = .object members ∧ read members = .ok branch :=
  ⟨fun _ _ sorted done => toJson_of_read done sorted, read_toJson⟩

/-- A branch with nested rules, an assignment of null and an output of null. -/
def neither : List (String × Json) :=
  [("Assign", .null), ("Comment", .string "neither"), ("Next", .string "Go"),
   ("Not", .object [("Or", .array [
     .object [("BooleanEquals", .bool true), ("Variable", .string "$.a")],
     .object [("TimestampLessThanPath", .string "$.limit"), ("Variable", .string "$.b")]])]),
   ("Output", .null)]

def neitherBranch : Branch where
  rule := .not (.any [.test "$.a" .boolean (.literal (.bool true)),
    .test "$.b" (.timestamp .less) (.path "$.limit")])
  next := "Go"
  assign := some .null
  output := some .null
  comment := some "neither"

theorem read_toJson_inverse_neither :
    read neither = .ok neitherBranch ∧ neitherBranch.toJson = .object neither ∧
      ∃ members, neitherBranch.toJson = .object members ∧ read members = .ok neitherBranch := by
  have written : neitherBranch.toJson = .object neither := by cbv
  have sorted : (Json.object neither).Sorted := by
    simp only [neither, Json.Sorted, Json.SortedKeys, Json.SortedMembers, Json.SortedItems,
      and_true, true_and]
    decide +kernel
  have writable : neitherBranch.rule.Writable := by
    simp [neitherBranch, Rule.Writable, Rule.AllWritable, Rule.Operator.isTypeTest]
  rcases read_toJson_inverse.2 neitherBranch writable with ⟨members, isObject, done⟩
  cases written.symm.trans isObject
  exact ⟨done, read_toJson_inverse.1 neither neitherBranch sorted done,
    neither, written, done⟩

end Branch

end Workflow
