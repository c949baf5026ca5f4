import Mathlib
import Workflow.Decimal.Binary
import Workflow.Proofs.Records

/-!
# Likeness

When two documents say the same: the same keys with the same values, numbers compared by value. What
a record is written as is like the document that it was read from just in case the document has only
fields of which everything is kept. Which these are is a table for each record, and the law of a
field says that its entry in the table is right.
-/

namespace Workflow

/-! ## Equality of values across kinds of numbers -/

/-- Numbers of the same value; an integer may be equal to a float. -/
def Number.Alike : Number → Number → Prop
  | .int left, .int right => left = right
  | .float left, .float right => left = right ∨ (left == right) = true
  | .int left, .float right => Decimal.integral? right = some left
  | .float left, .int right => Decimal.integral? left = some right

theorem Number.alike_refl (number : Number) : number.Alike number := by
  cases number with
  | int value => rfl
  | float value => exact .inl rfl

namespace Json

mutual

/-- Whether two documents have the same keys and values, numbers compared by value. -/
def Alike : Json → Json → Prop
  | .null, .null => True
  | .bool left, .bool right => left = right
  | .number left, .number right => left.Alike right
  | .string left, .string right => left = right
  | .array left, .array right => AlikeItems left right
  | .object left, .object right => AlikeMembers left right
  | _, _ => False

def AlikeItems : List Json → List Json → Prop
  | [], [] => True
  | left :: leftRest, right :: rightRest => left.Alike right ∧ AlikeItems leftRest rightRest
  | _, _ => False

def AlikeMembers : List (String × Json) → List (String × Json) → Prop
  | [], [] => True
  | (leftKey, left) :: leftRest, (rightKey, right) :: rightRest =>
    leftKey = rightKey ∧ left.Alike right ∧ AlikeMembers leftRest rightRest
  | _, _ => False

end

mutual

theorem alike_refl : (document : Json) → document.Alike document
  | .null => trivial
  | .bool _ => rfl
  | .number value => value.alike_refl
  | .string _ => rfl
  | .array items => alikeItems_refl items
  | .object members => alikeMembers_refl members

theorem alikeItems_refl : (items : List Json) → AlikeItems items items
  | [] => trivial
  | item :: rest => ⟨item.alike_refl, alikeItems_refl rest⟩

theorem alikeMembers_refl : (members : List (String × Json)) → AlikeMembers members members
  | [] => trivial
  | (_, value) :: rest => ⟨rfl, value.alike_refl, alikeMembers_refl rest⟩

end

/-- Whether two fields are both missing or have values that are alike. -/
def AlikeField : Option Json → Option Json → Prop
  | none, none => True
  | some left, some right => left.Alike right
  | _, _ => False

theorem missing_iff {left right : Option Json} (alike : AlikeField left right) :
    left = none ↔ right = none := by
  cases left <;> cases right <;> simp_all [AlikeField]

theorem alikeField_of_alikeMembers {left right : List (String × Json)}
    (alike : AlikeMembers left right) (key : String) :
    AlikeField (lookup key left) (lookup key right) := by
  induction left generalizing right with
  | nil =>
    cases right with
    | nil => trivial
    | cons second right => cases alike
  | cons first left ih =>
    cases right with
    | nil => cases alike
    | cons second right =>
      rcases first with ⟨name, value⟩
      rcases second with ⟨_, other⟩
      rcases alike with ⟨rfl, same, rest⟩
      rw [lookup, lookup]
      split
      · exact same
      · exact ih rest

theorem lookup_of_before {key : String} {members : List (String × Json)}
    (before : ∀ member ∈ members, key < member.1) : lookup key members = none :=
  lookup_eq_none fun member mem => (String.ne_of_lt (before member mem)).symm

/-- Where all lookups are alike, the first key of either document is not before that of the
other. -/
theorem not_before_of_alike {left right : List (String × Json)} {name other : String}
    {value otherValue : Json} (rightSorted : SortedKeys ((other, otherValue) :: right))
    (missing : ∀ key, lookup key ((other, otherValue) :: right) = none →
      lookup key ((name, value) :: left) = none) : ¬ name < other := by
  intro before
  have unknown : lookup name ((other, otherValue) :: right) = none := by
    apply lookup_of_before
    intro member mem
    rcases List.mem_cons.mp mem with rfl | mem
    · exact before
    · exact String.lt_trans before ((List.pairwise_cons.mp rightSorted).1 member mem)
  have found := missing name unknown
  simp [lookup] at found

/-- In documents with their keys in order, keys and values are the same when all lookups are
alike. -/
theorem alikeMembers_iff {left right : List (String × Json)} (leftSorted : SortedKeys left)
    (rightSorted : SortedKeys right) :
    AlikeMembers left right ↔ ∀ key, AlikeField (lookup key left) (lookup key right) := by
  refine ⟨alikeField_of_alikeMembers, ?_⟩
  intro each
  induction left generalizing right with
  | nil =>
    cases right with
    | nil => trivial
    | cons second right =>
      have missing := each second.1
      simp [lookup, AlikeField] at missing
  | cons first left ih =>
    rcases first with ⟨name, value⟩
    rcases List.pairwise_cons.mp leftSorted with ⟨leftBefore, leftRest⟩
    cases right with
    | nil =>
      have missing := each name
      simp [lookup, AlikeField] at missing
    | cons second right =>
      rcases second with ⟨other, otherValue⟩
      rcases List.pairwise_cons.mp rightSorted with ⟨rightBefore, rightRest⟩
      -- Each of the two is the least key of its document, and it is also found in the other one.
      have same : name = other := by
        apply String.le_antisymm
        · exact String.not_lt.mp (not_before_of_alike leftSorted fun key =>
            (missing_iff (each key)).mp)
        · exact String.not_lt.mp (not_before_of_alike rightSorted fun key =>
            (missing_iff (each key)).mpr)
      subst same
      have here := each name
      simp only [lookup, if_true] at here
      refine ⟨rfl, here, ih leftRest rightRest ?_⟩
      intro key
      by_cases isName : name = key
      · subst isName
        rw [lookup_eq_none fun member mem => (String.ne_of_lt (leftBefore member mem)).symm,
          lookup_eq_none fun member mem => (String.ne_of_lt (rightBefore member mem)).symm]
        trivial
      · have below := each key
        simp only [lookup, if_neg isName] at below
        exact below

end Json

/-! ## Tables -/

namespace Json

/-- Everything is kept. -/
def Anything (_ : Json) : Prop := True

/-- What is kept of an optional field, in which a null is lost. -/
def NonNull (kept : Json → Prop) (value : Json) : Prop := value ≠ .null ∧ kept value

/-- What is kept of a list. -/
def Every (kept : Json → Prop) (value : Json) : Prop :=
  ∀ items, value = .array items → ∀ item ∈ items, kept item

/-- What is kept of an optional list, which is lost when it is empty. -/
def Filled (kept : Json → Prop) (value : Json) : Prop := value ≠ .array [] ∧ Every kept value

/-- What is kept of a number that becomes a float: everything, unless it is an integer that no
double is equal to. -/
def Exact : Json → Prop
  | .number (.int whole) => Decimal.integral? (Float.ofInt whole) = some whole
  | _ => True

/-- What is kept of an enumeration that may be written as an object: texts. -/
def IsText (value : Json) : Prop := ∃ text, value = .string text

/-- What is kept of a dialect: the first of its names. -/
def NamesDialect (value : Json) : Prop := ∃ dialect : Dialect, value = .string dialect.name

end Json

namespace Record

open Json (AlikeField Anything NonNull Every Filled Exact IsText NamesDialect)

variable {α : Type} {fields : Fields} {name : String}

/-- The names of fields, with what is kept of each. -/
abbrev Table := List (String × (Json → Prop))

/-- Whether every field of a record is in a table and kept. -/
def Fits (table : Table) (fields : Fields) : Prop :=
  ∀ name value, Json.lookup name fields = some value →
    ∃ kept, table.lookup name = some kept ∧ kept value

/-- Whether a document is an object whose fields are kept. -/
def Kept (table : Table) : Json → Prop
  | .object fields => Fits table fields
  | _ => False

/-- A field is written alike just in case it is missing or kept. -/
def Law (fields : Fields) (name : String) (written : Option Json) (kept : Json → Prop) : Prop :=
  AlikeField written (Json.lookup name fields) ↔
    ∀ value, Json.lookup name fields = some value → kept value

/-- A table has an entry for every field that is written, each of which is right. -/
inductive Lawful (fields : Fields) : List (String × Option Json) → Table → Prop where
  | nil : Lawful fields [] []
  | cons {name : String} {value : Option Json} {kept : Json → Prop}
      {written : List (String × Option Json)} {table : Table} (law : Law fields name value kept)
      (rest : Lawful fields written table) :
      Lawful fields ((name, value) :: written) ((name, kept) :: table)

theorem Lawful.append {first second : List (String × Option Json)} {table other : Table}
    (left : Lawful fields first table) (right : Lawful fields second other) :
    Lawful fields (first ++ second) (table ++ other) := by
  induction left with
  | nil => exact right
  | cons law rest ih => exact .cons law ih

theorem Lawful.lookup {written : List (String × Option Json)} {table : Table}
    (lawful : Lawful fields written table) (name : String) :
    (written.lookup name = none ∧ table.lookup name = none) ∨
      ∃ value kept, written.lookup name = some value ∧ table.lookup name = some kept ∧
        Law fields name value kept := by
  induction lawful with
  | nil => exact .inl ⟨rfl, rfl⟩
  | @cons other value kept written table law rest ih =>
    by_cases same : name = other
    · subst same
      exact .inr ⟨value, kept, by simp, by simp, law⟩
    · have different : (name == other) = false := beq_eq_false_iff_ne.mpr same
      rw [List.lookup_cons, List.lookup_cons, different]
      exact ih

/-- A record is written alike just in case its fields are kept. -/
theorem Lawful.alike_iff {written : List (String × Option Json)} {table : Table}
    (lawful : Lawful fields written table) (nodup : (written.map Prod.fst).Nodup)
    (sorted : Json.SortedKeys fields) :
    (object written).Alike (.object fields) ↔ Fits table fields := by
  rw [object_eq, Json.Alike, Json.alikeMembers_iff (sortedKeys_object written) sorted, Fits]
  refine forall_congr' fun name => ?_
  rw [lookup_object nodup]
  rcases lawful.lookup name with ⟨noField, noEntry⟩ | ⟨value, kept, isField, isEntry, law⟩
  · rw [noField, noEntry]
    cases Json.lookup name fields <;> simp [AlikeField]
  · rw [Law] at law
    rw [isField, isEntry, Option.join_some, law]
    simp

/-! ## Laws of fields -/

/-- What a reader reads from a proper document is written alike just in case it is kept. -/
structure Copies (read : Json → Option α) (write : α → Json) (kept : Json → Prop) : Prop where
  strict : read .null = none
  alike : ∀ value found, value.Proper → read value = some found →
    ((write found).Alike value ↔ kept value)

section Fields

variable {read : Json → Option α} {write : α → Json} {kept : Json → Prop}

theorem Copies.required (copies : Copies read write kept) (own : Proper fields) {found : α}
    (was : required read name fields = some found) : Law fields name (some (write found)) kept := by
  rcases Option.bind_eq_some_iff.mp was with ⟨value, isField, fits⟩
  rw [Law, isField]
  simpa [AlikeField] using copies.alike value found (own name value isField) fits

theorem Copies.optional (copies : Copies read write kept) (own : Proper fields)
    {found : Option α} (was : optional read name fields = some found) :
    Law fields name (found.map write) (NonNull kept) := by
  rw [Law]
  rw [Record.optional] at was
  split at was
  next missing =>
    cases was
    simp [missing, AlikeField]
  next isNull =>
    cases was
    simp [isNull, AlikeField, NonNull]
  next value noNull isField =>
    rcases Option.map_eq_some_iff.mp was with ⟨found, fits, rfl⟩
    have alike := copies.alike value found (own name value isField) fits
    have present : value ≠ .null := noNull
    simpa [isField, AlikeField, NonNull, present] using alike

theorem nullable_law {found : Option (Option String)}
    (was : nullable Json.string? name fields = some found) :
    Law fields name (nullableText found) Anything := by
  rw [Law]
  rw [nullable] at was
  split at was
  next missing =>
    cases was
    simp [missing, nullableText, AlikeField]
  next isNull =>
    cases was
    simp [isNull, nullableText, AlikeField, Json.Alike, Anything]
  next value _ isField =>
    rcases Option.map_eq_some_iff.mp was with ⟨text, fits, rfl⟩
    cases value with
    | string other =>
      cases fits
      simp [isField, nullableText, AlikeField, Json.Alike, Anything]
    | _ => cases fits

theorem any_law {found : Option Json} (was : found = any name fields) :
    Law fields name found (NonNull Anything) := by
  rw [Law, was, any]
  cases isField : Json.lookup name fields with
  | none => simp [AlikeField]
  | some value =>
    cases value with
    | null => simp [AlikeField, NonNull]
    | _ => simp [AlikeField, NonNull, Anything, Json.alike_refl]

theorem Copies.items (copies : Copies read write kept) {documents : List Json}
    (proper : ∀ document ∈ documents, document.Proper) {items : List α}
    (was : documents.mapM read = some items) :
    Json.AlikeItems (items.map write) documents ↔ ∀ document ∈ documents, kept document := by
  induction documents generalizing items with
  | nil =>
    cases was
    simp [Json.AlikeItems]
  | cons first rest ih =>
    rw [List.mapM_cons] at was
    rcases Option.bind_eq_some_iff.mp was with ⟨item, fits, was⟩
    rcases Option.bind_eq_some_iff.mp was with ⟨others, restDone, was⟩
    cases was
    rw [List.map_cons, Json.AlikeItems, List.forall_mem_cons,
      copies.alike first item (proper first List.mem_cons_self) fits,
      ih (fun document mem => proper document (List.mem_cons_of_mem _ mem)) restDone]

theorem Copies.list (copies : Copies read write kept) :
    Copies (list read) (fun items => .array (items.map write)) (Every kept) where
  strict := rfl
  alike value items proper was := by
    cases value with
    | array documents =>
      simpa [Json.Alike, Every] using copies.items (fun _ mem => proper.item mem) was
    | _ => cases was

theorem Copies.orElse (copies : Copies read write kept) (own : Proper fields) {items : List α}
    (was : orElse (Record.list read) [] name fields = some items) :
    Law fields name (someList write items) (Filled kept) := by
  rw [Law]
  rw [Record.orElse] at was
  split at was
  next missing =>
    cases was
    simp [missing, someList, AlikeField]
  next value isField =>
    have alike := copies.list.alike value items (own name value isField) was
    cases value with
    | array documents =>
      cases documents with
      | nil =>
        cases was
        simp [isField, someList, AlikeField, Filled]
      | cons first rest =>
        have filled : items ≠ [] := by
          rintro rfl
          rw [Record.list, List.mapM_cons] at was
          rcases Option.bind_eq_some_iff.mp was with ⟨item, _, was⟩
          rcases Option.bind_eq_some_iff.mp was with ⟨others, _, was⟩
          cases was
        simpa [isField, someList, filled, AlikeField, Filled] using alike
    | _ => cases was

end Fields

/-! ## Laws of values -/

theorem copies_string : Copies Json.string? Json.string Anything where
  strict := rfl
  alike value found _ was := by
    cases value with
    | string text =>
      cases was
      simp [Json.Alike, Anything]
    | _ => cases was

theorem copies_bool : Copies Json.bool? Json.bool Anything where
  strict := rfl
  alike value found _ was := by
    cases value with
    | bool truth =>
      cases was
      simp [Json.Alike, Anything]
    | _ => cases was

theorem copies_unsigned : Copies Json.toUnsigned? Json.nat Anything where
  strict := rfl
  alike value found _ was := by
    rw [nat_of_toUnsigned? was]
    exact iff_of_true value.alike_refl trivial

theorem copies_small : Copies Json.toSmall? Json.nat Anything where
  strict := rfl
  alike value found _ was := by
    rw [nat_of_toUnsigned? (Option.filter_eq_some_iff.mp was).1]
    exact iff_of_true value.alike_refl trivial

theorem copies_float : Copies float? Json.ofFloat Exact where
  strict := rfl
  alike value found proper was := by
    have finite := isFinite_of_float? proper was
    rw [Json.ofFloat, Number.ofFloat?, if_pos finite]
    cases value with
    | number number =>
      cases was
      cases number with
      | int whole => rfl
      | float value => exact iff_of_true (.inl rfl) trivial
    | _ => cases was

theorem copies_dialect :
    Copies Dialect.read? (fun dialect => .string dialect.name) NamesDialect where
  strict := rfl
  alike value found _ was := by
    rw [Dialect.read?.eq_def] at was
    split at was
    next name =>
      constructor
      · intro same
        exact ⟨found, congrArg Json.string same.symm⟩
      · rintro ⟨other, same⟩
        cases same
        cases other <;> cases was <;> rfl
    next name =>
      refine iff_of_false id ?_
      rintro ⟨_, same⟩
      cases same
    next => cases was

theorem copies_jitter : Copies Retrier.readJitter?
    (fun full => .string (if full then "FULL" else "NONE")) IsText where
  strict := rfl
  alike value found _ was := by
    rw [Retrier.readJitter?.eq_def] at was
    split at was <;> cases was
    · exact iff_of_true rfl ⟨_, rfl⟩
    · exact iff_of_true rfl ⟨_, rfl⟩
    · refine iff_of_false id ?_
      rintro ⟨_, same⟩
      cases same
    · refine iff_of_false id ?_
      rintro ⟨_, same⟩
      cases same

end Record

end Workflow
