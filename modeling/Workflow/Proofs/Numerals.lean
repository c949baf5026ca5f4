import Workflow.Json
import Workflow.Decimal.Literal

/-!
# Numerals

The decimal digits of a number are read back as that number, so a signed 64-bit integer survives
being written and read. No numeral is empty and none holds anything but digits behind its sign.
-/

namespace Workflow.Decimal

/-- Integers that fit into 64 signed bits. -/
def Signed (value : Int) : Prop := Number.minSigned ≤ value ∧ value ≤ Number.maxSigned

instance (value : Int) : Decidable (Signed value) := inferInstanceAs (Decidable (_ ∧ _))

theorem toNat_digitChar {value : Nat} (small : value < 10) :
    (digitChar value).toNat = 48 + value := by
  have all : ∀ value < 10, (digitChar value).toNat = 48 + value := by decide
  exact all value small

theorem isDigit_digitChar {value : Nat} (small : value < 10) :
    isDigit (digitChar value) = true := by
  have code := toNat_digitChar small
  simp only [isDigit, Bool.and_eq_true, decide_eq_true_eq, Char.le_def, UInt32.le_iff_toNat_le]
  change (48 : Nat) ≤ (digitChar value).toNat ∧ (digitChar value).toNat ≤ 57
  omega

theorem digitValue_digitChar {value : Nat} (small : value < 10) :
    digitValue (digitChar value) = value := by
  have code := toNat_digitChar small
  have zero : '0'.toNat = 48 := rfl
  simp only [digitValue, code, zero]
  omega

theorem digits_of_lt {value : Nat} (small : value < 10) : digits value = [digitChar value] := by
  rw [digits, if_pos small]

theorem digits_of_not_lt {value : Nat} (large : ¬value < 10) :
    digits value = digits (value / 10) ++ [digitChar (value % 10)] := by
  rw [digits, if_neg large]

theorem natFrom_append (start : Nat) (front back : List Char) :
    natFrom start (front ++ back) = natFrom (natFrom start front) back := by
  induction front generalizing start with
  | nil => rfl
  | cons c front ih => exact ih _

@[simp]
theorem nat_digits (value : Nat) : nat (digits value) = value := by
  induction value using digits.induct with
  | case1 value small =>
    have alone : nat [digitChar value] = 0 * 10 + digitValue (digitChar value) := rfl
    rw [digits_of_lt small, alone, digitValue_digitChar small]
    omega
  | case2 value large ih =>
    have last : digitValue (digitChar (value % 10)) = value % 10 :=
      digitValue_digitChar (Nat.mod_lt _ (by decide))
    have behind : nat (digits (value / 10) ++ [digitChar (value % 10)]) =
        nat (digits (value / 10)) * 10 + digitValue (digitChar (value % 10)) :=
      natFrom_append 0 (digits (value / 10)) [digitChar (value % 10)]
    rw [digits_of_not_lt large, behind, ih, last]
    omega

theorem digits_ne_nil (value : Nat) : digits value ≠ [] := by
  rw [digits]
  split <;> simp

theorem isDigit_of_mem_digits {value : Nat} {c : Char} (mem : c ∈ digits value) :
    isDigit c = true := by
  induction value using digits.induct with
  | case1 value small =>
    rw [digits_of_lt small, List.mem_singleton] at mem
    exact mem ▸ isDigit_digitChar small
  | case2 value large ih =>
    rw [digits_of_not_lt large, List.mem_append, List.mem_singleton] at mem
    rcases mem with front | rfl
    · exact ih front
    · exact isDigit_digitChar (Nat.mod_lt _ (by decide))

theorem all_isDigit_digits (value : Nat) : (digits value).all isDigit = true := by
  rw [List.all_eq_true]
  intro c mem
  exact isDigit_of_mem_digits mem

/-- A numeral begins with a digit, hence with no sign. -/
theorem digits_eq_cons (value : Nat) :
    ∃ c rest, digits value = c :: rest ∧ isDigit c = true := by
  obtain ⟨c, rest, shape⟩ := List.exists_cons_of_ne_nil (digits_ne_nil value)
  have mem : c ∈ digits value := by simp [shape]
  exact ⟨c, rest, shape, isDigit_of_mem_digits mem⟩

/-! ## Signs -/

/-- A text behind a minus sign or without one. -/
def withSign (negative : Bool) (body : List Char) : List Char :=
  if negative then '-' :: body else body

/-- A text that begins with a digit. -/
def StartsDigit (body : List Char) : Prop := ∃ c ∈ body.head?, isDigit c = true

section StartsDigit

variable {body : List Char} (starts : StartsDigit body)

include starts

theorem StartsDigit.head_ne {c : Char} (noDigit : isDigit c = false) (rest : List Char) :
    body ≠ c :: rest := by
  rintro rfl
  obtain ⟨d, isHead, digit⟩ := starts
  obtain rfl : c = d := by simpa using isHead
  rw [noDigit] at digit
  contradiction

theorem StartsDigit.append (rest : List Char) : StartsDigit (body ++ rest) := by
  obtain ⟨c, isHead, digit⟩ := starts
  exact ⟨c, by simp [Option.mem_def.mp isHead], digit⟩

theorem signedDigits?_withSign (negative : Bool) :
    signedDigits? (withSign negative body) =
      if body.all isDigit then some (if negative then -(nat body : Int) else nat body)
      else none := by
  have filled : body.isEmpty = false := by
    obtain ⟨c, isHead, -⟩ := starts
    cases body with
    | nil => simp at isHead
    | cons c body => rfl
  cases negative with
  | true =>
    change signedDigits? ('-' :: body) = _
    rw [signedDigits?, filled]
    cases body.all isDigit <;> rfl
  | false =>
    change signedDigits? body = _
    rw [signedDigits?]
    · rw [filled]
      cases body.all isDigit <;> rfl
    · exact starts.head_ne (by decide)
    · exact starts.head_ne (by decide)

end StartsDigit

theorem startsDigit_digits (value : Nat) : StartsDigit (digits value) := by
  obtain ⟨c, rest, shape, digit⟩ := digits_eq_cons value
  exact ⟨c, by simp [shape], digit⟩

@[simp]
theorem signedDigits?_integer (value : Int) : signedDigits? (integer value) = some value := by
  have read := signedDigits?_withSign (startsDigit_digits value.natAbs) (decide (value < 0))
  rw [all_isDigit_digits, if_pos rfl, nat_digits, withSign] at read
  simp only [decide_eq_true_eq] at read
  rw [integer, read, Option.some_inj]
  split <;> omega

/-- Writing and reading an integer of 64 bits gives it back. -/
theorem signed?_integer {value : Int} (fits : Signed value) :
    signed? (integer value) = some value := by
  simp only [signed?, signedDigits?_integer]
  exact if_pos fits

/-- The text of an integer is an optional minus sign and a numeral. -/
theorem integer_cases (value : Int) :
    ∃ number, integer value = '-' :: digits number ∨ integer value = digits number := by
  rw [integer]
  split
  · exact ⟨_, .inl rfl⟩
  · exact ⟨_, .inr rfl⟩

/-- An integer begins with a minus sign or a digit, and goes on with digits. -/
theorem integer_eq_cons (value : Int) :
    ∃ c rest, integer value = c :: rest ∧ (c = '-' ∨ isDigit c = true) ∧
      ∀ d ∈ rest, isDigit d = true := by
  obtain ⟨number, negative | positive⟩ := integer_cases value
  · exact ⟨'-', _, negative, .inl rfl, fun d mem => isDigit_of_mem_digits mem⟩
  · obtain ⟨c, rest, shape, digit⟩ := digits_eq_cons number
    refine ⟨c, rest, positive.trans shape, .inr digit, fun d mem => ?_⟩
    have inside : d ∈ digits number := by simp [shape, mem]
    exact isDigit_of_mem_digits inside

end Workflow.Decimal
