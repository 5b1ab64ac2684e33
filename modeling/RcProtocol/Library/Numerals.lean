import Mathlib.Algebra.Group.Int.Defs
import Mathlib.Tactic.Common

/-!
Decimal numerals, and the integers of 64 bits they stand for.
-/

namespace RcProtocol.Library

def decimalDigit (c : Char) : Option Nat :=
  if '0' ≤ c ∧ c ≤ '9' then some (c.toNat - 48) else none

/-- The number the digits go on to, from the one already read. -/
def readDigits (n : Nat) : List Char → Option Nat
  | [] => some n
  | c :: cs => (decimalDigit c).bind fun d => readDigits (10 * n + d) cs

def readNat (cs : List Char) : Option Nat := if cs = [] then none else readDigits 0 cs

def InInt64 (n : Int) : Prop := -2 ^ 63 ≤ n ∧ n < 2 ^ 63

instance (n : Int) : Decidable (InInt64 n) := inferInstanceAs (Decidable (_ ∧ _))

/-- `strconv.Atoi` of Go and `i64::from_str` of Rust: a sign may come first, and a number
that is out of range is an error. -/
def readInt64 (s : String) : Option Int :=
  let n : Option Int :=
    match s.toList with
    | '-' :: cs => (readNat cs).map fun n => -n
    | '+' :: cs => (readNat cs).map fun n => n
    | cs => (readNat cs).map fun n => n
  n.filter fun n => InInt64 n

theorem readInt64_range {s : String} {n : Int} (h : readInt64 s = some n) : InInt64 n := by
  rw [readInt64] at h
  exact of_decide_eq_true (Option.filter_eq_some_iff.mp h).2

example : readInt64 "-9223372036854775808" = some (-9223372036854775808) := by decide

example : readInt64 "9223372036854775808" = none := by decide

end RcProtocol.Library
