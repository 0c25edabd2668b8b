/-
  File:      MatriXpost/Lib/Checked.lean
  Subject:   COMPUTATIONS THAT MAY PANIC: machine arithmetic that overflows, an index or a slice out
             of bounds, code that is not to be reached. Nothing here names a program.

  A `Checked α` is a value or the panic that stood in its way. Every operation has a lemma that
  gives its value where it does not panic, so that a proof that a computation does not panic is
  a proof that it computes something.
-/
import Mathlib.Data.List.Basic

namespace MatriXpost

/-- Why a computation ended without a value. -/
inductive Panic where
  | overflow
  | outOfBounds
  | unreachable (message : String)
deriving DecidableEq, Repr

abbrev Checked (α : Type) := Except Panic α

namespace Checked

variable {α β : Type}

@[simp] theorem ok_bind (x : α) (f : α → Checked β) : (Except.ok x >>= f) = f x := rfl

@[simp] theorem pure_eq (x : α) : (pure x : Checked α) = .ok x := rfl

/-- `x + y` of bytes. -/
def addU8 (x y : UInt8) : Checked UInt8 :=
  if x.toNat + y.toNat < 256 then .ok (x + y) else .error .overflow

/-- `x - y` of bytes. -/
def subU8 (x y : UInt8) : Checked UInt8 := if y ≤ x then .ok (x - y) else .error .overflow

/-- `x - y` of lengths. -/
def subUsize (x y : Nat) : Checked Nat := if y ≤ x then .ok (x - y) else .error .overflow

/-- `xs[i]`. -/
def nth (xs : List α) (i : Nat) : Checked α :=
  match xs[i]? with
  | some x => .ok x
  | none => .error .outOfBounds

/-- `xs[i] = x`. -/
def put (xs : List α) (i : Nat) (x : α) : Checked (List α) :=
  if i < xs.length then .ok (xs.set i x) else .error .outOfBounds

/-- `xs[i..]`. -/
def sliceFrom (xs : List α) (i : Nat) : Checked (List α) :=
  if i ≤ xs.length then .ok (xs.drop i) else .error .outOfBounds

@[simp] theorem nth_zero (x : α) (xs : List α) : nth (x :: xs) 0 = .ok x := rfl

@[simp] theorem nth_succ (x : α) (xs : List α) (i : Nat) : nth (x :: xs) (i + 1) = nth xs i := rfl

theorem subUsize_eq {x y : Nat} (h : y ≤ x) : subUsize x y = .ok (x - y) := if_pos h

theorem put_eq {xs : List α} {i : Nat} (h : i < xs.length) (x : α) :
    put xs i x = .ok (xs.set i x) := if_pos h

theorem sliceFrom_eq {xs : List α} {i : Nat} (h : i ≤ xs.length) :
    sliceFrom xs i = .ok (xs.drop i) := if_pos h

end Checked

end MatriXpost
