/-
  File:      MatriXpost/Lib/LastGiven.lean
  Subject:   THE LAST VALUE A LIST GIVES. Nothing here names a program.

  Elements of a list may each give a value or leave it open; `lastGiven f xs` is the last of the
  values `f` gives. It is what a loop that overwrites with each value it meets ends with.

  * `lastGiven_append`, `lastGiven_cons`, `lastGiven_concat`: later values come before earlier ones;
  * `LastSpeaks`, `given_by_last_iff`: when it is enough to read the last element.
-/
import Mathlib.Data.List.Basic

namespace MatriXpost

variable {α β γ : Type*} {f : α → Option β} {xs ys : List α} {x : α}

/-- The last of the values the elements give. -/
def lastGiven (f : α → Option β) (xs : List α) : Option β := (xs.filterMap f).getLast?

@[simp] theorem lastGiven_nil : lastGiven f [] = none := rfl

theorem lastGiven_append : lastGiven f (xs ++ ys) = (lastGiven f ys).or (lastGiven f xs) := by
  unfold lastGiven
  rw [List.filterMap_append, List.getLast?_append]

theorem lastGiven_singleton : lastGiven f [x] = f x := by
  unfold lastGiven
  cases h : f x <;> simp [h]

theorem lastGiven_concat : lastGiven f (xs ++ [x]) = (f x).or (lastGiven f xs) := by
  rw [lastGiven_append, lastGiven_singleton]

theorem lastGiven_cons : lastGiven f (x :: xs) = (lastGiven f xs).or (f x) := by
  rw [← List.singleton_append, lastGiven_append, lastGiven_singleton]

theorem lastGiven_map {g : γ → α} {zs : List γ} :
    lastGiven f (zs.map g) = lastGiven (fun z => f (g z)) zs := by
  unfold lastGiven
  rw [List.filterMap_map]
  rfl

/-- A value given in two steps. -/
theorem lastGiven_bind {g : β → Option γ} :
    lastGiven (fun a => (f a).bind g) xs = lastGiven g (xs.filterMap f) := by
  unfold lastGiven
  rw [List.filterMap_filterMap]

theorem lastGiven_option_map {g : β → γ} :
    lastGiven (fun a => (f a).map g) xs = (lastGiven f xs).map g := by
  unfold lastGiven
  rw [← List.getLast?_map, List.map_filterMap]

/-- If every element gives a value, it is the last one's. -/
theorem lastGiven_some {g : α → β} : lastGiven (fun a => some (g a)) xs = xs.getLast?.map g := by
  unfold lastGiven
  rw [List.filterMap_eq_map', List.getLast?_map]

theorem lastGiven_eq_none : lastGiven f xs = none ↔ ∀ a ∈ xs, f a = none := by
  unfold lastGiven
  rw [List.getLast?_eq_none_iff, List.filterMap_eq_nil_iff]

/-- What the last element gives is the last value given. -/
theorem lastGiven_of_getLast (h : xs.getLast? = some x) {b : β} (hb : f x = some b) :
    lastGiven f xs = some b := by
  obtain ⟨ys, rfl⟩ := List.getLast?_eq_some_iff.mp h
  rw [lastGiven_concat, hb]
  rfl

/-- The last element speaks for all: it gives a value, or none does, or the value that counts
    instead of its own is the last one given. -/
def LastSpeaks (f : α → Option β) (xs : List α) (fallback : Option β) : Prop :=
  (xs.getLast?.bind f).isSome ∨ lastGiven f xs = none ∨ lastGiven f xs = fallback

/-- **To read the last element only** is right if and only if it speaks for all. -/
theorem given_by_last_iff {fallback : Option β} :
    (xs.getLast?.bind f).or fallback = (lastGiven f xs).or fallback ↔
      LastSpeaks f xs fallback := by
  unfold LastSpeaks
  cases hlast : xs.getLast?.bind f with
  | some b =>
    obtain ⟨x, hx, hb⟩ := Option.bind_eq_some_iff.mp hlast
    simp [lastGiven_of_getLast hx hb]
  | none =>
    cases hl : lastGiven f xs with
    | none => simp
    | some b => simp [eq_comm]

end MatriXpost
