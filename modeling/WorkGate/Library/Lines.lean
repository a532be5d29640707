/-
# Terminated segments of a stream

A stream cut at a terminator consists of complete segments and whatever came after the
last terminator.  Core's `splitOn` does the cutting; what a reader of such a stream
needs besides is to take one segment at a time, up to a bound, and to know that taking
them one by one gives the same segments.
-/

import Mathlib.Data.List.Basic
import Mathlib.Data.Nat.Notation

namespace WorkGate.Library

universe u

variable {α : Type u} [DecidableEq α] {terminator : α}

/-- The segments a stream has completed, without their terminators. -/
def segments (terminator : α) (stream : List α) : List (List α) :=
  (stream.splitOn terminator).dropLast

/-- The first terminator completes the first segment. -/
theorem segments_append_cons {segment : List α} (hsegment : terminator ∉ segment)
    (rest : List α) :
    segments terminator (segment ++ terminator :: rest) = segment :: segments terminator rest := by
  rw [segments, List.splitOn_append_cons_self_of_not_mem hsegment,
    List.dropLast_cons_of_ne_nil (List.splitOn_ne_nil _ _), segments]

/-- Take elements through the first terminator, but at most `room` of them; what is left
comes second. -/
def takeThrough (terminator : α) : ℕ → List α → List α × List α
  | 0, stream => ([], stream)
  | _ + 1, [] => ([], [])
  | room + 1, first :: rest =>
      if first = terminator then ([first], rest)
      else
        let (taken, left) := takeThrough terminator room rest
        (first :: taken, left)

/-- Nothing is lost between what is taken and what is left. -/
theorem takeThrough_append (terminator : α) (room : ℕ) (stream : List α) :
    (takeThrough terminator room stream).1 ++ (takeThrough terminator room stream).2 = stream := by
  fun_induction takeThrough terminator room stream with
  | case1 stream => rfl
  | case2 room => rfl
  | case3 room rest => rfl
  | case4 room first rest hne taken left hrest ih =>
      rw [hrest] at ih
      rw [List.cons_append, ih]

/-- What is taken is one segment with its terminator, or has no terminator. -/
theorem takeThrough_cases (terminator : α) (room : ℕ) (stream : List α) :
    terminator ∉ (takeThrough terminator room stream).1 ∨
      ∃ segment, (takeThrough terminator room stream).1 = segment ++ [terminator] ∧
        terminator ∉ segment := by
  fun_induction takeThrough terminator room stream with
  | case1 stream => exact .inl (List.not_mem_nil)
  | case2 room => exact .inl (List.not_mem_nil)
  | case3 room rest => exact .inr ⟨[], rfl, List.not_mem_nil⟩
  | case4 room first rest hne taken left hrest ih =>
      rw [hrest] at ih
      rcases ih with habsent | ⟨segment, htaken, habsent⟩
      · left
        rw [List.mem_cons, not_or]
        exact ⟨Ne.symm hne, habsent⟩
      · right
        refine ⟨first :: segment, by rw [List.cons_append, ← htaken], ?_⟩
        rw [List.mem_cons, not_or]
        exact ⟨Ne.symm hne, habsent⟩

omit [DecidableEq α] in
/-- A terminator within the first `room` elements. -/
theorem mem_take_append_cons {segment rest : List α} {room : ℕ} (hroom : segment.length < room) :
    terminator ∈ (segment ++ terminator :: rest).take room := by
  obtain ⟨more, hmore⟩ : ∃ more, room - segment.length = more + 1 :=
    Nat.exists_eq_succ_of_ne_zero (Nat.sub_ne_zero_of_lt hroom)
  rw [List.take_append, hmore, List.take_succ_cons]
  exact List.mem_append_right _ List.mem_cons_self

end WorkGate.Library
