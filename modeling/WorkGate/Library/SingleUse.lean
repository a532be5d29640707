/-
# Tokens that are taken once

A token has a name and the instant it was issued at.  A guard takes it while it is fresh, and
remembers its name until the token has gone stale; then it forgets, and the freshness test
takes over.  That no token is taken twice needs both tests, and a clock that never goes back.
-/

import Mathlib.Data.List.Nodup
import Mathlib.Data.Nat.Notation
import Mathlib.Order.Nat

namespace WorkGate.Library

universe uκ

variable {κ : Type uκ}

/-- What a guard knows at `clock` of the tokens it took: no token twice, and of each that its
name is remembered for its window, or that it is stale. -/
structure SingleUse (window : ℕ) (taken : List (κ × ℕ)) (held : κ → Option ℕ) (clock : ℕ) :
    Prop where
  nodup : taken.Nodup
  known : ∀ token ∈ taken, held token.1 = some (token.2 + window) ∨ token.2 + window < clock

namespace SingleUse

variable {window clock now : ℕ} {taken : List (κ × ℕ)} {held after : κ → Option ℕ}

theorem start : SingleUse window [] held clock where
  nodup := List.nodup_nil
  known := by
    intro token htoken
    cases htoken

/-- Names whose tokens have expired may be forgotten. -/
theorem forget (h : SingleUse window taken held clock) (hclock : clock ≤ now)
    (hkept : ∀ name expiresAt, held name = some expiresAt → now ≤ expiresAt →
      after name = some expiresAt) : SingleUse window taken after now where
  nodup := h.nodup
  known := by
    intro token htoken
    rcases h.known token htoken with hheld | hstale
    · by_cases hexpired : token.2 + window < now
      · exact .inr hexpired
      · exact .inl (hkept _ _ hheld (not_lt.mp hexpired))
    · exact .inr (lt_of_lt_of_le hstale hclock)

/-- The clock moves on. -/
theorem later (h : SingleUse window taken held clock) (hclock : clock ≤ now) :
    SingleUse window taken held now :=
  h.forget hclock fun _ _ hheld _ => hheld

/-- A token the guard took, and whose name it does not remember for it, is stale. -/
theorem stale (h : SingleUse window taken held clock) {name : κ} {issuedAt : ℕ}
    (htaken : (name, issuedAt) ∈ taken) (hforgotten : held name ≠ some (issuedAt + window)) :
    issuedAt + window < clock :=
  (h.known _ htaken).resolve_left hforgotten

/-- A fresh token whose name is remembered for an expired one at most is taken for the first
time. -/
theorem take [DecidableEq κ] (h : SingleUse window taken held clock) (hclock : clock ≤ now)
    {name : κ} {issuedAt : ℕ}
    (hforgotten : ∀ expiresAt, held name = some expiresAt → expiresAt < now)
    (hfresh : now ≤ issuedAt + window) (hnamed : after name = some (issuedAt + window))
    (hkept : ∀ other expiresAt, other ≠ name → held other = some expiresAt → now ≤ expiresAt →
      after other = some expiresAt) :
    SingleUse window ((name, issuedAt) :: taken) after now where
  nodup := by
    apply List.nodup_cons.mpr
    refine ⟨?_, h.nodup⟩
    intro htaken
    rcases h.known _ htaken with hheld | hstale
    · exact absurd (hforgotten _ hheld) (not_lt.mpr hfresh)
    · exact absurd (lt_of_lt_of_le hstale hclock) (not_lt.mpr hfresh)
  known := by
    intro token htoken
    rcases List.mem_cons.mp htoken with rfl | hearlier
    · exact .inl hnamed
    · rcases h.known token hearlier with hheld | hstale
      · by_cases hexpired : token.2 + window < now
        · exact .inr hexpired
        · refine .inl (hkept _ _ ?_ hheld (not_lt.mp hexpired))
          intro hname
          rw [hname] at hheld
          exact hexpired (hforgotten _ hheld)
      · exact .inr (lt_of_lt_of_le hstale hclock)

end SingleUse

end WorkGate.Library
