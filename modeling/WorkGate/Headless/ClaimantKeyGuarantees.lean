/-
# When the record of a Claimant key loses nothing

A write of a whole record rolls the stored one back as far as the copy it was made from is behind.
Where no copy is, the key stays bound to its one Work Challenge, its consent and its retention are
kept, and a key that was deleted stays so.
-/

import WorkGate.Headless.ClaimantKeys

namespace WorkGate

open WorkGate.Library

namespace ClaimantKeys

variable {keys after : ClaimantKeys}

/-- A call that clears the consent for a challenge is under way. -/
def Clearing (keys : ClaimantKeys) (challengeId : String) : Prop :=
  ∃ handle, KeyTask.putting handle (some challengeId) ∈ keys.tasks

/-- The stored record holds nothing that a copy of it is behind of. -/
structure CopyIsCurrent (keys : ClaimantKeys) (stored copy : StoredClaimantKey) : Prop where
  bound : ∀ challengeId, stored.maybeBoundChallengeId = some challengeId →
    copy.maybeBoundChallengeId = some challengeId
  expiry : stored.maybeBoundChallengeId ≠ none → stored.retentionExpiry ≤ copy.retentionExpiry
  consent : ∀ binding, stored.maybeConsentBinding = some binding →
    copy.maybeConsentBinding = some binding ∨ keys.Clearing binding.challengeId

/-- A step loses nothing of the stored record. -/
structure Kept (keys after : ClaimantKeys) : Prop where
  absent : keys.maybeStored = none → after.maybeStored = none
  record : ∀ stored later, keys.maybeStored = some stored → after.maybeStored = some later →
    keys.CopyIsCurrent stored later

theorem eq_of_parseStoredClaimantKey {record parsed : StoredClaimantKey}
    (h : parseStoredClaimantKey record = some parsed) : parsed = record := by
  rw [parseStoredClaimantKey] at h
  split at h
  · exact (Option.some.inj h).symm
  · cases h

end ClaimantKeys

open ClaimantKeys

section Runs

variable (retentionExpiry : ℕ)

/-- The record and its handles behind a history. -/
def keysAfter (history : List (KeyEvent × KeyAnswer)) : ClaimantKeys :=
  (claimantKeysMachine retentionExpiry).stateAfter history

/-- Between two points of a history a deleted key stays deleted, a stored one stays bound to its
Work Challenge, its retention does not become shorter once it is bound, and its consent stays unless
a call that clears it is under way. -/
structure NothingLost (earlier later : List (KeyEvent × KeyAnswer)) : Prop where
  absent : (keysAfter retentionExpiry earlier).maybeStored = none →
    (keysAfter retentionExpiry later).maybeStored = none
  bound : ∀ before after challengeId, (keysAfter retentionExpiry earlier).maybeStored = some before →
    (keysAfter retentionExpiry later).maybeStored = some after →
    before.maybeBoundChallengeId = some challengeId →
    after.maybeBoundChallengeId = some challengeId
  expiry : ∀ before after, (keysAfter retentionExpiry earlier).maybeStored = some before →
    (keysAfter retentionExpiry later).maybeStored = some after →
    before.maybeBoundChallengeId ≠ none → before.retentionExpiry ≤ after.retentionExpiry
  consent : ∀ before after binding,
    (keysAfter retentionExpiry earlier).maybeStored = some before →
    (keysAfter retentionExpiry later).maybeStored = some after →
    before.maybeConsentBinding = some binding → after.maybeConsentBinding = some binding ∨
      ∃ between, earlier <:+ between ∧ between <:+ later ∧
        (keysAfter retentionExpiry between).Clearing binding.challengeId

variable {retentionExpiry} {earlier later : List (KeyEvent × KeyAnswer)}

theorem NothingLost.refl (history : List (KeyEvent × KeyAnswer)) :
    NothingLost retentionExpiry history history where
  absent h := h
  bound before after challengeId hbefore hafter hbound := by
    rw [hbefore, Option.some.injEq] at hafter
    rwa [← hafter]
  expiry before after hbefore hafter _ := by
    rw [hbefore, Option.some.injEq] at hafter
    exact Nat.le_of_eq (congrArg StoredClaimantKey.retentionExpiry hafter)
  consent before after binding hbefore hafter hconsent := by
    rw [hbefore, Option.some.injEq] at hafter
    exact Or.inl (by rwa [← hafter])

/-- One more step that loses nothing. -/
theorem NothingLost.extend (h : NothingLost retentionExpiry earlier later) (event : KeyEvent)
    (answer : KeyAnswer) (hsuffix : earlier <:+ later)
    (hkept : Kept (keysAfter retentionExpiry later)
      ((keysAfter retentionExpiry later).step event).1) :
    NothingLost retentionExpiry earlier ((event, answer) :: later) := by
  have hafter : keysAfter retentionExpiry ((event, answer) :: later) =
      ((keysAfter retentionExpiry later).step event).1 := rfl
  have hlonger : later <:+ (event, answer) :: later := List.suffix_cons _ _
  constructor
  · intro hnone
    rw [hafter]
    exact hkept.absent (h.absent hnone)
  · intro before after challengeId hbefore hstored hbound
    rw [hafter] at hstored
    cases hmiddle : (keysAfter retentionExpiry later).maybeStored with
    | none =>
        rw [hkept.absent hmiddle] at hstored
        cases hstored
    | some middle =>
        exact (hkept.record middle after hmiddle hstored).bound challengeId
          (h.bound before middle challengeId hbefore hmiddle hbound)
  · intro before after hbefore hstored hbound
    rw [hafter] at hstored
    cases hmiddle : (keysAfter retentionExpiry later).maybeStored with
    | none =>
        rw [hkept.absent hmiddle] at hstored
        cases hstored
    | some middle =>
        obtain ⟨challengeId, hchallenge⟩ := Option.ne_none_iff_exists'.mp hbound
        have hstill := h.bound before middle challengeId hbefore hmiddle hchallenge
        apply Nat.le_trans (h.expiry before middle hbefore hmiddle hbound)
        apply (hkept.record middle after hmiddle hstored).expiry
        rw [hstill]
        exact Option.some_ne_none _
  · intro before after binding hbefore hstored hconsent
    rw [hafter] at hstored
    cases hmiddle : (keysAfter retentionExpiry later).maybeStored with
    | none =>
        rw [hkept.absent hmiddle] at hstored
        cases hstored
    | some middle =>
        rcases h.consent before middle binding hbefore hmiddle hconsent with
          hstill | ⟨between, hfrom, hto, hclearing⟩
        · rcases (hkept.record middle after hmiddle hstored).consent binding hstill with
            hkeeps | hclearing
          · exact Or.inl hkeeps
          · exact Or.inr ⟨later, hsuffix, hlonger, hclearing⟩
        · exact Or.inr ⟨between, hfrom, hto.trans hlonger, hclearing⟩

end Runs

end WorkGate
