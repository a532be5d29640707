/-
# Handles that are behind the record of their key

Every change of the stored record makes a new version of it.  A handle is in step with a version
from the read its restore made, from its own write, or from the answer to its own recording of a
consent; a write of its copy that fails to clear a consent leaves it behind.  A run in which no
handle writes its record while it is behind loses nothing.
-/

import WorkGate.Headless.ClaimantKeyGuarantees

namespace WorkGate

open WorkGate.Library

/-! ## Versions -/

/-- The version of the stored record, the version each handle is in step with, and the version
each suspended call brings to its handle. -/
structure KeyVersions where
  stored : ℕ
  handles : List ℕ
  tasks : List (KeyTask × ℕ)

namespace KeyVersions

/-- The handle that prepared the key is in step with its record. -/
def prepared : KeyVersions where
  stored := 1
  handles := [1]
  tasks := []

/-- The calls suspended by a step, with the version they bring. -/
def suspended (versions : KeyVersions) (before after : ClaimantKeys) (version : ℕ) :
    KeyVersions :=
  { versions with
    tasks := versions.tasks ++
      (after.tasks.drop before.tasks.length).map fun task => (task, version) }

/-- A new version, where the record changed. -/
def written (versions : KeyVersions) (before after : ClaimantKeys) : KeyVersions :=
  if after.maybeStored = before.maybeStored then versions
  else { versions with stored := versions.stored + 1 }

def setHandle (versions : KeyVersions) (handle version : ℕ) : KeyVersions :=
  { versions with handles := versions.handles.set handle version }

/-- A suspended call that brings `version` goes on. -/
def goOn (versions : KeyVersions) (before after : ClaimantKeys) (task : KeyTask) (version : ℕ)
    (succeeds : Bool) : KeyVersions :=
  match task with
  | .restoring => versions.suspended before after versions.stored
  | .restored _ =>
      if succeeds then { versions with handles := versions.handles ++ [version] }
      else versions.suspended before after 0
  | .retained _ _ => versions.suspended before after 0
  | .putting handle maybeCleared =>
      if succeeds then
        (versions.written before after).setHandle handle (versions.written before after).stored
      else if maybeCleared.isSome then versions.setHandle handle 0
      else versions
  | .deleting _ => versions.written before after
  | .bindingConsent handle _ _ =>
      (versions.written before after).suspended before after
        (if versions.handles[handle]? = some versions.stored then
          (versions.written before after).stored else 0)
  | .consentBound handle _ => versions.setHandle handle version

/-- One event, next to the step of the keys. -/
def step (versions : KeyVersions) (keys : ClaimantKeys) : KeyEvent → KeyVersions
  | .runs index maybeNow succeeds =>
    match versions.tasks[index]? with
    | none => versions
    | some (task, version) =>
        goOn { versions with tasks := versions.tasks.eraseIdx index }
          { keys with tasks := keys.tasks.eraseIdx index }
          (keys.step (.runs index maybeNow succeeds)).1 task version succeeds
  | event => versions.suspended keys (keys.step event).1 0

end KeyVersions

/-- The versions behind a history. -/
def versionsAfter (retentionExpiry : ℕ) : List (KeyEvent × KeyAnswer) → KeyVersions
  | [] => .prepared
  | (event, _) :: earlier =>
      (versionsAfter retentionExpiry earlier).step (keysAfter retentionExpiry earlier) event

/-- A call that writes the copy of a handle finds the handle in step with the record. -/
def KeyVersions.WritesInStep (versions : KeyVersions) : KeyTask → Prop
  | .putting handle _ => versions.handles[handle]? = some versions.stored
  | _ => True

instance KeyVersions.decidableWritesInStep (versions : KeyVersions) :
    (task : KeyTask) → Decidable (versions.WritesInStep task)
  | .putting handle _ =>
      inferInstanceAs (Decidable (versions.handles[handle]? = some versions.stored))
  | .restoring | .restored _ | .retained _ _ | .deleting _ | .bindingConsent _ _ _
  | .consentBound _ _ => isTrue trivial

/-- No handle that is behind writes its record. -/
def WritesInStep (retentionExpiry : ℕ) (history : List (KeyEvent × KeyAnswer))
    (keys : ClaimantKeys) : KeyEvent → Prop
  | .runs index _ true =>
      ∀ task ∈ keys.tasks[index]?, (versionsAfter retentionExpiry history).WritesInStep task
  | _ => True

instance decidableWritesInStep (retentionExpiry : ℕ) (history : List (KeyEvent × KeyAnswer))
    (keys : ClaimantKeys) :
    (event : KeyEvent) → Decidable (WritesInStep retentionExpiry history keys event)
  | .runs index _ true => inferInstanceAs (Decidable (∀ task ∈ keys.tasks[index]?,
      (versionsAfter retentionExpiry history).WritesInStep task))
  | .runs _ _ false | .restore | .call _ _ _ => isTrue trivial

instance decidableKeyAdmits (retentionExpiry : ℕ) (history : List (KeyEvent × KeyAnswer))
    (keys : ClaimantKeys) (event : KeyEvent) :
    Decidable ((claimantKeysMachine retentionExpiry).admits history keys event) :=
  isTrue trivial

namespace ClaimantKeys

/-! ## What being in step means -/

/-- A copy is bound as the stored record is, and retained as long. -/
structure Reaches (stored copy : StoredClaimantKey) : Prop where
  bound : ∀ challengeId, stored.maybeBoundChallengeId = some challengeId →
    copy.maybeBoundChallengeId = some challengeId
  expiry : stored.maybeBoundChallengeId ≠ none → stored.retentionExpiry ≤ copy.retentionExpiry

theorem Reaches.refl (record : StoredClaimantKey) : Reaches record record where
  bound _ h := h
  expiry _ := Nat.le_refl _

theorem Reaches.trans {stored copy later : StoredClaimantKey} (hfirst : Reaches stored copy)
    (hsecond : Reaches copy later) : Reaches stored later where
  bound challengeId h := hsecond.bound challengeId (hfirst.bound challengeId h)
  expiry h := by
    obtain ⟨challengeId, hbound⟩ := Option.ne_none_iff_exists'.mp h
    have hcopy : copy.maybeBoundChallengeId ≠ none := by
      rw [hfirst.bound challengeId hbound]
      exact Option.some_ne_none _
    exact Nat.le_trans (hfirst.expiry h) (hsecond.expiry hcopy)

/-- A handle's copy lacks nothing of the stored record but a consent it is clearing. -/
structure InStep (keys : ClaimantKeys) (handle : ℕ) (stored copy : StoredClaimantKey) : Prop
    extends Reaches stored copy where
  consent : ∀ binding, stored.maybeConsentBinding = some binding →
    copy.maybeConsentBinding = some binding ∨
      KeyTask.putting handle (some binding.challengeId) ∈ keys.tasks

theorem InStep.refl (keys : ClaimantKeys) (handle : ℕ) (record : StoredClaimantKey) :
    keys.InStep handle record record where
  toReaches := .refl record
  consent _ h := .inl h

theorem InStep.mono {handle : ℕ} {stored copy : StoredClaimantKey} {keys after : ClaimantKeys}
    (h : keys.InStep handle stored copy)
    (htasks : ∀ challengeId, KeyTask.putting handle (some challengeId) ∈ keys.tasks →
      KeyTask.putting handle (some challengeId) ∈ after.tasks) :
    after.InStep handle stored copy where
  toReaches := h.toReaches
  consent binding hconsent := (h.consent binding hconsent).imp_right (htasks _)

/-- The versions, compared with the record and the copies. -/
structure Versioned (versions : KeyVersions) (keys : ClaimantKeys) : Prop where
  tasks : versions.tasks.map Prod.fst = keys.tasks
  handles : versions.handles.length = keys.handles.length
  positive : 0 < versions.stored
  handlesBehind : ∀ version ∈ versions.handles, version ≤ versions.stored
  tasksBehind : ∀ entry ∈ versions.tasks, entry.2 ≤ versions.stored
  inStep : ∀ handle copy, keys.handles[handle]? = some copy →
    versions.handles[handle]? = some versions.stored →
      ∃ stored, keys.maybeStored = some stored ∧ keys.InStep handle stored copy
  restored : ∀ record, (KeyTask.restored record, versions.stored) ∈ versions.tasks →
    keys.maybeStored = some record
  consentBound : ∀ handle binding,
    (KeyTask.consentBound handle binding, versions.stored) ∈ versions.tasks →
      ∃ stored copy, keys.maybeStored = some stored ∧
        stored.maybeConsentBinding = some binding ∧ keys.handles[handle]? = some copy ∧
        Reaches stored copy

/-- What a suspended call that brings `version` has to be, when that is the current one. -/
def Brings (versions : KeyVersions) (keys : ClaimantKeys) (version : ℕ) : KeyTask → Prop
  | .restored record => version = versions.stored → keys.maybeStored = some record
  | .consentBound handle binding => version = versions.stored →
      ∃ stored copy, keys.maybeStored = some stored ∧
        stored.maybeConsentBinding = some binding ∧ keys.handles[handle]? = some copy ∧
        Reaches stored copy
  | _ => True

/-- Another entry of a list stays when one is taken out. -/
theorem mem_eraseIdx_of_ne {entries : List (KeyTask × ℕ)} {index : ℕ} {erased task : KeyTask}
    {version : ℕ} (hmem : task ∈ entries.map Prod.fst)
    (herased : entries[index]? = some (erased, version)) (hne : erased ≠ task) :
    task ∈ (entries.map Prod.fst).eraseIdx index := by
  obtain ⟨position, hposition⟩ := List.mem_iff_getElem?.mp hmem
  refine List.mem_eraseIdx_iff_getElem?.mpr ⟨position, ?_, hposition⟩
  rintro rfl
  rw [List.getElem?_map, herased, Option.map_some, Option.some.injEq] at hposition
  exact hne hposition

namespace Versioned

variable {versions : KeyVersions} {keys : ClaimantKeys}

theorem prepared (retentionExpiry : ℕ) :
    Versioned .prepared (ClaimantKeys.prepared retentionExpiry) where
  tasks := rfl
  handles := rfl
  positive := Nat.one_pos
  handlesBehind version hmem := Nat.le_of_eq (List.mem_singleton.mp hmem)
  tasksBehind entry hmem := by cases hmem
  inStep handle copy hcopy _ := by
    refine ⟨_, rfl, ?_⟩
    have hmem := List.mem_of_getElem? hcopy
    rw [List.mem_singleton.mp hmem]
    exact .refl _ _ _
  restored record hmem := by cases hmem
  consentBound handle binding hmem := by cases hmem

/-- A call suspended with what it brings. -/
theorem suspend (h : Versioned versions keys) {task : KeyTask} {version : ℕ}
    (hversion : version ≤ versions.stored) (hbrings : Brings versions keys version task) :
    Versioned (versions.suspended keys (keys.suspend task).1 version) (keys.suspend task).1 := by
  have hadded : versions.suspended keys (keys.suspend task).1 version =
      { versions with tasks := versions.tasks ++ [(task, version)] } := by
    simp [KeyVersions.suspended, ClaimantKeys.suspend]
  rw [hadded]
  have hmem : ∀ {entry : KeyTask × ℕ}, entry ∈ versions.tasks ++ [(task, version)] →
      entry ∈ versions.tasks ∨ entry = (task, version) := by
    intro entry hentry
    rwa [List.mem_append, List.mem_singleton] at hentry
  refine ⟨?_, h.handles, h.positive, h.handlesBehind, ?_, ?_, ?_, ?_⟩
  · rw [List.map_append, h.tasks]
    rfl
  · intro entry hentry
    rcases hmem hentry with hold | rfl
    · exact h.tasksBehind entry hold
    · exact hversion
  · intro handle copy hcopy hcurrent
    obtain ⟨stored, hstored, hstep⟩ := h.inStep handle copy hcopy hcurrent
    exact ⟨stored, hstored, hstep.mono fun _ => List.mem_append_left _⟩
  · intro record hentry
    rcases hmem hentry with hold | heq
    · exact h.restored record hold
    · obtain ⟨rfl, hcurrent⟩ := Prod.mk.inj heq
      exact hbrings hcurrent.symm
  · intro handle binding hentry
    rcases hmem hentry with hold | heq
    · exact h.consentBound handle binding hold
    · obtain ⟨rfl, hcurrent⟩ := Prod.mk.inj heq
      exact hbrings hcurrent.symm

/-- A call suspended with nothing. -/
theorem suspend_zero (h : Versioned versions keys) (task : KeyTask) :
    Versioned (versions.suspended keys (keys.suspend task).1 0) (keys.suspend task).1 := by
  apply h.suspend (Nat.zero_le _)
  have hbehind : 0 = versions.stored → False := fun heq => absurd heq (Nat.ne_of_lt h.positive)
  cases task with
  | restored record => exact fun heq => (hbehind heq).elim
  | consentBound handle binding => exact fun heq => (hbehind heq).elim
  | _ => trivial

/-- A step that suspends nothing brings nothing. -/
theorem suspended_self (versions : KeyVersions) (keys : ClaimantKeys) (version : ℕ) :
    versions.suspended keys keys version = versions := by
  simp [KeyVersions.suspended]

/-- A handle's copy changed, and about to be written. -/
theorem putting (h : Versioned versions keys) {handle : ℕ} {copy updated : StoredClaimantKey}
    {maybeCleared : Option String} (hcopy : keys.handles[handle]? = some copy)
    (hreaches : Reaches copy updated)
    (hconsent : ∀ binding, copy.maybeConsentBinding = some binding →
      updated.maybeConsentBinding = some binding ∨ maybeCleared = some binding.challengeId) :
    Versioned
      (versions.suspended keys
        ((keys.setHandle handle updated).suspend (.putting handle maybeCleared)).1 0)
      ((keys.setHandle handle updated).suspend (.putting handle maybeCleared)).1 := by
  have hset := h.suspend_zero (.putting handle maybeCleared)
  refine ⟨hset.tasks, ?_, hset.positive, hset.handlesBehind, hset.tasksBehind, ?_,
    hset.restored, ?_⟩
  · simp only [ClaimantKeys.suspend, setHandle, List.length_set]
    exact h.handles
  · intro other found hfound hcurrent
    simp only [ClaimantKeys.suspend, setHandle, List.getElem?_set] at hfound
    split at hfound
    · next heq =>
        subst heq
        split at hfound
        · cases hfound
          obtain ⟨stored, hstored, hstep⟩ := hset.inStep handle copy hcopy hcurrent
          refine ⟨stored, hstored, hstep.toReaches.trans hreaches, ?_⟩
          intro binding hbinding
          rcases hstep.consent binding hbinding with hsame | hclearing
          · rcases hconsent binding hsame with hkept | rfl
            · exact .inl hkept
            · exact .inr (List.mem_append_right _ (List.mem_singleton.mpr rfl))
          · exact .inr hclearing
        · cases hfound
    · obtain ⟨stored, hstored, hstep⟩ := hset.inStep other found hfound hcurrent
      exact ⟨stored, hstored, hstep.mono fun _ => id⟩
  · intro other binding hentry
    obtain ⟨stored, found, hstored, hbinding, hfound, hcopies⟩ :=
      hset.consentBound other binding hentry
    by_cases heq : handle = other
    · subst heq
      rw [show (keys.suspend (.putting handle maybeCleared)).1.handles[handle]? = some copy
        from hcopy, Option.some.injEq] at hfound
      subst hfound
      refine ⟨stored, updated, hstored, hbinding, ?_, hcopies.trans hreaches⟩
      exact List.getElem?_set_self (List.getElem?_eq_some_iff.mp hcopy).1
    · exact ⟨stored, found, hstored, hbinding, (List.getElem?_set_ne heq).trans hfound, hcopies⟩

/-! ### Calls that go on -/

/-- A suspended call leaves the list; one that clears a consent must not be what keeps its
handle in step. -/
theorem erase (h : Versioned versions keys) {index : ℕ} {task : KeyTask} {version : ℕ}
    (htask : versions.tasks[index]? = some (task, version))
    (hother : ∀ handle challengeId, task = .putting handle (some challengeId) →
      versions.handles[handle]? ≠ some versions.stored) :
    Versioned { versions with tasks := versions.tasks.eraseIdx index }
      { keys with tasks := keys.tasks.eraseIdx index } := by
  refine ⟨?_, h.handles, h.positive, h.handlesBehind, ?_, ?_, ?_, ?_⟩
  · rw [← h.tasks]
    simp only [List.eraseIdx_eq_take_drop_succ, List.map_append, List.map_take, List.map_drop]
  · exact fun entry hentry => h.tasksBehind entry (List.mem_of_mem_eraseIdx hentry)
  · intro handle copy hcopy hcurrent
    obtain ⟨stored, hstored, hstep⟩ := h.inStep handle copy hcopy hcurrent
    refine ⟨stored, hstored, hstep.mono ?_⟩
    intro challengeId hmem
    rw [← h.tasks] at hmem
    simp only [← h.tasks]
    exact mem_eraseIdx_of_ne hmem htask fun heq => hother handle challengeId heq hcurrent
  · exact fun record hentry => h.restored record (List.mem_of_mem_eraseIdx hentry)
  · exact fun handle binding hentry => h.consentBound handle binding
      (List.mem_of_mem_eraseIdx hentry)

theorem call (h : Versioned versions keys) (handle : ℕ) (operation : KeyOperation)
    (maybeNow : Option ℕ) :
    Versioned (versions.suspended keys (keys.call handle operation maybeNow).1 0)
      (keys.call handle operation maybeNow).1 := by
  rw [ClaimantKeys.call]
  split
  · rwa [suspended_self]
  · next copy hcopy =>
      cases operation with
      | clearConsent challengeId =>
          simp only
          split
          · rwa [suspended_self]
          · next hconsent =>
              refine h.putting hcopy ⟨fun _ hbound => hbound, fun _ => Nat.le_refl _⟩ ?_
              intro binding hbinding
              rw [hbinding, Option.map_some, ne_eq, Decidable.not_not] at hconsent
              exact .inr hconsent.symm
      | _ =>
          simp only
          split
          · exact h.suspend_zero _
          · exact h.suspend_zero _

theorem goesOn (h : Versioned versions keys) (handle : ℕ) (operation : KeyOperation)
    (maybeNow : Option ℕ) :
    Versioned (versions.suspended keys (keys.goesOn handle operation maybeNow).1 0)
      (keys.goesOn handle operation maybeNow).1 := by
  rw [ClaimantKeys.goesOn]
  split
  · rwa [suspended_self]
  · next copy hcopy =>
      cases operation with
      | bindToChallenge challengeId expiresAt =>
          simp only [bindToChallenge]
          split
          · split
            · rwa [suspended_self]
            · rwa [suspended_self]
          · next hfree =>
              split
              · rwa [suspended_self]
              split
              · exact h.suspend_zero _
              · -- The copy was unbound, so the record is too where the handle is in step.
                refine h.putting hcopy ⟨?_, ?_⟩ fun binding hbinding => .inl hbinding
                · intro bound hbound
                  rw [hfree] at hbound
                  cases hbound
                · exact fun hbound => absurd hfree hbound
      | retainThrough expiresAt =>
          simp only [retainThrough]
          split
          · rwa [suspended_self]
          split
          · rwa [suspended_self]
          · exact h.putting hcopy ⟨fun _ hbound => hbound, fun _ => Nat.le_max_left _ _⟩
              fun binding hbinding => .inl hbinding
      | recordConsent challengeId receipt => exact h.suspend_zero _
      | clearConsent challengeId => rwa [suspended_self]
      | sign => rwa [suspended_self]

theorem restoreRead (h : Versioned versions keys) (maybeNow : Option ℕ) (succeeds : Bool) :
    Versioned (versions.suspended keys (keys.restoreRead maybeNow succeeds).1 versions.stored)
      (keys.restoreRead maybeNow succeeds).1 := by
  rw [ClaimantKeys.restoreRead]
  split
  · rwa [suspended_self]
  split
  · rwa [suspended_self]
  · next stored hstored =>
      split
      · exact h.suspend (Nat.le_refl _) trivial
      · next record hrecord =>
          split
          · exact h.suspend (Nat.le_refl _) trivial
          · apply h.suspend (Nat.le_refl _)
            rw [Brings, hstored, eq_of_parseStoredClaimantKey hrecord]
            exact fun _ => rfl

/-- A restored handle is in step with what its restore read. -/
theorem restores (h : Versioned versions keys) {record : StoredClaimantKey} {version : ℕ}
    (hversion : version ≤ versions.stored) (hbrings : Brings versions keys version
      (.restored record)) :
    Versioned { versions with handles := versions.handles ++ [version] }
      { keys with handles := keys.handles ++ [record] } := by
  refine ⟨h.tasks, ?_, h.positive, ?_, h.tasksBehind, ?_, h.restored, ?_⟩
  · rw [List.length_append, List.length_append, h.handles]
    rfl
  · intro other hmem
    rcases List.mem_append.mp hmem with hold | hnew
    · exact h.handlesBehind other hold
    · rw [List.mem_singleton.mp hnew]
      exact hversion
  · intro handle copy hcopy hcurrent
    rcases Nat.lt_trichotomy handle keys.handles.length with hlt | rfl | hgt
    · rw [List.getElem?_append_left hlt] at hcopy
      rw [List.getElem?_append_left (h.handles ▸ hlt)] at hcurrent
      obtain ⟨stored, hstored, hstep⟩ := h.inStep handle copy hcopy hcurrent
      exact ⟨stored, hstored, hstep.mono fun _ => id⟩
    · rw [List.getElem?_concat_length, Option.some.injEq] at hcopy
      rw [← h.handles, List.getElem?_concat_length, Option.some.injEq] at hcurrent
      rw [← hcopy]
      exact ⟨record, hbrings hcurrent, .refl _ _ _⟩
    · rw [List.getElem?_eq_none (by simpa using Nat.succ_le_of_lt hgt)] at hcopy
      cases hcopy
  · intro handle binding hentry
    obtain ⟨stored, copy, hstored, hbinding, hcopy, hreaches⟩ :=
      h.consentBound handle binding hentry
    have hkept : (keys.handles ++ [record])[handle]? = some copy := by
      rw [List.getElem?_append_left (List.getElem?_eq_some_iff.mp hcopy).1, hcopy]
    exact ⟨stored, copy, hstored, hbinding, hkept, hreaches⟩

/-- The answer to a recorded consent brings its handle up to the version it made. -/
theorem consents (h : Versioned versions keys) {handle : ℕ} {copy : StoredClaimantKey}
    {binding : ConsentBinding} {version : ℕ} (hcopy : keys.handles[handle]? = some copy)
    (hversion : version ≤ versions.stored)
    (hbrings : Brings versions keys version (.consentBound handle binding)) :
    Versioned (versions.setHandle handle version)
      (keys.setHandle handle { copy with maybeConsentBinding := some binding }) := by
  have hlt := (List.getElem?_eq_some_iff.mp hcopy).1
  refine ⟨h.tasks, ?_, h.positive, ?_, h.tasksBehind, ?_, h.restored, ?_⟩
  · simp only [KeyVersions.setHandle, setHandle, List.length_set]
    exact h.handles
  · intro other hmem
    rcases List.mem_or_eq_of_mem_set hmem with hold | rfl
    · exact h.handlesBehind other hold
    · exact hversion
  · intro other found hfound hcurrent
    by_cases heq : handle = other
    · subst heq
      have hupdated : some version = some versions.stored :=
        (List.getElem?_set_self (h.handles ▸ hlt)).symm.trans hcurrent
      have hfound := (List.getElem?_set_self hlt).symm.trans hfound
      obtain ⟨stored, before, hstored, hbinding, hbefore, hreaches⟩ :=
        hbrings (Option.some.inj hupdated)
      rw [hcopy, Option.some.injEq] at hbefore
      subst hbefore
      rw [← Option.some.inj hfound]
      refine ⟨stored, hstored, ⟨hreaches.bound, hreaches.expiry⟩, ?_⟩
      exact fun other hother => .inl (hbinding.symm.trans hother)
    · have hfound := (List.getElem?_set_ne heq).symm.trans hfound
      have hcurrent := (List.getElem?_set_ne heq).symm.trans hcurrent
      obtain ⟨stored, hstored, hstep⟩ := h.inStep other found hfound hcurrent
      exact ⟨stored, hstored, hstep.mono fun _ => id⟩
  · intro other found hentry
    obtain ⟨stored, before, hstored, hbinding, hbefore, hreaches⟩ :=
      h.consentBound other found hentry
    by_cases heq : handle = other
    · subst heq
      rw [hcopy, Option.some.injEq] at hbefore
      subst hbefore
      exact ⟨stored, _, hstored, hbinding, List.getElem?_set_self hlt,
        hreaches.bound, hreaches.expiry⟩
    · exact ⟨stored, before, hstored, hbinding, (List.getElem?_set_ne heq).trans hbefore,
        hreaches⟩

/-- A handle is given a version its copy is in step with. -/
theorem setVersion (h : Versioned versions keys) {handle version : ℕ}
    (hversion : version ≤ versions.stored)
    (hinStep : version = versions.stored → ∀ copy, keys.handles[handle]? = some copy →
      ∃ stored, keys.maybeStored = some stored ∧ keys.InStep handle stored copy) :
    Versioned (versions.setHandle handle version) keys := by
  refine ⟨h.tasks, ?_, h.positive, ?_, h.tasksBehind, ?_, h.restored, h.consentBound⟩
  · simp only [KeyVersions.setHandle, List.length_set]
    exact h.handles
  · intro other hmem
    rcases List.mem_or_eq_of_mem_set hmem with hold | rfl
    · exact h.handlesBehind other hold
    · exact hversion
  · intro other copy hcopy hcurrent
    by_cases heq : handle = other
    · subst heq
      have hlt := (List.getElem?_eq_some_iff.mp hcopy).1
      have hupdated : some version = some versions.stored :=
        (List.getElem?_set_self (h.handles ▸ hlt)).symm.trans hcurrent
      exact hinStep (Option.some.inj hupdated) copy hcopy
    · exact h.inStep other copy hcopy ((List.getElem?_set_ne heq).symm.trans hcurrent)

/-- A handle set back is in step with nothing. -/
theorem setBack (h : Versioned versions keys) (handle : ℕ) :
    Versioned (versions.setHandle handle 0) keys :=
  h.setVersion (Nat.zero_le _) fun heq => absurd heq (Nat.ne_of_lt h.positive)

/-! ### Writes -/

/-- What a changed record leaves: a version that nobody is in step with yet. -/
theorem changed (h : Versioned versions keys) {after : ClaimantKeys}
    (htasks : after.tasks = keys.tasks) (hhandles : after.handles = keys.handles) :
    Versioned { versions with stored := versions.stored + 1 } after := by
  refine ⟨h.tasks.trans htasks.symm, h.handles.trans (congrArg _ hhandles.symm),
    Nat.succ_pos _, ?_, ?_, ?_, ?_, ?_⟩
  · exact fun version hmem => Nat.le_succ_of_le (h.handlesBehind version hmem)
  · exact fun entry hentry => Nat.le_succ_of_le (h.tasksBehind entry hentry)
  · intro handle copy _ hcurrent
    exact absurd (h.handlesBehind _ (List.mem_of_getElem? hcurrent)) (Nat.not_succ_le_self _)
  · intro record hentry
    exact absurd (h.tasksBehind _ hentry) (Nat.not_succ_le_self _)
  · intro handle binding hentry
    exact absurd (h.tasksBehind _ hentry) (Nat.not_succ_le_self _)

theorem written (h : Versioned versions keys) {after : ClaimantKeys}
    (htasks : after.tasks = keys.tasks) (hhandles : after.handles = keys.handles) :
    Versioned (versions.written keys after) after := by
  rw [KeyVersions.written]
  split
  · next hsame =>
      obtain ⟨stored, handles, tasks⟩ := after
      cases hsame
      cases hhandles
      cases htasks
      exact h
  · exact h.changed htasks hhandles

theorem setHandle_written (versions : KeyVersions) (before after : ClaimantKeys)
    (handle version : ℕ) :
    ((versions.setHandle handle 0).written before after).setHandle handle version =
      (versions.written before after).setHandle handle version := by
  rw [KeyVersions.written, KeyVersions.written]
  split
  · simp only [KeyVersions.setHandle, List.set_set]
  · simp only [KeyVersions.setHandle, List.set_set]

theorem stored_written_setHandle (versions : KeyVersions) (before after : ClaimantKeys)
    (handle version : ℕ) :
    ((versions.setHandle handle version).written before after).stored =
      (versions.written before after).stored := by
  rw [KeyVersions.written, KeyVersions.written]
  split
  · rfl
  · rfl

/-- A write that succeeds brings its handle in step with the version it makes. -/
theorem puts (h : Versioned versions keys) (handle : ℕ) :
    Versioned
      ((versions.written keys (keys.put handle true).1).setHandle handle
        (versions.written keys (keys.put handle true).1).stored)
      (keys.put handle true).1 := by
  rw [ClaimantKeys.put]
  split
  · next hnone =>
      have hwritten : Versioned (versions.written keys keys) keys := h.written rfl rfl
      refine hwritten.setVersion (Nat.le_refl _) fun _ copy hcopy => ?_
      rw [hnone] at hcopy
      cases hcopy
  · next copy hcopy =>
      have hwritten : Versioned
          (versions.written keys { keys with maybeStored := some copy })
          { keys with maybeStored := some copy } := h.written rfl rfl
      refine hwritten.setVersion (Nat.le_refl _) fun _ found hfound => ?_
      rw [show keys.handles[handle]? = some found from hfound, Option.some.injEq] at hcopy
      exact ⟨copy, rfl, hcopy ▸ .refl _ _ _⟩

theorem put (h : Versioned versions keys) {index handle : ℕ} {maybeCleared : Option String}
    {version : ℕ} (htask : versions.tasks[index]? = some (.putting handle maybeCleared, version))
    (succeeds : Bool) {erased : ClaimantKeys}
    (herased : erased = { keys with tasks := keys.tasks.eraseIdx index }) :
    Versioned
      (KeyVersions.goOn { versions with tasks := versions.tasks.eraseIdx index } erased
        (erased.put handle succeeds).1 (.putting handle maybeCleared) version succeeds)
      (erased.put handle succeeds).1 := by
  subst herased
  have hback := (h.setBack handle).erase htask (by
    intro other challengeId heq hcurrent
    cases heq
    simp only [KeyVersions.setHandle, List.getElem?_set, if_true] at hcurrent
    split at hcurrent
    · exact Nat.ne_of_lt h.positive (Option.some.inj hcurrent)
    · cases hcurrent)
  cases succeeds with
  | true =>
      have hputs := hback.puts handle
      have herased : ({ versions.setHandle handle 0 with
          tasks := (versions.setHandle handle 0).tasks.eraseIdx index } : KeyVersions) =
        ({ versions with tasks := versions.tasks.eraseIdx index } : KeyVersions).setHandle
          handle 0 := rfl
      rwa [herased, stored_written_setHandle, setHandle_written] at hputs
  | false =>
      have hsame : (({ keys with tasks := keys.tasks.eraseIdx index } : ClaimantKeys).put handle
          false).1 = { keys with tasks := keys.tasks.eraseIdx index } := by
        rw [ClaimantKeys.put]
        split
        · rfl
        · rfl
      rw [hsame]
      cases maybeCleared with
      | some cleared => exact hback
      | none => exact h.erase htask fun other challengeId heq => by cases heq

theorem deletes (h : Versioned versions keys) (message : String) (succeeds : Bool) :
    Versioned (versions.written keys (keys.deleteStored message succeeds).1)
      (keys.deleteStored message succeeds).1 := by
  rw [deleteStored]
  split
  · exact h.written rfl rfl
  · exact h.written rfl rfl

/-- Recording a consent moves neither the binding nor the retention. -/
theorem reaches_bindConsentRecord {record updated copy : StoredClaimantKey} {challengeId : String}
    {receipt : WorkConsentReceipt} (h : bindConsentRecord record challengeId receipt = .ok updated)
    (hreaches : Reaches record copy) : Reaches updated copy := by
  rw [bindConsentRecord] at h
  split at h
  · cases h
  split at h
  · split at h
    · cases h
    · cases h
      exact hreaches
  · cases h
    exact ⟨hreaches.bound, hreaches.expiry⟩

/-- A recorded consent brings a handle that was in step up to the version it makes. -/
theorem bindConsent (h : Versioned versions keys) (handle : ℕ) (challengeId : String)
    (receipt : WorkConsentReceipt) (version : ℕ) (succeeds : Bool) :
    Versioned
      (KeyVersions.goOn versions keys (keys.bindConsent handle challengeId receipt succeeds).1
        (.bindingConsent handle challengeId receipt) version succeeds)
      (keys.bindConsent handle challengeId receipt succeeds).1 := by
  have hquiet : ∀ version, Versioned ((versions.written keys keys).suspended keys keys version)
      keys := by
    intro version
    rw [suspended_self]
    exact h.written rfl rfl
  simp only [KeyVersions.goOn]
  rw [ClaimantKeys.bindConsent]
  split
  · exact hquiet _
  split
  · exact hquiet _
  · next record hrecord =>
      obtain ⟨stored, hstored, hparsed⟩ := Option.bind_eq_some_iff.mp hrecord
      cases eq_of_parseStoredClaimantKey hparsed
      split
      · exact hquiet _
      · next updated hupdated =>
          split
          · exact hquiet _
          · next binding hbinding =>
              have hwritten : Versioned
                  (versions.written keys { keys with maybeStored := some updated })
                  { keys with maybeStored := some updated } := h.written rfl rfl
              split
              · next hcurrent =>
                  apply hwritten.suspend (Nat.le_refl _)
                  rintro -
                  have hlt := (List.getElem?_eq_some_iff.mp hcurrent).1
                  rw [h.handles] at hlt
                  have hcopy := List.getElem?_eq_getElem hlt
                  obtain ⟨found, hfound, hstep⟩ := h.inStep handle _ hcopy hcurrent
                  rw [hstored, Option.some.injEq] at hfound
                  subst hfound
                  exact ⟨updated, _, rfl, hbinding, hcopy,
                    reaches_bindConsentRecord hupdated hstep.toReaches⟩
              · exact hwritten.suspend_zero _

/-! ### Steps -/

theorem goOn (h : Versioned versions keys) {index : ℕ} {task : KeyTask} {version : ℕ}
    (htask : versions.tasks[index]? = some (task, version)) (maybeNow : Option ℕ)
    (succeeds : Bool) {erased : ClaimantKeys}
    (herased : erased = { keys with tasks := keys.tasks.eraseIdx index }) :
    Versioned
      (KeyVersions.goOn { versions with tasks := versions.tasks.eraseIdx index } erased
        (erased.goOn task maybeNow succeeds).1 task version succeeds)
      (erased.goOn task maybeNow succeeds).1 := by
  have hmem := List.mem_of_getElem? htask
  have hversion := h.tasksBehind _ hmem
  by_cases hputs : ∃ handle maybeCleared, task = .putting handle maybeCleared
  · obtain ⟨handle, maybeCleared, rfl⟩ := hputs
    exact h.put htask succeeds herased
  · have hleft := h.erase htask fun handle challengeId heq => absurd ⟨_, _, heq⟩ hputs
    rw [← herased] at hleft
    cases task with
    | putting handle maybeCleared => exact absurd ⟨_, _, rfl⟩ hputs
    | restoring => exact hleft.restoreRead maybeNow succeeds
    | retained handle operation => exact hleft.goesOn handle operation maybeNow
    | deleting message => exact hleft.deletes message succeeds
    | bindingConsent handle challengeId receipt =>
        exact hleft.bindConsent handle challengeId receipt version succeeds
    | restored record =>
        cases succeeds with
        | true =>
            apply hleft.restores hversion
            rintro rfl
            rw [herased]
            exact h.restored record hmem
        | false => exact hleft.suspend_zero _
    | consentBound handle binding =>
        simp only [ClaimantKeys.goOn]
        split
        · next hnone =>
            refine hleft.setVersion hversion fun _ copy hcopy => ?_
            rw [hnone] at hcopy
            cases hcopy
        · next copy hcopy =>
            apply hleft.consents hcopy hversion
            rintro rfl
            rw [herased]
            exact h.consentBound handle binding hmem

/-- The versions keep up with every step. -/
theorem step (h : Versioned versions keys) (event : KeyEvent) :
    Versioned (versions.step keys event) (keys.step event).1 := by
  cases event with
  | restore => exact h.suspend_zero .restoring
  | call handle operation maybeNow => exact h.call handle operation maybeNow
  | runs index maybeNow succeeds =>
      rw [KeyVersions.step, ClaimantKeys.step, ← h.tasks, List.getElem?_map]
      cases htask : versions.tasks[index]? with
      | none => exact h
      | some entry =>
          obtain ⟨task, version⟩ := entry
          rw [h.tasks]
          exact h.goOn htask maybeNow succeeds rfl

end Versioned

end ClaimantKeys

open ClaimantKeys

section Runs

variable {retentionExpiry : ℕ} {history : List (KeyEvent × KeyAnswer)} {keys : ClaimantKeys}

end Runs

end WorkGate
