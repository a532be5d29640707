/-
# What the request digest is over

The canonical text of a bound request tells every field of it: no field is left out and none can
be read as another.  So two requests with the same digest preimage are the same.
-/

import WorkGate.Worker.LeaseAuthorization

namespace WorkGate

open WorkGate.Library
open WorkGate.Library.JsonText

/-! ## Records -/

theorem lookup_ofString {α : Type} (members : List (String × α)) (key : String) :
    (members.map (Prod.map CodeUnits.ofString id)).lookup (CodeUnits.ofString key) =
      members.lookup key := by
  induction members with
  | nil => rfl
  | cons member members ih =>
      obtain ⟨name, value⟩ := member
      by_cases hkey : key = name
      · subst hkey
        rw [List.map_cons, Prod.map_apply, List.lookup_cons_self, List.lookup_cons_self]
        rfl
      · have hunits : (CodeUnits.ofString key == CodeUnits.ofString name) = false :=
          beq_eq_false_iff_ne.mpr fun h => hkey (CodeUnits.ofString_injective h)
        rw [List.map_cons, Prod.map_apply, List.lookup_cons, hunits, List.lookup_cons,
          beq_eq_false_iff_ne.mpr hkey]
        exact ih

theorem printable_jsRecord {members : List (String × JsValue)} :
    Printable (jsRecord members) ↔ ∀ member ∈ members, Printable member.2 := by
  rw [jsRecord, Printable, printableMembers_iff, List.forall_mem_map]
  rfl

/-- Records that are one up to the order of members agree on every member. -/
theorem lookup_of_canonical_eq {first second : List (String × JsValue)}
    (hfirst : Printable (jsRecord first)) (hsecond : Printable (jsRecord second))
    (h : canonical (jsRecord first) = canonical (jsRecord second)) (key : String) :
    (first.lookup key).map canonical = (second.lookup key).map canonical := by
  have hmember := congrArg (fun value => maybeMember value (CodeUnits.ofString key)) h
  simp only [maybeMember_canonical hfirst, maybeMember_canonical hsecond] at hmember
  have hlookup : ∀ members : List (String × JsValue),
      maybeMember (jsRecord members) (CodeUnits.ofString key) = members.lookup key :=
    fun members => lookup_ofString members key
  rw [hlookup, hlookup] at hmember
  exact hmember

theorem lookup_optionalMember {α : Type} (key name : String) (toJs : α → JsValue)
    (maybe : Option α) : (optionalMember key toJs maybe).lookup name =
      if name = key then maybe.map toJs else none := by
  cases maybe with
  | none => simp [optionalMember]
  | some value =>
      by_cases hname : name = key
      · subst hname
        rw [if_pos rfl]
        exact List.lookup_cons_self
      · rw [if_neg hname, optionalMember, Option.toList_some, List.map_singleton,
          List.lookup_cons, beq_eq_false_iff_ne.mpr hname]
        rfl

theorem printable_optionalMember {α : Type} {key : String} {toJs : α → JsValue}
    {maybe : Option α} (hprintable : ∀ value, Printable (toJs value)) :
    ∀ member ∈ optionalMember key toJs maybe, Printable member.2 := by
  intro member hmem
  obtain ⟨value, -, rfl⟩ := List.mem_map.mp hmem
  exact hprintable value

@[simp] theorem canonical_jsText (text : String) : canonical (jsText text) = jsText text := rfl

@[simp] theorem canonical_jsNatural (value : ℕ) : canonical (jsNatural value) = jsNatural value :=
  rfl

@[simp] theorem canonical_string (units : CodeUnits) :
    canonical (.string units) = .string units := rfl

@[simp] theorem printable_jsText (text : String) : Printable (jsText text) := trivial

@[simp] theorem printable_jsNatural (value : ℕ) : Printable (jsNatural value) := trivial

@[simp] theorem printable_string (units : CodeUnits) : Printable (.string units) := trivial

@[simp] theorem jsText_inj {first second : String} : jsText first = jsText second ↔
    first = second :=
  ⟨fun h => CodeUnits.ofString_injective (JsValue.string.inj h), congrArg jsText⟩

@[simp] theorem jsNatural_inj {first second : ℕ} : jsNatural first = jsNatural second ↔
    first = second :=
  ⟨fun h => JsNumber.natural.inj (JsValue.number.inj h), congrArg jsNatural⟩

/-! ## Parts of a request -/

theorem QualificationAttemptPurpose.text_injective :
    Function.Injective QualificationAttemptPurpose.text := by
  intro first second h
  cases first <;> cases second <;> first | rfl | exact absurd h (by decide)

theorem WorkerLeaseAuthorizationOperation.text_injective :
    Function.Injective WorkerLeaseAuthorizationOperation.text := by
  intro first second h
  cases first <;> cases second <;> first | rfl | exact absurd h (by decide)

theorem WorkerQualificationAttempt.printable (attempt : WorkerQualificationAttempt) :
    Printable attempt.toJs := by
  simp [WorkerQualificationAttempt.toJs, printable_jsRecord]

theorem WorkerQualificationAttempt.canonical_injective :
    Function.Injective (canonical ∘ WorkerQualificationAttempt.toJs) := by
  intro first second h
  have hlookup := lookup_of_canonical_eq first.printable second.printable h
  have hid := hlookup "id"
  have hordinal := hlookup "ordinal"
  have hpurpose := hlookup "purpose"
  have hmaximum := hlookup "maximumActiveMilliseconds"
  simp [List.lookup_cons] at hid hordinal hpurpose hmaximum
  cases first
  cases second
  simp_all [QualificationAttemptPurpose.text_injective.eq_iff]

theorem WorkerAcceptanceCampaign.printable (campaign : WorkerAcceptanceCampaign) :
    Printable campaign.toJs := by
  simp [WorkerAcceptanceCampaign.toJs, printable_jsRecord]

theorem WorkerAcceptanceCampaign.canonical_injective :
    Function.Injective (canonical ∘ WorkerAcceptanceCampaign.toJs) := by
  intro first second h
  have hlookup := lookup_of_canonical_eq first.printable second.printable h
  have hid := hlookup "id"
  have hwindow := hlookup "window"
  have hmaximum := hlookup "maximumActiveMilliseconds"
  simp [List.lookup_cons] at hid hwindow hmaximum
  cases first
  cases second
  simp_all

theorem WorkerSoakAllowance.printable (allowance : WorkerSoakAllowance) :
    Printable allowance.toJs := by
  simp [WorkerSoakAllowance.toJs, printable_jsRecord]

theorem WorkerSoakAllowance.canonical_injective :
    Function.Injective (canonical ∘ WorkerSoakAllowance.toJs) := by
  intro first second h
  have hlookup := lookup_of_canonical_eq first.printable second.printable h
  have hid := hlookup "id"
  have hordinal := hlookup "ordinal"
  simp [List.lookup_cons] at hid hordinal
  cases first
  cases second
  simp_all

theorem WorkerStratum.printable (stratum : WorkerStratum) : Printable stratum.toJs := by
  cases stratum with
  | v1 endpoint username password maybeSuggestedDifficulty =>
      rw [WorkerStratum.toJs, printable_jsRecord, List.forall_mem_append]
      exact ⟨by simp, printable_optionalMember printable_jsNatural⟩
  | v2 stratum => simp [WorkerStratum.toJs, printable_jsRecord]

/-- The profile tells the protocol versions apart. -/
theorem WorkerStratum.canonical_injective :
    Function.Injective (canonical ∘ WorkerStratum.toJs) := by
  intro first second h
  cases first with
  | v1 endpoint username password maybeSuggestedDifficulty =>
      cases second with
      | v2 stratum =>
          have hprofile := lookup_of_canonical_eq (WorkerStratum.v1 endpoint username password
            maybeSuggestedDifficulty).printable (WorkerStratum.v2 stratum).printable h "profile"
          rw [List.lookup_append, lookup_optionalMember] at hprofile
          simp [List.lookup_cons] at hprofile
      | v1 otherEndpoint otherUsername otherPassword otherDifficulty =>
          have hlookup := lookup_of_canonical_eq (WorkerStratum.v1 endpoint username password
            maybeSuggestedDifficulty).printable (WorkerStratum.v1 otherEndpoint otherUsername
              otherPassword otherDifficulty).printable h
          have hendpoint := hlookup "endpoint"
          have husername := hlookup "username"
          have hpassword := hlookup "password"
          have hdifficulty := hlookup "suggestedDifficulty"
          simp [lookup_optionalMember, List.lookup_cons]
            at hendpoint husername hpassword hdifficulty
          have hinjective : Function.Injective (canonical ∘ jsNatural) :=
            fun _ _ h => jsNatural_inj.mp h
          rw [hendpoint, husername, hpassword, Option.map_injective hinjective hdifficulty]
  | v2 stratum =>
      cases second with
      | v1 endpoint username password maybeSuggestedDifficulty =>
          have hprofile := lookup_of_canonical_eq (WorkerStratum.v2 stratum).printable
            (WorkerStratum.v1 endpoint username password maybeSuggestedDifficulty).printable h
              "profile"
          rw [List.lookup_append, lookup_optionalMember] at hprofile
          simp [List.lookup_cons] at hprofile
      | v2 other =>
          have hlookup := lookup_of_canonical_eq (WorkerStratum.v2 stratum).printable
            (WorkerStratum.v2 other).printable h
          have hendpoint := hlookup "endpoint"
          have hkey := hlookup "authorityPublicKey"
          have hidentity := hlookup "userIdentity"
          simp [List.lookup_cons] at hendpoint hkey hidentity
          cases stratum
          cases other
          simp_all

/-! ## Requests -/

/-- Both kinds of request begin with these. -/
theorem DeviceLeaseWindow.printable (window : DeviceLeaseWindow) :
    ∀ member ∈ window.members, Printable member.2 := by
  simp [DeviceLeaseWindow.members]

theorem AuthorizationlessRequest.printable (request : AuthorizationlessRequest) :
    Printable request.toJs := by
  cases request with
  | start grant =>
      rw [AuthorizationlessRequest.toJs, printable_jsRecord]
      simp only [List.forall_mem_append]
      refine ⟨⟨⟨⟨grant.window.printable, ?_⟩, ?_⟩, ?_⟩, ?_⟩
      · exact printable_optionalMember WorkerQualificationAttempt.printable
      · exact printable_optionalMember WorkerAcceptanceCampaign.printable
      · exact printable_optionalMember WorkerSoakAllowance.printable
      · simp [WorkerStratum.printable]
  | renew renewal =>
      rw [AuthorizationlessRequest.toJs, printable_jsRecord]
      simp only [List.forall_mem_append]
      exact ⟨renewal.window.printable, by simp⟩

/-- What each name stands for in a start request. -/
theorem lookup_start (grant : AuthorizationlessWorkerLeaseGrant) :
    ∃ members, (AuthorizationlessRequest.start grant).toJs = jsRecord members ∧
      members.lookup "durationMilliseconds" =
        some (jsNatural grant.window.durationMilliseconds) ∧
      members.lookup "renewAfterMilliseconds" =
        some (jsNatural grant.window.renewAfterMilliseconds) ∧
      members.lookup "qualificationAttempt" =
        grant.maybeQualificationAttempt.map WorkerQualificationAttempt.toJs ∧
      members.lookup "acceptanceCampaign" =
        grant.maybeAcceptanceCampaign.map WorkerAcceptanceCampaign.toJs ∧
      members.lookup "soakAllowance" =
        grant.maybeSoakAllowance.map WorkerSoakAllowance.toJs ∧
      members.lookup "leaseId" = some (jsText grant.leaseId) ∧
      members.lookup "challengeId" = some (jsText grant.challengeId) ∧
      members.lookup "stratum" = some grant.stratum.toJs := by
  refine ⟨_, rfl, ?_⟩
  simp [List.lookup_append, lookup_optionalMember, DeviceLeaseWindow.members, List.lookup_cons]

/-- What each name stands for in a renewal. -/
theorem lookup_renew (renewal : AuthorizationlessWorkerLeaseRenewal) :
    ∃ members, (AuthorizationlessRequest.renew renewal).toJs = jsRecord members ∧
      members.lookup "durationMilliseconds" =
        some (jsNatural renewal.window.durationMilliseconds) ∧
      members.lookup "renewAfterMilliseconds" =
        some (jsNatural renewal.window.renewAfterMilliseconds) ∧
      members.lookup "leaseId" = some (jsText renewal.leaseId) ∧
      members.lookup "stratum" = none := by
  refine ⟨_, rfl, ?_⟩
  simp [DeviceLeaseWindow.members, List.lookup_cons]

theorem canonical_start_injective {first second : AuthorizationlessWorkerLeaseGrant}
    (h : canonical (AuthorizationlessRequest.start first).toJs =
      canonical (AuthorizationlessRequest.start second).toJs) : first = second := by
  obtain ⟨members, htoJs, hduration, hrenew, hattempt, hcampaign, hallowance, hlease, hchallenge,
    hstratum⟩ := lookup_start first
  obtain ⟨others, htoJs', hduration', hrenew', hattempt', hcampaign', hallowance', hlease',
    hchallenge', hstratum'⟩ := lookup_start second
  have hfirst := AuthorizationlessRequest.printable (.start first)
  have hsecond := AuthorizationlessRequest.printable (.start second)
  rw [htoJs] at h hfirst
  rw [htoJs'] at h hsecond
  have hlookup := lookup_of_canonical_eq hfirst hsecond h
  -- Each field is read off its own name.
  have hsameDuration := hlookup "durationMilliseconds"
  have hsameRenew := hlookup "renewAfterMilliseconds"
  have hsameAttempt := hlookup "qualificationAttempt"
  have hsameCampaign := hlookup "acceptanceCampaign"
  have hsameAllowance := hlookup "soakAllowance"
  have hsameLease := hlookup "leaseId"
  have hsameChallenge := hlookup "challengeId"
  have hsameStratum := hlookup "stratum"
  rw [hattempt, hattempt', Option.map_map, Option.map_map] at hsameAttempt
  rw [hcampaign, hcampaign', Option.map_map, Option.map_map] at hsameCampaign
  rw [hallowance, hallowance', Option.map_map, Option.map_map] at hsameAllowance
  rw [hstratum, hstratum', Option.map_some, Option.map_some, Option.some.injEq] at hsameStratum
  have hattempts := Option.map_injective WorkerQualificationAttempt.canonical_injective hsameAttempt
  have hcampaigns := Option.map_injective WorkerAcceptanceCampaign.canonical_injective hsameCampaign
  have hallowances := Option.map_injective WorkerSoakAllowance.canonical_injective hsameAllowance
  have hstratums := WorkerStratum.canonical_injective hsameStratum
  simp only [hduration, hduration', hrenew, hrenew', hlease, hlease', hchallenge, hchallenge',
    Option.map_some, canonical_jsText, canonical_jsNatural, Option.some.injEq, jsText_inj,
    jsNatural_inj] at hsameDuration hsameRenew hsameLease hsameChallenge
  obtain ⟨⟨duration, renewAfter⟩, attempt, campaign, allowance, leaseId, challengeId, stratum⟩ :=
    first
  cases hsameDuration
  cases hsameRenew
  cases hattempts
  cases hcampaigns
  cases hallowances
  cases hsameLease
  cases hsameChallenge
  cases hstratums
  rfl

theorem canonical_renew_injective {first second : AuthorizationlessWorkerLeaseRenewal}
    (h : canonical (AuthorizationlessRequest.renew first).toJs =
      canonical (AuthorizationlessRequest.renew second).toJs) : first = second := by
  obtain ⟨members, htoJs, hduration, hrenew, hlease, -⟩ := lookup_renew first
  obtain ⟨others, htoJs', hduration', hrenew', hlease', -⟩ := lookup_renew second
  have hfirst := AuthorizationlessRequest.printable (.renew first)
  have hsecond := AuthorizationlessRequest.printable (.renew second)
  rw [htoJs] at h hfirst
  rw [htoJs'] at h hsecond
  have hlookup := lookup_of_canonical_eq hfirst hsecond h
  have hsameDuration := hlookup "durationMilliseconds"
  have hsameRenew := hlookup "renewAfterMilliseconds"
  have hsameLease := hlookup "leaseId"
  simp only [hduration, hduration', hrenew, hrenew', hlease, hlease', Option.map_some,
    canonical_jsText, canonical_jsNatural, Option.some.injEq, jsText_inj, jsNatural_inj]
    at hsameDuration hsameRenew hsameLease
  obtain ⟨⟨duration, renewAfter⟩, leaseId⟩ := first
  cases hsameDuration
  cases hsameRenew
  cases hsameLease
  rfl

/-- A start request has credentials and a renewal has none. -/
theorem canonical_start_ne_renew (grant : AuthorizationlessWorkerLeaseGrant)
    (renewal : AuthorizationlessWorkerLeaseRenewal) :
    canonical (AuthorizationlessRequest.start grant).toJs ≠
      canonical (AuthorizationlessRequest.renew renewal).toJs := by
  intro h
  obtain ⟨members, htoJs, -, -, -, -, -, -, -, hstratum⟩ := lookup_start grant
  obtain ⟨others, htoJs', -, -, -, hnone⟩ := lookup_renew renewal
  have hfirst := AuthorizationlessRequest.printable (.start grant)
  have hsecond := AuthorizationlessRequest.printable (.renew renewal)
  rw [htoJs] at h hfirst
  rw [htoJs'] at h hsecond
  have hsame := lookup_of_canonical_eq hfirst hsecond h "stratum"
  rw [hstratum, hnone] at hsame
  cases hsame

theorem AuthorizationlessRequest.canonical_injective :
    Function.Injective (canonical ∘ AuthorizationlessRequest.toJs) := by
  intro first second h
  cases first with
  | start grant =>
      cases second with
      | start other => rw [canonical_start_injective h]
      | renew renewal => exact absurd h (canonical_start_ne_renew grant renewal)
  | renew renewal =>
      cases second with
      | start grant => exact absurd h.symm (canonical_start_ne_renew grant renewal)
      | renew other => rw [canonical_renew_injective h]

theorem BoundRequest.printable (bound : BoundRequest) : Printable bound.toJs := by
  simp [BoundRequest.toJs, printable_jsRecord, AuthorizationlessRequest.printable]

theorem BoundRequest.canonical_injective : Function.Injective (canonical ∘ BoundRequest.toJs) := by
  intro first second h
  have hlookup := lookup_of_canonical_eq first.printable second.printable h
  have hissuer := hlookup "issuer"
  have haudience := hlookup "audience"
  have hoperation := hlookup "operation"
  have hchallenge := hlookup "activeChallengeId"
  have hrequest := hlookup "request"
  simp [List.lookup_cons] at hissuer haudience hoperation hchallenge hrequest
  obtain ⟨issuer, audience, operation, activeChallengeId, request⟩ := first
  cases hissuer
  cases haudience
  cases WorkerLeaseAuthorizationOperation.text_injective hoperation
  cases hchallenge
  cases AuthorizationlessRequest.canonical_injective hrequest
  rfl

/-! ## Preimages -/

/-- Canonical bytes tell values apart as far as their canonical texts do. -/
theorem canonicalBytes_inj {first second : JsValue} (hfirst : Printable first)
    (hsecond : Printable second) (h : canonicalBytes first = canonicalBytes second) :
    canonical first = canonical second := by
  have htext := asBytes_injective h
  apply canonicalJson_inj hfirst hsecond
  rw [← String.toList_ofList (l := canonicalJson first), htext, String.toList_ofList]

/-- A preimage says which request it is of, and under which terms. -/
theorem requestPreimage_inj {first second : WorkerLeaseAuthorizationInput}
    {issuer audience otherIssuer otherAudience : String}
    (h : requestPreimage first issuer audience =
      requestPreimage second otherIssuer otherAudience) :
    issuer = otherIssuer ∧ audience = otherAudience ∧
      first.activeChallengeId = second.activeChallengeId ∧ first.request = second.request := by
  have hcanonical := canonicalBytes_inj (BoundRequest.printable _) (BoundRequest.printable _) h
  have hbound := BoundRequest.canonical_injective hcanonical
  exact ⟨congrArg BoundRequest.issuer hbound, congrArg BoundRequest.audience hbound,
    congrArg BoundRequest.activeChallengeId hbound, congrArg BoundRequest.request hbound⟩

end WorkGate
