/-
# The identity the pool sees

A Worker mines under credentials of its own; the pool knows the session by others.  Between
the two only the first parameters of a request change, and a request to authorize reaches the
pool only under the Worker's own credentials.
-/

import WorkGate.Stratum.Soundness

namespace WorkGate

open WorkGate.Library

/-- `message.get("params").and_then(Value::as_array)`. -/
def messageParams (message : JsonMap) : Option (List Json) :=
  (message.get "params").bind Json.asArray

/-- A text that stands for an object: it parses as the object, or it is the object printed. -/
def StandsFor (deps : Dependencies) (text : String) (fields : JsonMap) : Prop :=
  (deps.fromStr text).bind Json.asObject = some fields ∨ text = deps.toStr (.object fields)

/-- What is forwarded of a Worker frame: the message that was read, but for the identity in its
first parameters. -/
structure ForwardedAs (deps : Dependencies) (config : StratumSessionConfig)
    (frame upstream : String) (message sent : JsonMap) : Prop where
  read : received deps frame = some message
  stands : StandsFor deps upstream sent
  keys : sent.map Prod.fst = message.map Prod.fst
  members : ∀ key, key ≠ "params" → sent.get key = message.get key
  authorize : messageMethod sent = some "mining.authorize" → ∃ rest,
    messageParams message = some (.string config.username :: .string config.secret :: rest) ∧
      messageParams sent =
        some (.string config.upstreamUsername :: .string config.upstreamSecret :: rest)
  submit : messageMethod sent = some "mining.submit" → ∃ rest,
    messageParams message = some (.string config.username :: rest) ∧
      messageParams sent = some (.string config.upstreamUsername :: rest)
  otherwise : messageMethod sent ≠ some "mining.authorize" →
    messageMethod sent ≠ some "mining.submit" → upstream = frame ∧ sent = message

section

variable {deps : Dependencies} {message : JsonMap} {params : List Json}

/-! ## Other parameters -/

theorem keys_setParams : (setParams message params).map Prod.fst = message.map Prod.fst := by
  rw [setParams, List.map_map]
  apply List.map_congr_left
  intro field _
  by_cases hkey : field.1 = "params"
  · simp [hkey]
  · simp [hkey]

theorem get_cons {name key : String} {value : Json} {fields : JsonMap} :
    JsonMap.get ((name, value) :: fields) key =
      if key = name then some value else JsonMap.get fields key := by
  by_cases heq : key = name
  · simp [JsonMap.get, heq]
  · simp [JsonMap.get, List.lookup_cons, heq, beq_eq_false_iff_ne.mpr heq]

theorem get_setParams {key : String} (hkey : key ≠ "params") :
    (setParams message params).get key = message.get key := by
  induction message with
  | nil => rfl
  | cons field message ih =>
      obtain ⟨name, value⟩ := field
      rw [setParams] at ih
      by_cases hname : name = "params"
      · subst hname
        simp only [setParams, List.map_cons, if_true, get_cons, if_neg hkey, ih]
      · simp only [setParams, List.map_cons, if_neg hname, get_cons, ih]

theorem messageParams_setParams {found : List Json} (hparams : messageParams message = some found) :
    messageParams (setParams message params) = some params := by
  have hget : ∀ value, message.get "params" = some value →
      (setParams message params).get "params" = some (.array params) := by
    clear hparams
    intro value hvalue
    induction message with
    | nil => cases hvalue
    | cons field message ih =>
        obtain ⟨name, held⟩ := field
        rw [setParams] at ih
        by_cases hname : name = "params"
        · simp only [setParams, List.map_cons, get_cons, hname, if_true]
        · have hother : "params" ≠ name := fun heq => hname heq.symm
          rw [get_cons, if_neg hother] at hvalue
          simp only [setParams, List.map_cons, if_neg hname, get_cons, if_neg hother]
          exact ih hvalue
  obtain ⟨value, hvalue, -⟩ := Option.bind_eq_some_iff.mp hparams
  rw [messageParams, hget value hvalue]
  rfl

theorem rewriteUpstreamIdentity_eq_ok {username upstream : String} {maybeSecret : Option String}
    (h : rewriteUpstreamIdentity deps message username maybeSecret = .ok upstream) :
    ∃ first rest, messageParams message = some (first :: rest) ∧
      match maybeSecret with
      | none => upstream = deps.toStr (.object (setParams message (.string username :: rest)))
      | some secret => ∃ second others, rest = second :: others ∧ upstream =
          deps.toStr (.object (setParams message (.string username :: .string secret :: others)))
    := by
  simp only [rewriteUpstreamIdentity, bind_eq_ok, orFault_eq_ok] at h
  obtain ⟨found, hparams, h⟩ := h
  cases found with
  | nil => cases h
  | cons first rest =>
      refine ⟨first, rest, hparams, ?_⟩
      cases maybeSecret with
      | none =>
          cases h
          rfl
      | some secret =>
          cases rest with
          | nil => cases h
          | cons second others =>
              cases h
              exact ⟨second, others, rfl, rfl⟩

/-! ## Forwarded frames -/

variable {session after : StratumSession} {frame upstream : String} {now : ℕ}
  {maybeRequest : Option OutstandingRequest}

/-- A frame passed on as it came. -/
theorem forwardedAs_itself {config : StratumSessionConfig} (hread : received deps frame =
    some message)
    (hauthorize : messageMethod message = some "mining.authorize" → ∃ rest,
      messageParams message = some (.string config.username :: .string config.secret :: rest) ∧
        config.upstreamUsername = config.username ∧ config.upstreamSecret = config.secret)
    (hsubmit : messageMethod message = some "mining.submit" → ∃ rest,
      messageParams message = some (.string config.username :: rest) ∧
        config.upstreamUsername = config.username) :
    ForwardedAs deps config frame frame message message where
  read := hread
  stands := by
    rw [received] at hread
    split at hread
    · exact .inl hread
    · cases hread
  keys := rfl
  members := fun _ _ => rfl
  authorize := by
    intro hmethod
    obtain ⟨rest, hparams, husername, hsecret⟩ := hauthorize hmethod
    rw [husername, hsecret]
    exact ⟨rest, hparams, hparams⟩
  submit := by
    intro hmethod
    obtain ⟨rest, hparams, husername⟩ := hsubmit hmethod
    rw [husername]
    exact ⟨rest, hparams, hparams⟩
  otherwise := fun _ _ => ⟨rfl, rfl⟩

/-- A frame whose parameters were rewritten. -/
theorem forwardedAs_rewritten {config : StratumSessionConfig} {found : List Json}
    (hread : received deps frame = some message) (hparams : messageParams message = some found)
    (hmethod : messageMethod message = some "mining.authorize" ∨
      messageMethod message = some "mining.submit")
    (hauthorize : messageMethod message = some "mining.authorize" → ∃ rest,
      found = .string config.username :: .string config.secret :: rest ∧
        params = .string config.upstreamUsername :: .string config.upstreamSecret :: rest)
    (hsubmit : messageMethod message = some "mining.submit" → ∃ rest,
      found = .string config.username :: rest ∧ params = .string config.upstreamUsername :: rest) :
    ForwardedAs deps config frame (deps.toStr (.object (setParams message params))) message
      (setParams message params) := by
  have hkept : messageMethod (setParams message params) = messageMethod message := by
    rw [messageMethod, get_setParams (by decide), messageMethod]
  have hwritten : messageParams (setParams message params) = some params :=
    messageParams_setParams hparams
  exact {
    read := hread
    stands := .inr rfl
    keys := keys_setParams
    members := fun _ => get_setParams
    authorize := by
      intro h
      obtain ⟨rest, rfl, rfl⟩ := hauthorize (hkept ▸ h)
      exact ⟨rest, hparams, hwritten⟩
    submit := by
      intro h
      obtain ⟨rest, rfl, rfl⟩ := hsubmit (hkept ▸ h)
      exact ⟨rest, hparams, hwritten⟩
    otherwise := by
      intro hnotAuthorize hnotSubmit
      rw [hkept] at hnotAuthorize hnotSubmit
      exact absurd hmethod (not_or.mpr ⟨hnotAuthorize, hnotSubmit⟩) }

theorem asStr_eq_some {value : Json} {text : String} (h : value.asStr = some text) :
    value = .string text := by
  cases value with
  | string found =>
      cases h
      rfl
  | _ => cases h

/-- The first of the parameters, where it is a string. -/
theorem exists_cons_of_first {text : String} (h : params[0]?.bind Json.asStr = some text) :
    ∃ rest, params = .string text :: rest := by
  cases params with
  | nil => cases h
  | cons first rest => exact ⟨rest, by rw [asStr_eq_some h]⟩

/-- An authorization is forwarded only under the Worker's own credentials. -/
theorem forwardedAs_authorize (hread : received deps frame = some message)
    (hmethod : messageMethod message = some "mining.authorize")
    (h : session.authorizeVerdict deps message frame = .ok (.admitted upstream maybeRequest)) :
    ∃ sent, ForwardedAs deps session.config frame upstream message sent := by
  have hother : messageMethod message ≠ some "mining.submit" := by simp [hmethod]
  simp only [StratumSession.authorizeVerdict, bind_eq_ok, orFault_eq_ok] at h
  obtain ⟨found, hparams, h⟩ := h
  split at h
  · simp only [bind_eq_ok, pure_eq_ok] at h
    obtain ⟨_, -, h⟩ := h
    cases h
  · next hown =>
      rw [not_or, not_not, not_not] at hown
      obtain ⟨rest, rfl⟩ := exists_cons_of_first hown.1
      obtain ⟨others, rfl⟩ := exists_cons_of_first hown.2
      split at h
      · simp only [bind_eq_ok, pure_eq_ok, WorkerVerdict.admitted.injEq] at h
        obtain ⟨_, hrewritten, rfl, -⟩ := h
        obtain ⟨first, rest, hfirst, second, kept, rfl, rfl⟩ :=
          rewriteUpstreamIdentity_eq_ok hrewritten
        rw [messageParams, hparams] at hfirst
        cases hfirst
        exact ⟨_, forwardedAs_rewritten hread hparams (.inl hmethod)
          (fun _ => ⟨others, rfl, rfl⟩) fun hsubmit => absurd hsubmit hother⟩
      · next hsame =>
          rw [not_or, not_not, not_not] at hsame
          cases h
          exact ⟨message, forwardedAs_itself hread (fun _ => ⟨others, hparams, hsame⟩)
            fun hsubmit => absurd hsubmit hother⟩

/-- A submission is forwarded under the pool's username. -/
theorem forwardedAs_submit (hread : received deps frame = some message)
    (hmethod : messageMethod message = some "mining.submit")
    (h : session.submitVerdict deps message frame now = .ok (.admitted upstream maybeRequest)) :
    ∃ sent, ForwardedAs deps session.config frame upstream message sent := by
  have hother : messageMethod message ≠ some "mining.authorize" := by simp [hmethod]
  simp only [StratumSession.submitVerdict, bind_eq_ok, pure_eq_ok, orFault_eq_ok,
    requireThat_eq_ok, beq_iff_eq] at h
  obtain ⟨_, -, _, -, _, -, _, -, found, hparams, _, hfirst, _, -, _, -, _, -, _, -, _, -, _, -,
    _, -, rewritten, hrewritten, _, -, hverdict⟩ := h
  obtain ⟨rest, rfl⟩ := exists_cons_of_first hfirst
  cases hverdict
  simp only [StratumSession.submitUpstreamFrame] at hrewritten
  split at hrewritten
  · obtain ⟨first, others, hfound, hwritten⟩ := rewriteUpstreamIdentity_eq_ok hrewritten
    rw [messageParams, hparams] at hfound
    cases hfound
    rw [hwritten]
    exact ⟨_, forwardedAs_rewritten hread hparams (.inr hmethod)
      (fun hauthorize => absurd hauthorize hother) fun _ => ⟨rest, rfl, rfl⟩⟩
  · next hsame =>
      rw [not_not] at hsame
      cases hrewritten
      exact ⟨message, forwardedAs_itself hread (fun hauthorize => absurd hauthorize hother)
        fun _ => ⟨rest, hparams, hsame⟩⟩

theorem forwardedAs_workerVerdict (hread : received deps frame = some message)
    (h : session.workerVerdict deps message frame now = .ok (.admitted upstream maybeRequest)) :
    ∃ sent, ForwardedAs deps session.config frame upstream message sent := by
  have hitself : messageMethod message ≠ some "mining.authorize" →
      messageMethod message ≠ some "mining.submit" →
      ForwardedAs deps session.config frame frame message message := fun hauthorize hsubmit =>
    forwardedAs_itself hread (fun h => absurd h hauthorize) fun h => absurd h hsubmit
  rw [StratumSession.workerVerdict] at h
  split at h
  · next hmethod =>
      cases h
      exact ⟨message, hitself (by simp [hmethod]) (by simp [hmethod])⟩
  · next method hmethod =>
      split at h
      · next heq =>
          cases h
          exact ⟨message, hitself (by simp [hmethod, heq]) (by simp [hmethod, heq])⟩
      · split at h
        · next heq => exact forwardedAs_authorize hread (by rw [hmethod, heq]) h
        · next hnotAuthorize =>
            split at h
            · next heq => exact forwardedAs_submit hread (by rw [hmethod, heq]) h
            · next hnotSubmit =>
                cases h
                exact ⟨message, hitself (by simpa [hmethod] using hnotAuthorize)
                  (by simpa [hmethod] using hnotSubmit)⟩

/-- Only a Worker frame is forwarded to the pool. -/
theorem forwardedAs_step {call : StratumCall} {actions : List StratumProxyAction}
    (h : (session.step deps call).2 = .ok actions)
    (hforward : .forwardUpstream upstream ∈ actions) :
    ∃ frame now message sent, call = .workerFrame frame now ∧
      ForwardedAs deps session.config frame upstream message sent := by
  have heffect := StratumSession.effect_of_step deps session call
  rw [h] at heffect
  have hworker : ∃ frame now, call = .workerFrame frame now := by
    generalize hreply : Except.ok actions = reply at heffect
    generalize (session.step deps call).1 = after at heffect
    cases heffect with
    | workerPasses => exact ⟨_, _, rfl⟩
    | workerAdmits => exact ⟨_, _, rfl⟩
    | _ =>
        simp only [reduceCtorEq, Except.ok.injEq] at hreply
        all_goals
          subst hreply
          simp at hforward
  obtain ⟨frame, now, rfl⟩ := hworker
  simp only [StratumSession.step, StratumSession.workerFrameAt] at h
  split at h
  · cases h
  · next left forwarded hadmitted =>
      cases h
      simp only [StratumSession.admitWorkerFrame, bind_eq_ok, requireThat_eq_ok,
        decide_eq_true_eq] at hadmitted
      obtain ⟨_, -, _, hsize, message, hparsed, verdict, hverdict, hleft⟩ := hadmitted
      have hread := received_eq_some.mpr ⟨hsize, hparsed⟩
      cases verdict with
      | rejected answer =>
          cases hleft
          simp at hforward
      | admitted sentFrame maybeRequest =>
          have hsame : actions = [.forwardUpstream sentFrame] := by
            cases maybeRequest with
            | none =>
                cases hleft
                rfl
            | some request =>
                simp only [bind_eq_ok, pure_eq_ok, Prod.mk.injEq] at hleft
                obtain ⟨_, -, -, hactions⟩ := hleft
                exact hactions.symm
          rw [hsame, List.mem_singleton, StratumProxyAction.forwardUpstream.injEq] at hforward
          subst hforward
          obtain ⟨sent, hsent⟩ := forwardedAs_workerVerdict hread hverdict
          exact ⟨frame, now, message, sent, rfl, hsent⟩

/-- The credentials a configuration checks and those it sends. -/
def StratumSessionConfig.identity (config : StratumSessionConfig) : List String :=
  [config.username, config.secret, config.upstreamUsername, config.upstreamSecret]

theorem ForwardedAs.of_identity {config other : StratumSessionConfig} {sent : JsonMap}
    (h : ForwardedAs deps config frame upstream message sent)
    (hsame : config.identity = other.identity) :
    ForwardedAs deps other frame upstream message sent := by
  simp only [StratumSessionConfig.identity, List.cons.injEq, and_true] at hsame
  obtain ⟨husername, hsecret, hupstreamUsername, hupstreamSecret⟩ := hsame
  exact { h with
    authorize := by
      rw [← husername, ← hsecret, ← hupstreamUsername, ← hupstreamSecret]
      exact h.authorize
    submit := by
      rw [← husername, ← hupstreamUsername]
      exact h.submit }

/-- No call gives a session another identity. -/
theorem StratumSession.Effect.identity {call : StratumCall} {reply : StratumReply}
    (heffect : session.Effect deps call after reply) :
    after.config.identity = session.config.identity := by
  cases heffect with
  | renews hconfig =>
      rw [AuthenticatedStratumSession.renewConfig] at hconfig
      split at hconfig
      · cases hconfig
      · cases hconfig
        rfl
  | _ => rfl

/-- The frames of a transcript that went to the pool are Worker frames under the pool's
identity. -/
def ForwardsSubstituted (deps : Dependencies) (config : StratumSessionConfig)
    (history : List (StratumCall × StratumReply)) : Prop :=
  ∀ entry ∈ history, ∀ actions upstream, entry.2 = .ok actions →
    .forwardUpstream upstream ∈ actions → ∃ frame now message sent,
      entry.1 = .workerFrame frame now ∧ ForwardedAs deps config frame upstream message sent

/-- Every frame the pool is sent carries the identity of the pool in place of the Worker's, and
is otherwise what the Worker sent; an authorization is sent only under the Worker's own
credentials. -/
theorem upstreamIdentity_substituted {config : StratumSessionConfig}
    {history : List (StratumCall × StratumReply)}
    (hrun : (stratumSession deps config).Run history session) :
    ForwardsSubstituted deps config history := by
  have hboth : session.config.identity = config.identity ∧
      ForwardsSubstituted deps config history := by
    refine Machine.Run.invariant (M := stratumSession deps config) (P := fun history session =>
      session.config.identity = config.identity ∧ ForwardsSubstituted deps config history)
      ⟨rfl, ?_⟩ ?_ hrun
    · intro entry hentry
      cases hentry
    · intro history session call _ hprior
      obtain ⟨hidentity, hforwards⟩ := hprior
      have heffect := StratumSession.effect_of_step deps session call
      refine ⟨heffect.identity.trans hidentity, ?_⟩
      intro entry hentry actions upstream hactions hforward
      rcases List.mem_cons.mp hentry with rfl | hearlier
      · obtain ⟨frame, now, message, sent, hcall, hsent⟩ := forwardedAs_step hactions hforward
        exact ⟨frame, now, message, sent, hcall, hsent.of_identity hidentity⟩
      · exact hforwards entry hearlier actions upstream hactions hforward
  exact hboth.2

end

/-! ## An authorization -/

/-- The sample libraries, with a printer for authorizations. -/
def printingDependencies : Dependencies :=
  { sampleDependencies with
    toStr := fun value =>
      match value with
      | .object [("id", .number id), ("method", .string method),
          ("params", .array [.string username, .string secret])] =>
          "\x7b\"id\":" ++ id.text ++ ",\"method\":\"" ++ method ++ "\",\"params\":[\"" ++
            username ++ "\",\"" ++ secret ++ "\"]\x7d"
      | _ => sampleDependencies.toStr value }

/-- The sample connection, for a pool that knows it by another name. -/
abbrev pooledSession : Machine StratumSession StratumCall StratumReply :=
  stratumSession printingDependencies
    { sampleConfig with
      upstreamUsername := "account.worker"
      upstreamSecret := "key" }

theorem authorization_substituted :
    (pooledSession.replay [.workerFrame authorizeFrame 12000]).1.map Prod.snd =
        [.ok [.forwardUpstream
          "\x7b\"id\":2,\"method\":\"mining.authorize\",\"params\":[\"account.worker\",\"key\"]\x7d"]] ∧
      ForwardsSubstituted printingDependencies
        { sampleConfig with
          upstreamUsername := "account.worker"
          upstreamSecret := "key" }
        (pooledSession.replay [.workerFrame authorizeFrame 12000]).1 := by
  have hfacts : pooledSession.AdmitsAll ([], pooledSession.init)
      [.workerFrame authorizeFrame 12000] := by
    decide +kernel
  exact ⟨by decide +kernel, upstreamIdentity_substituted (Machine.run_replay _ hfacts)⟩

end WorkGate
