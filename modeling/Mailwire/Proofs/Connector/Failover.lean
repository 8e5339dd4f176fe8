import Mailwire.Proofs.Connector.Attempt

/-!
# Which candidate ends a run

The candidates are tried in order, each in the state that the one before has left, until one does
not end in an input or output error. `Failing` is a row of attempts that all end in one, and
`Outcome` says what may stand behind such a row: a link, an error that ends the run, or nothing.

The invariant of the loop is that all candidates before the present one make up a `Failing` row, and
that the number of attempts is its length (`failover_outcome`).
-/

namespace Mailwire

/-- An attempt that has ended in an input or output error. -/
structure Failure where
  candidate : Candidate
  cause : IoError
  /-- The events of the attempt. -/
  trace : List Event

namespace Failure

/-- The line that the log has for a failure. -/
def line (f : Failure) : LogEvent := .attemptFailed f.candidate.text f.cause.message

/-- The events of failures in a row, each followed by its line in the log. -/
def events (failures : List Failure) : List Event :=
  failures.flatMap fun f => f.trace ++ [.log f.line]

@[simp] lemma events_append (failures more : List Failure) :
    events (failures ++ more) = events failures ++ events more := by
  simp [events]

@[simp] lemma events_singleton (f : Failure) : events [f] = f.trace ++ [.log f.line] := by
  simp [events]

end Failure

namespace Connector

variable {ω α : Type}

/-! ### Rows of failures -/

/-- Attempts in a row that all end in an input or output error, each begun in the state that the
one before has left. -/
inductive Failing (attempt : Candidate → Task ω Error α) (w : ω) : List Failure → ω → Prop
  | nil : Failing attempt w [] w
  | snoc {failures : List Failure} {w₁ w₂ : ω} {f : Failure}
      (earlier : Failing attempt w failures w₁)
      (last : (attempt f.candidate).run w₁ = ⟨.error (.io f.cause), w₂, f.trace⟩) :
      Failing attempt w (failures ++ [f]) w₂

/-- How it ends when `candidates` are tried in order from `w` on and `failures` are the attempts
that end in an input or output error. -/
inductive Outcome (attempt : Candidate → Task ω Error α) (w : ω) (candidates : List Candidate)
    (failures : List Failure) : Run ω Error α → Prop
  /-- The first candidate behind the failures is connected. -/
  | connected {candidate : Candidate} {untried : List Candidate} {w₁ w₂ : ω} {a : α}
      {trace : List Event}
      (split : candidates = failures.map (·.candidate) ++ candidate :: untried)
      (failing : Failing attempt w failures w₁)
      (run : (attempt candidate).run w₁ = ⟨.ok a, w₂, trace⟩) :
      Outcome attempt w candidates failures ⟨.ok a, w₂, Failure.events failures ++ trace⟩
  /-- The first candidate behind the failures ends the run. -/
  | refused {candidate : Candidate} {untried : List Candidate} {w₁ w₂ : ω} {e : Error}
      {trace : List Event}
      (split : candidates = failures.map (·.candidate) ++ candidate :: untried)
      (failing : Failing attempt w failures w₁)
      (run : (attempt candidate).run w₁ = ⟨.error e, w₂, trace⟩) (final : e.Final) :
      Outcome attempt w candidates failures ⟨.error e, w₂, Failure.events failures ++ trace⟩
  /-- There is no candidate behind the failures. -/
  | exhausted {last : Failure} {w₁ : ω}
      (split : candidates = failures.map (·.candidate))
      (failing : Failing attempt w failures w₁) (ends : failures.getLast? = some last) :
      Outcome attempt w candidates failures
        ⟨.error (.connect last.candidate.text failures.length last.cause), w₁,
          Failure.events failures ++
            [.log (.noMoreAddresses failures.length), .notified .serverConnectionError]⟩

/-! ### The loop -/

lemma run_failover_ok {host : String} {attempt : Candidate → Task ω Error α} {done : Nat}
    {candidate : Candidate} {rest : List Candidate} {w w' : ω} {a : α} {trace : List Event}
    (h : (attempt candidate).run w = ⟨.ok a, w', trace⟩) :
    (failover host attempt done (candidate :: rest)).run w = ⟨.ok a, w', trace⟩ := by
  rw [failover, Task.run_bind, Task.run_attempt, h]
  simp

lemma run_failover_error {host : String} {attempt : Candidate → Task ω Error α} {done : Nat}
    {candidate : Candidate} {rest : List Candidate} {w w' : ω} {e : Error} {trace : List Event}
    (h : (attempt candidate).run w = ⟨.error e, w', trace⟩) (he : ∀ cause, e ≠ .io cause) :
    (failover host attempt done (candidate :: rest)).run w = ⟨.error e, w', trace⟩ := by
  rw [failover, Task.run_bind, Task.run_attempt, h]
  cases e with
  | io cause => exact absurd rfl (he cause)
  | _ => simp

lemma run_failover_last {host : String} {attempt : Candidate → Task ω Error α} {done : Nat}
    {candidate : Candidate} {w w' : ω} {cause : IoError} {trace : List Event}
    (h : (attempt candidate).run w = ⟨.error (.io cause), w', trace⟩) :
    (failover host attempt done [candidate]).run w
      = ⟨.error (.connect candidate.text (done + 1) cause), w',
          trace ++ [.log (.attemptFailed candidate.text cause.message),
            .log (.noMoreAddresses (done + 1)), .notified .serverConnectionError]⟩ := by
  rw [failover, Task.run_bind, Task.run_attempt, h]
  simp [Task.run_bind]

lemma run_failover_next {host : String} {attempt : Candidate → Task ω Error α} {done : Nat}
    {candidate next : Candidate} {rest : List Candidate} {w w' : ω} {cause : IoError}
    {trace : List Event} (h : (attempt candidate).run w = ⟨.error (.io cause), w', trace⟩) :
    (failover host attempt done (candidate :: next :: rest)).run w
      = ⟨((failover host attempt (done + 1) (next :: rest)).run w').result,
          ((failover host attempt (done + 1) (next :: rest)).run w').state,
          trace ++ .log (.attemptFailed candidate.text cause.message) ::
            ((failover host attempt (done + 1) (next :: rest)).run w').trace⟩ := by
  rw [failover, Task.run_bind, Task.run_attempt, h]
  simp [Task.run_bind]

/-- From a row of failures on, the loop comes to an outcome for all candidates, those of the row
and those still to be tried. -/
theorem failover_outcome {attempt : Candidate → Task ω Error α} (host : String) {w : ω}
    (hattempt : ∀ candidate, Task.Within Event.Unconcluding AttemptError (attempt candidate))
    (candidates : List Candidate) (hne : candidates ≠ []) {earlier : List Failure} {w₁ : ω}
    (hearlier : Failing attempt w earlier w₁) :
    ∃ failures r, Outcome attempt w (earlier.map (·.candidate) ++ candidates) failures r ∧
      r = ⟨((failover host attempt earlier.length candidates).run w₁).result,
        ((failover host attempt earlier.length candidates).run w₁).state,
        Failure.events earlier
          ++ ((failover host attempt earlier.length candidates).run w₁).trace⟩ := by
  induction candidates generalizing earlier w₁ with
  | nil => exact absurd rfl hne
  | cons candidate rest ih =>
    rcases hrun : (attempt candidate).run w₁ with ⟨e | a, w₂, trace⟩
    · rcases (hattempt candidate).failure w₁ e (by rw [hrun]) with ⟨cause, rfl⟩ | hfinal
      · have hmore : Failing attempt w (earlier ++ [⟨candidate, cause, trace⟩]) w₂ :=
          hearlier.snoc hrun
        cases rest with
        | nil =>
          refine ⟨_, _, .exhausted (by simp) hmore List.getLast?_concat, ?_⟩
          rw [run_failover_last hrun]
          simp [Failure.line]
        | cons next rest =>
          obtain ⟨failures, r, houtcome, hr⟩ := ih (by simp) hmore
          refine ⟨failures, r, by simpa using houtcome, ?_⟩
          rw [hr, run_failover_next hrun]
          simp [Failure.line]
      · refine ⟨earlier, _, .refused rfl hearlier hrun hfinal, ?_⟩
        rw [run_failover_error hrun (by rintro cause rfl; cases hfinal)]
    · refine ⟨earlier, _, .connected rfl hearlier hrun, ?_⟩
      rw [run_failover_ok hrun]

/-! ### What the log says -/

/-- The lines of a log that say that an attempt has failed. -/
def failureLines (trace : List Event) : List LogEvent :=
  (Event.logOf trace).filter LogEvent.isAttemptFailed

/-- The lines of a log that say that all candidates were tried. -/
def exhaustionLines (trace : List Event) : List LogEvent :=
  (Event.logOf trace).filter LogEvent.isNoMoreAddresses

@[simp] lemma failureLines_append (trace more : List Event) :
    failureLines (trace ++ more) = failureLines trace ++ failureLines more := by
  simp [failureLines]

@[simp] lemma exhaustionLines_append (trace more : List Event) :
    exhaustionLines (trace ++ more) = exhaustionLines trace ++ exhaustionLines more := by
  simp [exhaustionLines]

lemma lines_unconcluding {trace : List Event} (h : ∀ e ∈ trace, e.Unconcluding) :
    failureLines trace = [] ∧ exhaustionLines trace = [] := by
  have hline : ∀ line ∈ Event.logOf trace,
      line.isAttemptFailed = false ∧ line.isNoMoreAddresses = false := by
    intro line hmem
    obtain ⟨e, he, heq⟩ := List.mem_filterMap.mp hmem
    cases e with
    | log other =>
      obtain rfl : other = line := by simpa using heq
      exact h _ he _ rfl
    | _ => simp at heq
  constructor
  · exact List.filter_eq_nil_iff.mpr fun line hmem => by simp [(hline line hmem).1]
  · exact List.filter_eq_nil_iff.mpr fun line hmem => by simp [(hline line hmem).2]

lemma lines_attempt {t : Task ω Error α} {w w₁ : ω} {result : Except Error α}
    {trace : List Event} (ht : Task.Within Event.Unconcluding AttemptError t)
    (hrun : t.run w = ⟨result, w₁, trace⟩) :
    failureLines trace = [] ∧ exhaustionLines trace = [] := by
  have hquiet := ht.trace w
  rw [hrun] at hquiet
  exact lines_unconcluding hquiet

lemma Failing.lines {attempt : Candidate → Task ω Error α} {w w₁ : ω} {failures : List Failure}
    (hattempt : ∀ candidate, Task.Within Event.Unconcluding AttemptError (attempt candidate))
    (h : Failing attempt w failures w₁) :
    failureLines (Failure.events failures) = failures.map Failure.line ∧
      exhaustionLines (Failure.events failures) = [] := by
  induction h with
  | nil => exact ⟨rfl, rfl⟩
  | @snoc failures w₁ w₂ f _ hrun ih =>
    obtain ⟨hlines, hnone⟩ := ih
    obtain ⟨hfailure, hexhaustion⟩ := lines_attempt (hattempt f.candidate) hrun
    rw [Failure.events_append, Failure.events_singleton]
    constructor
    · rw [failureLines_append, failureLines_append, hlines, hfailure, List.map_append]
      rfl
    · rw [exhaustionLines_append, exhaustionLines_append, hnone, hexhaustion]
      rfl

lemma Failing.lines_then {attempt : Candidate → Task ω Error α} {w w₁ w₂ : ω}
    {failures : List Failure} {candidate : Candidate} {result : Except Error α}
    {trace : List Event}
    (hattempt : ∀ candidate, Task.Within Event.Unconcluding AttemptError (attempt candidate))
    (h : Failing attempt w failures w₁)
    (hrun : (attempt candidate).run w₁ = ⟨result, w₂, trace⟩) :
    failureLines (Failure.events failures ++ trace) = failures.map Failure.line ∧
      exhaustionLines (Failure.events failures ++ trace) = [] := by
  obtain ⟨hlines, hnone⟩ := h.lines hattempt
  obtain ⟨hfailure, hexhaustion⟩ := lines_attempt (hattempt candidate) hrun
  constructor
  · rw [failureLines_append, hlines, hfailure, List.append_nil]
  · rw [exhaustionLines_append, hnone, hexhaustion, List.append_nil]

/-- Each failure has its line, and only an exhausted list has the last line. -/
lemma Outcome.lines {attempt : Candidate → Task ω Error α} {w : ω} {candidates : List Candidate}
    {failures : List Failure} {r : Run ω Error α}
    (hattempt : ∀ candidate, Task.Within Event.Unconcluding AttemptError (attempt candidate))
    (h : Outcome attempt w candidates failures r) :
    failureLines r.trace = failures.map Failure.line ∧
      exhaustionLines r.trace =
        if failures.length = candidates.length then [.noMoreAddresses candidates.length]
        else [] := by
  cases h with
  | connected hsplit hfailing hrun =>
    subst hsplit
    simpa using hfailing.lines_then hattempt hrun
  | refused hsplit hfailing hrun _ =>
    subst hsplit
    simpa using hfailing.lines_then hattempt hrun
  | exhausted hsplit hfailing _ =>
    obtain ⟨hlines, hnone⟩ := hfailing.lines hattempt
    subst hsplit
    constructor
    · rw [failureLines_append, hlines]
      exact List.append_nil _
    · rw [exhaustionLines_append, hnone, List.length_map, if_pos rfl]
      rfl

/-- What ends a run over candidates is never an input or output error itself. -/
lemma Outcome.error {attempt : Candidate → Task ω Error α} {w : ω} {candidates : List Candidate}
    {failures : List Failure} {r : Run ω Error α} {e : Error}
    (h : Outcome attempt w candidates failures r) (he : r.result = .error e) :
    e.Final ∨ ∃ address attempts cause, e = .connect address attempts cause := by
  cases h with
  | connected => cases he
  | refused _ _ _ hfinal =>
    cases he
    exact .inl hfinal
  | exhausted =>
    cases he
    exact .inr ⟨_, _, _, rfl⟩

/-! ### Listing the candidates -/

/-- The candidates that a connector finds in the state `w`: the addresses that the designated
network reports, in their order, or else the host itself. -/
inductive Listed (c : Connector ω) (w : ω) : List Candidate → ω → List Event → Prop
  | host (system : c.network = none) : Listed c w [.host c.config.host c.config.port] w []
  | addresses {network : Network ω} {ips : List IpAddress} {w₁ : ω}
      (designated : c.network = some network)
      (resolved : network.resolve c.config.host w = (.ok ips, w₁)) (nonempty : ips ≠ []) :
      Listed c w (ips.map fun ip => .address ⟨ip, c.config.port⟩) w₁ [.resolving c.config.host]

lemma Listed.ne_nil {c : Connector ω} {w w₁ : ω} {candidates : List Candidate}
    {asked : List Event} (h : c.Listed w candidates w₁ asked) : candidates ≠ [] := by
  cases h with
  | host => simp
  | addresses _ _ hne => simpa using hne

lemma Listed.run {c : Connector ω} {w w₁ : ω} {listed : List Candidate} {asked : List Event}
    (h : c.Listed w listed w₁ asked) : c.candidates.run w = ⟨.ok listed, w₁, asked⟩ := by
  cases h with
  | host hsystem =>
    rw [candidates, hsystem]
    rfl
  | @addresses network ips _ hdesignated hresolved hne =>
    have hsome : ips.isEmpty = false := by simpa using hne
    rw [candidates, hdesignated]
    simp only [Task.run_bind, Task.run_emit, Task.run_attempt, Task.run_step, hresolved, hsome]
    rfl

lemma listed_or_error (c : Connector ω) (w : ω) :
    (∃ listed w₁ asked, c.Listed w listed w₁ asked) ∨
      ∃ e w₁ trace, c.candidates.run w = ⟨.error e, w₁, trace⟩ ∧
        ((∃ cause, e = .resolve c.config.host cause) ∨ e = .unresolved c.config.host) := by
  cases hnetwork : c.network with
  | none => exact .inl ⟨_, _, _, .host hnetwork⟩
  | some network =>
    rcases hresolve : network.resolve c.config.host w with ⟨cause | ips, w₁⟩
    · right
      refine ⟨.resolve c.config.host cause, w₁,
        [.resolving c.config.host, .log (.resolutionFailed c.config.host cause.message),
          .notified .serverConnectionError], ?_, .inl ⟨cause, rfl⟩⟩
      rw [candidates, hnetwork]
      simp only [Task.run_bind, Task.run_emit, Task.run_attempt, Task.run_step, hresolve]
      rfl
    · by_cases hips : ips = []
      · right
        refine ⟨.unresolved c.config.host, w₁,
          [.resolving c.config.host, .log (.noAddresses c.config.host),
            .notified .serverConnectionError], ?_, .inr rfl⟩
        rw [candidates, hnetwork]
        simp only [Task.run_bind, Task.run_emit, Task.run_attempt, Task.run_step, hresolve, hips]
        rfl
      · exact .inl ⟨_, _, _, .addresses hnetwork hresolve hips⟩

/-! ### Opening a connection -/

lemma run_connect_ok {c : Connector ω} {w w₁ : ω} {listed : List Candidate} {asked : List Event}
    (h : c.candidates.run w = ⟨.ok listed, w₁, asked⟩) :
    c.connect.run w =
      ⟨((failover c.config.host c.attempt 0 listed).run w₁).result.map (.ofLink c.config),
        ((failover c.config.host c.attempt 0 listed).run w₁).state,
        .log (.opening c.config.host c.config.port) ::
          (asked ++ ((failover c.config.host c.attempt 0 listed).run w₁).trace)⟩ := by
  simp only [connect, Task.run_bind, Task.run_log, h]
  cases ((failover c.config.host c.attempt 0 listed).run w₁).result with
  | ok link => simp [Except.map]
  | error e => simp [Except.map]

lemma run_connect_error {c : Connector ω} {w w₁ : ω} {e : Error} {trace : List Event}
    (h : c.candidates.run w = ⟨.error e, w₁, trace⟩) :
    c.connect.run w =
      ⟨.error e, w₁, .log (.opening c.config.host c.config.port) :: trace⟩ := by
  simp [connect, Task.run_bind, h]

/-- The run over listed candidates is an outcome of trying them in order. -/
lemma connect_listed {c : Connector ω} {w w₁ : ω} {listed : List Candidate} {asked : List Event}
    (h : c.Listed w listed w₁ asked) :
    ∃ failures r, Outcome c.attempt w₁ listed failures r ∧
      c.connect.run w = ⟨r.result.map (.ofLink c.config), r.state,
        .log (.opening c.config.host c.config.port) :: (asked ++ r.trace)⟩ := by
  obtain ⟨failures, r, houtcome, hr⟩ :=
    failover_outcome c.config.host c.attempt_within listed h.ne_nil .nil
  refine ⟨failures, r, houtcome, ?_⟩
  rw [run_connect_ok h.run, hr]
  rfl

lemma lines_listed {c : Connector ω} {w w₁ : ω} {listed : List Candidate} {asked : List Event}
    (h : c.Listed w listed w₁ asked) : failureLines asked = [] ∧ exhaustionLines asked = [] := by
  cases h with
  | host => exact ⟨rfl, rfl⟩
  | addresses => exact ⟨rfl, rfl⟩

/-- Opening a connection tries the listed candidates in order, each once, up to the first that does
not end in an input or output error, and ends as that one does, or else with the error of the last.
Each failure has one line in the log. No candidate's input or output error is passed on, and a host
is unresolved only if the network has no address of it. -/
theorem connect_outcome (c : Connector ω) (w : ω) :
    (∀ listed w₁ asked, c.Listed w listed w₁ asked →
      ∃ failures r, Outcome c.attempt w₁ listed failures r ∧
        c.connect.run w = ⟨r.result.map (.ofLink c.config), r.state,
          .log (.opening c.config.host c.config.port) :: (asked ++ r.trace)⟩ ∧
        failureLines (c.connect.run w).trace = failures.map Failure.line ∧
        exhaustionLines (c.connect.run w).trace =
          if failures.length = listed.length then [.noMoreAddresses listed.length] else []) ∧
    ∀ e, (c.connect.run w).result = .error e →
      (∀ cause, e ≠ .io cause) ∧ e ≠ .notConnected ∧
        ∀ host, e = .unresolved host → (c.candidates.run w).result = .error e := by
  constructor
  · intro listed w₁ asked hlisted
    obtain ⟨failures, r, houtcome, hrun⟩ := connect_listed hlisted
    obtain ⟨hfailures, hexhaustion⟩ := houtcome.lines c.attempt_within
    obtain ⟨hnone, hnone'⟩ := lines_listed hlisted
    have hopening : (c.connect.run w).trace =
        [.log (.opening c.config.host c.config.port)] ++ asked ++ r.trace := by
      rw [hrun]
      rfl
    refine ⟨failures, r, houtcome, hrun, ?_, ?_⟩
    · rw [hopening, failureLines_append, failureLines_append, hnone, hfailures]
      rfl
    · rw [hopening, exhaustionLines_append, exhaustionLines_append, hnone', hexhaustion]
      rfl
  · intro e he
    rcases c.listed_or_error w with ⟨listed, w₁, asked, hlisted⟩ | ⟨e', w₁, trace, hrun, hcause⟩
    · obtain ⟨failures, r, houtcome, hrun⟩ := connect_listed hlisted
      have hr : r.result = .error e := by
        rw [hrun] at he
        cases hresult : r.result with
        | ok link => simp [hresult, Except.map] at he
        | error e' => simpa [hresult, Except.map] using he
      rcases houtcome.error hr with hfinal | ⟨address, attempts, cause, rfl⟩
      · cases hfinal <;> simp
      · simp
    · rw [run_connect_error hrun] at he
      obtain rfl : e' = e := by simpa using he
      rcases hcause with ⟨cause, rfl⟩ | rfl
      · simp
      · simp [hrun]

/-- A connector whose network has two addresses of the host. The first refuses, and the second does
not answer. -/
def twoAddresses : Connector Unit where
  platform :=
    { lookup := fun _ _ => (.ok [], ())
      createSocket := fun family _ => (.ok ⟨family, none⟩, ())
      bind := fun socket ip _ => (.ok { socket with boundTo := some ip }, ())
      connect := fun _ address _ =>
        if address.ip = .v4 10 0 0 1 then (.failed .connectionRefused, ()) else (.silent, ()) }
  config := .ofHost "mail.example.org" 143 .none
  network := some
    { resolve := fun _ _ => (.ok [.v4 10 0 0 1, .v4 10 0 0 2], ())
      createSocket := fun address _ => (.ok ⟨address.ip.family, none⟩, ()) }
  creator := none

theorem connect_outcome_twoAddresses :
    let listed := [.address ⟨.v4 10 0 0 1, 143⟩, .address ⟨.v4 10 0 0 2, 143⟩]
    twoAddresses.Listed () listed () [.resolving "mail.example.org"] ∧
      (∃ failures r, Outcome twoAddresses.attempt () listed failures r ∧
        failureLines (twoAddresses.connect.run ()).trace = failures.map Failure.line) ∧
      (twoAddresses.connect.run ()).result ≠ .error .notConnected := by
  have hne : [IpAddress.v4 10 0 0 1, .v4 10 0 0 2] ≠ [] := by simp
  have hlisted := Listed.addresses (c := twoAddresses) (w := ()) rfl rfl hne
  obtain ⟨houtcome, herror⟩ := connect_outcome twoAddresses ()
  obtain ⟨failures, r, hr, -, hlines, -⟩ := houtcome _ _ _ hlisted
  exact ⟨hlisted, ⟨failures, r, hr, hlines⟩, fun h => (herror _ h).2.1 rfl⟩

end Connector

end Mailwire
