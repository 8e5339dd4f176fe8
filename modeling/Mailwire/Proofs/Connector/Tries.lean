import Mailwire.Proofs.Connector.Events
import Mailwire.Proofs.Connector.Failover

/-!
# The tries of a run

A try is a candidate together with the state in which it is attempted, so that what a try finds is a
matter of the try alone. The tries of a run are known beforehand from its candidates: each begins in the
state that the one before has left, and only behind an input or output error is there another one
(`Connector.tries`).

All tries but the last end in an input or output error. The run ends as the last one does, unless that
is an input or output error as well (`Connector.Outcome.tries`). No socket is asked for but in a try
(`Connector.socketsOf_connect`).
-/

namespace Mailwire

/-- A candidate, and the state in which it is attempted. -/
structure Try (ω : Type) where
  candidate : Candidate
  world : ω

namespace Try

variable {ω α : Type}

def run (attempt : Candidate → Task ω Error α) (t : Try ω) : Run ω Error α :=
  (attempt t.candidate).run t.world

/-- The sockets that are asked for in a try. -/
def sockets (attempt : Candidate → Task ω Error α) (t : Try ω) :
    List (SocketSource × SocketAddress) :=
  Event.socketsOf (t.run attempt).trace

end Try

namespace Connector

variable {ω α : Type}

/-! ### Tries in a row -/

/-- Whether another candidate is tried behind a result. -/
def movesOn : Except Error α → Bool
  | .error (.io _) => true
  | _ => false

lemma movesOn_iff {result : Except Error α} :
    movesOn result = true ↔ ∃ cause, result = .error (.io cause) := by
  cases result with
  | ok a => simp [movesOn]
  | error e => cases e <;> simp [movesOn]

/-- The tries of candidates in order, up to the first that does not end in an input or output error. -/
def tries (attempt : Candidate → Task ω Error α) : List Candidate → ω → List (Try ω)
  | [], _ => []
  | candidate :: rest, w =>
    let r := (attempt candidate).run w
    ⟨candidate, w⟩ :: if movesOn r.result then tries attempt rest r.state else []

/-- The candidates are tried in their order, each once at most. -/
lemma tries_prefix (attempt : Candidate → Task ω Error α) (candidates : List Candidate) (w : ω) :
    (tries attempt candidates w).map (·.candidate) <+: candidates := by
  induction candidates generalizing w with
  | nil => exact List.prefix_rfl
  | cons candidate rest ih =>
    rw [tries, List.map_cons, List.prefix_cons_inj]
    split
    · exact ih _
    · exact List.nil_prefix

/-- Behind a row of failures the tries go on in the state that is left. -/
lemma Failing.tries {attempt : Candidate → Task ω Error α} {w w₁ : ω} {failures : List Failure}
    (h : Failing attempt w failures w₁) :
    ∃ front : List (Try ω),
      (∀ rest, Connector.tries attempt (failures.map (·.candidate) ++ rest) w
        = front ++ Connector.tries attempt rest w₁) ∧
      (∀ t ∈ front, movesOn (t.run attempt).result = true) ∧
      Event.socketsOf (Failure.events failures) = front.flatMap (Try.sockets attempt) := by
  induction h with
  | nil => exact ⟨[], by simp, by simp, rfl⟩
  | @snoc failures w₁ w₂ f _ hrun ih =>
    obtain ⟨front, htries, hmoves, hsockets⟩ := ih
    have hlast : (⟨f.candidate, w₁⟩ : Try ω).run attempt = ⟨.error (.io f.cause), w₂, f.trace⟩ := hrun
    refine ⟨front ++ [⟨f.candidate, w₁⟩], ?_, ?_, ?_⟩
    · intro rest
      rw [List.map_append, List.append_assoc, htries]
      simp [Connector.tries, hrun, movesOn]
    · intro t ht
      rcases List.mem_append.mp ht with hfront | hend
      · exact hmoves t hfront
      · obtain rfl := List.mem_singleton.mp hend
        rw [hlast]
        rfl
    · rw [Failure.events_append, Failure.events_singleton, Event.socketsOf_append, hsockets]
      simp [Try.sockets, hlast, Event.socketsOf]

/-- The last try decides how the candidates end. -/
lemma Outcome.tries {attempt : Candidate → Task ω Error α} {w : ω} {candidates : List Candidate}
    {failures : List Failure} {r : Run ω Error α} (h : Outcome attempt w candidates failures r) :
    ∃ front last, Connector.tries attempt candidates w = front ++ [last] ∧
      (∀ t ∈ front, movesOn (t.run attempt).result = true) ∧
      Event.socketsOf r.trace = (front ++ [last]).flatMap (Try.sockets attempt) ∧
      if movesOn (last.run attempt).result then
        ∃ address attempts cause, r.result = .error (.connect address attempts cause)
      else r.result = (last.run attempt).result := by
  cases h with
  | @connected candidate untried w₁ w₂ a trace hsplit hfailing hrun =>
    obtain ⟨front, htries, hmoves, hsockets⟩ := hfailing.tries
    have hlast : (⟨candidate, w₁⟩ : Try ω).run attempt = ⟨.ok a, w₂, trace⟩ := hrun
    refine ⟨front, ⟨candidate, w₁⟩, ?_, hmoves, ?_, ?_⟩
    · rw [hsplit, htries]
      simp [Connector.tries, hrun, movesOn]
    · simp [hsockets, Try.sockets, hlast]
    · simp [hlast, movesOn]
  | @refused candidate untried w₁ w₂ e trace hsplit hfailing hrun hfinal =>
    obtain ⟨front, htries, hmoves, hsockets⟩ := hfailing.tries
    have hlast : (⟨candidate, w₁⟩ : Try ω).run attempt = ⟨.error e, w₂, trace⟩ := hrun
    have hstays : movesOn (.error e : Except Error α) = false := by cases hfinal <;> rfl
    refine ⟨front, ⟨candidate, w₁⟩, ?_, hmoves, ?_, ?_⟩
    · rw [hsplit, htries]
      simp [Connector.tries, hrun, hstays]
    · simp [hsockets, Try.sockets, hlast]
    · simp [hlast, hstays]
  | exhausted hsplit hfailing hends =>
    -- the last of the failures is the last try
    cases hfailing with
    | nil => simp at hends
    | @snoc failures w₁ w₂ f hearlier hrun =>
      obtain ⟨front, htries, hmoves, hsockets⟩ := hearlier.tries
      have hlast : (⟨f.candidate, w₁⟩ : Try ω).run attempt = ⟨.error (.io f.cause), _, f.trace⟩ := hrun
      refine ⟨front, ⟨f.candidate, w₁⟩, ?_, hmoves, ?_, ?_⟩
      · rw [hsplit, List.map_append, htries]
        simp [Connector.tries]
      · rw [Event.socketsOf_append, Failure.events_append, Event.socketsOf_append, hsockets]
        simp [Try.sockets, hlast, Event.socketsOf]
      · simp [hlast, movesOn]

/-! ### The tries of a connector -/

lemma eq_error_of_map {ε β : Type} {result : Except ε α} {f : α → β} {e : ε}
    (h : result.map f = .error e) : result = .error e := by
  cases result with
  | ok a => cases h
  | error e' =>
    cases h
    rfl

/-- What a connector tries when it opens a connection: nothing if it finds no candidates. -/
def tried (c : Connector ω) (w : ω) : List (Try ω) :=
  match c.candidates.run w with
  | ⟨.ok listed, w₁, _⟩ => tries c.attempt listed w₁
  | ⟨.error _, _, _⟩ => []

lemma tried_eq {c : Connector ω} {w w₁ : ω} {listed : List Candidate} {asked : List Event}
    (h : c.Listed w listed w₁ asked) : c.tried w = tries c.attempt listed w₁ := by
  rw [tried, h.run]

lemma tried_of_error {c : Connector ω} {w w₁ : ω} {e : Error} {trace : List Event}
    (h : c.candidates.run w = ⟨.error e, w₁, trace⟩) : c.tried w = [] := by
  rw [tried, h]

lemma tried_prefix {c : Connector ω} {w w₁ : ω} {listed : List Candidate} {asked : List Event}
    (h : c.Listed w listed w₁ asked) : (c.tried w).map (·.candidate) <+: listed := by
  rw [tried_eq h]
  exact tries_prefix c.attempt listed w₁

lemma socketsOf_eq_nil {trace : List Event}
    (h : ∀ source address, .socketRequested source address ∉ trace) : Event.socketsOf trace = [] := by
  apply List.filterMap_eq_nil_iff.mpr
  intro e he
  cases e with
  | socketRequested source address => exact absurd he (h source address)
  | _ => rfl

lemma socketsOf_candidates (c : Connector ω) (w : ω) :
    Event.socketsOf (c.candidates.run w).trace = [] := by
  apply socketsOf_eq_nil
  intro source address he
  cases c.candidates_within.trace w _ he

/-- Sockets are asked for in the tries, and nowhere else. -/
theorem socketsOf_connect (c : Connector ω) (w : ω) :
    Event.socketsOf (c.connect.run w).trace = (c.tried w).flatMap (Try.sockets c.attempt) := by
  have hnone := c.socketsOf_candidates w
  rcases c.listed_or_error w with ⟨listed, w₁, asked, hlisted⟩ | ⟨e, w₁, trace, hrun, -⟩
  · obtain ⟨failures, r, houtcome, hrun⟩ := connect_listed hlisted
    obtain ⟨front, last, htries, -, hsockets, -⟩ := houtcome.tries
    rw [hlisted.run] at hnone
    rw [hrun, tried_eq hlisted, htries, ← hsockets]
    show Event.socketsOf ([_] ++ (asked ++ r.trace)) = _
    rw [Event.socketsOf_append, Event.socketsOf_append, hnone]
    rfl
  · rw [hrun] at hnone
    rw [run_connect_error hrun, tried_of_error hrun]
    exact hnone

/-- A try that does not end in an input or output error is the last, and the run ends as it does. -/
theorem connect_of_stop {c : Connector ω} {w : ω} {front behind : List (Try ω)} {t : Try ω}
    (h : c.tried w = front ++ t :: behind) (hstop : movesOn (t.run c.attempt).result = false) :
    behind = [] ∧ (c.connect.run w).result = (t.run c.attempt).result.map (.ofLink c.config) := by
  rcases c.listed_or_error w with ⟨listed, w₁, asked, hlisted⟩ | ⟨e, w₁, trace, hrun, -⟩
  · obtain ⟨failures, r, houtcome, hrun⟩ := connect_listed hlisted
    obtain ⟨front', last, htries, hmoves, -, hresult⟩ := houtcome.tries
    rw [tried_eq hlisted, htries] at h
    have hbehind : behind = [] := by
      by_contra hne
      obtain ⟨behind', last', rfl⟩ := (List.eq_nil_or_concat' behind).resolve_left hne
      rw [← List.cons_append, ← List.append_assoc] at h
      have hfront : front' = front ++ t :: behind' := (List.append_inj' h rfl).1
      have hmove := hmoves t (by simp [hfront])
      simp [hstop] at hmove
    subst hbehind
    obtain rfl : last = t := by simpa using (List.append_inj' h rfl).2
    rw [hstop] at hresult
    have hresult : r.result = (last.run c.attempt).result := by simpa using hresult
    exact ⟨rfl, by rw [hrun, hresult]⟩
  · simp [tried_of_error hrun] at h

/-- An error that ends the run for good is that of its last try. -/
theorem exists_stop {c : Connector ω} {w : ω} {e : Error} (hfinal : e.Final)
    (h : (c.connect.run w).result = .error e) :
    ∃ front t, c.tried w = front ++ [t] ∧ (t.run c.attempt).result = .error e := by
  rcases c.listed_or_error w with ⟨listed, w₁, asked, hlisted⟩ | ⟨e', w₁, trace, hrun, hcause⟩
  · obtain ⟨failures, r, houtcome, hrun⟩ := connect_listed hlisted
    obtain ⟨front, last, htries, -, -, hresult⟩ := houtcome.tries
    have hr : r.result = .error e := eq_error_of_map (by simpa [hrun] using h)
    refine ⟨front, last, by rw [tried_eq hlisted, htries], ?_⟩
    split_ifs at hresult with hmoves
    · obtain ⟨address, attempts, cause, hconnect⟩ := hresult
      rw [hr] at hconnect
      cases hconnect
      cases hfinal
    · rw [← hresult, hr]
  · rw [run_connect_error hrun] at h
    cases h
    rcases hcause with ⟨cause, rfl⟩ | rfl
    · cases hfinal
    · cases hfinal

end Connector

end Mailwire
