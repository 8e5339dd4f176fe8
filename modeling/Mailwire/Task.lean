import Mailwire.Event

/-!
# Tasks

A task works on a state, may fail, and leaves a trace of events. The state it leaves and its trace
count whether it fails or not: of two tasks in a row the second is not begun if the first fails,
and what the first has done stays done.
-/

namespace Mailwire

/-- How a task went. -/
structure Run (σ ε α : Type) where
  result : Except ε α
  state : σ
  trace : List Event

/-- A computation that changes a state, may fail, and leaves a trace. -/
def Task (σ ε α : Type) : Type := σ → Run σ ε α

namespace Task

variable {σ ε α β : Type}

def run (t : Task σ ε α) (s : σ) : Run σ ε α := t s

protected def pure (a : α) : Task σ ε α := fun s => ⟨.ok a, s, []⟩

protected def bind (t : Task σ ε α) (f : α → Task σ ε β) : Task σ ε β := fun s =>
  match t s with
  | ⟨.ok a, s', trace⟩ =>
    let next := f a s'
    ⟨next.result, next.state, trace ++ next.trace⟩
  | ⟨.error e, s', trace⟩ => ⟨.error e, s', trace⟩

instance : Monad (Task σ ε) where
  pure := Task.pure
  bind := Task.bind

def fail (e : ε) : Task σ ε α := fun s => ⟨.error e, s, []⟩

def emit (e : Event) : Task σ ε Unit := fun s => ⟨.ok (), s, [e]⟩

def log (line : LogEvent) : Task σ ε Unit := emit (.log line)

def notify (state : ChannelState) : Task σ ε Unit := emit (.notified state)

def state : Task σ ε σ := fun s => ⟨.ok s, s, []⟩

def update (f : σ → σ) : Task σ ε Unit := fun s => ⟨.ok (), f s, []⟩

/-- A silent step that may fail. -/
def step (f : σ → Except ε α × σ) : Task σ ε α := fun s =>
  let (result, s') := f s
  ⟨result, s', []⟩

def ofExcept : Except ε α → Task σ ε α
  | .ok a => Task.pure a
  | .error e => fail e

/-- Runs a task to its end and answers how it ended; the outer task does not fail with it. -/
def attempt (t : Task σ ε α) {ε' : Type} : Task σ ε' (Except ε α) := fun s =>
  let r := t s
  ⟨.ok r.result, r.state, r.trace⟩

def mapError {ε' : Type} (f : ε → ε') (t : Task σ ε α) : Task σ ε' α := fun s =>
  let r := t s
  ⟨r.result.mapError f, r.state, r.trace⟩

/-! ### Equations -/

@[simp] theorem run_pure (a : α) (s : σ) : (pure a : Task σ ε α).run s = ⟨.ok a, s, []⟩ := rfl

@[simp] theorem run_fail (e : ε) (s : σ) : (fail e : Task σ ε α).run s = ⟨.error e, s, []⟩ := rfl

@[simp] theorem run_emit (e : Event) (s : σ) :
    (emit e : Task σ ε Unit).run s = ⟨.ok (), s, [e]⟩ := rfl

@[simp] theorem run_log (line : LogEvent) (s : σ) :
    (log line : Task σ ε Unit).run s = ⟨.ok (), s, [.log line]⟩ := rfl

@[simp] theorem run_notify (state : ChannelState) (s : σ) :
    (notify state : Task σ ε Unit).run s = ⟨.ok (), s, [.notified state]⟩ := rfl

@[simp] theorem run_step (f : σ → Except ε α × σ) (s : σ) :
    (step f).run s = ⟨(f s).1, (f s).2, []⟩ := rfl

theorem run_bind_ok {t : Task σ ε α} {f : α → Task σ ε β} {s s' : σ} {a : α} {trace : List Event}
    (h : t.run s = ⟨.ok a, s', trace⟩) :
    (t >>= f).run s
      = ⟨((f a).run s').result, ((f a).run s').state, trace ++ ((f a).run s').trace⟩ := by
  show Task.bind t f s = _
  rw [Task.bind]
  rw [show t s = _ from h]
  rfl

theorem run_bind_error {t : Task σ ε α} {f : α → Task σ ε β} {s s' : σ} {e : ε}
    {trace : List Event} (h : t.run s = ⟨.error e, s', trace⟩) :
    (t >>= f).run s = ⟨.error e, s', trace⟩ := by
  show Task.bind t f s = _
  rw [Task.bind]
  rw [show t s = _ from h]

end Task

end Mailwire
