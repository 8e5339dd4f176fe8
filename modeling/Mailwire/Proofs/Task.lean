import Mathlib.Tactic
import Mailwire.Task

/-!
# Reasoning about tasks

The run of a row of tasks is computed from the runs of its members (`Task.run_bind`), and how a row is
bracketed makes no difference. Tasks that are called one after another go on where the one before has
stopped, whether it has failed or not (`Task.runs`).

What holds of all events and all failures of the members of a row holds of the row
(`Task.Within.bind`), and a row of tasks to which the state makes no difference is such a task itself
(`Task.Stateless.bind`).
-/

namespace Mailwire

namespace Task

variable {σ ε α β : Type}

/-- The second task of a row goes on where the first has stopped, unless the first has failed. -/
theorem run_bind (t : Task σ ε α) (f : α → Task σ ε β) (s : σ) :
    (t >>= f).run s =
      match (t.run s).result with
      | .ok a =>
        ⟨((f a).run (t.run s).state).result, ((f a).run (t.run s).state).state,
          (t.run s).trace ++ ((f a).run (t.run s).state).trace⟩
      | .error e => ⟨.error e, (t.run s).state, (t.run s).trace⟩ := by
  rcases h : t.run s with ⟨_ | a, s', trace⟩
  · exact run_bind_error h
  · exact run_bind_ok h

/-- A row that succeeds is a row of successes. -/
lemma run_bind_eq_ok {t : Task σ ε α} {f : α → Task σ ε β} {s s' : σ} {b : β}
    {trace : List Event} (h : (t >>= f).run s = ⟨.ok b, s', trace⟩) :
    ∃ a s₁ trace₁ trace₂, t.run s = ⟨.ok a, s₁, trace₁⟩ ∧ (f a).run s₁ = ⟨.ok b, s', trace₂⟩ ∧
      trace = trace₁ ++ trace₂ := by
  rcases hfirst : t.run s with ⟨e | a, s₁, trace₁⟩
  · rw [run_bind_error hfirst] at h
    simp at h
  · rw [run_bind_ok hfirst] at h
    rcases hsecond : (f a).run s₁ with ⟨result, s₂, trace₂⟩
    rw [hsecond] at h
    cases h
    exact ⟨a, s₁, trace₁, trace₂, rfl, hsecond, rfl⟩

lemma ofExcept_eq_ok {result : Except ε α} {a : α} {s s' : σ} {trace : List Event}
    (h : (ofExcept result : Task σ ε α).run s = ⟨.ok a, s', trace⟩) : result = .ok a := by
  cases result with
  | ok b =>
    cases h
    rfl
  | error e => cases h

instance : LawfulMonad (Task σ ε) := by
  apply LawfulMonad.mk' (Task σ ε)
  · intro α t
    funext s
    show (t >>= pure).run s = t.run s
    rw [run_bind]
    rcases t.run s with ⟨e | a, s', trace⟩
    · rfl
    · simp
  · intro α β a f
    funext s
    show (pure a >>= f).run s = (f a).run s
    simp [run_bind]
  · intro α β γ t f g
    funext s
    show (t >>= f >>= g).run s = (t >>= fun a => f a >>= g).run s
    rw [run_bind, run_bind, run_bind]
    rcases t.run s with ⟨e | a, s', trace⟩
    · rfl
    · dsimp only
      rw [run_bind]
      rcases (f a).run s' with ⟨e | b, s'', trace'⟩
      · rfl
      · simp

@[simp] lemma run_map (g : α → β) (t : Task σ ε α) (s : σ) :
    (g <$> t).run s = ⟨(t.run s).result.map g, (t.run s).state, (t.run s).trace⟩ := by
  show (t >>= fun a => pure (g a)).run s = _
  rw [run_bind]
  rcases t.run s with ⟨e | a, s', trace⟩
  · rfl
  · simp [Except.map]

/-- The runs of tasks that are called one after another, whatever became of those before. -/
def runs : List (Task σ ε α) → σ → List (Run σ ε α)
  | [], _ => []
  | t :: more, s => t.run s :: runs more (t.run s).state

/-- The state after tasks that are called one after another. -/
def after : List (Task σ ε α) → σ → σ
  | [], s => s
  | t :: more, s => after more (t.run s).state

lemma after_append (ts more : List (Task σ ε α)) (s : σ) :
    after (ts ++ more) s = after more (after ts s) := by
  induction ts generalizing s with
  | nil => rfl
  | cons t ts ih => exact ih _

lemma run_attempt {ε' : Type} (t : Task σ ε α) (s : σ) :
    (attempt t : Task σ ε' (Except ε α)).run s
      = ⟨.ok (t.run s).result, (t.run s).state, (t.run s).trace⟩ := rfl

lemma run_mapError {ε' : Type} (f : ε → ε') (t : Task σ ε α) (s : σ) :
    (mapError f t).run s = ⟨(t.run s).result.mapError f, (t.run s).state, (t.run s).trace⟩ := rfl

/-! ### What a task keeps within -/

/-- Whatever state a task begins in, its events and what it fails with are of certain kinds. -/
structure Within (events : Event → Prop) (failures : ε → Prop) (t : Task σ ε α) : Prop where
  trace : ∀ s, ∀ e ∈ (t.run s).trace, events e
  failure : ∀ s e, (t.run s).result = .error e → failures e

namespace Within

variable {events : Event → Prop} {failures : ε → Prop}

protected lemma mono {more : Event → Prop} {further : ε → Prop} {t : Task σ ε α}
    (ht : Within events failures t) (hevents : ∀ e, events e → more e)
    (hfailures : ∀ e, failures e → further e) : Within more further t :=
  ⟨fun s e he => hevents e (ht.trace s e he), fun s e he => hfailures e (ht.failure s e he)⟩

protected lemma pure (a : α) : Within events failures (pure a : Task σ ε α) := by
  constructor <;> simp

protected lemma fail {e : ε} (he : failures e) :
    Within events failures (fail e : Task σ ε α) := by
  constructor
  · simp
  · intro s e' hfail
    obtain rfl : e = e' := by simpa using hfail
    exact he

protected lemma emit {e : Event} (he : events e) :
    Within events failures (emit e : Task σ ε Unit) := by
  constructor <;> simp [he]

protected lemma step {f : σ → Except ε α × σ} (hf : ∀ s e, (f s).1 = .error e → failures e) :
    Within events failures (step f) := by
  constructor
  · simp
  · exact hf

protected lemma ofExcept {result : Except ε α} (h : ∀ e, result = .error e → failures e) :
    Within events failures (ofExcept result : Task σ ε α) := by
  cases result with
  | ok a => exact .pure a
  | error e => exact .fail (h e rfl)

protected lemma attempt {ε' : Type} {outer : ε' → Prop} {t : Task σ ε α}
    (ht : Within events failures t) :
    Within events outer (attempt t : Task σ ε' (Except ε α)) := by
  constructor
  · exact ht.trace
  · intro s e hfail
    rw [run_attempt] at hfail
    cases hfail

protected lemma mapError {ε' : Type} {outer : ε' → Prop} {f : ε → ε'} {t : Task σ ε α}
    (ht : Within events failures t) (hf : ∀ e, failures e → outer (f e)) :
    Within events outer (mapError f t) := by
  constructor
  · exact ht.trace
  · intro s e hfail
    rw [run_mapError] at hfail
    cases hresult : (t.run s).result with
    | ok a => simp [hresult, Except.mapError] at hfail
    | error cause =>
      obtain rfl : f cause = e := by simpa [hresult, Except.mapError] using hfail
      exact hf cause (ht.failure s cause hresult)

/-- A row keeps within what all its members keep within. -/
protected lemma bind {t : Task σ ε α} {f : α → Task σ ε β} (ht : Within events failures t)
    (hf : ∀ a, Within events failures (f a)) : Within events failures (t >>= f) := by
  constructor
  · intro s e he
    rw [run_bind] at he
    split at he
    · rcases List.mem_append.mp he with hfirst | hsecond
      · exact ht.trace s e hfirst
      · exact (hf _).trace _ e hsecond
    · exact ht.trace s e he
  · intro s e hfail
    rw [run_bind] at hfail
    split at hfail
    · exact (hf _).failure _ e hfail
    · next cause hcause =>
      obtain rfl : cause = e := by simpa using hfail
      exact ht.failure s cause hcause

/-- What becomes of a task that may fail is up to the task behind it. -/
protected lemma attempt_bind {ε' : Type} {outer : ε' → Prop} {t : Task σ ε α}
    {f : Except ε α → Task σ ε' β} (ht : Within events failures t)
    (hok : ∀ a, Within events outer (f (.ok a)))
    (herror : ∀ e, failures e → Within events outer (f (.error e))) :
    Within events outer (attempt t >>= f) := by
  have hnext : ∀ s, Within events outer (f (t.run s).result) := by
    intro s
    cases hresult : (t.run s).result with
    | ok a => exact hok a
    | error e => exact herror e (ht.failure s e hresult)
  constructor
  · intro s e he
    rw [run_bind, run_attempt] at he
    rcases List.mem_append.mp he with hfirst | hsecond
    · exact ht.trace s e hfirst
    · exact (hnext s).trace _ e hsecond
  · intro s e hfail
    rw [run_bind, run_attempt] at hfail
    exact (hnext s).failure _ e hfail

end Within

/-! ### Tasks without a state -/

/-- The state makes no difference to the task, and the task makes none to the state. -/
def Stateless (t : Task σ ε α) : Prop := ∃ result trace, ∀ s, t.run s = ⟨result, s, trace⟩

namespace Stateless

protected lemma pure (a : α) : Stateless (pure a : Task σ ε α) := ⟨_, _, run_pure a⟩

protected lemma fail (e : ε) : Stateless (fail e : Task σ ε α) := ⟨_, _, run_fail e⟩

protected lemma emit (e : Event) : Stateless (emit e : Task σ ε Unit) := ⟨_, _, run_emit e⟩

protected lemma ofExcept (result : Except ε α) : Stateless (ofExcept result : Task σ ε α) := by
  cases result with
  | ok a => exact .pure a
  | error e => exact .fail e

protected lemma bind {t : Task σ ε α} {f : α → Task σ ε β} (ht : Stateless t)
    (hf : ∀ a, Stateless (f a)) : Stateless (t >>= f) := by
  obtain ⟨e | a, trace, ht⟩ := ht
  · exact ⟨.error e, trace, fun s => run_bind_error (ht s)⟩
  · obtain ⟨result, more, hf⟩ := hf a
    refine ⟨result, trace ++ more, fun s => ?_⟩
    rw [run_bind_ok (ht s), hf s]

/-- One run tells the results of all. -/
lemma result_eq {t : Task σ ε α} (ht : Stateless t) (s s' : σ) :
    (t.run s).result = (t.run s').result := by
  obtain ⟨result, trace, ht⟩ := ht
  rw [ht s, ht s']

end Stateless

end Task

end Mailwire
