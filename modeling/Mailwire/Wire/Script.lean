/-!
# Scripts of a far end

What one side of a connection does, as a list of cues: acts, and the time that passes before
them. A wait counts from the moment at which it is first met, and it goes on when nobody waits for
it any more. It stays in front of the script until somebody finds that it is over.

Main statements: going on in a script uses up cues and never makes new ones
(`Script.weigh_advance_le`).
-/

namespace Mailwire

/-- One entry of a script. -/
inductive Cue (α : Type)
  /-- Nothing happens for so many milliseconds. -/
  | wait (ms : Nat)
  /-- Nothing happens any more. -/
  | stall
  | act (a : α)
deriving DecidableEq, Repr

/-- A list of cues, and the moment at which the wait in front is to end, if it was met. -/
structure Script (α : Type) where
  cues : List (Cue α)
  waitEnd : Option Nat
deriving DecidableEq, Repr

/-- What comes next in a script. -/
inductive Prompt (α : Type)
  | act (a : α)
  /-- The script is over. -/
  | over
  /-- Nothing, up to the time that was allowed. -/
  | nothing
deriving DecidableEq, Repr

def Prompt.weigh {α : Type} (weight : Cue α → Nat) : Prompt α → Nat
  | .act a => weight (.act a)
  | _ => 0

namespace Script

variable {α : Type}

/-- A script of which no wait was met. -/
def ofCues (cues : List (Cue α)) : Script α := ⟨cues, none⟩

def ofActs (acts : List α) : Script α := ofCues (acts.map .act)

/-- Whether a moment lies behind a deadline. -/
def late (deadline : Option Nat) (moment : Nat) : Bool := deadline.any (· < moment)

/-- The moment at which one stops waiting who has waited since `now`. -/
def patienceEnd (deadline : Option Nat) (now : Nat) : Nat := max now (deadline.getD now)

/-- Goes on to the next act that is not idle. Answers what comes next, the time, and what is left
of the script. What happens at the deadline still counts; without a deadline the wait may last for
ever. -/
def advance (idle : α → Bool) (deadline : Option Nat) (now : Nat) (waitEnd : Option Nat) :
    List (Cue α) → Prompt α × Nat × Script α
  | [] => (.over, now, ofCues [])
  | .wait ms :: rest =>
    let due := max now (waitEnd.getD (now + ms))
    if late deadline due then (.nothing, patienceEnd deadline now, ⟨.wait ms :: rest, some due⟩)
    else advance idle deadline due none rest
  | .stall :: rest => (.nothing, patienceEnd deadline now, ofCues (.stall :: rest))
  | .act a :: rest =>
    if idle a then advance idle deadline now none rest else (.act a, now, ofCues rest)

def next (idle : α → Bool) (deadline : Option Nat) (now : Nat) (s : Script α) :
    Prompt α × Nat × Script α :=
  advance idle deadline now s.waitEnd s.cues

def putBack (a : α) (s : Script α) : Script α := ofCues (.act a :: s.cues)

/-! ### The weight of what is left -/

def weigh (weight : Cue α → Nat) (cues : List (Cue α)) : Nat :=
  cues.foldr (fun c n => weight c + n) 0

@[simp] theorem weigh_nil (weight : Cue α → Nat) : weigh weight [] = 0 := rfl

@[simp] theorem weigh_cons (weight : Cue α → Nat) (c : Cue α) (cues : List (Cue α)) :
    weigh weight (c :: cues) = weight c + weigh weight cues := rfl

theorem weigh_advance_le (weight : Cue α → Nat) (idle : α → Bool) (deadline : Option Nat)
    (now : Nat) (waitEnd : Option Nat) (cues : List (Cue α)) :
    Prompt.weigh weight (advance idle deadline now waitEnd cues).1
        + Script.weigh weight (advance idle deadline now waitEnd cues).2.2.cues
      ≤ Script.weigh weight cues := by
  induction cues generalizing now waitEnd with
  | nil => simp [advance, Prompt.weigh, ofCues]
  | cons c rest ih =>
    cases c with
    | wait ms =>
      simp only [advance]
      split
      · simp [Prompt.weigh]
      · exact Nat.le_trans (ih _ _) (by simp)
    | stall => simp [advance, Prompt.weigh, ofCues]
    | act a =>
      simp only [advance]
      split
      · exact Nat.le_trans (ih _ _) (by simp)
      · simp [Prompt.weigh, ofCues]

theorem weigh_next_le (weight : Cue α → Nat) (idle : α → Bool) (deadline : Option Nat)
    (now : Nat) (s : Script α) :
    Prompt.weigh weight (s.next idle deadline now).1
        + Script.weigh weight (s.next idle deadline now).2.2.cues
      ≤ Script.weigh weight s.cues :=
  weigh_advance_le weight idle deadline now s.waitEnd s.cues

end Script

end Mailwire
