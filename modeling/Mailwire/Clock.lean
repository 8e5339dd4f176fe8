/-!
# Clocks

Time is counted in milliseconds since a clock began, and a clock runs for 2^63 seconds. A timer runs
for the span that it is set to, counted from the moment at which it is set. A span that leads past the
last moment of the clock counts as thirty years.

Main statements: a timer runs for its whole span if this can be added to the clock
(`Clock.after_eq_add`), and unless the clock itself is about to end, it runs for no longer than that
(`Clock.after_le_add`).
-/

namespace Mailwire.Clock

/-- The last millisecond of 2^63 seconds. -/
def lastMoment : Nat := 9223372036854775807999

/-- Thirty years in milliseconds. -/
def thirtyYears : Nat := 30 * 365 * 86400 * 1000

/-- How long a timer runs that is set to a span of time. -/
def allowance (now span : Nat) : Nat := if now + span ≤ lastMoment then span else thirtyYears

/-- The moment at which a timer ends that is set to a span of time. -/
def after (now span : Nat) : Nat := now + allowance now span

theorem allowance_of_le {now span : Nat} (h : now + span ≤ lastMoment) :
    allowance now span = span :=
  if_pos h

theorem allowance_of_lt {now span : Nat} (h : lastMoment < now + span) :
    allowance now span = thirtyYears :=
  if_neg (Nat.not_le.mpr h)

theorem le_after (now span : Nat) : now ≤ after now span := Nat.le_add_right _ _

theorem after_eq_add {now span : Nat} (h : now + span ≤ lastMoment) :
    after now span = now + span :=
  congrArg (now + ·) (allowance_of_le h)

theorem after_le_add {now : Nat} (span : Nat) (h : now + thirtyYears ≤ lastMoment) :
    after now span ≤ now + span := by
  by_cases hspan : now + span ≤ lastMoment
  · exact Nat.le_of_eq (after_eq_add hspan)
  · rw [after, allowance_of_lt (Nat.lt_of_not_le hspan)]
    omega

end Mailwire.Clock
