import Mailwire.Proofs.LineStream.Rounds
import Mailwire.Proofs.Wire.Deadline

/-!
# The timeout of a read is one of each refill

A refill with a limit is compared with the same refill without one. If its answer comes within the limit,
the limit makes no difference (`LineStream.refill_of_answeredWithin`). If it comes later, or never, the
refill gives up when the limit has passed, and nothing is lost: who waits again finds what there would
have been (`LineStream.refill_of_not_answeredWithin`). The limit begins anew with each round of a read,
so how long a read takes in all makes no difference (`LineStream.readTimeout_per_refill`).

The limit of a refill is what a timer makes of it (`Clock.allowance`): the whole of the read timeout if
this can be added to the clock, and thirty years if not. So a read may be given up even where each refill
would have been answered before the read timeout has passed (`LineStream.readTimeout_beyond_clock`).
-/

namespace Mailwire

namespace LineStream

variable {s s' : LineStream} {limit : Duration} {span : Nat}

/-! ### One refill -/

/-- A refill that may take any time. -/
def patientRefill (s : LineStream) : Except (Fault IoError) Octets × LineStream :=
  (s.withTimeout none).refill

/-- A refill that may take any time is answered within so many milliseconds. -/
structure AnsweredWithin (span : Nat) (s : LineStream) : Prop where
  answered : s.patientRefill.1 ≠ .error .unanswered
  inTime : s.patientRefill.2.wire.now ≤ s.wire.now + span

lemma patientRefill_of_unread (h : s.unread ≠ []) :
    s.patientRefill = (.ok s.unread, s.withTimeout none) :=
  refill_of_unread h

lemma patientRefill_of_empty (h : s.unread = []) {answer : Except (Fault IoError) Octets} {w : Wire}
    (hread : s.wire.read none s.readCapacity = (answer, w)) :
    s.patientRefill
      = (answer, { s with wire := w, unread := Wire.found answer, readTimeout := none }) := by
  have hunread : (s.withTimeout none).unread = [] := h
  rw [patientRefill, refill_of_empty hunread hread]
  rcases answer with (e | _) | octets <;> rfl

lemma refillDeadline_of_timeout (hlimit : s.readTimeout = some limit) (hspan : limit.ticks = span) :
    s.refillDeadline = some (Clock.after s.wire.now span) := by
  rw [refillDeadline, hlimit, Option.map_some, hspan]

/-- A limit makes no difference to a refill that is answered within it. -/
theorem refill_of_answeredWithin (hlimit : s.readTimeout = some limit) (hspan : limit.ticks = span)
    (h : s.AnsweredWithin (Clock.allowance s.wire.now span)) :
    s.refill = (s.patientRefill.1, s.patientRefill.2.withTimeout (some limit)) := by
  by_cases hunread : s.unread = []
  · rcases hread : s.wire.read none s.readCapacity with ⟨answer, w⟩
    obtain ⟨hanswered, hin⟩ := h
    rw [patientRefill_of_empty hunread hread] at hanswered hin ⊢
    have hhurried := Wire.read_hurried s.readCapacity (Clock.le_after s.wire.now span)
    rw [hread] at hhurried
    have hintime := hhurried.inTime hanswered hin
    rw [← refillDeadline_of_timeout hlimit hspan] at hintime
    rw [refill_of_empty hunread hintime, hlimit]
    rcases answer with (e | _) | octets
    · simp [Except.mapError, refillFault, withTimeout]
    · exact absurd rfl hanswered
    · simp [Except.mapError, withTimeout]
  · rw [refill_of_unread hunread, patientRefill_of_unread hunread, ← hlimit]
    rfl

/-- A refill that is not answered within its limit gives up when the limit has passed. Who then waits
again, for as long as it takes, finds what there would have been. -/
theorem refill_of_not_answeredWithin (hlimit : s.readTimeout = some limit) (hspan : limit.ticks = span)
    (h : ¬ s.AnsweredWithin (Clock.allowance s.wire.now span)) :
    ∃ s', s.refill = (.error (.failed (silence limit)), s') ∧
      s'.wire.now = s.wire.now + Clock.allowance s.wire.now span ∧
      (s.patientRefill.1 ≠ .error .unanswered → s'.patientRefill = s.patientRefill) := by
  have hunread : s.unread = [] := by
    by_contra hunread
    refine h ⟨?_, ?_⟩
    · rw [patientRefill_of_unread hunread]
      nofun
    · rw [patientRefill_of_unread hunread]
      exact Nat.le_add_right _ _
  have hnow : s.wire.now ≤ Clock.after s.wire.now span := Clock.le_after s.wire.now span
  rcases hread : s.wire.read none s.readCapacity with ⟨answer, w⟩
  have hpatient := patientRefill_of_empty hunread hread
  -- the answer, if there is one, comes behind the deadline
  have hlate : answer = .error .unanswered ∨ Clock.after s.wire.now span < w.now := by
    by_contra hin
    rw [not_or, Nat.not_lt] at hin
    exact h ⟨by rw [hpatient]; exact hin.1, by rw [hpatient]; exact hin.2⟩
  have hhurried := Wire.read_hurried s.readCapacity hnow
  rw [hread] at hhurried
  obtain ⟨hanswer, hclock⟩ := hhurried.late hlate
  rcases hread' : s.wire.read (some (Clock.after s.wire.now span)) s.readCapacity with ⟨answer', w'⟩
  rw [hread'] at hanswer hclock
  obtain rfl : answer' = .error .unanswered := hanswer
  have hrefill : s.refill
      = (.error (.failed (silence limit)), { s with wire := w', unread := [] }) := by
    have hgivesUp := hread'
    rw [← refillDeadline_of_timeout hlimit hspan] at hgivesUp
    rw [refill_of_empty hunread hgivesUp, hlimit]
    rfl
  refine ⟨_, hrefill, hclock, ?_⟩
  intro hanswered
  rw [hpatient] at hanswered ⊢
  have hresumes := Wire.read_resumes s.readCapacity hnow (by rw [hread]; exact hanswered)
    (by rw [hread]; exact hlate.resolve_left hanswered)
  rw [hread, hread'] at hresumes
  exact patientRefill_of_empty rfl hresumes

end LineStream

namespace Reading

/-! ### The rounds of a read -/

open LineStream (AnsweredWithin)

variable {r r' : Reading} {s : LineStream} {limit : Duration} {span : Nat}

/-- The same reading, with another limit for a refill. -/
def withTimeout (limit : Option Duration) (r : Reading) : Reading :=
  ⟨r.line, r.terminated, r.stream.withTimeout limit⟩

lemma Visits.readTimeout (h : r.Visits r') : r'.stream.readTimeout = r.stream.readTimeout := by
  obtain ⟨piece, htakes⟩ := h.takes
  exact htakes.readTimeout

/-- A refill within the limit is one that may take any time. -/
lemma refill_withoutTimeout (hlimit : r.stream.readTimeout = some limit) (hspan : limit.ticks = span)
    (hin : r.stream.AnsweredWithin (Clock.allowance r.stream.wire.now span))
    {answer : Except (Fault IoError) Octets} {s' : LineStream}
    (hrefill : r.stream.refill = (answer, s')) :
    (r.withTimeout none).stream.refill = (answer, s'.withTimeout none) := by
  have heq := LineStream.refill_of_answeredWithin hlimit hspan hin
  have hframe := LineStream.refill_frame (r.stream.withTimeout none)
  rw [hrefill] at heq
  rcases hpatient : r.stream.patientRefill with ⟨answer', s₁⟩
  rw [hpatient] at heq
  cases heq
  have hnever : s₁.readTimeout = none := by
    rw [LineStream.patientRefill] at hpatient
    rw [hpatient] at hframe
    exact hframe.readTimeout
  show r.stream.patientRefill = _
  rw [hpatient, ← hnever]
  rfl

/-- A read whose refills keep within the limit goes through the same rounds without one. -/
lemma Visits.withoutTimeout (hlimit : s.readTimeout = some limit) (hspan : limit.ticks = span)
    (hin : ∀ r, Visits (start s) r → r.Open →
      r.stream.AnsweredWithin (Clock.allowance r.stream.wire.now span))
    (h : Visits (start s) r) : Visits ((start s).withTimeout none) (r.withTimeout none) := by
  induction h with
  | refl => exact .refl
  | tail hvisits hround ih =>
    have hlimit' := (Visits.readTimeout hvisits).trans hlimit
    refine ih.tail ?_
    obtain @⟨available, s', hopen, hrefill, hne⟩ := hround
    have hopen' : (Reading.withTimeout none _).Open := ⟨hopen.unterminated, hopen.short⟩
    exact Round.refill hopen'
      (refill_withoutTimeout hlimit' hspan (hin _ hvisits hopen) hrefill) hne

/-- It then ends in the same way, too. -/
lemma Ends.withoutTimeout {outcome} (hlimit : r.stream.readTimeout = some limit)
    (hspan : limit.ticks = span)
    (hin : r.Open → r.stream.AnsweredWithin (Clock.allowance r.stream.wire.now span))
    (h : r.Ends outcome) : (r.withTimeout none).Ends (outcome.1, outcome.2.withTimeout none) := by
  cases h with
  | tooLong hlong => exact .tooLong hlong
  | terminated hshort hended => exact .terminated hshort hended
  | endOfStream hopen hrefill =>
    exact .endOfStream ⟨hopen.unterminated, hopen.short⟩
      (refill_withoutTimeout hlimit hspan (hin hopen) hrefill)
  | fault hopen hrefill =>
    exact .fault ⟨hopen.unterminated, hopen.short⟩
      (refill_withoutTimeout hlimit hspan (hin hopen) hrefill)

end Reading

namespace LineStream

open Reading (Visits)

/-- A read whose refills keep within the limit goes as it goes without one. -/
theorem readLineOnto_of_answeredWithin (hlimit : s.readTimeout = some limit)
    (hspan : limit.ticks = span)
    (hin : ∀ r, Visits (.start s) r → r.Open →
      r.stream.AnsweredWithin (Clock.allowance r.stream.wire.now span)) :
    readLineOnto #[] (s.withTimeout none)
      = ((readLineOnto #[] s).1, (readLineOnto #[] s).2.withTimeout none) := by
  obtain ⟨r, hvisits, hends⟩ := readLineOnto_eq_iff.mp (rfl : readLineOnto #[] s = _)
  have hlimit' : r.stream.readTimeout = some limit := hvisits.readTimeout.trans hlimit
  exact readLineOnto_eq_iff.mpr ⟨_, hvisits.withoutTimeout hlimit hspan hin,
    hends.withoutTimeout hlimit' hspan (hin r hvisits)⟩

/-- A read that is not given up because of its limit fails as the far end does, or because the line is
too long. -/
theorem readLineOnto_failure {e : IoError} (h : readLineOnto #[] s = (.error (.failed e), s')) :
    FarEndFails s e s' ∨ e = lineTooLong s.maxLineLength ∨
      ∃ limit, s.readTimeout = some limit ∧ e = silence limit := by
  obtain ⟨r, hvisits, hends⟩ := readLineOnto_eq_iff.mp h
  cases hends with
  | tooLong hlong =>
    obtain ⟨piece, htakes⟩ := hvisits.takes
    have hmax : r.stream.maxLineLength = s.maxLineLength := htakes.maxLineLength
    exact .inr (.inl (by rw [hmax]))
  | fault hopen hrefill =>
    exact (failure_of_refill hvisits hrefill).imp_right .inr

/-- Without a read timeout, it is never given up. -/
lemma failure_of_unlimited {loggable : Bool} {e : IoError} (hnever : s.readTimeout = none)
    (h : ((readLineOctets loggable).run s).result = .error (.failed e)) :
    FarEndFails s e ((readLineOctets loggable).run s).state ∨ e = lineTooLong s.maxLineLength := by
  have hread := (readLineOctets_eq_error_iff loggable s _).mp h
  rw [state_readLineOctets]
  rcases readLineOnto_failure (Prod.ext hread rfl) with hfails | hlong | ⟨limit, hlimit, -⟩
  · exact .inl hfails
  · exact .inr hlong
  · rw [hnever] at hlimit
    cases hlimit

/-- A read depends on the next refill and on the limit of a line. -/
lemma readLineOnto_congr {s s' : LineStream} (hrefill : s.refill = s'.refill)
    (hmax : s.maxLineLength = s'.maxLineLength) (line : Array UInt8) :
    readLineOnto line s = readLineOnto line s' := by
  rw [readLineOnto_eq, readLineOnto_eq, hrefill, hmax]

/-- A read gives up at the first refill that is not answered within its limit. A read that follows, and
may take any time, is one that goes on from where this refill has begun. -/
theorem readLineOnto_of_not_answeredWithin {r : Reading} (hlimit : s.readTimeout = some limit)
    (hspan : limit.ticks = span) (hvisits : Visits (.start s) r) (hopen : r.Open)
    (hlate : ¬ r.stream.AnsweredWithin (Clock.allowance r.stream.wire.now span)) :
    ∃ s', readLineOnto #[] s = (.error (.failed (silence limit)), s') ∧
      s'.wire.now = r.stream.wire.now + Clock.allowance r.stream.wire.now span ∧
      s'.incoming = r.stream.incoming ∧
      (r.stream.patientRefill.1 ≠ .error .unanswered →
        s'.patientRefill = r.stream.patientRefill ∧
        readLineOnto #[] (s'.withTimeout none) = readLineOnto #[] (r.stream.withTimeout none)) := by
  have hlimit' : r.stream.readTimeout = some limit := hvisits.readTimeout.trans hlimit
  obtain ⟨s', hrefill, hnow, hresumes⟩ := refill_of_not_answeredWithin hlimit' hspan hlate
  have hframe := refill_frame r.stream
  rw [hrefill] at hframe
  refine ⟨s', readLineOnto_eq_iff.mpr ⟨r, hvisits, .fault hopen hrefill⟩, hnow, hframe.incoming, ?_⟩
  intro hanswered
  have hpatient := hresumes hanswered
  exact ⟨hpatient, readLineOnto_congr hpatient hframe.maxLineLength #[]⟩

/-- The limit is one of each refill that a read makes. It is the read timeout if this can be added to the
clock when the refill begins, and thirty years if not.

If all refills are answered within their limits, the read goes as it goes without a limit, however long it
takes in all. The first one that is not answered within its limit fails the read, when the limit has
passed since that refill has begun, and nothing that comes later is lost: later reads find it. Octets that
were read ahead are found at once. Without a read timeout a read fails only as its far end does, or
because the line is too long. -/
theorem readTimeout_per_refill (s : LineStream) (loggable : Bool) :
    let run := (readLineOctets loggable).run s
    let free := (readLineOctets loggable).run (s.withTimeout none)
    (s.readTimeout = none → ∀ e, run.result = .error (.failed e) →
      FarEndFails s e run.state ∨ e = lineTooLong s.maxLineLength) ∧
    (∀ r, Visits (.start s) r → r.stream.unread ≠ [] →
      r.stream.refill = (.ok r.stream.unread, r.stream)) ∧
    ∀ limit span, s.readTimeout = some limit → limit.toNanos = span * 1000000 →
      ((∀ r, Visits (.start s) r → r.Open →
          r.stream.AnsweredWithin (Clock.allowance r.stream.wire.now span)) →
        free = ⟨run.result, run.state.withTimeout none, run.trace⟩ ∧
        ∀ e, run.result = .error (.failed e) →
          FarEndFails (s.withTimeout none) e free.state ∨ e = lineTooLong s.maxLineLength) ∧
      ∀ r, Visits (.start s) r → r.Open →
        ¬ r.stream.AnsweredWithin (Clock.allowance r.stream.wire.now span) →
        run.result = .error (.failed (silence limit)) ∧
        run.state.wire.now = r.stream.wire.now + Clock.allowance r.stream.wire.now span ∧
        run.state.incoming = r.stream.incoming ∧
        (r.stream.patientRefill.1 ≠ .error .unanswered →
          run.state.patientRefill = r.stream.patientRefill ∧
          ∀ later, (readLineOctets later).run (run.state.withTimeout none)
            = (readLineOctets later).run (r.stream.withTimeout none)) := by
  intro run free
  have hstate : run.state = (readLineOnto #[] s).2 := state_readLineOctets loggable s
  refine ⟨fun hnever e => failure_of_unlimited hnever, fun r _ => refill_of_unread, ?_⟩
  intro limit span hlimit hwhole
  have hspan : limit.ticks = span := by
    rw [Duration.ticks, hwhole]
    omega
  constructor
  · intro hin
    have hfree : free = ⟨run.result, run.state.withTimeout none, run.trace⟩ := by
      simp only [free, run, run_readLineOctets, readLineOnto_of_answeredWithin hlimit hspan hin]
    refine ⟨hfree, fun e he => ?_⟩
    have hresult : free.result = .error (.failed e) := by
      rw [hfree]
      exact he
    exact failure_of_unlimited rfl hresult
  · intro r hvisits hopen hlate
    obtain ⟨s', hread, hnow, hincoming, hresumes⟩ :=
      readLineOnto_of_not_answeredWithin hlimit hspan hvisits hopen hlate
    rw [hstate, hread]
    refine ⟨?_, hnow, hincoming, ?_⟩
    · exact (readLineOctets_eq_error_iff loggable s _).mpr (by rw [hread])
    · intro hanswered
      obtain ⟨hpatient, hlines⟩ := hresumes hanswered
      refine ⟨hpatient, fun later => ?_⟩
      rw [run_readLineOctets, run_readLineOctets, hlines]

/-- A far end that is silent for 150 milliseconds in the middle of a line. -/
def hesitating : LineStream :=
  { ofWire 1 512
      { Wire.idle with
        deliveries := .ofCues [.act (.data [0x61]), .wait 150, .act (.data [0x62, 0x0a])] } with
    readTimeout := some ⟨0, ⟨100000000, by decide⟩⟩ }

/-- With a limit of 100 milliseconds the second refill fails, and a later read finds what is behind. -/
theorem readTimeout_per_refill_hesitating :
    let run := (readLineOctets true).run hesitating
    run.result = .error (.failed (silence ⟨0, ⟨100000000, by decide⟩⟩)) ∧
      run.state.wire.now = 100 ∧
      ((readLineOctets true).run (run.state.withTimeout none)).result = .ok [0x62] := by
  obtain ⟨-, -, hlimited⟩ := readTimeout_per_refill hesitating true
  obtain ⟨-, hlate⟩ := hlimited _ 100 rfl rfl
  -- the second round, which meets the silence
  let r := (Reading.start hesitating).take [0x61] hesitating.refill.2
  have hfirst : hesitating.refill = (.ok [0x61], hesitating.refill.2) := by decide +kernel
  have hvisits : Visits (.start hesitating) r :=
    .single (.refill ⟨rfl, Nat.zero_le _⟩ hfirst (by decide))
  have hopen : r.Open := ⟨by decide +kernel, by decide +kernel⟩
  have hallowance : Clock.allowance r.stream.wire.now 100 = 100 := by decide +kernel
  have htardy : ¬ r.stream.AnsweredWithin (Clock.allowance r.stream.wire.now 100) := by
    intro hin
    rw [hallowance] at hin
    exact absurd hin.inTime (by decide +kernel)
  obtain ⟨hresult, hnow, -, hanswered⟩ := hlate r hvisits hopen htardy
  obtain ⟨-, hlater⟩ := hanswered (by decide +kernel)
  refine ⟨hresult, ?_, ?_⟩
  · rw [hnow]
    decide +kernel
  · rw [hlater true]
    decide +kernel

/-- A far end that is silent for 31 years in front of a line, and a read timeout of 2^63 seconds. -/
def belated : LineStream :=
  { ofWire 1024 512
      { Wire.idle with
        deliveries := .ofCues [.wait (31 * 365 * 86400 * 1000), .act (.data [0x61, 0x0a])] } with
    readTimeout := some ⟨9223372036854775808, ⟨0, by decide⟩⟩ }

/-- The timeout cannot be added to the clock, and counts as thirty years. So the read fails with it,
though every refill would have been answered long before it has passed. -/
theorem readTimeout_beyond_clock :
    ∃ limit span, belated.readTimeout = some limit ∧ limit.toNanos = span * 1000000 ∧
      (∀ r, Visits (.start belated) r → r.Open →
        r.stream.patientRefill.1 ≠ .error .unanswered ∧
        r.stream.patientRefill.2.wire.now < r.stream.wire.now + span) ∧
      let run := (readLineOctets true).run belated
      run.result = .error (.failed (silence limit)) ∧ run.state.wire.now = Clock.thirtyYears := by
  have hrefill : belated.refill.1
      = .error (.failed (silence ⟨9223372036854775808, ⟨0, by decide⟩⟩)) := by decide +kernel
  have hanswer : belated.patientRefill.1 = .ok [0x61, 0x0a] := by decide +kernel
  -- the first refill fails, so there is no other
  have honly : ∀ r, Visits (.start belated) r → r = .start belated := by
    intro r hvisits
    rcases hvisits.cases_head with rfl | ⟨r', hround, -⟩
    · rfl
    · cases hround with
      | refill hopen hok hne =>
        rw [show (Reading.start belated).stream = belated from rfl] at hok
        rw [hok] at hrefill
        cases hrefill
  refine ⟨_, 9223372036854775808000, rfl, by decide, ?_, ?_, ?_⟩
  · intro r hvisits _
    obtain rfl := honly r hvisits
    refine ⟨?_, by decide +kernel⟩
    show belated.patientRefill.1 ≠ _
    rw [hanswer]
    nofun
  · decide +kernel
  · decide +kernel

end LineStream

end Mailwire
