import Mailwire.Proofs.LineStream.Rounds
import Mailwire.Proofs.Wire.Silence

/-!
# The line buffer is bounded

The limit of a line is looked at after each round, and a round takes no more than the buffer holds. So a
line never grows beyond its limit by more than that (`Reading.Visits.size_le`).

Each round takes at least one octet. So where there is room for reading, a read is never answered only if
the far end falls silent, and what it sends before has no line feed and is not too long
(`LineStream.readLineOnto_unanswered_iff`).
In any other case a beginning of what the far end sends decides how the read ends, whatever follows it
and were it without end (`LineStream.readLineOnto_followed`).
-/

namespace Mailwire

/-! ### How long a line grows -/

namespace Reading

/-- At every moment of a read its line exceeds the limit by no more than the buffer holds. -/
theorem Visits.size_le {s : LineStream} {r : Reading} (h : Visits (.start s) r)
    (hbuffered : s.unread.length ≤ s.readCapacity) :
    r.line.size ≤ s.maxLineLength + s.readCapacity := by
  rcases Relation.ReflTransGen.cases_tail h with rfl | ⟨r₁, hvisits, hround⟩
  · exact Nat.zero_le _
  · have hshort : r₁.line.size ≤ r₁.stream.maxLineLength := by
      cases hround with
      | refill hopen _ _ => exact hopen.short
    obtain ⟨piece, htakes⟩ := Visits.takes hvisits
    obtain ⟨last, hlast, -, hlength⟩ := hround.takes
    have hcapacity : r₁.stream.readCapacity = s.readCapacity := htakes.onward.readCapacity
    have hfits : last.length ≤ r₁.stream.readCapacity :=
      hlength (by simpa [hcapacity] using htakes.onward.buffered hbuffered)
    calc r.line.size = r₁.line.size + (Line.content last).length := by
          rw [← Array.length_toList, hlast.line, List.length_append, Array.length_toList]
      _ ≤ r₁.line.size + last.length := Nat.add_le_add_left (List.length_filter_le _ _) _
      _ ≤ s.maxLineLength + s.readCapacity := by
          rw [← hcapacity]
          exact Nat.add_le_add (htakes.maxLineLength ▸ hshort) hfits

end Reading

namespace LineStream

/-- A line that is given up has grown beyond the limit, by no more than the buffer holds. -/
theorem readLineOnto_invalidData {s s' : LineStream} {e : IoError}
    (h : readLineOnto #[] s = (.error (.failed e), s')) (hkind : e.kind = .invalidData)
    (hbuffered : s.unread.length ≤ s.readCapacity) :
    FarEndFails s e s' ∨
      e = lineTooLong s.maxLineLength ∧ ∃ piece, s.incoming = piece ++ s'.incoming ∧
        s.maxLineLength < (Line.content piece).length ∧
        (Line.content piece).length ≤ s.maxLineLength + s.readCapacity := by
  obtain ⟨r, hvisits, hends⟩ := readLineOnto_eq_iff.mp h
  cases hends with
  | tooLong hlong =>
    right
    obtain ⟨piece, htakes⟩ := hvisits.takes
    obtain ⟨answers, hyields⟩ := htakes.yields
    have hmax : r.stream.maxLineLength = s.maxLineLength := htakes.maxLineLength
    have hline : r.line.toList = Line.content piece := by simpa [Reading.start] using htakes.line
    rw [hmax]
    refine ⟨rfl, piece, hyields.incoming, ?_, ?_⟩
    · rw [← hline, Array.length_toList, ← hmax]
      exact hlong
    · rw [← hline, Array.length_toList]
      exact hvisits.size_le hbuffered
  | fault hopen hrefill =>
    rcases failure_of_refill hvisits hrefill with hfails | ⟨limit, -, rfl⟩
    · exact .inl hfails
    · cases hkind

/-- A line that is answered is not too long. -/
theorem readLineOnto_ok_size {s s' : LineStream} {line : Array UInt8} {terminated : Bool}
    (h : readLineOnto #[] s = (.ok (line, terminated), s')) : line.size ≤ s.maxLineLength := by
  obtain ⟨r, hvisits, hends⟩ := readLineOnto_eq_iff.mp h
  obtain ⟨piece, htakes⟩ := hvisits.takes
  have hmax : r.stream.maxLineLength = s.maxLineLength := htakes.maxLineLength
  rw [← hmax]
  cases hends with
  | terminated hshort _ => exact hshort
  | endOfStream hopen _ => exact hopen.short

/-! ### Which reads are answered -/

/-- These octets are still to be read, and then nothing happens any more. -/
def FallsSilent (s : LineStream) (octets : Octets) : Prop :=
  ∃ coming, s.wire.FallsSilent coming ∧ octets = s.unread ++ coming

/-- What a refill finds is the front of what is to be read. -/
lemma refill_fallsSilent {s s' : LineStream} {available : Octets}
    (h : s.refill = (.ok available, s')) (hne : available ≠ []) :
    (s'.wire.StaysSilent ↔ s.wire.StaysSilent) ∧
      ∀ octets, s.FallsSilent octets ↔ s'.FallsSilent octets := by
  by_cases hunread : s.unread = []
  · rcases hread : s.wire.read s.refillDeadline s.readCapacity with ⟨f | found, w⟩
    · rw [refill_of_empty hunread hread] at h
      cases h
    · rw [refill_of_empty hunread hread] at h
      cases h
      obtain ⟨hstays, hsilent⟩ := Wire.read_fallsSilent hread hne
      refine ⟨hstays, fun octets => ?_⟩
      simp only [FallsSilent, hunread, hsilent, Wire.found, List.nil_append]
      constructor
      · rintro ⟨coming, ⟨more, rfl, hmore⟩, rfl⟩
        exact ⟨more, hmore, rfl⟩
      · rintro ⟨more, hmore, rfl⟩
        exact ⟨_, ⟨more, rfl, hmore⟩, rfl⟩
  · rw [refill_of_unread hunread] at h
    cases h
    exact ⟨Iff.rfl, fun octets => Iff.rfl⟩

lemma fallsSilent_of_empty {s : LineStream} {octets : Octets} (h : s.unread = []) :
    s.FallsSilent octets ↔ s.wire.FallsSilent octets := by
  simp [FallsSilent, h]

/-- A refill that meets the end of the stream shows that the far end is not silent there. -/
lemma not_fallsSilent_of_refill {s s' : LineStream} {octets : Octets} (hroom : 0 < s.readCapacity)
    (h : s.refill = (.ok [], s')) : ¬ s.FallsSilent octets := by
  by_cases hunread : s.unread = []
  · rcases hread : s.wire.read s.refillDeadline s.readCapacity with ⟨f | found, w⟩
    · rw [refill_of_empty hunread hread] at h
      cases h
    · rw [refill_of_empty hunread hread] at h
      cases h
      rw [fallsSilent_of_empty hunread]
      exact Wire.not_fallsSilent_of_read hroom.ne' hread (.inl rfl)
  · rw [refill_of_unread hunread] at h
    exact absurd (Except.ok.inj (Prod.mk.inj h).1) hunread

lemma unread_of_refill_error {s s' : LineStream} {f : Fault IoError}
    (h : s.refill = (.error f, s')) : s.unread = [] := by
  by_contra hunread
  rw [refill_of_unread hunread] at h
  cases h

/-- A refill that is never answered may take any time, and the far end is silent. -/
lemma fallsSilent_of_refill {s s' : LineStream} (hroom : 0 < s.readCapacity)
    (h : s.refill = (.error .unanswered, s')) : s.readTimeout = none ∧ s.FallsSilent [] := by
  have hunread := unread_of_refill_error h
  obtain ⟨fault, -, hfault⟩ := Yields.refill_error h
  cases hlimit : s.readTimeout with
  | some limit =>
    rw [hlimit] at hfault
    cases fault <;> cases hfault
  | none =>
    have hnever : s.refillDeadline = none := by rw [refillDeadline, hlimit]; rfl
    rcases hread : s.wire.read s.refillDeadline s.readCapacity with ⟨fault | found, w⟩
    · rw [refill_of_empty hunread hread, hlimit] at h
      obtain rfl : fault = .unanswered := by
        cases fault <;> cases h
        rfl
      rw [hnever] at hread
      refine ⟨rfl, (fallsSilent_of_empty hunread).mpr ?_⟩
      exact (Wire.read_unanswered_iff hroom.ne').mp (by rw [hread])
    · rw [refill_of_empty hunread hread] at h
      cases h

/-- A refill that fails is one that is never answered, if it may take any time and the far end falls
silent. -/
lemma unanswered_of_fallsSilent {s s' : LineStream} {f : Fault IoError} {octets : Octets}
    (hroom : 0 < s.readCapacity) (h : s.refill = (.error f, s')) (hlimit : s.readTimeout = none)
    (hsilent : s.FallsSilent octets) : f = .unanswered := by
  have hunread := unread_of_refill_error h
  rcases hread : s.wire.read s.refillDeadline s.readCapacity with ⟨(e | _) | found, w⟩
  · rw [fallsSilent_of_empty hunread] at hsilent
    exact absurd hsilent (Wire.not_fallsSilent_of_read hroom.ne' hread (.inr ⟨e, rfl⟩))
  · rw [refill_of_empty hunread hread, hlimit] at h
    cases h
    rfl
  · rw [refill_of_empty hunread hread] at h
    cases h

end LineStream

namespace Reading

/-- The far end falls silent before it is known how the line goes on. -/
def Undecided (r : Reading) : Prop :=
  ∃ octets, r.stream.FallsSilent octets ∧ Octets.lf ∉ octets ∧
    r.line.size + (Line.content octets).length ≤ r.stream.maxLineLength

lemma Undecided.short {r : Reading} (h : r.Undecided) : r.line.size ≤ r.stream.maxLineLength := by
  obtain ⟨octets, -, -, hshort⟩ := h
  omega

/-- A round decides nothing unless it ends the line. -/
lemma Round.undecided_iff {r r' : Reading} (h : Round r r') :
    r.Undecided ↔ r'.terminated = false ∧ r'.Undecided := by
  have hmax : r'.stream.maxLineLength = r.stream.maxLineLength := by
    obtain ⟨piece, htakes, -⟩ := h.takes
    exact htakes.maxLineLength
  obtain @⟨available, s, hopen, hrefill, hne⟩ := h
  obtain ⟨-, -, hunread, -⟩ := LineStream.Yields.refill_ok hrefill
  obtain ⟨-, hsilent⟩ := LineStream.refill_fallsSilent hrefill hne
  have hterm : (r.take available s).terminated = false ↔ Octets.lf ∉ available := by
    rw [← Line.isTerminated_segment, Bool.not_eq_true]
    rfl
  -- a round without a line feed takes all that the buffer holds
  have htaken : Octets.lf ∉ available → (r.take available s).stream.unread = [] ∧
      (r.take available s).line.size = r.line.size + (Line.content available).length := by
    intro hlf
    simp [take, LineStream.consume, Line.segment_of_notMem hlf, hunread, Line.size_append_content]
  rw [hterm, Undecided, Undecided, hmax]
  constructor
  · rintro ⟨octets, hoctets, hlf, hshort⟩
    obtain ⟨coming, hcoming, rfl⟩ := (hsilent octets).mp hoctets
    rw [hunread] at hlf hshort
    obtain ⟨hlf, hlf'⟩ : Octets.lf ∉ available ∧ Octets.lf ∉ coming := by simpa using hlf
    obtain ⟨hempty, hsize⟩ := htaken hlf
    refine ⟨hlf, coming, ⟨coming, hcoming, by rw [hempty, List.nil_append]⟩, hlf', ?_⟩
    rw [Line.content_append, List.length_append] at hshort
    omega
  · rintro ⟨hlf, octets, ⟨coming, hcoming, rfl⟩, hlf', hshort⟩
    obtain ⟨hempty, hsize⟩ := htaken hlf
    rw [hempty, List.nil_append] at hlf' hshort
    refine ⟨available ++ coming, (hsilent _).mpr ⟨coming, hcoming, by rw [hunread]⟩, ?_, ?_⟩
    · simp [hlf, hlf']
    · rw [Line.content_append, List.length_append]
      omega

lemma Visits.undecided_iff {r r' : Reading} (h : r.Visits r') (hr : r.terminated = false) :
    r.Undecided ↔ r'.terminated = false ∧ r'.Undecided := by
  induction h with
  | refl => simp [hr]
  | tail _ hround ih =>
    rw [ih, hround.undecided_iff, and_iff_right]
    cases hround with
    | refill hopen _ _ => exact hopen.unterminated

end Reading

namespace LineStream

/-- A read is never answered exactly if it may take any time and the far end falls silent before it is
known how the line ends. -/
theorem readLineOnto_unanswered_iff {s : LineStream} (hroom : 0 < s.readCapacity) :
    (readLineOnto #[] s).1 = .error .unanswered ↔
      s.readTimeout = none ∧ (Reading.start s).Undecided := by
  obtain ⟨r, hvisits, hends⟩ := readLineOnto_eq_iff.mp (rfl : readLineOnto #[] s = _)
  obtain ⟨piece, htakes⟩ := hvisits.takes
  have htimeout : r.stream.readTimeout = s.readTimeout := htakes.readTimeout
  have hroom : 0 < r.stream.readCapacity := by
    rw [htakes.onward.readCapacity]
    exact hroom
  rw [hvisits.undecided_iff rfl, ← htimeout]
  generalize readLineOnto #[] s = outcome at hends ⊢
  cases hends with
  | tooLong hlong =>
    refine iff_of_false nofun ?_
    rintro ⟨-, -, hundecided⟩
    exact absurd hundecided.short (Nat.not_le.mpr hlong)
  | terminated hshort hended => simp [hended]
  | endOfStream hopen hrefill =>
    refine iff_of_false nofun ?_
    rintro ⟨-, -, octets, hoctets, -⟩
    exact not_fallsSilent_of_refill hroom hrefill hoctets
  | @fault f s' hopen hrefill =>
    constructor
    · rintro ⟨⟩
      obtain ⟨hlimit, hsilent⟩ := fallsSilent_of_refill hroom hrefill
      exact ⟨hlimit, hopen.unterminated, [], hsilent, by simp, hopen.short⟩
    · rintro ⟨hlimit, -, octets, hoctets, -⟩
      rw [unanswered_of_fallsSilent hroom hrefill hlimit hoctets]

/-! ### What follows what decides a read -/

/-- The same stream, but its far end goes on behind its script, and ends in some way. -/
def followed (more : List (Cue Delivery)) (ending : Ending) (s : LineStream) : LineStream :=
  { s with wire := s.wire.followed more ending }

lemma refill_followed {s : LineStream} (hstays : s.wire.StaysSilent) (hspeaks : ¬ s.FallsSilent [])
    (more : List (Cue Delivery)) (ending : Ending) :
    (s.followed more ending).refill = (s.refill.1, s.refill.2.followed more ending) := by
  by_cases hunread : s.unread = []
  · rcases hread : s.wire.read s.refillDeadline s.readCapacity with ⟨answer, w⟩
    rw [fallsSilent_of_empty hunread] at hspeaks
    have hread' := Wire.read_followed s.refillDeadline s.readCapacity hstays hspeaks more ending
    rw [hread] at hread'
    have hunread' : (s.followed more ending).unread = [] := hunread
    rw [refill_of_empty hunread hread, refill_of_empty hunread' hread']
    rfl
  · have hunread' : (s.followed more ending).unread ≠ [] := hunread
    rw [refill_of_unread hunread, refill_of_unread hunread']
    rfl

end LineStream

namespace Reading

variable {r r' : Reading}

/-- The same reading, of a stream whose far end goes on behind its script. -/
def followed (more : List (Cue Delivery)) (ending : Ending) (r : Reading) : Reading :=
  ⟨r.line, r.terminated, r.stream.followed more ending⟩

/-- What the far end does up to the end of its script decides how the line goes on. -/
structure Decided (r : Reading) : Prop where
  staysSilent : r.stream.wire.StaysSilent
  decided : r.terminated = false → ¬ r.Undecided

lemma Decided.refill_followed (h : r.Decided) (hopen : r.Open) (more : List (Cue Delivery))
    (ending : Ending) :
    (r.stream.followed more ending).refill
      = (r.stream.refill.1, r.stream.refill.2.followed more ending) := by
  refine LineStream.refill_followed h.staysSilent ?_ more ending
  intro hsilent
  exact h.decided hopen.unterminated ⟨[], hsilent, by simp, hopen.short⟩

lemma Round.decided (h : Round r r') (hr : r.Decided) : r'.Decided := by
  have hundecided := h.undecided_iff
  obtain @⟨available, s, hopen, hrefill, hne⟩ := h
  obtain ⟨hstays, -⟩ := LineStream.refill_fallsSilent hrefill hne
  refine ⟨hstays.mpr hr.staysSilent, ?_⟩
  intro hterm hnext
  exact hr.decided hopen.unterminated (hundecided.mpr ⟨hterm, hnext⟩)

lemma Round.followed (h : Round r r') (hr : r.Decided) (more : List (Cue Delivery))
    (ending : Ending) : Round (r.followed more ending) (r'.followed more ending) := by
  obtain @⟨available, s, hopen, hrefill, hne⟩ := h
  have hrefill' := hr.refill_followed hopen more ending
  rw [hrefill] at hrefill'
  have hopen' : (r.followed more ending).Open := ⟨hopen.unterminated, hopen.short⟩
  exact Round.refill hopen' hrefill' hne

lemma Visits.followed (h : r.Visits r') (hr : r.Decided) (more : List (Cue Delivery))
    (ending : Ending) :
    r'.Decided ∧ Visits (r.followed more ending) (r'.followed more ending) := by
  induction h with
  | refl => exact ⟨hr, .refl⟩
  | tail _ hround ih =>
    obtain ⟨hdecided, hvisits⟩ := ih
    exact ⟨hround.decided hdecided, hvisits.tail (hround.followed hdecided more ending)⟩

lemma Ends.followed {outcome} (h : r.Ends outcome) (hr : r.Decided) (more : List (Cue Delivery))
    (ending : Ending) :
    (r.followed more ending).Ends (outcome.1, outcome.2.followed more ending) := by
  cases h with
  | tooLong hlong => exact .tooLong hlong
  | terminated hshort hended => exact .terminated hshort hended
  | endOfStream hopen hrefill =>
    have hrefill' := hr.refill_followed hopen more ending
    rw [hrefill] at hrefill'
    exact .endOfStream ⟨hopen.unterminated, hopen.short⟩ hrefill'
  | fault hopen hrefill =>
    have hrefill' := hr.refill_followed hopen more ending
    rw [hrefill] at hrefill'
    exact .fault ⟨hopen.unterminated, hopen.short⟩ hrefill'

end Reading

namespace LineStream

/-- If a beginning of what the far end sends decides how a read ends, it makes no difference what
follows it. -/
theorem readLineOnto_followed {s : LineStream} (hstays : s.wire.StaysSilent)
    (hdecided : ¬ (Reading.start s).Undecided) (more : List (Cue Delivery)) (ending : Ending) :
    readLineOnto #[] (s.followed more ending)
      = ((readLineOnto #[] s).1, (readLineOnto #[] s).2.followed more ending) := by
  obtain ⟨r, hvisits, hends⟩ := readLineOnto_eq_iff.mp (rfl : readLineOnto #[] s = _)
  obtain ⟨hr, hvisits'⟩ := hvisits.followed ⟨hstays, fun _ => hdecided⟩ more ending
  exact readLineOnto_eq_iff.mpr ⟨_, hvisits', hends.followed hr more ending⟩

/-! ### Reads of a stream in use -/

open Reading (Visits Round)

/-- Whatever was called on a stream before: at every moment of a read its line exceeds the limit by no
more than the buffer holds, an answered line does not exceed it at all, and if a line is given up, what
was taken of it exceeds the limit, by no more than the buffer holds. Each round takes at least one octet.
So where there is room for reading, a read is answered unless it may take any time and the far end falls
silent, and what it sends before has no line feed and is not too long. What follows the octets that
decide this makes no difference, were it without end. -/
theorem readLineOctets_bounded {readCapacity writeCapacity : Nat} {wire : Wire} {opened : LineStream}
    (hopened : ofWire? readCapacity writeCapacity wire = some opened) (calls : List StreamCall)
    (loggable : Bool) :
    let s := StreamCall.after calls opened
    let run := (readLineOctets loggable).run s
    (∀ r, Visits (.start s) r → r.line.size ≤ s.maxLineLength + readCapacity) ∧
    (∀ line, run.result = .ok line → line.length ≤ s.maxLineLength) ∧
    (∀ e, run.result = .error (.failed e) → e.kind = .invalidData →
      FarEndFails s e run.state ∨
        e = lineTooLong s.maxLineLength ∧ ∃ piece, s.incoming = piece ++ run.state.incoming ∧
          s.maxLineLength < (Line.content piece).length ∧
          (Line.content piece).length ≤ s.maxLineLength + readCapacity) ∧
    (∀ r r', Visits (.start s) r → Round r r' →
      ∃ piece, piece ≠ [] ∧ r.stream.incoming = piece ++ r'.stream.incoming) ∧
    (0 < readCapacity →
      (run.result = .error .unanswered ↔ s.readTimeout = none ∧ (Reading.start s).Undecided)) ∧
    (s.wire.StaysSilent → ¬ (Reading.start s).Undecided → ∀ more ending,
      (readLineOctets loggable).run (s.followed more ending)
        = ⟨run.result, run.state.followed more ending, run.trace⟩) := by
  intro s run
  have hfresh : opened.readCapacity = readCapacity ∧ opened.unread = [] := by
    rw [ofWire?] at hopened
    split_ifs at hopened with hcapacities
    cases hopened
    exact ⟨rfl, rfl⟩
  have honward : Onward opened s := StreamCall.after_onward calls opened
  have hcapacity : s.readCapacity = readCapacity := honward.readCapacity.trans hfresh.1
  have hbuffered : s.unread.length ≤ s.readCapacity :=
    honward.buffered (by rw [hfresh.2]; exact Nat.zero_le _)
  have hstate : run.state = (readLineOnto #[] s).2 := state_readLineOctets loggable s
  have herror : ∀ f, run.result = .error f ↔ (readLineOnto #[] s).1 = .error f :=
    readLineOctets_eq_error_iff loggable s
  refine ⟨?_, ?_, ?_, ?_, ?_, ?_⟩
  · intro r hvisits
    rw [← hcapacity]
    exact hvisits.size_le hbuffered
  · intro line hline
    obtain ⟨line', terminated, hread, rfl⟩ := (readLineOctets_eq_ok_iff loggable s).mp hline
    rw [Array.length_toList]
    exact readLineOnto_ok_size (Prod.ext hread rfl)
  · intro e he hkind
    rw [hstate, ← hcapacity]
    exact readLineOnto_invalidData (Prod.ext ((herror _).mp he) rfl) hkind hbuffered
  · intro r r' hvisits hround
    obtain ⟨piece, htakes, hne, -⟩ := hround.takes
    obtain ⟨answers, hyields⟩ := htakes.yields
    exact ⟨piece, hne, hyields.incoming⟩
  · intro hroom
    rw [← hcapacity] at hroom
    rw [herror, readLineOnto_unanswered_iff hroom]
  · intro hstays hdecided more ending
    rw [run_readLineOctets, readLineOnto_followed hstays hdecided, hstate]
    simp only [run, run_readLineOctets]

/-- A far end that sends no line feed, and falls silent. -/
def neverEnding : Wire :=
  { Wire.idle with
    deliveries := .ofActs [.data [0x61, 0x0d, 0x61, 0x61], .data [0x61, 0x61]]
    afterDeliveries := .silence }

/-- Five octets that are no CR are too many for a limit of three, whatever follows them. -/
theorem readLineOctets_bounded_neverEnding :
    ∃ opened, ofWire? 3 0 neverEnding = some opened ∧
      let s := StreamCall.after [.setMaxLineLength 3] opened
      let run := (readLineOctets true).run s
      run.result = .error (.failed (lineTooLong 3)) ∧
        (∀ r, Visits (.start s) r → r.line.size ≤ 3 + 3) ∧
        ∀ more ending, ((readLineOctets true).run (s.followed more ending)).result = run.result := by
  have hopened : ofWire? 3 0 neverEnding = some (ofWire 3 0 neverEnding) := rfl
  obtain ⟨hsize, -, -, -, hanswered, hfollowed⟩ :=
    readLineOctets_bounded hopened [.setMaxLineLength 3] true
  have hresult : ((readLineOctets true).run (StreamCall.after [.setMaxLineLength 3]
      (ofWire 3 0 neverEnding))).result = .error (.failed (lineTooLong 3)) := by
    decide +kernel
  refine ⟨_, hopened, hresult, hsize, ?_⟩
  intro more ending
  rw [hfollowed ⟨rfl, rfl⟩ ?_ more ending]
  intro hundecided
  have hnever := (hanswered (by decide)).mpr ⟨rfl, hundecided⟩
  rw [hresult] at hnever
  cases hnever

end LineStream

end Mailwire
