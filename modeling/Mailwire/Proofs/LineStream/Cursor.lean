import Mailwire.Connection
import Mailwire.Proofs.LineStream.Bounded
import Mailwire.Proofs.LineStream.EndOfStream
import Mailwire.Proofs.Wire.Deadline

/-!
# Lines and raw reads share one buffer

A raw read of so many octets is served from what was read ahead, by refills, or past the buffer. Each of
its reads takes octets from the front of what is to come (`LineStream.readSome_takes`), as the refills of
a line do. So lines and raw reads in any order take consecutive pieces of one sequence of octets.

Where the far end sends data in time, a raw read is answered if and only if there are enough octets to come
(`LineStream.Steady.readExactOnto`), and what follows these makes no difference
(`LineStream.readExactOnto_followed`). Reads of both kinds then answer what a single position in the
sequence says that goes from one piece to the next (`ReadCall.calls_share_cursor`).
-/

namespace Mailwire

/-! ### Reads that may take any time -/

/-- A read that may take any time answers as well, and finds nothing only when nothing is to come. -/
theorem Wire.Steady.read_patient {limit : Option Nat} {w : Wire} (h : w.Steady limit) {room : Nat}
    (hroom : 0 < room) :
    ∃ octets w', w.read none room = (.ok octets, w') ∧ w'.Steady limit ∧
      (octets = [] → w.incoming = []) := by
  obtain ⟨octets, w', hread, hsteady, hend⟩ := h.read hroom
  refine ⟨octets, w', ?_, hsteady, hend⟩
  cases limit with
  | none => exact hread
  | some most =>
    have hread : w.read (some (Clock.after w.now most)) room = (.ok octets, w') := hread
    have hhurried := Wire.read_hurried room (Clock.le_after w.now most)
    rw [← hread]
    refine (hhurried.inTime ?_ ?_).symm
    · intro hunanswered
      have hlate := (hhurried.late (.inl hunanswered)).1
      rw [hread] at hlate
      cases hlate
    · by_contra hmoment
      have hlate := (hhurried.late (.inr (Nat.not_le.mp hmoment))).1
      rw [hread] at hlate
      cases hlate

namespace LineStream

/-! ### One read of a raw read -/

lemma fill_of_unread {deadline : Option Nat} {s : LineStream} (h : s.unread ≠ []) :
    s.fill deadline = (.ok s.unread, s) := by
  simp [fill, h]

lemma fill_of_empty {deadline : Option Nat} {s : LineStream} (h : s.unread = [])
    {answer : Except (Fault IoError) Octets} {w : Wire}
    (hread : s.wire.read deadline s.readCapacity = (answer, w)) :
    s.fill deadline = (answer, { s with wire := w, unread := Wire.found answer }) := by
  rcases answer with f | octets
  · simp [fill, h, hread, Wire.found]
  · simp [fill, h, hread, Wire.found]

lemma fill_frame (deadline : Option Nat) (s : LineStream) : SameInput s (s.fill deadline).2 := by
  by_cases hunread : s.unread = []
  · rcases hread : s.wire.read deadline s.readCapacity with ⟨answer, w⟩
    rw [fill_of_empty hunread hread]
    refine ⟨?_, rfl, rfl⟩
    rw [incoming, incoming, hunread, Wire.read_incoming hread]
    rfl
  · rw [fill_of_unread hunread]
    exact .refl s

/-- One read takes what it finds from the front of what is to come, and no more than was asked for. -/
theorem readSome_takes {room : Nat} {s s' : LineStream} {answer : Except (Fault IoError) Octets}
    (h : s.readSome room = (answer, s')) :
    s.incoming = Wire.found answer ++ s'.incoming ∧ (Wire.found answer).length ≤ room ∧
      s'.maxLineLength = s.maxLineLength := by
  rw [readSome] at h
  split_ifs at h with hdirect
  · have hunread : s.unread = [] := by simpa using hdirect.1
    rcases hread : s.wire.read none room with ⟨answer', w⟩
    rw [hread] at h
    cases h
    refine ⟨?_, ?_, rfl⟩
    · simp [incoming, hunread, Wire.read_incoming hread]
    · cases answer with
      | error f => exact Nat.zero_le room
      | ok octets => exact Wire.read_length_le hread
  · have hframe := fill_frame none s
    rcases hfill : s.fill none with ⟨f | octets, s₁⟩
    · rw [hfill] at h hframe
      cases h
      exact ⟨hframe.incoming.symm, Nat.zero_le room, hframe.maxLineLength⟩
    · rw [hfill] at h hframe
      cases h
      have hunread : s₁.unread = octets := (fill_ok hfill).1
      refine ⟨?_, List.length_take_le room octets, hframe.maxLineLength⟩
      rw [← hframe.incoming]
      simp only [incoming, consume, Wire.found, hunread]
      rw [← List.append_assoc, List.take_append_drop]

/-- One read from a steady far end answers, and finds nothing only when nothing is to come. -/
lemma Steady.readSome {s : LineStream} (hs : s.Steady) {room : Nat} (hroom : 0 < room) :
    ∃ octets s', s.readSome room = (.ok octets, s') ∧ s'.Steady ∧
      (octets = [] → s.incoming = []) := by
  rw [LineStream.readSome]
  split_ifs with hdirect
  · have hunread : s.unread = [] := by simpa using hdirect.1
    obtain ⟨octets, w, hread, hsteady, hend⟩ := hs.wire.read_patient hroom
    rw [hread]
    refine ⟨octets, _, rfl, ⟨hs.room, hsteady⟩, fun hnil => ?_⟩
    rw [incoming, hunread, hend hnil]
    rfl
  · by_cases hunread : s.unread = []
    · obtain ⟨octets, w, hread, hsteady, hend⟩ := hs.wire.read_patient hs.room
      rw [fill_of_empty hunread hread]
      refine ⟨octets.take room, _, rfl, ⟨hs.room, hsteady⟩, fun hnil => ?_⟩
      have hnone : octets = [] := (List.take_eq_nil_iff.mp hnil).resolve_left hroom.ne'
      rw [incoming, hunread, hend hnone]
      rfl
    · rw [fill_of_unread hunread]
      refine ⟨s.unread.take room, _, rfl, hs.consume room, fun hnil => ?_⟩
      exact absurd ((List.take_eq_nil_iff.mp hnil).resolve_left hroom.ne') hunread

/-! ### One raw read -/

/-- A raw read takes one piece of what is to come. If it succeeds, this is what it answers, and it is as
long as was asked for. -/
theorem readExactOnto_takes (got : Array UInt8) (missing : Nat) (s : LineStream) :
    ∃ piece, s.incoming = piece ++ (readExactOnto got missing s).2.incoming ∧
      (readExactOnto got missing s).2.maxLineLength = s.maxLineLength ∧
      ∀ octets, (readExactOnto got missing s).1 = .ok octets →
        octets = got.toList ++ piece ∧ piece.length = missing := by
  fun_induction readExactOnto got missing s with
  | case1 got s => exact ⟨[], rfl, rfl, by rintro _ ⟨⟩; simp⟩
  | case2 got missing s hmissing s' hread =>
    obtain ⟨hincoming, -, hmax⟩ := readSome_takes hread
    exact ⟨[], hincoming, hmax, by rintro _ ⟨⟩⟩
  | case3 got missing s hmissing b more s' hread ih =>
    obtain ⟨hincoming, hroom, hmax⟩ := readSome_takes hread
    obtain ⟨piece, hrest, hmax', hok⟩ := ih
    refine ⟨(b :: more) ++ piece, ?_, hmax'.trans hmax, ?_⟩
    · rw [hincoming, Wire.found, hrest, List.append_assoc]
    · intro octets hoctets
      obtain ⟨rfl, hlength⟩ := hok octets hoctets
      have hroom : (b :: more).length ≤ missing := hroom
      refine ⟨by simp, ?_⟩
      rw [List.length_append, hlength]
      omega
  | case4 got missing s hmissing e s' hread hinterrupted ih =>
    obtain ⟨hincoming, -, hmax⟩ := readSome_takes hread
    obtain ⟨piece, hrest, hmax', hok⟩ := ih
    exact ⟨piece, by rw [hincoming, Wire.found, hrest, List.nil_append], hmax'.trans hmax, hok⟩
  | case5 got missing s hmissing e s' hread hinterrupted =>
    obtain ⟨hincoming, -, hmax⟩ := readSome_takes hread
    exact ⟨[], hincoming, hmax, by rintro _ ⟨⟩⟩
  | case6 got missing s hmissing s' hread =>
    obtain ⟨hincoming, -, hmax⟩ := readSome_takes hread
    exact ⟨[], hincoming, hmax, by rintro _ ⟨⟩⟩

/-- A raw read from a steady far end is answered if there are enough octets to come. If not, it takes
what there is, and fails. -/
theorem Steady.readExactOnto (got : Array UInt8) (missing : Nat) {s : LineStream} (hs : s.Steady) :
    let r := LineStream.readExactOnto got missing s
    r.1 = (if missing ≤ s.incoming.length then .ok (got.toList ++ s.incoming.take missing)
        else .error (.failed Wire.earlyEnd)) ∧
      r.2.Steady ∧ r.2.incoming = s.incoming.drop missing := by
  fun_induction LineStream.readExactOnto got missing s with
  | case1 got s => simp [hs]
  | case2 got missing s hmissing s' hread =>
    obtain ⟨octets, s₁, hread₁, hs', hend⟩ := hs.readSome (Nat.pos_of_ne_zero hmissing)
    rw [hread] at hread₁
    cases hread₁
    obtain ⟨hincoming, -, -⟩ := readSome_takes hread
    have hnil : s.incoming = [] := hend rfl
    have hnil' : s'.incoming = [] := by rw [← hnil, hincoming]; rfl
    exact ⟨by simp [hnil, hmissing], hs', by rw [hnil, hnil', List.drop_nil]⟩
  | case3 got missing s hmissing b more s' hread ih =>
    obtain ⟨octets, s₁, hread₁, hs', -⟩ := hs.readSome (Nat.pos_of_ne_zero hmissing)
    rw [hread] at hread₁
    cases hread₁
    obtain ⟨hincoming, hroom, -⟩ := readSome_takes hread
    have hroom : (b :: more).length ≤ missing := hroom
    have hincoming : s.incoming = (b :: more) ++ s'.incoming := hincoming
    obtain ⟨hresult, hsteady, hrest⟩ := ih hs'
    refine ⟨?_, hsteady, ?_⟩
    · have hlength : s.incoming.length = (b :: more).length + s'.incoming.length := by
        rw [hincoming, List.length_append]
      have henough : missing - (b :: more).length ≤ s'.incoming.length ↔
          missing ≤ s.incoming.length := by
        omega
      rw [hresult, if_congr henough ?_ rfl]
      · rw [hincoming, List.take_append, List.take_of_length_le hroom]
        simp
    · rw [hrest, hincoming, List.drop_append, List.drop_of_length_le hroom, List.nil_append]
  | case4 got missing s hmissing e s' hread hinterrupted ih =>
    obtain ⟨octets, s₁, hread₁, -⟩ := hs.readSome (Nat.pos_of_ne_zero hmissing)
    rw [hread] at hread₁
    cases hread₁
  | case5 got missing s hmissing e s' hread hinterrupted =>
    obtain ⟨octets, s₁, hread₁, -⟩ := hs.readSome (Nat.pos_of_ne_zero hmissing)
    rw [hread] at hread₁
    cases hread₁
  | case6 got missing s hmissing s' hread =>
    obtain ⟨octets, s₁, hread₁, -⟩ := hs.readSome (Nat.pos_of_ne_zero hmissing)
    rw [hread] at hread₁
    cases hread₁

/-! ### What follows the octets that are read -/

/-- The far end sends data in time, and then there is silence. -/
structure Quiet (s : LineStream) : Prop where
  stays : s.wire.StaysSilent
  steady : (s.followed [] .eof).Steady

lemma incoming_followed (more : List (Cue Delivery)) (ending : Ending) (s : LineStream) :
    (s.followed more ending).incoming = s.incoming ++ Delivery.payload more := by
  simp [incoming, Wire.incoming, followed, Wire.followed, Delivery.payload_append]

/-- What comes before the silence is all that comes. -/
lemma Quiet.eq_incoming {s : LineStream} (h : s.Quiet) {octets : Octets}
    (hsilent : s.FallsSilent octets) : octets = s.incoming := by
  have hpayload : ∀ {limit began silence behind cues coming},
      Delivery.Steady limit began silence cues → Delivery.FallsSilent behind cues coming →
        coming = Delivery.payload cues := by
    intro limit began silence behind cues coming hsteady hcoming
    induction hcoming generalizing began silence with
    | ends => rfl
    | stall => exact hsteady.elim
    | wait ms _ ih => exact ih hsteady
    | data chunk _ ih => exact congrArg (chunk ++ ·) (ih hsteady.2.2)
  obtain ⟨_, ⟨coming, hcoming, rfl⟩, rfl⟩ := hsilent
  have hscript := h.steady.wire.script
  simp only [followed, Wire.followed, List.append_nil] at hscript
  rw [hpayload hscript hcoming]
  rfl

/-- A stream that goes on from a quiet one, and is steady if the far end then closes, is quiet. -/
lemma Quiet.of_onward {s s' : LineStream} (h : s.Quiet) (honward : Onward s s')
    (hsteady : (s'.followed [] .eof).Steady) : s'.Quiet :=
  ⟨⟨honward.wire.ending.trans h.stays.1, hsteady.wire.uncut⟩, hsteady⟩

/-- The same octets may come with silence behind them. -/
lemma Steady.exists_quiet {s : LineStream} (hs : s.Steady) :
    ∃ quiet : LineStream, quiet.Quiet ∧ quiet.maxLineLength = s.maxLineLength ∧
      quiet.incoming = s.incoming ∧
      ∀ more ending, quiet.followed more ending = s.followed more ending := by
  have hclosed : (s.followed [] .silence).followed [] .eof = s := by
    simp [followed, Wire.followed, ← hs.wire.closes]
  refine ⟨s.followed [] .silence, ⟨⟨rfl, hs.wire.uncut⟩, by rw [hclosed]; exact hs⟩, rfl, ?_, ?_⟩
  · rw [incoming_followed, Delivery.payload, List.append_nil]
  · intro more ending
    simp [followed, Wire.followed]

lemma fill_followed {deadline : Option Nat} {s : LineStream} (hstays : s.wire.StaysSilent)
    (hspeaks : ¬ s.FallsSilent []) (more : List (Cue Delivery)) (ending : Ending) :
    (s.followed more ending).fill deadline
      = ((s.fill deadline).1, (s.fill deadline).2.followed more ending) := by
  by_cases hunread : s.unread = []
  · rcases hread : s.wire.read deadline s.readCapacity with ⟨answer, w⟩
    rw [fallsSilent_of_empty hunread] at hspeaks
    have hread' := Wire.read_followed deadline s.readCapacity hstays hspeaks more ending
    rw [hread] at hread'
    have hunread' : (s.followed more ending).unread = [] := hunread
    rw [fill_of_empty hunread hread, fill_of_empty hunread' hread']
    rfl
  · have hunread' : (s.followed more ending).unread ≠ [] := hunread
    rw [fill_of_unread hunread, fill_of_unread hunread']
    rfl

lemma readSome_followed (room : Nat) {s : LineStream} (hstays : s.wire.StaysSilent)
    (hspeaks : ¬ s.FallsSilent []) (more : List (Cue Delivery)) (ending : Ending) :
    (s.followed more ending).readSome room
      = ((s.readSome room).1, (s.readSome room).2.followed more ending) := by
  have hfill : (s.followed more ending).fill none
      = ((s.fill none).1, (s.fill none).2.followed more ending) := fill_followed hstays hspeaks more ending
  rw [readSome, readSome]
  by_cases hdirect : s.unread.isEmpty ∧ s.readCapacity ≤ room
  · have hdirect' : (s.followed more ending).unread.isEmpty ∧
        (s.followed more ending).readCapacity ≤ room := hdirect
    have hunread : s.unread = [] := by simpa using hdirect.1
    rw [fallsSilent_of_empty hunread] at hspeaks
    rw [if_pos hdirect, if_pos hdirect']
    have hread := Wire.read_followed none room hstays hspeaks more ending
    rw [show (s.followed more ending).wire = s.wire.followed more ending from rfl, hread]
    rfl
  · have hdirect' : ¬ ((s.followed more ending).unread.isEmpty ∧
        (s.followed more ending).readCapacity ≤ room) := hdirect
    rw [if_neg hdirect, if_neg hdirect', hfill]
    rcases s.fill none with ⟨f | octets, s'⟩
    · rfl
    · rfl

/-- One read of a quiet stream from which something is to come answers some of it, whatever follows. -/
lemma Quiet.readSome {s : LineStream} (h : s.Quiet) (hcoming : s.incoming ≠ []) {room : Nat}
    (hroom : 0 < room) :
    ∃ b octets s', s.readSome room = (.ok (b :: octets), s') ∧ s'.Quiet ∧
      ∀ more ending, (s.followed more ending).readSome room
        = (.ok (b :: octets), s'.followed more ending) := by
  have hfollowed := readSome_followed room h.stays fun hsilent => hcoming (h.eq_incoming hsilent).symm
  have hincoming : (s.followed [] .eof).incoming = s.incoming := by
    rw [incoming_followed, Delivery.payload, List.append_nil]
  obtain ⟨octets, s₁, hread₁, hsteady, hend⟩ := h.steady.readSome hroom
  rcases hread : s.readSome room with ⟨answer, s'⟩
  rw [hread] at hfollowed
  rw [hfollowed] at hread₁
  cases hread₁
  cases octets with
  | nil => exact absurd (hincoming ▸ hend rfl) hcoming
  | cons b octets =>
    have honward := readSome_onward room s
    rw [hread] at honward
    exact ⟨b, octets, s', rfl, h.of_onward honward hsteady, hfollowed⟩

/-- A raw read for which there are enough octets is not changed by what follows them. -/
theorem readExactOnto_followed (got : Array UInt8) (missing : Nat) {s : LineStream} (h : s.Quiet)
    (henough : missing ≤ s.incoming.length) (more : List (Cue Delivery)) (ending : Ending) :
    readExactOnto got missing (s.followed more ending)
      = ((readExactOnto got missing s).1, (readExactOnto got missing s).2.followed more ending) := by
  have hnext : ∀ {missing} {s : LineStream}, s.Quiet → missing ≠ 0 → missing ≤ s.incoming.length →
      ∃ b octets s', s.readSome missing = (.ok (b :: octets), s') ∧ s'.Quiet ∧
        ∀ more ending, (s.followed more ending).readSome missing
          = (.ok (b :: octets), s'.followed more ending) := by
    intro missing s h hmissing henough
    refine h.readSome ?_ (Nat.pos_of_ne_zero hmissing)
    intro hnil
    rw [hnil, List.length_nil] at henough
    omega
  fun_induction readExactOnto got missing s with
  | case1 got s => simp [readExactOnto]
  | case2 got missing s hmissing s' hread =>
    obtain ⟨b, octets, s₁, hread₁, -⟩ := hnext h hmissing henough
    rw [hread] at hread₁
    cases hread₁
  | case3 got missing s hmissing b octets s' hread ih =>
    obtain ⟨b₁, octets₁, s₁, hread₁, hquiet, hfollowed⟩ := hnext h hmissing henough
    rw [hread] at hread₁
    cases hread₁
    obtain ⟨hincoming, -, -⟩ := readSome_takes hread
    rw [readExactOnto, if_neg hmissing, hfollowed more ending]
    refine ih hquiet ?_
    rw [hincoming, Wire.found, List.length_append] at henough
    omega
  | case4 got missing s hmissing e s' hread hinterrupted ih =>
    obtain ⟨b, octets, s₁, hread₁, -⟩ := hnext h hmissing henough
    rw [hread] at hread₁
    cases hread₁
  | case5 got missing s hmissing e s' hread hinterrupted =>
    obtain ⟨b, octets, s₁, hread₁, -⟩ := hnext h hmissing henough
    rw [hread] at hread₁
    cases hread₁
  | case6 got missing s hmissing s' hread =>
    obtain ⟨b, octets, s₁, hread₁, -⟩ := hnext h hmissing henough
    rw [hread] at hread₁
    cases hread₁

/-- A line that is answered is what the read has of it. -/
lemma Concluded.eq_whole {s : LineStream} {answers : List (Except (Fault IoError) Octets)}
    {piece whole line : Octets} (h : Concluded s answers piece whole (.ok line)) : line = whole := by
  cases h with
  | terminated => rfl
  | endOfStream => rfl

end LineStream

/-! ### Calls of both kinds -/

/-- A call that reads: a line, or so many octets through the buffer of the stream. -/
inductive ReadCall
  | line (loggable : Bool)
  | exact (count : Nat)
deriving DecidableEq, Repr

namespace ReadCall

def task : ReadCall → Task LineStream (Fault IoError) Octets
  | .line loggable => LineStream.readLineOctets loggable
  | .exact count => Task.step (LineStream.readExact count)

/-- The runs of calls that are made one after another, whatever became of those before. -/
def runs (calls : List ReadCall) (s : LineStream) : List (Run LineStream (Fault IoError) Octets) :=
  Task.runs (calls.map task) s

lemma task_onward (call : ReadCall) (s : LineStream) :
    LineStream.Onward s (call.task.run s).state := by
  cases call with
  | line loggable =>
    rw [task, LineStream.state_readLineOctets]
    exact LineStream.readLineOnto_onward #[] s
  | exact count => exact LineStream.readExactOnto_onward #[] count s

/-! ### Pieces of what is to come -/

/-- What it means for a call on a stream over some wire that it answers the octets of a piece: all of
them, as many as were asked for, or those of a line that the piece is. If there is room for reading, only
the last line is without a line feed. -/
def Answers (wire : Wire) (piece octets : Octets) (s' : LineStream) : ReadCall → Prop
  | .line _ => octets = Line.content piece ∧ Octets.lf ∉ piece.dropLast ∧
    (0 < s'.readCapacity → Octets.lf ∈ piece ∨ LineStream.AtEnd wire s')
  | .exact count => octets = piece ∧ piece.length = count

lemma Answers.of_onward {call : ReadCall} {w w' : Wire} {piece octets : Octets} {s' : LineStream}
    (h : call.Answers w' piece octets s') (honward : w.Onward w') : call.Answers w piece octets s' := by
  cases call with
  | line loggable =>
    obtain ⟨hcontent, hlf, hends⟩ := h
    exact ⟨hcontent, hlf, fun hroom => (hends hroom).imp_right (·.of_onward honward)⟩
  | exact count => exact h

/-- A call takes one piece of what is to come, and a success answers the octets of the piece. -/
lemma task_takes (call : ReadCall) (s : LineStream) :
    ∃ piece, s.incoming = piece ++ (call.task.run s).state.incoming ∧
      ∀ octets, (call.task.run s).result = .ok octets →
        call.Answers s.wire piece octets (call.task.run s).state := by
  cases call with
  | line loggable =>
    obtain ⟨piece, hincoming, hok⟩ := LineStream.readLineOnto_terminated s
    obtain ⟨answers, piece', hyields, hlf, hconcluded⟩ := LineStream.readLineOnto_yields #[] s
    obtain rfl : piece = piece' := by
      have hincoming' := hyields.incoming
      rwa [hincoming, List.append_cancel_right_eq] at hincoming'
    refine ⟨piece, ?_, ?_⟩
    · rw [task, LineStream.state_readLineOctets]
      exact hincoming
    · intro octets hoctets
      obtain ⟨line, terminated, hread, rfl⟩ :=
        (LineStream.readLineOctets_eq_ok_iff loggable s).mp hoctets
      obtain ⟨hterm, hend⟩ := hok line terminated hread
      have hcapacity := (LineStream.readLineOnto_onward #[] s).readCapacity
      rw [hread] at hconcluded
      rw [task, LineStream.state_readLineOctets]
      refine ⟨by simpa using hconcluded.eq_whole, hlf, fun hroom => ?_⟩
      rw [hcapacity] at hroom
      cases terminated with
      | true => exact .inl (hterm.mp rfl)
      | false => exact .inr (hend rfl hroom)
  | exact count =>
    obtain ⟨piece, hincoming, -, hok⟩ := LineStream.readExactOnto_takes #[] count s
    refine ⟨piece, hincoming, ?_⟩
    intro octets hoctets
    obtain ⟨hpiece, hlength⟩ := hok octets hoctets
    exact ⟨by simpa using hpiece, hlength⟩

/-! ### One position in what is to come -/

/-- What a call takes from the front of what is to come. -/
def piece (octets : Octets) : ReadCall → Octets
  | .line _ => Line.segment octets
  | .exact count => octets.take count

/-- What is to come behind a call. -/
def behind (octets : Octets) (call : ReadCall) : Octets := octets.drop (call.piece octets).length

/-- What a call is to answer. -/
def answer (octets : Octets) : ReadCall → Except (Fault IoError) Octets
  | .line _ => .ok (Line.content (Line.segment octets))
  | .exact count =>
    if count ≤ octets.length then .ok (octets.take count) else .error (.failed Wire.earlyEnd)

/-- What calls in a row are to answer: each goes on where the one before it has stopped. -/
def answers : List ReadCall → Octets → List (Except (Fault IoError) Octets)
  | [], _ => []
  | call :: more, octets => call.answer octets :: answers more (call.behind octets)

/-- What is to come behind calls in a row. -/
def rest : List ReadCall → Octets → Octets
  | [], octets => octets
  | call :: more, octets => rest more (call.behind octets)

/-- Each call in a row finds what it needs where the one before it has stopped. -/
def Along (finds : Octets → ReadCall → Prop) : List ReadCall → Octets → Prop
  | [], _ => True
  | call :: more, octets => finds octets call ∧ Along finds more (call.behind octets)

/-- A line is not too long. -/
def Fits (max : Nat) (octets : Octets) : ReadCall → Prop
  | .line _ => (Line.content (Line.segment octets)).length ≤ max
  | .exact _ => True

/-- A whole line is to come, or there are enough octets. -/
def Served (octets : Octets) : ReadCall → Prop
  | .line _ => Octets.lf ∈ octets
  | .exact count => count ≤ octets.length

instance (max : Nat) (octets : Octets) (call : ReadCall) : Decidable (Fits max octets call) :=
  match call with
  | .line _ => inferInstanceAs (Decidable (_ ≤ max))
  | .exact _ => inferInstanceAs (Decidable True)

instance (octets : Octets) (call : ReadCall) : Decidable (Served octets call) :=
  match call with
  | .line _ => inferInstanceAs (Decidable (Octets.lf ∈ octets))
  | .exact count => inferInstanceAs (Decidable (count ≤ octets.length))

instance Along.decidable (finds : Octets → ReadCall → Prop)
    [∀ octets call, Decidable (finds octets call)] :
    (calls : List ReadCall) → (octets : Octets) → Decidable (Along finds calls octets)
  | [], _ => inferInstanceAs (Decidable True)
  | call :: more, octets =>
    have := Along.decidable finds more (call.behind octets)
    inferInstanceAs (Decidable (finds octets call ∧ Along finds more (call.behind octets)))

lemma behind_exact (octets : Octets) (count : Nat) :
    behind octets (.exact count) = octets.drop count := by
  rw [behind, piece, List.length_take]
  rcases Nat.le_total count octets.length with hle | hle
  · rw [Nat.min_eq_left hle]
  · rw [Nat.min_eq_right hle, List.drop_length, List.drop_of_length_le hle]

/-- A call on a stream with a steady far end goes on at the position where the stream is. -/
lemma run_steady (call : ReadCall) {s : LineStream} (hs : s.Steady)
    (hfits : call.Fits s.maxLineLength s.incoming) :
    (call.task.run s).result = call.answer s.incoming ∧ (call.task.run s).state.Steady ∧
      (call.task.run s).state.maxLineLength = s.maxLineLength ∧
      (call.task.run s).state.incoming = call.behind s.incoming := by
  cases call with
  | line loggable =>
    have hfits : ¬ s.maxLineLength < (Line.content (Line.segment s.incoming)).length :=
      Nat.not_lt.mpr hfits
    have hread := LineStream.readLineOnto_steady #[] s hs (Nat.zero_le _)
    simp only [List.nil_append] at hread
    rw [if_neg hfits] at hread
    obtain ⟨line, s', hread, hline, hs', hmax, hdrop⟩ := hread
    rw [task, LineStream.run_readLineOctets, hread]
    exact ⟨congrArg Except.ok hline, hs', hmax, hdrop⟩
  | exact count =>
    obtain ⟨hresult, hs', hdrop⟩ := hs.readExactOnto #[] count
    obtain ⟨-, -, hmax, -⟩ := LineStream.readExactOnto_takes #[] count s
    refine ⟨?_, hs', hmax, ?_⟩
    · rw [answer]
      exact hresult
    · rw [behind_exact]
      exact hdrop

lemma runs_steady (calls : List ReadCall) {s : LineStream} (hs : s.Steady)
    (hfits : Along (Fits s.maxLineLength) calls s.incoming) :
    (runs calls s).map (·.result) = answers calls s.incoming ∧
      (Task.after (calls.map task) s).incoming = rest calls s.incoming := by
  induction calls generalizing s with
  | nil => exact ⟨rfl, rfl⟩
  | cons call more ih =>
    obtain ⟨hfirst, hmore⟩ := hfits
    obtain ⟨hresult, hs', hmax, hbehind⟩ := call.run_steady hs hfirst
    rw [← hmax, ← hbehind] at hmore
    obtain ⟨hresults, hrest⟩ := ih hs' hmore
    rw [hbehind] at hresults hrest
    exact ⟨congrArg₂ List.cons hresult hresults, hrest⟩

/-- A call on a quiet stream that finds what it needs goes on at the position where the stream is, and is
not changed by what follows. -/
lemma run_quiet (call : ReadCall) {s : LineStream} (hs : s.Quiet)
    (hfits : call.Fits s.maxLineLength s.incoming) (hserved : call.Served s.incoming) :
    (call.task.run s).result = call.answer s.incoming ∧ (call.task.run s).state.Quiet ∧
      (call.task.run s).state.maxLineLength = s.maxLineLength ∧
      (call.task.run s).state.incoming = call.behind s.incoming ∧
      ∀ more ending, call.task.run (s.followed more ending)
        = ⟨(call.task.run s).result, (call.task.run s).state.followed more ending,
            (call.task.run s).trace⟩ := by
  have hclosed : ∀ s : LineStream, (s.followed [] .eof).incoming = s.incoming := by
    intro s
    rw [LineStream.incoming_followed, Delivery.payload, List.append_nil]
  have hfollowed : ∀ more ending, call.task.run (s.followed more ending)
      = ⟨(call.task.run s).result, (call.task.run s).state.followed more ending,
          (call.task.run s).trace⟩ := by
    intro more ending
    cases call with
    | line loggable =>
      have hdecided : ¬ (Reading.start s).Undecided := by
        rintro ⟨octets, hsilent, hlf, -⟩
        rw [hs.eq_incoming hsilent] at hlf
        exact hlf hserved
      simp only [task, LineStream.run_readLineOctets]
      rw [LineStream.readLineOnto_followed hs.stays hdecided]
    | exact count =>
      have hread := LineStream.readExactOnto_followed #[] count hs hserved more ending
      simp only [task, Task.run_step, LineStream.readExact]
      rw [hread]
  obtain ⟨hresult, hsteady, hmax, hbehind⟩ :=
    call.run_steady hs.steady (by rw [hclosed]; exact hfits)
  rw [hfollowed] at hresult hsteady hmax hbehind
  rw [hclosed] at hresult hbehind
  rw [hclosed] at hbehind
  exact ⟨hresult, hs.of_onward (call.task_onward s) hsteady, hmax, hbehind, hfollowed⟩

lemma runs_quiet (calls : List ReadCall) {s : LineStream} (hs : s.Quiet)
    (hfits : Along (Fits s.maxLineLength) calls s.incoming)
    (hserved : Along Served calls s.incoming) (more : List (Cue Delivery)) (ending : Ending) :
    (runs calls (s.followed more ending)).map (·.result) = answers calls s.incoming := by
  induction calls generalizing s with
  | nil => rfl
  | cons call others ih =>
    obtain ⟨hfirst, hfits⟩ := hfits
    obtain ⟨hfound, hserved⟩ := hserved
    obtain ⟨hresult, hs', hmax, hbehind, hfollowed⟩ := call.run_quiet hs hfirst hfound
    rw [← hbehind] at hserved hfits
    rw [← hmax] at hfits
    have hresults := ih hs' hfits hserved
    rw [hbehind] at hresults
    rw [runs, List.map_cons, Task.runs, hfollowed]
    exact congrArg₂ List.cons hresult hresults

/-- Each call takes the piece of what is to come that follows the pieces of the calls in front of it. -/
lemma runs_take_pieces (calls : List ReadCall) (s : LineStream) :
    ∃ pieces : List Octets, pieces.length = calls.length ∧
      ∀ i call, calls[i]? = some call → ∃ run piece, (runs calls s)[i]? = some run ∧
        pieces[i]? = some piece ∧
        s.incoming = (pieces.take (i + 1)).flatten ++ run.state.incoming ∧
        ∀ octets, run.result = .ok octets → call.Answers s.wire piece octets run.state := by
  induction calls generalizing s with
  | nil => exact ⟨[], rfl, by simp⟩
  | cons call more ih =>
    obtain ⟨piece, hincoming, hok⟩ := call.task_takes s
    obtain ⟨pieces, hlength, hpieces⟩ := ih (call.task.run s).state
    refine ⟨piece :: pieces, by simp [hlength], ?_⟩
    intro i call' hcall
    cases i with
    | zero =>
      cases hcall
      exact ⟨_, piece, rfl, rfl, by simpa using hincoming, hok⟩
    | succ i =>
      obtain ⟨run, piece', hrun, hpiece', hrest, hok'⟩ := hpieces i call' hcall
      refine ⟨run, piece', hrun, hpiece', ?_, ?_⟩
      · rw [hincoming, hrest, List.take_succ_cons, List.flatten_cons, List.append_assoc]
      · intro octets hoctets
        exact (hok' octets hoctets).of_onward (call.task_onward s).wire

/-- A connection passes the calls on to its lines. -/
lemma runs_onLines (calls : List ReadCall) (c : Connection) :
    (Task.runs (calls.map fun call => Connection.onLines call.task) c).map (·.result)
      = (runs calls c.lines).map (·.result) := by
  induction calls generalizing c with
  | nil => rfl
  | cons call more ih => exact congrArg₂ List.cons rfl (ih _)

/-- Calls of both kinds in any order take consecutive pieces of what is to come, one piece each, whether
they succeed or not. A success answers the octets of its piece: a raw read all of them, and as many as
were asked for, a line those of the one line that the piece is.

If the far end sends data in time and no line is too long, calls answer what a single position says that
goes from piece to piece, and a raw read fails only if there are not enough octets. Neither the chunks
nor the capacities make a difference, nor does what follows the octets that the calls need: an open
connection, a failure, or more octets. All this holds of the lines of a connection. -/
theorem calls_share_cursor (calls : List ReadCall) :
    (∀ s : LineStream, ∃ pieces : List Octets, pieces.length = calls.length ∧
      ∀ i call, calls[i]? = some call → ∃ run piece, (runs calls s)[i]? = some run ∧
        pieces[i]? = some piece ∧
        s.incoming = (pieces.take (i + 1)).flatten ++ run.state.incoming ∧
        ∀ octets, run.result = .ok octets → call.Answers s.wire piece octets run.state) ∧
    (∀ s : LineStream, s.Steady → Along (Fits s.maxLineLength) calls s.incoming →
      (runs calls s).map (·.result) = answers calls s.incoming ∧
      (Task.after (calls.map task) s).incoming = rest calls s.incoming ∧
      (Along Served calls s.incoming → ∀ more ending,
        (runs calls (s.followed more ending)).map (·.result) = answers calls s.incoming)) ∧
    (∀ (chunks : List Octets) (readCapacity writeCapacity : Nat) (timeout : Option Duration)
        (max : Nat),
      (∀ chunk ∈ chunks, chunk ≠ []) → 0 < readCapacity → Along (Fits max) calls chunks.flatten →
      (runs calls (.ofChunks chunks readCapacity writeCapacity timeout max)).map (·.result)
        = answers calls chunks.flatten) ∧
    ∀ c : Connection, (Task.runs (calls.map fun call => Connection.onLines call.task) c).map (·.result)
      = (runs calls c.lines).map (·.result) := by
  refine ⟨runs_take_pieces calls, ?_, ?_, runs_onLines calls⟩
  · intro s hs hfits
    obtain ⟨hresults, hrest⟩ := runs_steady calls hs hfits
    refine ⟨hresults, hrest, ?_⟩
    intro hserved more ending
    obtain ⟨quiet, hquiet, hmax, hincoming, hfollowed⟩ := hs.exists_quiet
    rw [← hmax, ← hincoming] at hfits
    rw [← hincoming] at hserved
    rw [← hfollowed, ← hincoming]
    exact runs_quiet calls hquiet hfits hserved more ending
  · intro chunks readCapacity writeCapacity timeout max hchunks hroom hfits
    let s : LineStream := .ofChunks chunks readCapacity writeCapacity timeout max
    have hsteady : s.Steady := LineStream.steady_ofChunks hchunks hroom writeCapacity timeout max
    have hincoming : s.incoming = chunks.flatten := Wire.incoming_ofChunks chunks
    rw [← hincoming] at hfits ⊢
    exact (runs_steady calls hsteady hfits).1

/-- A literal of four octets between two lines. Its CR and LF are cut apart, and it is too large for the
buffer. -/
def literal : LineStream :=
  .ofChunks [[0x7b, 0x34, 0x7d, 0x0d], [0x0a, 0x61, 0x0d], [0x0a, 0x62, 0x29, 0x0d, 0x0a]] 2 512
    none 3

/-- Nothing of the literal is lost, even if the connection then breaks. -/
theorem calls_share_cursor_literal :
    (runs [.line true, .exact 4, .line false]
        (literal.followed [.act (.fail .connectionReset)] .silence)).map (·.result)
      = [.ok [0x7b, 0x34, 0x7d], .ok [0x61, 0x0d, 0x0a, 0x62], .ok [0x29]] := by
  obtain ⟨-, hsteady, -⟩ := calls_share_cursor [.line true, .exact 4, .line false]
  have hliteral : literal.Steady := LineStream.steady_ofChunks (by decide) (by decide) _ _ _
  obtain ⟨-, -, hfollowed⟩ := hsteady literal hliteral (by decide +kernel)
  rw [hfollowed (by decide +kernel)]
  decide +kernel

end ReadCall

end Mailwire
