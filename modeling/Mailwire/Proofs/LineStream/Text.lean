import Mailwire.Proofs.LineStream.Cursor
import Mailwire.Proofs.LineStream.RoundTrip
import Mailwire.Proofs.Text.Lossy

/-!
# Lines that are read as texts

A read of a text is a read of octets with an answer that is decoded: strict decoding has the same
answer as lossy decoding where it has one (`LineStream.readLine_eq`). So it takes the same octets,
fails in the same cases, and leaves the same log, and it answers the text of the whole line
(`LineStream.AnswersText`). The text is decided by the piece of a line that is taken, so it makes no
difference where this piece was cut on its way (`LineStream.readLine_lossy`).
-/

namespace Mailwire

namespace LineStream

/-! ### One text -/

/-- A read has taken a piece from the front of what was to come, which is one line or, if there is room
for reading, what there was of it at the end of the stream, and has answered the text of the whole piece.
The log shows this text, if it may, behind what it says of the end of the stream. -/
structure AnswersText (s : LineStream) (loggable : Bool) (piece : Octets) (answer : String)
    (run : Run LineStream (Fault IoError) String) : Prop where
  incoming : s.incoming = piece ++ run.state.incoming
  one_line : Octets.lf ∉ piece.dropLast
  ended : 0 < run.state.readCapacity → Octets.lf ∈ piece ∨ AtEnd s.wire run.state
  lossy : ∀ text, Text.Lossy (Line.content piece) text ↔ text = answer
  valid : ∀ text, Line.content piece = Octets.ofString text → answer = text
  trace : run.trace
    = (if Octets.lf ∈ piece then [] else [.log .endOfStream]) ++ shown loggable answer
  message : (LogEvent.received answer).message = "<<< " ++ answer

lemma readLine_eq_error_iff {loggable : Bool} {s : LineStream} {f : Fault IoError} :
    ((readLine loggable).run s).result = .error f ↔
      ((readLineOctets loggable).run s).result = .error f := by
  rw [readLine_eq, Task.run_map]
  rcases ((readLineOctets loggable).run s).result with f' | line
  · simp [Except.map]
  · simp [Except.map]

/-- A read that fails logs nothing. -/
lemma trace_readLine_of_error {loggable : Bool} {s : LineStream} {f : Fault IoError}
    (h : ((readLine loggable).run s).result = .error f) :
    ((readLine loggable).run s).trace = [] := by
  rw [readLine_eq_error_iff, readLineOctets_eq_error_iff] at h
  rw [readLine_eq, Task.run_map, run_readLineOctets, h]

/-- A text that is answered is that of the piece that was taken. -/
lemma readLine_answers {loggable : Bool} {s : LineStream} {answer : String}
    (h : ((readLine loggable).run s).result = .ok answer) :
    ∃ piece, ((readLineOctets loggable).run s).result = .ok (Line.content piece) ∧
      AnswersText s loggable piece answer ((readLine loggable).run s) := by
  rcases hread : readLineOnto #[] s with ⟨f | ⟨line, terminated⟩, s'⟩
  · rw [readLine_eq, Task.run_map, run_readLineOctets, hread] at h
    cases h
  · have htext := run_readLine_of_ok hread loggable
    rw [htext] at h
    obtain rfl : Text.decodeLossy line.toList = answer := Except.ok.inj h
    have hline : ((readLineOctets loggable).run s).result = .ok line.toList := by
      rw [run_readLineOctets, hread]
      rfl
    have hstate : ((readLineOctets loggable).run s).state = s' := by
      rw [state_readLineOctets, hread]
    obtain ⟨piece, hincoming, hpiece⟩ := (ReadCall.line loggable).task_takes s
    obtain ⟨hcontent, hone, hended⟩ := hpiece _ hline
    rw [ReadCall.task, hstate] at hincoming hended
    have hterm : terminated = true ↔ Octets.lf ∈ piece := by
      obtain ⟨piece', hincoming', hpiece'⟩ := readLineOnto_terminated s
      rw [hread] at hincoming' hpiece'
      obtain rfl : piece = piece' := by
        rwa [hincoming, List.append_cancel_right_eq] at hincoming'
      exact (hpiece' line terminated rfl).1
    refine ⟨piece, by rw [hline, hcontent], ?_⟩
    rw [htext, hcontent]
    constructor
    · exact hincoming
    · exact hone
    · exact hended
    · exact Text.lossy_iff _
    · rintro text hvalid
      rw [hvalid, Text.decodeLossy_ofString]
    · simp only [hterm]
    · rfl

/-! ### Chunks -/

/-- What runs in a row answer and log, up to the first failure, which is included. -/
def observed {α : Type} : List (Run LineStream (Fault IoError) α) →
    List (Except (Fault IoError) α × List Event)
  | [] => []
  | run :: more =>
    (run.result, run.trace) :: match run.result with
      | .ok _ => observed more
      | .error _ => []

/-- What a read of a text comes to in a steady stream is decided by the octets that are to come. -/
lemma Steady.readLine {s : LineStream} (hs : s.Steady) (loggable : Bool) :
    let piece := Line.segment s.incoming
    if s.maxLineLength < (Line.content piece).length then
      ∃ s', (readLine loggable).run s = ⟨.error (.failed (lineTooLong s.maxLineLength)), s', []⟩
    else
      ∃ s', (readLine loggable).run s
          = ⟨.ok (Text.decodeLossy (Line.content piece)), s',
              (if Line.isTerminated piece then [] else [.log .endOfStream])
                ++ shown loggable (Text.decodeLossy (Line.content piece))⟩ ∧
        s'.Steady ∧ s'.maxLineLength = s.maxLineLength ∧
        s'.incoming = s.incoming.drop piece.length := by
  have hread := readLineOnto_steady #[] s hs (Nat.zero_le _)
  simp only [List.nil_append] at hread
  dsimp only
  by_cases hlong : s.maxLineLength < (Line.content (Line.segment s.incoming)).length
  · rw [if_pos hlong] at hread ⊢
    refine ⟨(readLineOnto #[] s).2, ?_⟩
    rw [readLine_eq, Task.run_map, run_readLineOctets, hread]
    rfl
  · rw [if_neg hlong] at hread ⊢
    obtain ⟨line, s', hread, hline, hs', hmax, hdrop⟩ := hread
    rw [← hline]
    exact ⟨s', run_readLine_of_ok hread loggable, hs', hmax, hdrop⟩

/-- Steady streams with the same octets to come are not told apart by reads of texts. -/
lemma Steady.observed_eq {s s' : LineStream} (hs : s.Steady) (hs' : s'.Steady)
    (hmax : s.maxLineLength = s'.maxLineLength) (hincoming : s.incoming = s'.incoming)
    (flags : List Bool) :
    observed (Task.runs (flags.map LineStream.readLine) s)
      = observed (Task.runs (flags.map LineStream.readLine) s') := by
  induction flags generalizing s s' with
  | nil => rfl
  | cons loggable more ih =>
    have hread := hs.readLine loggable
    have hread' := hs'.readLine loggable
    rw [← hmax, ← hincoming] at hread'
    dsimp only at hread hread'
    rw [List.map_cons, Task.runs, Task.runs]
    by_cases hlong : s.maxLineLength < (Line.content (Line.segment s.incoming)).length
    · rw [if_pos hlong] at hread hread'
      obtain ⟨s₁, hread⟩ := hread
      obtain ⟨s₁', hread'⟩ := hread'
      rw [hread, hread']
      rfl
    · rw [if_neg hlong] at hread hread'
      obtain ⟨s₁, hread, hs₁, hmax₁, hincoming₁⟩ := hread
      obtain ⟨s₁', hread', hs₁', hmax₁', hincoming₁'⟩ := hread'
      have hrest := ih hs₁ hs₁' (hmax₁.trans hmax₁'.symm) (hincoming₁.trans hincoming₁'.symm)
      rw [hread, hread', observed, observed, hrest]

/-- A read of a text takes the same octets as a read of octets, leaves the same log, and fails in the
same cases with the same fault; if it fails, it logs nothing. If it answers, then with the text of the
whole line, which the log shows, if it may.

It makes no difference to the text how its octets have arrived. Reads that take the same octets answer
the same text, whatever else the far ends do. Where they only send data and close, in time, reads in a
row answer and log the same up to the first failure, whatever the chunks and the capacities are. -/
theorem readLine_lossy :
    (∀ (loggable : Bool) (s : LineStream),
      let octets := (readLineOctets loggable).run s
      let text := (readLine loggable).run s
      text.state = octets.state ∧ text.trace = octets.trace ∧
      (∀ f, text.result = .error f ↔ octets.result = .error f) ∧
      (∀ f, text.result = .error f → text.trace = []) ∧
      ∀ answer, text.result = .ok answer →
        ∃ piece, octets.result = .ok (Line.content piece) ∧
          AnswersText s loggable piece answer text) ∧
    (∀ (s s' : LineStream) (loggable loggable' : Bool) (answer answer' : String) (piece : Octets),
      let text := (readLine loggable).run s
      let text' := (readLine loggable').run s'
      text.result = .ok answer → s.incoming = piece ++ text.state.incoming →
      text'.result = .ok answer' → s'.incoming = piece ++ text'.state.incoming →
      answer = answer') ∧
    (∀ (s s' : LineStream), s.Steady → s'.Steady → s.maxLineLength = s'.maxLineLength →
      s.incoming = s'.incoming → ∀ flags : List Bool,
      observed (Task.runs (flags.map readLine) s)
        = observed (Task.runs (flags.map readLine) s')) ∧
    ∀ (chunks chunks' : List Octets) (readCapacity readCapacity' writeCapacity writeCapacity' : Nat)
        (timeout timeout' : Option Duration) (max : Nat),
      0 < readCapacity → 0 < readCapacity' →
      (∀ chunk ∈ chunks, chunk ≠ []) → (∀ chunk ∈ chunks', chunk ≠ []) →
      chunks.flatten = chunks'.flatten → ∀ flags : List Bool,
      observed (Task.runs (flags.map readLine)
          (ofChunks chunks readCapacity writeCapacity timeout max))
        = observed (Task.runs (flags.map readLine)
          (ofChunks chunks' readCapacity' writeCapacity' timeout' max)) := by
  refine ⟨?_, ?_, ?_, ?_⟩
  · intro loggable s octets text
    refine ⟨?_, ?_, fun f => readLine_eq_error_iff, fun f => trace_readLine_of_error,
      fun answer => readLine_answers⟩
    · simp only [text, octets, readLine_eq, Task.run_map]
    · simp only [text, octets, readLine_eq, Task.run_map]
  · intro s s' loggable loggable' answer answer' piece text text' h hpiece h' hpiece'
    obtain ⟨taken, -, hanswers⟩ := readLine_answers h
    obtain ⟨taken', -, hanswers'⟩ := readLine_answers h'
    obtain rfl : piece = taken := by
      have hincoming := hanswers.incoming
      rwa [hpiece, List.append_cancel_right_eq] at hincoming
    obtain rfl : piece = taken' := by
      have hincoming := hanswers'.incoming
      rwa [hpiece', List.append_cancel_right_eq] at hincoming
    exact (hanswers'.lossy answer).mp ((hanswers.lossy answer).mpr rfl)
  · intro s s' hs hs' hmax hincoming flags
    exact hs.observed_eq hs' hmax hincoming flags
  · intro chunks chunks' readCapacity readCapacity' writeCapacity writeCapacity' timeout timeout' max
      hroom hroom' hchunks hchunks' hflatten flags
    have hincoming := hflatten
    rw [← incoming_ofChunks chunks readCapacity writeCapacity timeout max,
      ← incoming_ofChunks chunks' readCapacity' writeCapacity' timeout' max] at hincoming
    exact (steady_ofChunks hchunks hroom _ timeout max).observed_eq
      (steady_ofChunks hchunks' hroom' _ timeout' max) rfl hincoming flags

/-- A line in which a CR stands inside a character, and behind the character an octet that begins
none. -/
def joined : LineStream :=
  ofChunks [[0x66, 0xe2, 0x82], [0x0d, 0xac, 0xff], [0x0a]] 2 512 none 8

/-- The character is joined again, in these chunks and in others. A read that fails behind its first
octet logs nothing. -/
theorem readLine_lossy_joined :
    (∃ piece, AnswersText joined true piece "f€\uFFFD" ((readLine true).run joined)) ∧
      observed (Task.runs ([true, false].map readLine)
          (ofChunks [[0x66], [0xe2], [0x82, 0x0d, 0xac], [0xff, 0x0a]] 1 0 none 8))
        = [(.ok "f€\uFFFD", [.log (.received "f€\uFFFD")]), (.ok "", [.log .endOfStream])] ∧
      ((readLine true).run brokenOff).trace = [] := by
  obtain ⟨hread, -, -, hchunks⟩ := readLine_lossy
  refine ⟨?_, ?_, ?_⟩
  · obtain ⟨-, -, -, -, hanswers⟩ := hread true joined
    obtain ⟨piece, -, hanswers⟩ := hanswers "f€\uFFFD" (by decide +kernel)
    exact ⟨piece, hanswers⟩
  · have hsame := hchunks [[0x66, 0xe2, 0x82], [0x0d, 0xac, 0xff], [0x0a]]
      [[0x66], [0xe2], [0x82, 0x0d, 0xac], [0xff, 0x0a]] 2 1 512 0 none none 8 (by decide)
      (by decide) (by decide) (by decide) rfl [true, false]
    rw [← hsame]
    decide +kernel
  · obtain ⟨-, -, -, htrace, -⟩ := hread true brokenOff
    exact htrace (.failed .connectionReset) (by decide +kernel)

end LineStream

end Mailwire
