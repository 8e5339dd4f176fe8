import Mailwire.Proofs.LineStream.Reading
import Mailwire.Proofs.LineStream.Writing
import Mailwire.Proofs.Wire.Relabel

/-!
# Streams look for line ends only

Relabelling a stream changes the octets on its wire and in its buffers. Writing does not look at any
octets, and reading a line looks only for CR and LF, so both commute with a relabelling that keeps
these two apart from all others (`LineStream.writeAll_relabel`, `LineStream.readLineOnto_relabel`).
-/

namespace Mailwire

/-- Changes no line end, and makes none. -/
structure KeepsLineEnds (f : UInt8 → UInt8) : Prop where
  cr : ∀ b, f b = Octets.cr ↔ b = Octets.cr
  lf : ∀ b, f b = Octets.lf ↔ b = Octets.lf

namespace Line

variable {f : UInt8 → UInt8}

lemma segment_map (hf : KeepsLineEnds f) (octets : Octets) :
    segment (octets.map f) = (segment octets).map f := by
  induction octets with
  | nil => rfl
  | cons b rest ih =>
    rw [List.map_cons, segment_cons, segment_cons, ih]
    by_cases hb : b = Octets.lf
    · rw [if_pos hb, if_pos ((hf.lf b).mpr hb)]
      rfl
    · rw [if_neg hb, if_neg (mt (hf.lf b).mp hb)]
      rfl

lemma content_map (hf : KeepsLineEnds f) (octets : Octets) :
    content (octets.map f) = (content octets).map f := by
  rw [content, content, List.filter_map]
  congr 2
  funext b
  rw [Bool.eq_iff_iff]
  simp [hf.cr, hf.lf]

lemma isTerminated_segment_map (hf : KeepsLineEnds f) (octets : Octets) :
    isTerminated ((segment octets).map f) = isTerminated (segment octets) := by
  rw [Bool.eq_iff_iff, ← segment_map hf, isTerminated_segment, isTerminated_segment, List.mem_map]
  constructor
  · rintro ⟨b, hb, hlf⟩
    rwa [← (hf.lf b).mp hlf]
  · intro hlf
    exact ⟨_, hlf, (hf.lf _).mpr rfl⟩

end Line

namespace LineStream

variable (f g : UInt8 → UInt8)

/-- The stream with other octets: `f` changes those that come in, and `g` those that go out. -/
def relabel (s : LineStream) : LineStream :=
  { s with
    wire := s.wire.relabel f g
    unread := s.unread.map f
    pending := s.pending.map g }

lemma incoming_relabel (s : LineStream) : (s.relabel f g).incoming = s.incoming.map f := by
  rw [incoming, incoming, List.map_append, ← Wire.incoming_relabel f g]
  rfl

/-! ### Reading -/

lemma consume_relabel (count : Nat) (s : LineStream) :
    (s.relabel f g).consume count = (s.consume count).relabel f g := by
  simp [consume, relabel]

lemma refill_relabel (s : LineStream) :
    (s.relabel f g).refill = (s.refill.1.map (List.map f), s.refill.2.relabel f g) := by
  by_cases hunread : s.unread = []
  · rcases hread : s.wire.read s.refillDeadline s.readCapacity with ⟨answer, w⟩
    have hread' := Wire.read_relabel f g s.refillDeadline s.readCapacity s.wire
    rw [hread] at hread'
    have hunread' : (s.relabel f g).unread = [] := by simp [relabel, hunread]
    rw [refill_of_empty hunread hread, refill_of_empty hunread' hread']
    cases answer <;> rfl
  · have hunread' : (s.relabel f g).unread ≠ [] := by simpa [relabel] using hunread
    rw [refill_of_unread hunread, refill_of_unread hunread']
    rfl

variable {f}

/-- After a refill a relabelled stream goes on as the stream itself does. -/
lemma readLineOnto_relabel_of_refill (hf : KeepsLineEnds f) {line : Array UInt8}
    {s s' : LineStream} {available : Octets} (hrefill : s.refill = (.ok available, s'))
    (hne : available ≠ []) :
    let line' := line ++ Line.content (Line.segment available)
    let s'' := s'.consume (Line.segment available).length
    readLineOnto (line.map f) (s.relabel f g) =
      if s.maxLineLength < line'.size then
        (.error (.failed (lineTooLong s.maxLineLength)), s''.relabel f g)
      else if Line.isTerminated (Line.segment available) then
        (.ok (line'.map f, true), s''.relabel f g)
      else readLineOnto (line'.map f) (s''.relabel f g) := by
  have hne' : available.map f ≠ [] := by simpa using hne
  have hline : line.map f ++ (Line.content (Line.segment available)).map f
      = (line ++ Line.content (Line.segment available)).map f := by
    apply Array.toList_inj.mp
    simp
  rw [readLineOnto_eq, refill_relabel, hrefill]
  simp only [Except.map, if_neg hne', Line.segment_map hf, Line.content_map hf,
    Line.isTerminated_segment_map hf, hline, List.length_map, Array.size_map, consume_relabel]
  rfl

/-- A line that is read from a relabelled stream is the relabelled line, and it ends in the same
way. -/
theorem readLineOnto_relabel (hf : KeepsLineEnds f) (line : Array UInt8) (s : LineStream) :
    readLineOnto (line.map f) (s.relabel f g)
      = ((readLineOnto line s).1.map (fun (line, terminated) => (line.map f, terminated)),
          (readLineOnto line s).2.relabel f g) := by
  fun_induction readLineOnto line s with
  | case1 line s fault s' hrefill =>
    rw [readLineOnto_eq, refill_relabel, hrefill]
    rfl
  | case2 line s s' hrefill =>
    rw [readLineOnto_eq, refill_relabel, hrefill]
    rfl
  | case3 line s available s' hrefill hne segment line' s'' hlong =>
    rw [readLineOnto_relabel_of_refill g hf hrefill hne, if_pos hlong]
    rfl
  | case4 line s available s' hrefill hne segment line' s'' hlong hterm =>
    rw [readLineOnto_relabel_of_refill g hf hrefill hne, if_neg hlong, if_pos hterm]
    rfl
  | case5 line s available s' hrefill hne segment line' s'' hlong hterm ih =>
    rw [readLineOnto_relabel_of_refill g hf hrefill hne, if_neg hlong, if_neg hterm]
    exact ih

/-! ### Writing -/

variable (f)

lemma sendPending_relabel (deadline : Option Nat) (s : LineStream) :
    (s.relabel f g).sendPending deadline
      = ((s.sendPending deadline).1, (s.sendPending deadline).2.relabel f g) := by
  have hwrite := Wire.writeAll_relabel f g deadline bufferStuck s.pending s.wire
  exact congrArg (fun (answer : _ × _ × _) =>
    (answer.1, { s.relabel f g with pending := answer.2.1, wire := answer.2.2 })) hwrite

lemma flush_relabel (deadline : Option Nat) (s : LineStream) :
    (s.relabel f g).flush deadline
      = ((s.flush deadline).1, (s.flush deadline).2.relabel f g) := by
  rw [flush, flush, sendPending_relabel]
  rcases s.sendPending deadline with ⟨_ | _, s'⟩ <;> rfl

lemma shutdown_relabel (deadline : Option Nat) (s : LineStream) :
    (s.relabel f g).shutdown deadline
      = ((s.shutdown deadline).1, (s.shutdown deadline).2.relabel f g) := by
  rw [shutdown, shutdown, sendPending_relabel]
  rcases s.sendPending deadline with ⟨_ | _, s'⟩ <;> rfl

lemma makeRoom_relabel (octets : Octets) (s : LineStream) :
    (s.relabel f g).makeRoom (octets.map g)
      = ((s.makeRoom octets).1, (s.makeRoom octets).2.relabel f g) := by
  have hlength : (s.relabel f g).pending.length + (octets.map g).length
      = s.pending.length + octets.length := by
    simp [relabel]
  rw [makeRoom, makeRoom, hlength, sendPending_relabel]
  show (if s.writeCapacity < _ then _ else _) = _
  split_ifs <;> rfl

lemma put_relabel (octets : Octets) (s : LineStream) :
    (s.relabel f g).put (octets.map g)
      = ((s.put octets).1, (s.put octets).2.relabel f g) := by
  have hwrite := Wire.write_relabel f g none octets s.wire
  rw [put, put, List.length_map]
  show (if s.writeCapacity ≤ _ then _ else _) = _
  split_ifs
  · exact congrArg (fun (answer : _ × _) => (answer.1, { s.relabel f g with wire := answer.2 })) hwrite
  · simp [relabel]

/-- After room was made a relabelled stream goes on as the stream itself does. -/
lemma writeAll_relabel_of_makeRoom {octets : Octets} {s s' s'' : LineStream}
    {answer : Except (Fault IoError) Nat} (hne : ¬ octets.isEmpty)
    (hroom : s.makeRoom octets = (.ok (), s')) (hput : s'.put octets = (answer, s'')) :
    (s.relabel f g).writeAll (octets.map g) =
      match answer with
      | .ok 0 => (.error (.failed Wire.stuck), s''.relabel f g)
      | .ok (n + 1) => (s''.relabel f g).writeAll ((octets.drop (n + 1)).map g)
      | .error (.failed e) =>
        if e.kind = .interrupted then (s''.relabel f g).writeAll (octets.map g)
        else (.error (.failed e), s''.relabel f g)
      | .error .unanswered => (.error .unanswered, s''.relabel f g) := by
  have hne' : octets.map g ≠ [] := by simpa using hne
  have hroom' : (s.relabel f g).makeRoom (octets.map g) = (.ok (), s'.relabel f g) := by
    rw [makeRoom_relabel, hroom]
  have hput' : (s'.relabel f g).put (octets.map g) = (answer, s''.relabel f g) := by
    rw [put_relabel, hput]
  rw [writeAll_of_makeRoom hne' hroom' hput']
  simp only [List.map_drop]
  rcases answer with (_ | _) | (_ | _) <;> rfl

/-- Writing does not depend on which octets are written or pending. -/
theorem writeAll_relabel (octets : Octets) (s : LineStream) :
    (s.relabel f g).writeAll (octets.map g)
      = ((s.writeAll octets).1, (s.writeAll octets).2.relabel f g) := by
  fun_induction writeAll octets s with
  | case1 octets s hempty =>
    rw [writeAll_eq, List.isEmpty_map, if_pos hempty]
  | case2 octets s hne fault s' hroom =>
    rw [writeAll_eq, List.isEmpty_map, if_neg hne, makeRoom_relabel, hroom]
  | case3 octets s hne s' hroom s'' hput => rw [writeAll_relabel_of_makeRoom f g hne hroom hput]
  | case4 octets s hne s' hroom n s'' hput ih =>
    rw [writeAll_relabel_of_makeRoom f g hne hroom hput]
    exact ih
  | case5 octets s hne s' hroom e s'' hput hinterrupted ih =>
    rw [writeAll_relabel_of_makeRoom f g hne hroom hput]
    dsimp only
    rw [if_pos hinterrupted, ih]
  | case6 octets s hne s' hroom e s'' hput hinterrupted =>
    rw [writeAll_relabel_of_makeRoom f g hne hroom hput]
    dsimp only
    rw [if_neg hinterrupted]
  | case7 octets s hne s' hroom s'' hput => rw [writeAll_relabel_of_makeRoom f g hne hroom hput]

lemma send_relabel (octets : Octets) (s : LineStream) :
    (s.relabel f g).send (octets.map g)
      = ((s.send octets).1, (s.send octets).2.relabel f g) := by
  rw [send, send, writeAll_relabel]
  rcases s.writeAll octets with ⟨_ | _, s'⟩
  · rfl
  · exact flush_relabel f g none s'

end LineStream

end Mailwire
