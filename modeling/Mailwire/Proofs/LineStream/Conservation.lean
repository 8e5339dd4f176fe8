import Mailwire.Proofs.LineStream.Reading

/-!
# What becomes of the octets that are read

A stream goes from one state to another by reads of its wire, and it hands out octets in the order in
which they were delivered. What it has not handed out is read ahead (`LineStream.Yields`). A refill
hands out nothing, taking from the buffer hands out its front, and a row of such steps hands out what
its members do, one behind the other.

A read of a line hands out one piece, whether it succeeds or not (`LineStream.readLineOnto_yields`).
If it fails after some refills, the piece is lost, but what was read ahead is not. So reads in a row
hand out consecutive pieces of what was delivered, however successes and failures are mixed
(`LineStream.reads_conserve`).
-/

namespace Mailwire

namespace Line

/-- A segment has a line feed only at its end. -/
lemma lf_notMem_dropLast_segment (available : Octets) :
    Octets.lf ∉ (segment available).dropLast := by
  induction available with
  | nil => simp
  | cons b rest ih =>
    rw [segment_cons]
    by_cases hb : b = Octets.lf
    · simp [hb]
    · rw [if_neg hb]
      by_cases hrest : segment rest = []
      · simp [hrest]
      · rw [List.dropLast_cons_of_ne_nil hrest, List.mem_cons, not_or]
        exact ⟨Ne.symm hb, ih⟩

/-- Octets without a line feed may stand in front of a piece. -/
lemma lf_notMem_dropLast_append {front piece : Octets} (hfront : Octets.lf ∉ front)
    (hpiece : Octets.lf ∉ piece.dropLast) : Octets.lf ∉ (front ++ piece).dropLast := by
  rw [List.dropLast_append]
  split_ifs
  · intro h
    exact hfront (List.mem_of_mem_dropLast h)
  · rw [List.mem_append, not_or]
    exact ⟨hfront, hpiece⟩

end Line

namespace LineStream

/-! ### Handing out octets -/

/-- A stream goes from `s` to `s'` by reads of its wire that have these answers, and has then handed
out a piece of the octets. All others that were delivered are read ahead. -/
structure Yields (s : LineStream) (answers : List (Except (Fault IoError) Octets)) (piece : Octets)
    (s' : LineStream) : Prop where
  reads : s.wire.Reads (s.readTimeout.map Duration.ticks) s.readCapacity answers s'.wire
  balance : s.unread ++ answers.flatMap Wire.found = piece ++ s'.unread
  readTimeout : s'.readTimeout = s.readTimeout
  readCapacity : s'.readCapacity = s.readCapacity
  maxLineLength : s'.maxLineLength = s.maxLineLength

namespace Yields

variable {s s₁ s₂ : LineStream} {answers more : List (Except (Fault IoError) Octets)}
  {piece next : Octets}

protected lemma refl (s : LineStream) : Yields s [] [] s :=
  ⟨.nil s.wire, by simp, rfl, rfl, rfl⟩

protected lemma trans (h : Yields s answers piece s₁) (h' : Yields s₁ more next s₂) :
    Yields s (answers ++ more) (piece ++ next) s₂ := by
  constructor
  · have hmore := h'.reads
    rw [h.readTimeout, h.readCapacity] at hmore
    exact h.reads.append hmore
  · calc s.unread ++ (answers ++ more).flatMap Wire.found
        = s.unread ++ answers.flatMap Wire.found ++ more.flatMap Wire.found := by
          rw [List.flatMap_append, List.append_assoc]
      _ = piece ++ (s₁.unread ++ more.flatMap Wire.found) := by
          rw [h.balance, List.append_assoc]
      _ = piece ++ next ++ s₂.unread := by rw [h'.balance, List.append_assoc]
  · exact h'.readTimeout.trans h.readTimeout
  · exact h'.readCapacity.trans h.readCapacity
  · exact h'.maxLineLength.trans h.maxLineLength

/-- What is handed out is the front of what is to be read. -/
lemma incoming (h : Yields s answers piece s₁) : s.incoming = piece ++ s₁.incoming := by
  calc s.unread ++ s.wire.incoming
      = s.unread ++ answers.flatMap Wire.found ++ s₁.wire.incoming := by
        rw [h.reads.incoming, List.append_assoc]
    _ = piece ++ (s₁.unread ++ s₁.wire.incoming) := by rw [h.balance, List.append_assoc]

/-- The front of the buffer is handed out. -/
lemma consume {front : Octets} (hfront : front <+: s.unread) :
    Yields s [] front (s.consume front.length) := by
  obtain ⟨behind, hunread⟩ := hfront
  refine ⟨.nil s.wire, ?_, rfl, rfl, rfl⟩
  simp [LineStream.consume, ← hunread]

/-- A refill that succeeds hands out nothing. If the buffer is still empty then, its read has found
nothing. -/
lemma refill_ok {available : Octets} (h : s.refill = (.ok available, s₁)) :
    ∃ answers, Yields s answers [] s₁ ∧ s₁.unread = available ∧
      (available = [] → answers = [.ok []]) := by
  by_cases hunread : s.unread = []
  · rcases hread : s.wire.read s.refillDeadline s.readCapacity with ⟨f | octets, w⟩
    · rw [refill_of_empty hunread hread] at h
      cases h
    · rw [refill_of_empty hunread hread] at h
      cases h
      rw [refillDeadline_eq] at hread
      refine ⟨_, ⟨.cons hread (.nil w), ?_, rfl, rfl, rfl⟩, rfl, ?_⟩
      · simp [hunread, Wire.found]
      · rintro rfl
        rfl
  · rw [refill_of_unread hunread] at h
    cases h
    refine ⟨[], .refl s, rfl, ?_⟩
    intro hnil
    exact absurd hnil hunread

/-- A refill, and taking the first segment of what it has found. -/
lemma segment {available : Octets} (h : s.refill = (.ok available, s₁)) :
    ∃ answers, Yields s answers (Line.segment available)
      (s₁.consume (Line.segment available).length) := by
  obtain ⟨answers, hrefill, rfl, -⟩ := refill_ok h
  have hprefix : Line.segment s₁.unread <+: s₁.unread := List.take_prefix _ _
  exact ⟨_, hrefill.trans (consume hprefix)⟩

/-- A refill that fails hands out nothing either. -/
lemma refill_error {f : Fault IoError} (h : s.refill = (.error f, s₁)) :
    ∃ fault, Yields s [.error fault] [] s₁ ∧ f = refillFault s.readTimeout fault := by
  by_cases hunread : s.unread = []
  · rcases hread : s.wire.read s.refillDeadline s.readCapacity with ⟨fault | octets, w⟩
    · rw [refill_of_empty hunread hread] at h
      cases h
      rw [refillDeadline_eq] at hread
      refine ⟨fault, ⟨.cons hread (.nil w), ?_, rfl, rfl, rfl⟩, rfl⟩
      simp [hunread, Wire.found]
    · rw [refill_of_empty hunread hread] at h
      cases h
  · rw [refill_of_unread hunread] at h
    cases h

end Yields

/-! ### One read -/

/-- How a read of a line may end that has handed out a piece, when `whole` is what it has of the
line. -/
inductive Concluded (s : LineStream) (answers : List (Except (Fault IoError) Octets))
    (piece whole : Octets) : Except (Fault IoError) Octets → Prop
  | terminated (ends : piece.getLast? = some Octets.lf) : Concluded s answers piece whole (.ok whole)
  | endOfStream (last : answers.getLast? = some (.ok [])) :
      Concluded s answers piece whole (.ok whole)
  | tooLong (long : s.maxLineLength < whole.length) :
      Concluded s answers piece whole (.error (.failed (lineTooLong s.maxLineLength)))
  /-- The stream has failed before there was a line feed. -/
  | fault {f : Fault IoError} (last : answers.getLast? = some (.error f))
      (unterminated : Octets.lf ∉ piece) :
      Concluded s answers piece whole (.error (refillFault s.readTimeout f))

/-- Reads make no difference to what a later read may end with. -/
lemma Concluded.of_settings {s s₁ : LineStream}
    {answers earlier : List (Except (Fault IoError) Octets)} {front piece whole : Octets}
    {result : Except (Fault IoError) Octets} (h : Concluded s₁ answers piece whole result)
    (hyields : Yields s earlier front s₁) : Concluded s answers piece whole result := by
  cases h with
  | terminated hends => exact .terminated hends
  | endOfStream hlast => exact .endOfStream hlast
  | tooLong hlong =>
    rw [hyields.maxLineLength] at hlong ⊢
    exact .tooLong hlong
  | fault hlast hpiece =>
    rw [hyields.readTimeout]
    exact .fault hlast hpiece

/-- The end of a read is the end of one that has begun with a piece without a line feed. -/
lemma Concluded.of_rest {s s₁ : LineStream} {answers more : List (Except (Fault IoError) Octets)}
    {front piece whole : Octets} {result : Except (Fault IoError) Octets}
    (h : Concluded s₁ more piece whole result) (hyields : Yields s answers front s₁)
    (hfront : Octets.lf ∉ front) :
    Concluded s (answers ++ more) (front ++ piece) whole result := by
  cases h.of_settings hyields with
  | terminated hends => exact .terminated (by simp [List.getLast?_append, hends])
  | endOfStream hlast => exact .endOfStream (by simp [List.getLast?_append, hlast])
  | tooLong hlong => exact .tooLong hlong
  | fault hlast hpiece =>
    apply Concluded.fault
    · simp [List.getLast?_append, hlast]
    · rw [List.mem_append, not_or]
      exact ⟨hfront, hpiece⟩

/-- Reading on with a line that was begun hands out one piece, which has a line feed only at its
end. -/
theorem readLineOnto_yields (line : Array UInt8) (s : LineStream) :
    ∃ answers piece, Yields s answers piece (readLineOnto line s).2 ∧
      Octets.lf ∉ piece.dropLast ∧
      Concluded s answers piece (line.toList ++ Line.content piece)
        ((readLineOnto line s).1.map (·.1.toList)) := by
  fun_induction readLineOnto line s with
  | case1 line s f s' hrefill =>
    obtain ⟨fault, hyields, rfl⟩ := Yields.refill_error hrefill
    exact ⟨_, [], hyields, by simp, .fault rfl (by simp)⟩
  | case2 line s s' hrefill =>
    obtain ⟨answers, hyields, -, hend⟩ := Yields.refill_ok hrefill
    have hlast : answers.getLast? = some (.ok []) := by rw [hend rfl]; rfl
    refine ⟨answers, [], hyields, by simp, ?_⟩
    simpa [Line.content, Except.map] using Concluded.endOfStream hlast
  | case3 line s available s' hrefill hne segment line' s'' hlong =>
    obtain ⟨answers, hyields⟩ := Yields.segment hrefill
    refine ⟨answers, segment, hyields, Line.lf_notMem_dropLast_segment available, ?_⟩
    apply Concluded.tooLong
    rw [List.length_append, Array.length_toList, ← Line.size_append_content]
    exact hlong
  | case4 line s available s' hrefill hne segment line' s'' hlong hterm =>
    obtain ⟨answers, hyields⟩ := Yields.segment hrefill
    refine ⟨answers, segment, hyields, Line.lf_notMem_dropLast_segment available, ?_⟩
    have hwhole : line.toList ++ Line.content segment = line'.toList := by simp [line']
    rw [hwhole]
    exact .terminated (by simpa [Line.isTerminated] using hterm)
  | case5 line s available s' hrefill hne segment line' s'' hlong hterm ih =>
    obtain ⟨answers, hyields⟩ := Yields.segment hrefill
    obtain ⟨more, piece, hrest, hpiece, hconcluded⟩ := ih
    have hfront : Octets.lf ∉ segment := by
      intro hmem
      exact hterm ((Line.isTerminated_segment available).mpr (List.mem_of_mem_take hmem))
    have hwhole : line.toList ++ Line.content (segment ++ piece)
        = line'.toList ++ Line.content piece := by simp [line']
    refine ⟨answers ++ more, segment ++ piece, hyields.trans hrest,
      Line.lf_notMem_dropLast_append hfront hpiece, ?_⟩
    rw [hwhole]
    exact hconcluded.of_rest hyields hfront

/-! ### Reads in a row -/

/-- What one read of a line has met and handed out. -/
structure Portion where
  answers : List (Except (Fault IoError) Octets)
  piece : Octets

/-- One read hands out one piece, and a line that it answers is what the piece has of a line. -/
lemma readLineOctets_yields (loggable : Bool) (s : LineStream) :
    ∃ portion : Portion,
      Yields s portion.answers portion.piece ((readLineOctets loggable).run s).state ∧
      Octets.lf ∉ portion.piece.dropLast ∧
      Concluded s portion.answers portion.piece (Line.content portion.piece)
        ((readLineOctets loggable).run s).result := by
  obtain ⟨answers, piece, hyields, hpiece, hconcluded⟩ := readLineOnto_yields #[] s
  refine ⟨⟨answers, piece⟩, ?_, hpiece, ?_⟩
  · rw [run_readLineOctets]
    exact hyields
  · rw [run_readLineOctets]
    exact hconcluded

/-- Reads in a row, successes and failures mixed, hand out consecutive pieces of what the stream has
delivered, one piece each. What was delivered and not handed out is read ahead, also after a failure.
A piece has a line feed only at its end. A success answers its piece without CR and LF, and the piece
ends in LF unless the last read of the wire has found nothing: where there is room, this is the end of
the stream. What a failed read has taken is in no later piece, and it has no line feed unless the line
was too long. -/
theorem reads_conserve (s : LineStream) (flags : List Bool) :
    ∃ portions : List Portion, portions.length = flags.length ∧
      ∀ i loggable, flags[i]? = some loggable →
        ∃ run portion, (Task.runs (flags.map readLineOctets) s)[i]? = some run ∧
          portions[i]? = some portion ∧
          Yields s ((portions.take (i + 1)).flatMap Portion.answers)
            ((portions.take (i + 1)).flatMap Portion.piece) run.state ∧
          s.incoming = (portions.take (i + 1)).flatMap Portion.piece ++ run.state.incoming ∧
          Octets.lf ∉ portion.piece.dropLast ∧
          Concluded s portion.answers portion.piece (Line.content portion.piece) run.result := by
  induction flags generalizing s with
  | nil => exact ⟨[], rfl, by simp⟩
  | cons loggable more ih =>
    obtain ⟨portion, hyields, hpiece, hconcluded⟩ := readLineOctets_yields loggable s
    obtain ⟨portions, hlength, hportions⟩ := ih ((readLineOctets loggable).run s).state
    refine ⟨portion :: portions, by simp [hlength], ?_⟩
    intro i loggable' hflag
    cases i with
    | zero =>
      have hfirst : Yields s ([portion].flatMap Portion.answers)
          ([portion].flatMap Portion.piece) ((readLineOctets loggable).run s).state := by
        simpa using hyields
      exact ⟨_, portion, rfl, rfl, hfirst, hfirst.incoming, hpiece, hconcluded⟩
    | succ i =>
      obtain ⟨run, portion', hrun, hportion', hrest, -, hpiece', hconcluded'⟩ :=
        hportions i loggable' hflag
      have hall := hyields.trans hrest
      refine ⟨run, portion', hrun, hportion', hall, hall.incoming, hpiece', ?_⟩
      exact hconcluded'.of_settings hyields

/-- A stream that fails once behind its first octet, and then goes on. -/
def brokenOff : LineStream :=
  ofWire 4 512
    { Wire.idle with
      deliveries := .ofActs [.data [0x61], .fail .connectionReset, .data [0x62, 0x0a, 0x63]] }

/-- The first read fails and loses the octet, and the second answers the line behind it. -/
theorem reads_conserve_brokenOff :
    answers [true, true] brokenOff = [.error (.failed .connectionReset), .ok [0x62]] ∧
      ∃ (lost portion : Portion) (run : Run LineStream (Fault IoError) Octets),
        brokenOff.incoming = lost.piece ++ portion.piece ++ run.state.incoming ∧
        Octets.lf ∉ portion.piece.dropLast ∧
        Concluded brokenOff portion.answers portion.piece (Line.content portion.piece)
          (.ok [0x62]) := by
  have hanswers : answers [true, true] brokenOff
      = [.error (.failed .connectionReset), .ok [0x62]] := by decide +kernel
  obtain ⟨portions, hlength, hportions⟩ := reads_conserve brokenOff [true, true]
  obtain ⟨lost, portion, rfl⟩ := List.length_eq_two.mp hlength
  obtain ⟨run, portion', hrun, hportion, -, hincoming, hpiece, hconcluded⟩ := hportions 1 true rfl
  obtain rfl : portion = portion' := by simpa using hportion
  have hresult : (answers [true, true] brokenOff)[1]? = some run.result := by
    rw [answers, List.getElem?_map, hrun]
    rfl
  have hline : run.result = .ok [0x62] := by simpa [hanswers] using hresult.symm
  rw [hline] at hconcluded
  exact ⟨hanswers, lost, portion, run, by simpa using hincoming, hpiece, hconcluded⟩

end LineStream

end Mailwire
