import Mailwire.LineStream.Lines
import Mailwire.Proofs.LineStream.Refill
import Mailwire.Proofs.Task
import Mailwire.Proofs.Text.Utf8

/-!
# Lines do not depend on how they arrive

The reference is the sequence of octets that the far end sends: it is cut behind every line feed,
and every piece gives one line. Reads answer exactly these lines, and behind the last one the empty
line, up to the first line that is too long. Neither the chunks in which the octets arrive nor the
capacity of the buffer matter.

One read is followed through its refills by an induction on the read itself (`readLineOnto_steady`).
The invariant is that what the line has and the first piece of what is to come make up the line.
-/

namespace Mailwire

/-! ### The first piece -/

namespace Line

@[simp] lemma segment_nil : segment [] = [] := rfl

lemma segment_cons (b : UInt8) (rest : Octets) :
    segment (b :: rest) = if b = Octets.lf then [b] else b :: segment rest := by
  by_cases hb : b = Octets.lf <;> simp [segment, hb]

/-- A piece that ends in what is there is not changed by what follows. -/
lemma segment_append_of_mem {front : Octets} (h : Octets.lf ∈ front) (behind : Octets) :
    segment (front ++ behind) = segment front := by
  induction front with
  | nil => simp at h
  | cons b rest ih =>
    rw [List.cons_append, segment_cons, segment_cons]
    by_cases hb : b = Octets.lf
    · simp [hb]
    · have hrest : Octets.lf ∈ rest := (List.mem_cons.mp h).resolve_left (Ne.symm hb)
      rw [if_neg hb, if_neg hb, ih hrest]

/-- Octets without a line feed belong to the piece that follows them. -/
lemma segment_append_of_notMem {front : Octets} (h : Octets.lf ∉ front) (behind : Octets) :
    segment (front ++ behind) = front ++ segment behind := by
  induction front with
  | nil => rfl
  | cons b rest ih =>
    obtain ⟨hb, hrest⟩ : Octets.lf ≠ b ∧ Octets.lf ∉ rest := by simpa using h
    rw [List.cons_append, segment_cons, if_neg (Ne.symm hb), ih hrest, List.cons_append]

lemma segment_of_notMem {octets : Octets} (h : Octets.lf ∉ octets) : segment octets = octets := by
  simpa using segment_append_of_notMem h []

lemma segment_length_le (octets : Octets) : (segment octets).length ≤ octets.length :=
  List.length_take_le' _ _

lemma isTerminated_segment (octets : Octets) :
    isTerminated (segment octets) = true ↔ Octets.lf ∈ octets := by
  constructor
  · intro h
    have hlast : (segment octets).getLast? = some Octets.lf := by simpa [isTerminated] using h
    exact List.mem_of_mem_take (List.mem_of_getLast? hlast)
  · intro h
    induction octets with
    | nil => simp at h
    | cons b rest ih =>
      rw [segment_cons]
      by_cases hb : b = Octets.lf
      · simp [hb, isTerminated]
      · have hrest : Octets.lf ∈ rest := (List.mem_cons.mp h).resolve_left (Ne.symm hb)
        have hne : segment rest ≠ [] := segment_ne_nil (List.ne_nil_of_mem hrest)
        rw [if_neg hb]
        simpa [isTerminated, List.getLast?_cons_of_ne_nil hne] using ih hrest

@[simp] lemma content_append (front behind : Octets) :
    content (front ++ behind) = content front ++ content behind := List.filter_append ..

lemma size_append_content (line : Array UInt8) (octets : Octets) :
    (line ++ content octets).size = line.size + (content octets).length := by
  rw [← Array.length_toList, Array.toList_appendList, List.length_append, Array.length_toList]

lemma pieces_eq {octets : Octets} (h : octets ≠ []) :
    pieces octets = segment octets :: pieces (octets.drop (segment octets).length) := by
  induction octets with
  | nil => exact absurd rfl h
  | cons b rest ih =>
    rw [segment_cons, pieces]
    by_cases hb : b = Octets.lf
    · simp [hb]
    · rw [if_neg hb, if_neg hb]
      by_cases hrest : rest = []
      · simp [hrest, pieces]
      · simp [ih hrest]

/-! ### The reference -/

/-- The line that is read after `skipped` others: empty if there are not so many. -/
def nth (octets : Octets) (skipped : Nat) : Octets := (lines octets)[skipped]?.getD []

lemma nth_zero (octets : Octets) : nth octets 0 = content (segment octets) := by
  by_cases h : octets = []
  · simp [h, nth, lines, pieces, content]
  · simp [nth, lines, pieces_eq h]

lemma nth_succ (octets : Octets) (skipped : Nat) :
    nth octets (skipped + 1) = nth (octets.drop (segment octets).length) skipped := by
  by_cases h : octets = []
  · simp [h, nth, lines, pieces]
  · simp [nth, lines, pieces_eq h]

/-- What a read answers that has found a whole line. -/
def verdict (max : Nat) (line : Octets) : Except (Fault IoError) Octets :=
  if max < line.length then .error (.failed (LineStream.lineTooLong max)) else .ok line

/-- What reads in a row are to answer. -/
def reference (max : Nat) (octets : Octets) (calls : Nat) : List (Except (Fault IoError) Octets) :=
  (List.range calls).map fun skipped => verdict max (nth octets skipped)

lemma reference_succ (max : Nat) (octets : Octets) (calls : Nat) :
    reference max octets (calls + 1)
      = verdict max (content (segment octets))
        :: reference max (octets.drop (segment octets).length) calls := by
  simp [reference, List.range_succ_eq_map, nth_zero, nth_succ, Function.comp_def]

lemma verdict_invalidData_iff (max : Nat) (line : Octets) :
    (∃ e, verdict max line = .error (.failed e) ∧ e.kind = .invalidData) ↔ max < line.length := by
  rw [verdict]
  split_ifs with hlong
  · exact ⟨fun _ => hlong, fun _ => ⟨_, rfl, rfl⟩⟩
  · simp [hlong]

end Line

/-! ### One read -/

namespace LineStream

lemma readLineOnto_eq (line : Array UInt8) (s : LineStream) :
    readLineOnto line s =
      match s.refill with
      | (.error f, s') => (.error f, s')
      | (.ok available, s') =>
        if available = [] then (.ok (line, false), s')
        else
          let segment := Line.segment available
          let line := line ++ Line.content segment
          let s'' := s'.consume segment.length
          if s.maxLineLength < line.size then (.error (.failed (lineTooLong s.maxLineLength)), s'')
          else if Line.isTerminated segment then (.ok (line, true), s'')
          else readLineOnto line s'' := by
  conv_lhs => rw [readLineOnto]
  rcases s.refill with ⟨_ | available, s'⟩
  · rfl
  · dsimp only
    split_ifs <;> rfl

/-- What a refill finds is in front of what is to come, and taking a piece of it leaves the rest. -/
lemma Steady.after_segment {s s' : LineStream} (h : s.Steady) {available : Octets}
    (hrefill : s.refill = (.ok available, s')) :
    let s'' := s'.consume (Line.segment available).length
    s''.Steady ∧ s''.maxLineLength = s.maxLineLength ∧
      s''.incoming = s.incoming.drop (Line.segment available).length ∧
      ∃ behind, s.incoming = available ++ behind := by
  obtain ⟨hs', hframe, hunread, -⟩ := h.of_refill hrefill
  refine ⟨hs'.consume _, hframe.maxLineLength, ?_, s'.wire.incoming, ?_⟩
  · rw [incoming_consume (by rw [hunread]; exact Line.segment_length_le available), hframe.incoming]
  · rw [← hframe.incoming, incoming, hunread]

/-- A refill that finds no line feed is taken whole, and it begins the first piece. -/
lemma Steady.after_unterminated {s s' : LineStream} (h : s.Steady) {available : Octets}
    (hrefill : s.refill = (.ok available, s')) (hlf : Octets.lf ∉ available) :
    let s'' := s'.consume (Line.segment available).length
    s.incoming = available ++ s''.incoming ∧
      Line.segment s.incoming = available ++ Line.segment s''.incoming := by
  obtain ⟨-, -, hdrop, behind, hincoming⟩ := h.after_segment hrefill
  rw [Line.segment_of_notMem hlf, hincoming, List.drop_left] at hdrop
  dsimp only
  rw [Line.segment_of_notMem hlf, hdrop, hincoming, Line.segment_append_of_notMem hlf]
  exact ⟨rfl, rfl⟩

/-- Reading on with a line that was begun adds the first piece of what is to come, and takes it.
It fails only if the line is then too long. -/
theorem readLineOnto_steady (line : Array UInt8) (s : LineStream) (hs : s.Steady)
    (hline : line.size ≤ s.maxLineLength) :
    let piece := Line.segment s.incoming
    let whole := line.toList ++ Line.content piece
    if s.maxLineLength < whole.length then
      (readLineOnto line s).1 = .error (.failed (lineTooLong s.maxLineLength))
    else
      ∃ line' s', readLineOnto line s = (.ok (line', Line.isTerminated piece), s') ∧
        line'.toList = whole ∧ s'.Steady ∧ s'.maxLineLength = s.maxLineLength ∧
        s'.incoming = s.incoming.drop piece.length := by
  fun_induction readLineOnto line s with
  | case1 line s f s' hrefill => exact absurd hrefill (hs.refill_ne_error f s')
  | case2 line s s' hrefill =>
    obtain ⟨hs', hframe, -, hend⟩ := hs.of_refill hrefill
    have hnil : s.incoming = [] := hend rfl
    simp only [hnil, Line.segment_nil, Line.content, List.filter_nil, List.append_nil]
    rw [if_neg (by simpa using hline)]
    exact ⟨line, s', rfl, rfl, hs', hframe.maxLineLength, by simp [hframe.incoming, hnil]⟩
  | case3 line s available s' hrefill hne segment line' s'' hlong =>
    obtain ⟨-, -, -, behind, hincoming⟩ := hs.after_segment hrefill
    rw [if_pos]
    have hsize : line'.size ≤ line.size + (Line.content (Line.segment s.incoming)).length := by
      by_cases hlf : Octets.lf ∈ available
      · rw [hincoming, Line.segment_append_of_mem hlf, Line.size_append_content]
      · rw [hincoming, Line.segment_append_of_notMem hlf, Line.size_append_content,
          Line.content_append, List.length_append]
        simp [segment, Line.segment_of_notMem hlf]
    rw [List.length_append, Array.length_toList]
    omega
  | case4 line s available s' hrefill hne segment line' s'' hlong hterm =>
    obtain ⟨hs'', hmax, hdrop, behind, hincoming⟩ := hs.after_segment hrefill
    have hpiece : Line.segment s.incoming = segment := by
      rw [hincoming, Line.segment_append_of_mem ((Line.isTerminated_segment _).mp hterm)]
    simp only [hpiece]
    rw [if_neg (by simpa [line', Line.size_append_content] using hlong)]
    exact ⟨line', s'', by rw [hterm], by simp [line'], hs'', hmax, hdrop⟩
  | case5 line s available s' hrefill hne segment line' s'' hlong hterm ih =>
    obtain ⟨hs'', hmax, -, -, -⟩ := hs.after_segment hrefill
    have hlf : Octets.lf ∉ available := fun hlf => hterm ((Line.isTerminated_segment _).mpr hlf)
    -- what was taken is the beginning of the piece, and the rest of the piece is in front now
    obtain ⟨hincoming, hpiece⟩ : s.incoming = available ++ s''.incoming ∧
        Line.segment s.incoming = available ++ Line.segment s''.incoming :=
      hs.after_unterminated hrefill hlf
    have hsegment : Line.segment available = available := Line.segment_of_notMem hlf
    have hflag : Line.isTerminated (Line.segment s.incoming)
        = Line.isTerminated (Line.segment s''.incoming) := by
      rw [Bool.eq_iff_iff, Line.isTerminated_segment, Line.isTerminated_segment, hincoming]
      simp [hlf]
    have hwhole : line.toList ++ Line.content (Line.segment s.incoming)
        = line'.toList ++ Line.content (Line.segment s''.incoming) := by
      simp [line', segment, hsegment, hpiece]
    have hmax : s''.maxLineLength = s.maxLineLength := hmax
    have hnext := ih hs'' (by rw [hmax]; omega)
    simp only [hmax] at hnext
    simp only [hwhole, hflag]
    split_ifs at hnext ⊢ with hover
    · exact hnext
    · obtain ⟨line₁, s₁, hread, hline₁, hs₁, hmax₁, hdrop₁⟩ := hnext
      refine ⟨line₁, s₁, hread, hline₁, hs₁, hmax₁, ?_⟩
      rw [hdrop₁, hpiece, hincoming, List.length_append, List.drop_length_add_append]

lemma run_readLineOctets (loggable : Bool) (s : LineStream) :
    (readLineOctets loggable).run s
      = ⟨(readLineOnto #[] s).1.map (·.1.toList), (readLineOnto #[] s).2,
          match (readLineOnto #[] s).1 with
          | .error _ => []
          | .ok (line, terminated) =>
            (if terminated then [] else [.log .endOfStream])
              ++ if loggable then [.log (.received (Text.decodeLossy line.toList))] else []⟩ := by
  rcases hread : readLineOnto #[] s with ⟨_ | ⟨line, terminated⟩, s'⟩
  · rw [readLineOctets, Task.run_bind]
    simp [hread, Except.map]
  · rw [readLineOctets, Task.run_bind]
    cases terminated <;> cases loggable <;> simp [hread, Except.map, Task.run_bind]

lemma state_readLineOctets (loggable : Bool) (s : LineStream) :
    ((readLineOctets loggable).run s).state = (readLineOnto #[] s).2 := by
  rw [run_readLineOctets]

/-- A line that is read as a text is one that is read as octets, decoded lossily. -/
lemma readLine_eq (loggable : Bool) :
    readLine loggable = Text.decodeLossy <$> readLineOctets loggable := by
  rw [readLine, map_eq_pure_bind]
  congr 1
  funext line
  cases hdecode : Text.decode? line with
  | none => rfl
  | some text => rw [Text.decodeLossy_of_decode? hdecode]

/-! ### Reads in a row -/

/-- What reads answer that are made one after another, whatever became of those before. -/
def answers (flags : List Bool) (s : LineStream) : List (Except (Fault IoError) Octets) :=
  (Task.runs (flags.map readLineOctets) s).map (·.result)

lemma answers_cons (loggable : Bool) (more : List Bool) (s : LineStream) :
    answers (loggable :: more) s
      = ((readLineOctets loggable).run s).result
        :: answers more ((readLineOctets loggable).run s).state := rfl

/-- The answers up to the first failure, which is included. -/
def upToFailure {ε α : Type} : List (Except ε α) → List (Except ε α)
  | [] => []
  | .ok a :: rest => .ok a :: upToFailure rest
  | .error e :: _ => [.error e]

lemma upToFailure_answers {s : LineStream} (hs : s.Steady) (flags : List Bool) :
    upToFailure (answers flags s)
      = upToFailure (Line.reference s.maxLineLength s.incoming flags.length) := by
  induction flags generalizing s with
  | nil => rfl
  | cons loggable more ih =>
    have hread := readLineOnto_steady #[] s hs (Nat.zero_le _)
    simp only [List.nil_append] at hread
    simp only [answers_cons, run_readLineOctets]
    rw [List.length_cons, Line.reference_succ, Line.verdict]
    by_cases hlong : s.maxLineLength < (Line.content (Line.segment s.incoming)).length
    · rw [if_pos hlong] at hread ⊢
      simp only [hread, Except.map, upToFailure]
    · rw [if_neg hlong] at hread ⊢
      obtain ⟨line, s', hread, hline, hs', hmax, hdrop⟩ := hread
      simp only [hread, Except.map, upToFailure, hline]
      rw [ih hs', hmax, hdrop]

/-- A new stream over a far end that sends chunks and then closes. -/
def ofChunks (chunks : List Octets) (readCapacity writeCapacity : Nat) (timeout : Option Duration)
    (max : Nat) : LineStream :=
  { ofWire readCapacity writeCapacity (Wire.ofChunks chunks) with
    readTimeout := timeout
    maxLineLength := max }

lemma steady_ofChunks {chunks : List Octets} (hchunks : ∀ chunk ∈ chunks, chunk ≠ [])
    {readCapacity : Nat} (hroom : 0 < readCapacity) (writeCapacity : Nat)
    (timeout : Option Duration) (max : Nat) :
    (ofChunks chunks readCapacity writeCapacity timeout max).Steady :=
  ⟨hroom, Wire.steady_ofChunks _ hchunks⟩

lemma incoming_ofChunks (chunks : List Octets) (readCapacity writeCapacity : Nat)
    (timeout : Option Duration) (max : Nat) :
    (ofChunks chunks readCapacity writeCapacity timeout max).incoming = chunks.flatten :=
  Wire.incoming_ofChunks chunks

/-- Reads in a row answer the lines of what is to come, up to the first that is too long. In a new
stream these are the chunks, one behind the other, but octets may also have been read ahead, and the
chunks may come late, if only in time. Neither the chunks nor the capacities make a difference. -/
theorem reads_eq_reference (max : Nat) (flags : List Bool) :
    (∀ s : LineStream, s.Steady → s.maxLineLength = max →
      upToFailure (answers flags s)
        = upToFailure (Line.reference max s.incoming flags.length)) ∧
    (∀ (chunks : List Octets) (readCapacity writeCapacity : Nat) (timeout : Option Duration),
        (∀ chunk ∈ chunks, chunk ≠ []) → 0 < readCapacity →
      upToFailure (answers flags (ofChunks chunks readCapacity writeCapacity timeout max))
        = upToFailure (Line.reference max chunks.flatten flags.length)) ∧
    ∀ line, (∃ e, Line.verdict max line = .error (.failed e) ∧ e.kind = .invalidData) ↔
      max < line.length := by
  refine ⟨?_, ?_, Line.verdict_invalidData_iff max⟩
  · intro s hs hmax
    rw [upToFailure_answers hs, hmax]
  · intro chunks readCapacity writeCapacity timeout hchunks hroom
    have hsteady := steady_ofChunks hchunks hroom writeCapacity timeout max
    rw [upToFailure_answers hsteady, incoming_ofChunks]
    rfl

/-- A line end that is cut between CR and LF, and a second line that is one octet too long. -/
theorem reads_eq_reference_cut_lines :
    upToFailure (answers [true, false, true]
        (ofChunks [[0x61, 0x0d], [0x0a, 0x62], [0x63, 0x64, 0x0a]] 2 512 none 2))
      = [.ok [0x61], .error (.failed (lineTooLong 2))] := by
  obtain ⟨-, hchunks, -⟩ := reads_eq_reference 2 [true, false, true]
  rw [hchunks _ 2 512 none (by decide) (by decide)]
  rfl

end LineStream

end Mailwire
