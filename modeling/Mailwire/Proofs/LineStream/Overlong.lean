import Mailwire.Proofs.LineStream.Conservation

/-!
# Lines that are given up

A line that has become too long is given up at once, and what has been read of it by then depends on
how it has arrived: all octets that earlier refills have found, and what the buffer holds up to the
first line feed (`LineStream.GivesUp`). If the buffer holds the line feed, the line is dropped to its
end, and the next read begins behind it. If not, the line is cut, and the next read answers its end
as if it were a line.

So reads keep to the lines of a stream exactly if no line is cut (`LineStream.reads_keep_lines_iff`),
and then also those behind a line that was given up answer what they are to answer.
-/

namespace Mailwire

namespace Line

/-- What is behind so many pieces. -/
def behind : Nat → Octets → Octets
  | 0, octets => octets
  | count + 1, octets => behind count (octets.drop (segment octets).length)

/-- A line feed is at the end of the octets, if there are any. -/
def Ended (octets : Octets) : Prop := ∀ b ∈ octets.getLast?, b = Octets.lf

lemma Ended.of_append {front octets : Octets} (h : Ended (front ++ octets)) : Ended octets := by
  intro b hb
  apply h
  rw [List.getLast?_append, Option.mem_def.mp hb]
  rfl

lemma Ended.lf_mem {octets : Octets} (h : Ended octets) (hne : octets ≠ []) :
    Octets.lf ∈ octets := by
  have hlast := List.getLast?_eq_some_getLast hne
  rw [← h _ hlast]
  exact List.getLast_mem hne

lemma segment_append_drop (octets : Octets) :
    segment octets ++ octets.drop (segment octets).length = octets :=
  List.prefix_iff_eq_append.mp (List.take_prefix _ _)

lemma behind_succ (count : Nat) (octets : Octets) :
    behind (count + 1) octets
      = (behind count octets).drop (segment (behind count octets)).length := by
  induction count generalizing octets with
  | zero => rfl
  | succ count ih => exact ih _

end Line

namespace LineStream

/-! ### One read -/

/-- How far a read has come that has got `line` when it gives the line up. It has gone through the
octets of earlier refills, which had no line feed and were not too many, and has then found too much
in the buffer. Of that it has taken what there was up to the first line feed, or all. -/
structure GivesUp (line : Array UInt8) (s : LineStream) (earlier last : Octets) (s' : LineStream) :
    Prop where
  incoming : s.incoming = earlier ++ last ++ s'.wire.incoming
  unread : s'.unread = last.drop (Line.segment last).length
  unterminated : Octets.lf ∉ earlier
  short : (line.toList ++ Line.content earlier).length ≤ s.maxLineLength
  long : s.maxLineLength < (line.toList ++ Line.content (earlier ++ Line.segment last)).length

/-- A line that is too long is given up, and the stream stays steady. -/
theorem readLineOnto_overlong (line : Array UInt8) (s : LineStream) (hs : s.Steady)
    (hline : line.size ≤ s.maxLineLength)
    (hlong : s.maxLineLength < (line.toList ++ Line.content (Line.segment s.incoming)).length) :
    ∃ earlier last s', readLineOnto line s = (.error (.failed (lineTooLong s.maxLineLength)), s') ∧
      GivesUp line s earlier last s' ∧ s'.Steady ∧ s'.maxLineLength = s.maxLineLength := by
  fun_induction readLineOnto line s with
  | case1 line s f s' hrefill => exact absurd hrefill (hs.refill_ne_error f s')
  | case2 line s s' hrefill =>
    obtain ⟨-, -, -, hend⟩ := hs.of_refill hrefill
    simp only [hend rfl, Line.segment_nil, Line.content, List.filter_nil, List.append_nil,
      Array.length_toList] at hlong
    omega
  | case3 line s available s' hrefill hne segment line' s'' hover =>
    obtain ⟨hs'', hmax, -, -, -⟩ := hs.after_segment hrefill
    obtain ⟨-, hframe, hunread, -⟩ := hs.of_refill hrefill
    refine ⟨[], available, s'', rfl, ⟨?_, ?_, ?_, ?_, ?_⟩, hs'', hmax⟩
    · rw [← hframe.incoming, incoming, hunread]
      rfl
    · show s'.unread.drop segment.length = _
      rw [hunread]
    · simp
    · simpa [Line.content] using hline
    · rw [List.nil_append, List.length_append, Array.length_toList, ← Line.size_append_content]
      exact hover
  | case4 line s available s' hrefill hne segment line' s'' hover hterm =>
    obtain ⟨-, -, -, behind, hincoming⟩ := hs.after_segment hrefill
    have hpiece : Line.segment s.incoming = segment := by
      rw [hincoming, Line.segment_append_of_mem ((Line.isTerminated_segment _).mp hterm)]
    rw [hpiece, List.length_append, Array.length_toList, ← Line.size_append_content] at hlong
    exact absurd hlong hover
  | case5 line s available s' hrefill hne segment line' s'' hover hterm ih =>
    obtain ⟨hs'', hmax, -, -, -⟩ := hs.after_segment hrefill
    have hlf : Octets.lf ∉ available := fun hlf => hterm ((Line.isTerminated_segment _).mpr hlf)
    obtain ⟨hincoming, hpiece⟩ : s.incoming = available ++ s''.incoming ∧
        Line.segment s.incoming = available ++ Line.segment s''.incoming :=
      hs.after_unterminated hrefill hlf
    have hsegment : segment = available := Line.segment_of_notMem hlf
    have hline' : line'.toList = line.toList ++ Line.content available := by
      simp [line', hsegment]
    have hmax : s''.maxLineLength = s.maxLineLength := hmax
    rw [hmax] at ih
    obtain ⟨earlier, last, s₁, hread, hgives, hs₁, hmax₁⟩ := ih hs'' (Nat.le_of_not_lt hover)
      (by simpa [hline', hpiece] using hlong)
    refine ⟨available ++ earlier, last, s₁, hread, ⟨?_, hgives.unread, ?_, ?_, ?_⟩, hs₁, hmax₁⟩
    · rw [hincoming, hgives.incoming]
      simp
    · rw [List.mem_append, not_or]
      exact ⟨hlf, hgives.unterminated⟩
    · simpa [hmax, hline'] using hgives.short
    · simpa [hmax, hline'] using hgives.long

namespace GivesUp

variable {line : Array UInt8} {s s' : LineStream} {earlier last : Octets}

/-- If the buffer held the line feed, the line is dropped to its end. -/
lemma incoming_of_mem (h : GivesUp line s earlier last s') (hlf : Octets.lf ∈ last) :
    s'.incoming = s.incoming.drop (Line.segment s.incoming).length := by
  have hpiece : Line.segment s.incoming = earlier ++ Line.segment last := by
    rw [h.incoming, List.append_assoc, Line.segment_append_of_notMem h.unterminated,
      Line.segment_append_of_mem hlf]
  rw [hpiece, h.incoming, List.length_append, List.append_assoc, List.drop_length_add_append,
    List.drop_append_of_le_length (Line.segment_length_le last), ← h.unread]
  rfl

/-- If the buffer held no line feed, the end of the line is still to come. -/
lemma incoming_of_notMem (h : GivesUp line s earlier last s') (hlf : Octets.lf ∉ last) :
    s.incoming = earlier ++ last ++ s'.incoming ∧
      Line.segment s.incoming = earlier ++ last ++ Line.segment s'.incoming := by
  have hunread : s'.unread = [] := by
    rw [h.unread, Line.segment_of_notMem hlf, List.drop_length]
  have hrest : s'.incoming = s'.wire.incoming := by
    rw [LineStream.incoming, hunread, List.nil_append]
  have hfront : Octets.lf ∉ earlier ++ last := by
    rw [List.mem_append, not_or]
    exact ⟨h.unterminated, hlf⟩
  rw [hrest, h.incoming, Line.segment_append_of_notMem hfront]
  exact ⟨rfl, rfl⟩

end GivesUp

/-- The next read gives the first line up while the buffer does not hold the end of that line. -/
def CutsLine (s : LineStream) : Prop :=
  ∃ earlier last s', readLineOnto #[] s = (.error (.failed (lineTooLong s.maxLineLength)), s') ∧
    GivesUp #[] s earlier last s' ∧ Octets.lf ∉ last

/-- A read of a steady stream answers the first line, or refuses it. Unless it cuts the line, the next
read begins behind the line. -/
theorem Steady.readLineOctets {s : LineStream} (hs : s.Steady) (loggable : Bool) :
    let r := (LineStream.readLineOctets loggable).run s
    r.state.Steady ∧ r.state.maxLineLength = s.maxLineLength ∧
      r.result = Line.verdict s.maxLineLength (Line.content (Line.segment s.incoming)) ∧
      (¬ s.CutsLine → r.state.incoming = s.incoming.drop (Line.segment s.incoming).length) := by
  have hread := readLineOnto_steady #[] s hs (Nat.zero_le _)
  simp only [List.nil_append] at hread
  simp only [run_readLineOctets]
  rw [Line.verdict]
  split_ifs at hread ⊢ with hlong
  · obtain ⟨earlier, last, s', hread', hgives, hs', hmax⟩ :=
      readLineOnto_overlong #[] s hs (Nat.zero_le _) hlong
    rw [hread']
    refine ⟨hs', hmax, rfl, ?_⟩
    intro huncut
    apply hgives.incoming_of_mem
    by_contra hlf
    exact huncut ⟨earlier, last, s', hread', hgives, hlf⟩
  · obtain ⟨line, s', hread', hline, hs', hmax, hdrop⟩ := hread
    rw [hread']
    exact ⟨hs', hmax, congrArg Except.ok hline, fun _ => hdrop⟩

/-- Behind a line that was cut there is the end of this line, and then what is behind it. -/
lemma CutsLine.tail {s : LineStream} (h : s.CutsLine) (hended : Line.Ended s.incoming)
    (loggable : Bool) :
    let s' := ((LineStream.readLineOctets loggable).run s).state
    Line.segment s'.incoming ≠ [] ∧ Line.segment s'.incoming <:+ Line.segment s.incoming ∧
      s'.incoming
        = Line.segment s'.incoming ++ s.incoming.drop (Line.segment s.incoming).length := by
  obtain ⟨earlier, last, s', hread, hgives, hlf⟩ := h
  obtain ⟨hincoming, hpiece⟩ := hgives.incoming_of_notMem hlf
  simp only [state_readLineOctets, hread]
  refine ⟨?_, ?_, ?_⟩
  · apply Line.segment_ne_nil
    intro hnil
    have hmem : Octets.lf ∈ s.incoming := by
      apply hended.lf_mem
      intro hnone
      have hlong := hgives.long
      obtain ⟨rfl, rfl⟩ : earlier = [] ∧ last = [] := by
        simpa [hnone, hnil] using hincoming.symm
      simp [Line.content] at hlong
    rw [hincoming, hnil, List.append_nil, List.mem_append] at hmem
    exact hmem.elim hgives.unterminated hlf
  · rw [hpiece]
    exact List.suffix_append _ _
  · rw [hpiece, hincoming, List.length_append, List.drop_length_add_append]
    exact (Line.segment_append_drop s'.incoming).symm

/-! ### Reads in a row -/

/-- The stream after reads in a row. -/
def after (flags : List Bool) (s : LineStream) : LineStream :=
  Task.after (flags.map LineStream.readLineOctets) s

lemma after_concat (flags : List Bool) (loggable : Bool) (s : LineStream) :
    after (flags ++ [loggable]) s
      = ((LineStream.readLineOctets loggable).run (after flags s)).state := by
  rw [after, List.map_append, Task.after_append]
  rfl

/-- Reads only take octets from the front. -/
lemma after_suffix (flags : List Bool) (s : LineStream) :
    (after flags s).incoming <:+ s.incoming := by
  induction flags generalizing s with
  | nil => exact List.suffix_refl _
  | cons loggable more ih =>
    obtain ⟨portion, hyields, -, -⟩ := readLineOctets_yields loggable s
    exact (ih _).trans ⟨portion.piece, hyields.incoming.symm⟩

lemma Steady.after {s : LineStream} (hs : s.Steady) (flags : List Bool) :
    (after flags s).Steady ∧ (after flags s).maxLineLength = s.maxLineLength := by
  induction flags generalizing s with
  | nil => exact ⟨hs, rfl⟩
  | cons loggable more ih =>
    obtain ⟨hs', hmax, -, -⟩ := hs.readLineOctets loggable
    obtain ⟨hs'', hmax'⟩ := ih hs'
    exact ⟨hs'', hmax'.trans hmax⟩

/-- If no line is cut, then each read takes one line, whether it refuses it or not. -/
lemma Steady.after_uncut {s : LineStream} (hs : s.Steady)
    (huncut : ∀ flags, ¬ (LineStream.after flags s).CutsLine) (flags : List Bool) :
    (LineStream.after flags s).incoming = Line.behind flags.length s.incoming ∧
      answers flags s = Line.reference s.maxLineLength s.incoming flags.length := by
  induction flags generalizing s with
  | nil => exact ⟨rfl, rfl⟩
  | cons loggable more ih =>
    obtain ⟨hs', hmax, hresult, hincoming⟩ := hs.readLineOctets loggable
    obtain ⟨hafter, hanswers⟩ := ih hs' fun flags => huncut (loggable :: flags)
    rw [hincoming (huncut [])] at hafter hanswers
    refine ⟨hafter, ?_⟩
    rw [answers_cons, hresult, hanswers, hmax, List.length_cons, Line.reference_succ]

/-- Reads keep to the lines that a far end sends exactly if none of them cuts a line. Then every read
answers what it is to answer, also behind a line that was too long. Where a line is cut, its end is
read as a line of its own, and the lines behind it follow. -/
theorem reads_keep_lines_iff (s : LineStream) (hs : s.Steady) (hended : Line.Ended s.incoming) :
    ((∀ flags, (after flags s).incoming = Line.behind flags.length s.incoming) ↔
      ∀ flags, ¬ (after flags s).CutsLine) ∧
    ((∀ flags, ¬ (after flags s).CutsLine) →
      ∀ flags, answers flags s = Line.reference s.maxLineLength s.incoming flags.length) ∧
    ∀ flags loggable next, (after flags s).CutsLine →
      ∃ tail, tail ≠ [] ∧ tail <:+ Line.segment (after flags s).incoming ∧
        answers [loggable, next] (after flags s)
          = [.error (.failed (lineTooLong s.maxLineLength)),
              Line.verdict s.maxLineLength (Line.content tail)] ∧
        (after (flags ++ [loggable]) s).incoming
          = tail ++ (after flags s).incoming.drop
              (Line.segment (after flags s).incoming).length := by
  have hended' : ∀ flags, Line.Ended (after flags s).incoming := by
    intro flags
    obtain ⟨front, hfront⟩ := after_suffix flags s
    rw [← hfront] at hended
    exact hended.of_append
  refine ⟨⟨?_, ?_⟩, ?_, ?_⟩
  · intro hkeeps flags hcut
    obtain ⟨hne, -, htail⟩ := hcut.tail (hended' flags) true
    rw [← after_concat, hkeeps, List.length_append, List.length_singleton, Line.behind_succ,
      hkeeps] at htail
    rw [← after_concat, hkeeps, List.length_append, List.length_singleton, Line.behind_succ] at hne
    exact hne (List.append_left_eq_self.mp htail.symm)
  · intro huncut flags
    exact (hs.after_uncut huncut flags).1
  · intro huncut flags
    exact (hs.after_uncut huncut flags).2
  · intro flags loggable next hcut
    obtain ⟨hs', hmax⟩ := hs.after flags
    obtain ⟨hs'', hmax', -, -⟩ := hs'.readLineOctets loggable
    obtain ⟨-, -, hnext, -⟩ := hs''.readLineOctets next
    obtain ⟨hne, hsuffix, htail⟩ := hcut.tail (hended' flags) loggable
    obtain ⟨earlier, last, s', hread, -, -⟩ := hcut
    refine ⟨_, hne, hsuffix, ?_, by rw [after_concat]; exact htail⟩
    rw [answers_cons, answers_cons, hnext, hmax', hmax]
    rw [run_readLineOctets, hread, hmax]
    rfl

/-- Two lines, of which the first is too long and comes in two chunks. -/
def overlong : LineStream :=
  ofChunks [[0x61, 0x61, 0x61], [0x62, 0x0a, 0x63, 0x0a]] 8 512 none 2

/-- The end of the refused line is read as a line. If the same octets come in one chunk, it is not. -/
theorem overlong_line_leaks :
    answers [true, true, true] overlong
        = [.error (.failed (lineTooLong 2)), .ok [0x62], .ok [0x63]] ∧
      Line.reference 2 overlong.incoming 3
        = [.error (.failed (lineTooLong 2)), .ok [0x63], .ok []] ∧
      answers [true, true, true]
          (ofChunks [[0x61, 0x61, 0x61, 0x62, 0x0a, 0x63, 0x0a]] 8 512 none 2)
        = Line.reference 2 overlong.incoming 3 := by
  decide +kernel

/-- Some read of the stream cuts a line, because the second answer is none of the lines. -/
theorem reads_keep_lines_iff_overlong :
    overlong.Steady ∧ Line.Ended overlong.incoming ∧
      ∃ flags, (after flags overlong).CutsLine := by
  have hsteady : overlong.Steady := steady_ofChunks (by decide) (by decide) 512 none 2
  have hended : Line.Ended overlong.incoming := by
    intro b hb
    have hlast : overlong.incoming.getLast? = some Octets.lf := by decide +kernel
    rw [hlast] at hb
    exact (Option.some.inj hb).symm
  refine ⟨hsteady, hended, ?_⟩
  by_contra huncut
  have hanswers := (reads_keep_lines_iff overlong hsteady hended).2.1 (not_exists.mp huncut)
    [true, true]
  have hleak : answers [true, true] overlong ≠ Line.reference 2 overlong.incoming 2 := by
    decide +kernel
  exact hleak hanswers

end LineStream

end Mailwire
