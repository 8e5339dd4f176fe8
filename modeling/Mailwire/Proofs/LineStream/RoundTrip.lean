import Mathlib.Data.List.TakeWhile
import Mailwire.Proofs.LineStream.Overlong
import Mailwire.Proofs.LineStream.Writing
import Mailwire.Proofs.Text.Utf8

/-!
# Lines from one stream to another

What one stream has written without an error is what another has to read, in whatever chunks it
arrives (`LineStream.Carried`). The octets of a text are the line that is read, unless the text has a
CR or an LF: no other character has their octets, also where a chunk ends inside a character. So
texts come back as they were if they have neither and are not too long
(`LineStream.lines_round_trip`).
-/

namespace Mailwire

namespace Line

/-! ### The octets of a text as a line -/

/-- A text that is one line and is not too long. -/
structure Fits (max : Nat) (text : String) : Prop where
  cr : '\r' ∉ text.toList
  lf : '\n' ∉ text.toList
  short : text.utf8ByteSize ≤ max

instance (max : Nat) (text : String) : Decidable (Fits max text) :=
  decidable_of_iff ('\r' ∉ text.toList ∧ '\n' ∉ text.toList ∧ text.utf8ByteSize ≤ max)
    ⟨fun h => ⟨h.1, h.2.1, h.2.2⟩, fun h => ⟨h.cr, h.lf, h.short⟩⟩

/-- What is read of a text that was written as a line: what is in front of the first LF, without any
CR. -/
def kept (text : String) : String :=
  String.ofList ((text.toList.takeWhile (· != '\n')).filter (· != '\r'))

lemma kept_eq_iff (text : String) :
    kept text = text ↔ '\r' ∉ text.toList ∧ '\n' ∉ text.toList := by
  have hlist : kept text = text ↔
      (text.toList.takeWhile (· != '\n')).filter (· != '\r') = text.toList := by
    rw [kept, ← String.toList_inj, String.toList_ofList]
  rw [hlist]
  constructor
  · intro h
    have hmem : ∀ c ∈ text.toList, c ≠ '\r' ∧ c ≠ '\n' := by
      intro c hc
      rw [← h, List.mem_filter] at hc
      obtain ⟨hfront, hcr⟩ := hc
      have hlf := List.mem_takeWhile_imp hfront
      exact ⟨by simpa using hcr, by simpa using hlf⟩
    exact ⟨fun hcr => (hmem _ hcr).1 rfl, fun hlf => (hmem _ hlf).2 rfl⟩
  · rintro ⟨hcr, hlf⟩
    have hfront : text.toList.takeWhile (· != '\n') = text.toList := by
      rw [List.takeWhile_eq_self_iff]
      intro c hc
      simpa using ne_of_mem_of_not_mem hc hlf
    rw [hfront, List.filter_eq_self]
    intro c hc
    simpa using ne_of_mem_of_not_mem hc hcr

lemma lf_mem_utf8EncodeChar_iff (c : Char) :
    Octets.lf ∈ String.utf8EncodeChar c ↔ c = '\n' := by
  rw [Octets.mem_utf8EncodeChar_iff (by decide), ← Char.toNat_inj]
  rfl

lemma cr_mem_utf8EncodeChar_iff (c : Char) :
    Octets.cr ∈ String.utf8EncodeChar c ↔ c = '\r' := by
  rw [Octets.mem_utf8EncodeChar_iff (by decide), ← Char.toNat_inj]
  rfl

lemma content_utf8EncodeChar {c : Char} (hcr : c ≠ '\r') (hlf : c ≠ '\n') :
    content (String.utf8EncodeChar c) = String.utf8EncodeChar c := by
  rw [content, List.filter_eq_self]
  intro b hb
  have hcr' : b ≠ Octets.cr := by
    rintro rfl
    exact hcr ((cr_mem_utf8EncodeChar_iff c).mp hb)
  have hlf' : b ≠ Octets.lf := by
    rintro rfl
    exact hlf ((lf_mem_utf8EncodeChar_iff c).mp hb)
  simp [hcr', hlf']

lemma encode_eq (cs : List Char) :
    encode (String.ofList cs) = cs.flatMap String.utf8EncodeChar ++ Octets.crlf := by
  rw [encode, Octets.ofString_ofList]

/-- The first piece of a text that was written as a line, and of anything behind it. -/
lemma content_segment_encode (text : String) (behind : Octets) :
    content (segment (encode text ++ behind)) = Octets.ofString (kept text) := by
  obtain ⟨cs, rfl⟩ : ∃ cs, text = String.ofList cs := ⟨_, String.ofList_toList.symm⟩
  rw [encode_eq, kept, String.toList_ofList, Octets.ofString_ofList]
  induction cs with
  | nil => rfl
  | cons c cs ih =>
    by_cases hlf : c = '\n'
    · subst hlf
      rfl
    · have hfront : Octets.lf ∉ String.utf8EncodeChar c := by
        rwa [lf_mem_utf8EncodeChar_iff]
      rw [List.flatMap_cons, List.append_assoc, List.append_assoc,
        segment_append_of_notMem hfront, content_append, ← List.append_assoc _ _ behind, ih,
        List.takeWhile_cons_of_pos (by simpa using hlf)]
      by_cases hcr : c = '\r'
      · subst hcr
        rfl
      · rw [content_utf8EncodeChar hcr hlf, List.filter_cons_of_pos (by simpa using hcr),
          List.flatMap_cons]

/-- A text without a line feed is one piece. -/
lemma segment_encode {text : String} (h : '\n' ∉ text.toList) (behind : Octets) :
    segment (encode text ++ behind) = encode text := by
  have hfront : Octets.lf ∉ Octets.ofString text := by
    rw [Octets.ofString, List.mem_flatMap]
    rintro ⟨c, hc, hlf⟩
    rw [lf_mem_utf8EncodeChar_iff] at hlf
    exact h (hlf ▸ hc)
  rw [encode, List.append_assoc, segment_append_of_notMem hfront]
  rfl

end Line

namespace LineStream

/-! ### One line -/

/-- What the log shows of a line that was read. -/
def shown (loggable : Bool) (text : String) : List Event :=
  if loggable then [.log (.received text)] else []

lemma run_readLine_of_ok {s s' : LineStream} {line : Array UInt8} {terminated : Bool}
    (h : readLineOnto #[] s = (.ok (line, terminated), s')) (loggable : Bool) :
    (readLine loggable).run s
      = ⟨.ok (Text.decodeLossy line.toList), s',
          (if terminated then [] else [.log .endOfStream])
            ++ shown loggable (Text.decodeLossy line.toList)⟩ := by
  rw [readLine_eq, Task.run_map, run_readLineOctets, h]
  rfl

/-- What is read of a text that comes first, whatever text it is. -/
lemma Steady.readLine_kept {s : LineStream} (hs : s.Steady) {text : String} {behind : Octets}
    (hincoming : s.incoming = Line.encode text ++ behind) (loggable : Bool) :
    ((readLine loggable).run s).result
      = if s.maxLineLength < (Line.kept text).utf8ByteSize
        then .error (.failed (lineTooLong s.maxLineLength)) else .ok (Line.kept text) := by
  obtain ⟨-, -, hresult, -⟩ := hs.readLineOctets loggable
  rw [readLine_eq, Task.run_map, hresult, hincoming, Line.content_segment_encode, Line.verdict,
    Octets.length_ofString]
  split_ifs with hlong
  · rfl
  · rw [Except.map, Text.decodeLossy_ofString]

/-- A text that fits is read as it was written, and nothing behind it is. -/
lemma Steady.readLine_fits {s : LineStream} (hs : s.Steady) {text : String} {behind : Octets}
    (hfits : Line.Fits s.maxLineLength text)
    (hincoming : s.incoming = Line.encode text ++ behind) (loggable : Bool) :
    ∃ s', (readLine loggable).run s = ⟨.ok text, s', shown loggable text⟩ ∧ s'.Steady ∧
      s'.maxLineLength = s.maxLineLength ∧ s'.incoming = behind := by
  have hkept : Line.kept text = text := (Line.kept_eq_iff text).mpr ⟨hfits.cr, hfits.lf⟩
  have hpiece : Line.segment s.incoming = Line.encode text := by
    rw [hincoming, Line.segment_encode hfits.lf]
  have hcontent : Line.content (Line.segment s.incoming) = Octets.ofString text := by
    rw [hincoming, Line.content_segment_encode, hkept]
  have hread := readLineOnto_steady #[] s hs (Nat.zero_le _)
  simp only [List.nil_append, hcontent] at hread
  rw [if_neg (by rw [Octets.length_ofString]; exact Nat.not_lt.mpr hfits.short)] at hread
  obtain ⟨line, s', hread, hline, hs', hmax, hdrop⟩ := hread
  have hterm : Line.isTerminated (Line.segment s.incoming) = true := by
    rw [Line.isTerminated_segment, hincoming]
    simp [Line.encode, Octets.crlf]
  refine ⟨s', ?_, hs', hmax, ?_⟩
  · rw [run_readLine_of_ok hread, hterm, hline, Text.decodeLossy_ofString]
    rfl
  · rw [hdrop, hpiece, hincoming, List.drop_left]

/-- At the end of the stream the empty text is read, and the log says so. -/
lemma Steady.readLine_end {s : LineStream} (hs : s.Steady) (hincoming : s.incoming = [])
    (loggable : Bool) :
    ∃ s', (readLine loggable).run s = ⟨.ok "", s', .log .endOfStream :: shown loggable ""⟩ ∧
      s'.Steady ∧ s'.maxLineLength = s.maxLineLength ∧ s'.incoming = [] := by
  have hread := readLineOnto_steady #[] s hs (Nat.zero_le _)
  simp only [hincoming, Line.segment_nil, Line.content, List.filter_nil, List.append_nil,
    List.length_nil, List.drop_nil] at hread
  rw [if_neg (Nat.not_lt_zero _)] at hread
  obtain ⟨line, s', hread, hline, hs', hmax, hdrop⟩ := hread
  refine ⟨s', ?_, hs', hmax, hdrop⟩
  have hempty : Text.decodeLossy [] = "" := Text.decodeLossy_ofString ""
  rw [run_readLine_of_ok hread, hline, hempty]
  rfl

/-! ### Lines in a row -/

/-- What reads answer and what the log shows of them when these texts are to come: a read each, and
behind the last one the end of the stream. -/
def readings : List Bool → List String → List (Except (Fault IoError) String × List Event)
  | [], _ => []
  | loggable :: more, [] => (.ok "", .log .endOfStream :: shown loggable "") :: readings more []
  | loggable :: more, text :: texts => (.ok text, shown loggable text) :: readings more texts

/-- Reads in a row answer the texts that are to come, and then the end. -/
lemma Steady.runs_readLine {s : LineStream} (hs : s.Steady) {texts : List String}
    (hfits : ∀ text ∈ texts, Line.Fits s.maxLineLength text)
    (hincoming : s.incoming = texts.flatMap Line.encode) (flags : List Bool) :
    (Task.runs (flags.map readLine) s).map (fun run => (run.result, run.trace))
      = readings flags texts := by
  induction flags generalizing s texts with
  | nil => rfl
  | cons loggable more ih =>
    cases texts with
    | nil =>
      obtain ⟨s', hread, hs', -, hincoming'⟩ := hs.readLine_end hincoming loggable
      have hrest := @ih s' hs' [] (by simp) hincoming'
      rw [List.map_cons, Task.runs, hread, List.map_cons, hrest, readings]
    | cons text texts =>
      obtain ⟨hfirst, hfits⟩ := List.forall_mem_cons.mp hfits
      obtain ⟨s', hread, hs', hmax, hincoming'⟩ := hs.readLine_fits hfirst hincoming loggable
      rw [← hmax] at hfits
      rw [List.map_cons, Task.runs, hread, List.map_cons, ih hs' hfits hincoming', readings]

/-- The tasks that write lines, each with what the log shows in its place. -/
def writeLines (lines : List (String × Option String)) :
    List (Task LineStream (Fault IoError) Unit) :=
  lines.map fun (text, replacement) => writeLine text replacement

/-- Lines that are written without an error are all that is written, and nothing stays behind. -/
lemma after_writeLines {lines : List (String × Option String)} {s : LineStream}
    (hok : ∀ run ∈ Task.runs (writeLines lines) s, run.result = .ok ()) :
    (Task.after (writeLines lines) s).written
        = s.written ++ (lines.map Prod.fst).flatMap Line.encode ∧
      (lines ≠ [] → (Task.after (writeLines lines) s).pending = []) := by
  induction lines generalizing s with
  | nil => exact ⟨(List.append_nil _).symm, fun hne => absurd rfl hne⟩
  | cons line more ih =>
    obtain ⟨text, replacement⟩ := line
    obtain ⟨hfirst, hok⟩ := List.forall_mem_cons.mp hok
    obtain ⟨part, -, hwritten, hall⟩ := (SendCall.line text replacement).task_written s
    obtain ⟨rfl, hpending⟩ := hall hfirst
    obtain ⟨hwritten', hpending'⟩ := ih hok
    constructor
    · show (Task.after (writeLines more) _).written = _
      rw [hwritten']
      show ((SendCall.line text replacement).task.run s).state.written ++ _ = _
      rw [hwritten, List.append_assoc]
      rfl
    · intro _
      by_cases hmore : more = []
      · subst hmore
        exact hpending
      · exact hpending' hmore

/-- A stream has written lines without an error, and what its far end has then taken, all that was
written before and all that another stream has to read. -/
structure Carried (writer : LineStream) (lines : List (String × Option String))
    (reader : LineStream) : Prop where
  succeeds : ∀ run ∈ Task.runs (writeLines lines) writer, run.result = .ok ()
  arrives : (Task.after (writeLines lines) writer).wire.taken = writer.written ++ reader.incoming
  steady : reader.Steady

lemma Carried.incoming {writer reader : LineStream} {lines : List (String × Option String)}
    (h : Carried writer lines reader) :
    reader.incoming = (lines.map Prod.fst).flatMap Line.encode := by
  obtain ⟨hwritten, hpending⟩ := after_writeLines h.succeeds
  rw [written, h.arrives, List.append_assoc, List.append_cancel_left_eq] at hwritten
  by_cases hlines : lines = []
  · subst hlines
    exact (List.append_eq_nil_iff.mp hwritten).1
  · rwa [hpending hlines, List.append_nil] at hwritten

/-- Lines that are carried from one stream to another are read as they were written, and then the end
of the stream is, if none of them has a CR or an LF and none is too long. Of one line alone this is
also the only case in which it is read as it was. -/
theorem lines_round_trip {writer reader : LineStream} {lines : List (String × Option String)}
    (h : Carried writer lines reader) :
    ((∀ line ∈ lines, Line.Fits reader.maxLineLength line.1) →
      ∀ flags, (Task.runs (flags.map readLine) reader).map (fun run => (run.result, run.trace))
        = readings flags (lines.map Prod.fst)) ∧
    ∀ text replacement, lines = [(text, replacement)] →
      ∀ loggable, ((readLine loggable).run reader).result = .ok text ↔
        Line.Fits reader.maxLineLength text := by
  constructor
  · intro hfits flags
    apply h.steady.runs_readLine _ h.incoming
    simpa using hfits
  · rintro text replacement rfl loggable
    have hincoming : reader.incoming = Line.encode text ++ [] := by simpa using h.incoming
    rw [h.steady.readLine_kept hincoming]
    constructor
    · intro hread
      split_ifs at hread with hlong
      have hkept : Line.kept text = text := Except.ok.inj hread
      obtain ⟨hcr, hlf⟩ := (Line.kept_eq_iff text).mp hkept
      exact ⟨hcr, hlf, Nat.not_lt.mp (hkept ▸ hlong)⟩
    · intro hfits
      have hkept : Line.kept text = text := (Line.kept_eq_iff text).mpr ⟨hfits.cr, hfits.lf⟩
      rw [hkept, if_neg (Nat.not_lt.mpr hfits.short)]

/-- A stream whose write buffer has less room than a line needs. -/
def narrow : LineStream := ofWire 1 3 Wire.idle

/-- A line in chunks, of which one ends inside a character and one inside the line end. -/
def cutCharacter : LineStream :=
  ofChunks [[0xc3], [0xa9, 0x0d], [0x0a]] 1 512 none 2

theorem lines_round_trip_cutCharacter :
    Carried narrow [("é", none)] cutCharacter ∧
      (Task.runs ([true, false].map readLine) cutCharacter).map (fun run => (run.result, run.trace))
        = [(.ok "é", [.log (.received "é")]), (.ok "", [.log .endOfStream])] := by
  have hwrite : narrow.writeAll (Line.encode "é")
      = (.ok (), (narrow.put (Line.encode "é")).2) := by
    have hroom : narrow.makeRoom (Line.encode "é") = (.ok (), narrow) := by decide +kernel
    refine writeAll_of_put (by decide +kernel) hroom ?_
    decide +kernel
  have hcarried : Carried narrow [("é", none)] cutCharacter := by
    constructor
    · simp only [writeLines, List.map_cons, List.map_nil, Task.runs, writeLine, Task.run_bind,
        Task.run_log, Task.run_step, hwrite]
      decide +kernel
    · simp only [writeLines, List.map_cons, List.map_nil, Task.after, writeLine, Task.run_bind,
        Task.run_log, Task.run_step, hwrite]
      decide +kernel
    · exact steady_ofChunks (by decide) (by decide) 512 none 2
  exact ⟨hcarried, (lines_round_trip hcarried).1 (by decide +kernel) [true, false]⟩

end LineStream

end Mailwire
