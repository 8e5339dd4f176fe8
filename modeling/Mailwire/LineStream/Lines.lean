import Mailwire.LineStream.Basic
import Mailwire.Task
import Mailwire.Text.Utf8

/-!
# Lines

An outgoing line ends in CR LF. An incoming line ends at the first LF or at the end of the stream,
and every CR in it is dropped. The length of an incoming line is looked at after each refill: a
line that has grown too long by then is given up.
-/

namespace Mailwire

namespace Line

/-- The octets up to the first line feed, which is included. -/
def segment (available : Octets) : Octets :=
  available.take ((available.takeWhile (· != Octets.lf)).length + 1)

/-- Whether the octets of a segment end a line. -/
def isTerminated (segment : Octets) : Bool := segment.getLast? == some Octets.lf

/-- What a line keeps of its octets: all but CR and LF. -/
def content (octets : Octets) : Octets :=
  octets.filter fun b => b != Octets.cr && b != Octets.lf

theorem segment_ne_nil {available : Octets} (h : available ≠ []) : segment available ≠ [] := by
  cases available with
  | nil => exact absurd rfl h
  | cons b rest => simp [segment]

/-- The pieces of an octet sequence: it is cut behind every line feed. -/
def pieces : Octets → List Octets
  | [] => []
  | b :: rest =>
    if b = Octets.lf then [b] :: pieces rest
    else
      match pieces rest with
      | [] => [[b]]
      | piece :: more => (b :: piece) :: more

def lines (octets : Octets) : List Octets := (pieces octets).map content

def encode (line : String) : Octets := Octets.ofString line ++ Octets.crlf

end Line

namespace LineStream

/-! ### Reading -/

/-- What a line that is too long fails with. -/
def lineTooLong (max : Nat) : IoError :=
  .described .invalidData ("line too long (over " ++ toString max ++ " bytes)")

/-- Reads on with a line that was begun. Answers its octets and whether a line feed has ended
it. -/
def readLineOnto (line : Array UInt8) (s : LineStream) :
    Except (Fault IoError) (Array UInt8 × Bool) × LineStream :=
  match _h : s.refill with
  | (.error f, s) => (.error f, s)
  | (.ok available, s') =>
    if _ha : available = [] then (.ok (line, false), s')
    else
      let segment := Line.segment available
      let line := line ++ Line.content segment
      let s'' := s'.consume segment.length
      if s.maxLineLength < line.size then (.error (.failed (lineTooLong s.maxLineLength)), s'')
      else if Line.isTerminated segment then (.ok (line, true), s'')
      else readLineOnto line s''
termination_by s.supply
decreasing_by
  obtain ⟨hunread, hsupply⟩ := refill_ok _h
  have hseg : 0 < (Line.segment available).length :=
    List.length_pos_iff.mpr (Line.segment_ne_nil _ha)
  have hlt : (s'.consume (Line.segment available).length).supply < s'.supply :=
    consume_supply_lt hseg (by rw [hunread]; exact _ha)
  exact Nat.lt_of_lt_of_le hlt hsupply

/-- Reads one line as octets. The line is logged if it may be. -/
def readLineOctets (loggable : Bool) : Task LineStream (Fault IoError) Octets := do
  let (line, terminated) ← Task.step (readLineOnto #[])
  if !terminated then Task.log .endOfStream
  if loggable then Task.log (.received (Text.decodeLossy line.toList))
  return line.toList

def readLine (loggable : Bool) : Task LineStream (Fault IoError) String := do
  let line ← readLineOctets loggable
  match Text.decode? line with
  | some text => return text
  | none => return Text.decodeLossy line

/-! ### Writing -/

/-- Writes a line and sends it off. The log shows `replacement` where there is one; the octets
are those of the line in any case. -/
def writeLine (line : String) (replacement : Option String) :
    Task LineStream (Fault IoError) Unit := do
  Task.log (.sending (replacement.getD line))
  Task.step (writeAll (Line.encode line))
  Task.step (flush none)

end LineStream

end Mailwire
