import Mailwire.Connection
import Mailwire.Proofs.Task

/-!
# What is seen of a connection in use

Writing and reading lines has events of its own (`Event.Talking`), and they are the only ones while a
connection is used for lines. Closing a connection always succeeds. It logs at most one line about what
went wrong, and at last that the connection is closed (`Connection.run_close`).
-/

namespace Mailwire

/-- An event of writing or reading a line. -/
inductive Event.Talking : Event → Prop
  | sending (text : String) : Talking (.log (.sending text))
  | received (text : String) : Talking (.log (.received text))
  | endOfStream : Talking (.log .endOfStream)

namespace LineStream

lemma writeLine_within (line : String) (replacement : Option String) :
    Task.Within Event.Talking (fun _ => True) (writeLine line replacement) := by
  refine (Task.Within.emit (.sending _)).bind fun _ => ?_
  have hwrite : Task.Within Event.Talking (fun _ => True)
      (Task.step (writeAll (Line.encode line))) := .step fun _ _ _ => trivial
  refine hwrite.bind fun _ => ?_
  exact .step fun _ _ _ => trivial

lemma readLineOctets_within (loggable : Bool) :
    Task.Within Event.Talking (fun _ => True) (readLineOctets loggable) := by
  have hread : Task.Within Event.Talking (fun _ => True) (Task.step (readLineOnto #[])) :=
    .step fun _ _ _ => trivial
  have hanswer : ∀ line : Array UInt8, Task.Within Event.Talking (fun _ => True)
      (if loggable then do
          Task.log (.received (Text.decodeLossy line.toList))
          return line.toList
        else return line.toList : Task LineStream (Fault IoError) Octets) := by
    intro line
    split_ifs
    · exact (Task.Within.emit (.received _)).bind fun _ => .pure _
    · exact .pure _
  refine hread.bind fun ⟨line, terminated⟩ => ?_
  cases terminated with
  | true => exact hanswer line
  | false => exact (Task.Within.emit .endOfStream).bind fun _ => hanswer line

lemma readLine_within (loggable : Bool) :
    Task.Within Event.Talking (fun _ => True) (readLine loggable) := by
  refine (readLineOctets_within loggable).bind fun line => ?_
  split
  · exact .pure _
  · exact .pure _

end LineStream

namespace Connection

variable {ε α : Type}

lemma onLines_within {events : Event → Prop} {failures : ε → Prop} {task : Task LineStream ε α}
    (h : Task.Within events failures task) : Task.Within events failures (onLines task) := by
  constructor
  · intro c
    exact h.trace c.lines
  · intro c
    exact h.failure c.lines

/-- What the log says about what went wrong while a connection was closed. -/
def closingTrouble (limit : Duration) : Except (Fault IoError) Unit → List Event
  | .ok () => []
  | .error (.failed e) => [.log (.closingFailed e.message)]
  | .error .unanswered => [.log (.closingTimedOut limit)]

/-- What closing a connection is seen to do. -/
def farewell (c : Connection) : List Event :=
  closingTrouble c.config.readTimeout (c.lines.shutdown (some c.closeDeadline)).1 ++ [.log .closed]

/-- What closing leaves of a connection. -/
def released (c : Connection) : Connection :=
  { c with lines := (c.lines.shutdown (some c.closeDeadline)).2 }

/-- Closing never fails, and at last it logs that the connection is closed. -/
theorem run_close (c : Connection) :
    (close : Task Connection ε Unit).run c = ⟨.ok (), c.released, c.farewell⟩ := by
  have hshutdown : (Task.attempt (onLines (Task.step (LineStream.shutdown (some c.closeDeadline)))) :
      Task Connection ε _).run c
        = ⟨.ok (c.lines.shutdown (some c.closeDeadline)).1, c.released, []⟩ := rfl
  have hstate : (Task.state : Task Connection ε Connection).run c = ⟨.ok c, c, []⟩ := rfl
  rw [close, Task.run_bind_ok hstate, Task.run_bind_ok hshutdown, farewell]
  rcases (c.lines.shutdown (some c.closeDeadline)).1 with (e | _) | _
  · rfl
  · rfl
  · rfl

end Connection

end Mailwire
