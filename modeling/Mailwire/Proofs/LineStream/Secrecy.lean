import Mailwire.Proofs.LineStream.Conservation
import Mailwire.Proofs.LineStream.Relabel

/-!
# What may not be logged makes no difference to the log

Two streams are alike if they differ only in which octets there are, line ends excepted. Calls that
hide the same things, made to streams that are alike, leave streams that are alike, log the same and
end the same way (`LineCall.Hides.indistinct`). The one thing a log shows of the octets is a line whose
read may be logged, so these octets have to be the same. What takes the place of a text in the log has
no other effect (`LineCall.secrets_stay_hidden`).
-/

namespace Mailwire

namespace Octets

/-- An octet, of which only line ends are known. -/
def outline (b : UInt8) : UInt8 := if b = cr ∨ b = lf then b else 0

/-- An octet of which nothing is known. -/
def blank (_ : UInt8) : UInt8 := 0

lemma keepsLineEnds_outline : KeepsLineEnds outline := by
  constructor
  · intro b
    rw [outline]
    split_ifs with hb
    · rfl
    · rw [not_or] at hb
      exact ⟨fun h => absurd h (by decide), fun h => absurd h hb.1⟩
  · intro b
    rw [outline]
    split_ifs with hb
    · rfl
    · rw [not_or] at hb
      exact ⟨fun h => absurd h (by decide), fun h => absurd h hb.2⟩

lemma map_blank (octets : Octets) : octets.map blank = List.replicate octets.length 0 :=
  List.map_const ..

/-- Octets are the same where they have to be. -/
def Agree (mask : List Bool) (octets octets' : Octets) : Prop :=
  ∀ i : Nat, mask[i]? = some true → octets[i]? = octets'[i]?

/-- Octets that agree have parts that do. -/
lemma Agree.of_append {flag : Bool} {mask : List Bool} {front front' rest rest' : Octets}
    (h : Agree (List.replicate front.length flag ++ mask) (front ++ rest) (front' ++ rest'))
    (hlength : front'.length = front.length) :
    (flag = true → front = front') ∧ Agree mask rest rest' := by
  constructor
  · rintro rfl
    apply List.ext_getElem?
    intro i
    by_cases hi : i < front.length
    · have hfront := h i (by simp [List.getElem?_append_left, hi])
      rwa [List.getElem?_append_left hi, List.getElem?_append_left (hlength ▸ hi)] at hfront
    · have hi := Nat.le_of_not_lt hi
      rw [List.getElem?_eq_none hi, List.getElem?_eq_none (hlength ▸ hi)]
  · intro i hi
    have hrest := h (front.length + i) (by simpa [List.getElem?_append_right] using hi)
    rw [List.getElem?_append_right (Nat.le_add_right _ _)] at hrest
    simpa [List.getElem?_append_right, hlength] using hrest

end Octets

namespace LineStream

/-! ### Writing takes nothing of what is to come -/

lemma sendPending_incoming (deadline : Option Nat) (s : LineStream) :
    (s.sendPending deadline).2.incoming = s.incoming :=
  congrArg (s.unread ++ ·) (Wire.writeAll_incoming deadline bufferStuck s.pending s.wire)

lemma flush_incoming (deadline : Option Nat) (s : LineStream) :
    (s.flush deadline).2.incoming = s.incoming := by
  rw [flush, ← sendPending_incoming deadline s]
  rcases s.sendPending deadline with ⟨_ | _, s'⟩ <;> rfl

lemma shutdown_incoming (deadline : Option Nat) (s : LineStream) :
    (s.shutdown deadline).2.incoming = s.incoming := by
  rw [shutdown, ← sendPending_incoming deadline s]
  rcases s.sendPending deadline with ⟨_ | _, s'⟩ <;> rfl

lemma makeRoom_incoming {octets : Octets} {s s' : LineStream}
    {answer : Except (Fault IoError) Unit} (h : s.makeRoom octets = (answer, s')) :
    s'.incoming = s.incoming := by
  rw [makeRoom] at h
  split_ifs at h
  · rw [← sendPending_incoming none s, h]
  · cases h
    rfl

lemma put_incoming {octets : Octets} {s s' : LineStream} {answer : Except (Fault IoError) Nat}
    (h : s.put octets = (answer, s')) : s'.incoming = s.incoming := by
  rw [put] at h
  split_ifs at h
  · rcases hwrite : s.wire.write none octets with ⟨taken, w⟩
    rw [hwrite] at h
    cases h
    exact congrArg (s.unread ++ ·) (Wire.write_incoming hwrite)
  · cases h
    rfl

lemma writeAll_incoming (octets : Octets) (s : LineStream) :
    (s.writeAll octets).2.incoming = s.incoming := by
  fun_induction writeAll octets s with
  | case1 octets s hempty => rfl
  | case2 octets s hne fault s' hroom => exact makeRoom_incoming hroom
  | case3 octets s hne s' hroom s'' hput =>
    exact (put_incoming hput).trans (makeRoom_incoming hroom)
  | case4 octets s hne s' hroom n s'' hput ih =>
    exact ih.trans ((put_incoming hput).trans (makeRoom_incoming hroom))
  | case5 octets s hne s' hroom e s'' hput hinterrupted ih =>
    exact ih.trans ((put_incoming hput).trans (makeRoom_incoming hroom))
  | case6 octets s hne s' hroom e s'' hput hinterrupted =>
    exact (put_incoming hput).trans (makeRoom_incoming hroom)
  | case7 octets s hne s' hroom s'' hput =>
    exact (put_incoming hput).trans (makeRoom_incoming hroom)

lemma send_incoming (octets : Octets) (s : LineStream) :
    (s.send octets).2.incoming = s.incoming := by
  rw [send, ← writeAll_incoming octets s]
  rcases s.writeAll octets with ⟨_ | _, s'⟩
  · rfl
  · exact flush_incoming none s'

/-! ### Streams that are alike -/

/-- The streams differ only in octets. Where octets that come in differ, neither is a line end. -/
def Alike (s s' : LineStream) : Prop :=
  s.relabel Octets.outline Octets.blank = s'.relabel Octets.outline Octets.blank

lemma Alike.incoming_length {s s' : LineStream} (h : s.Alike s') :
    s.incoming.length = s'.incoming.length := by
  have hlength := congrArg (fun s => s.incoming.length) h
  simpa only [incoming_relabel, List.length_map] using hlength

/-- Runs that nobody can tell apart who sees the log, and whether they have failed and why. -/
structure Indistinct {α : Type} (r r' : Run LineStream (Fault IoError) α) : Prop where
  trace : r.trace = r'.trace
  outcome : r.result.map (fun _ => ()) = r'.result.map (fun _ => ())
  state : r.state.Alike r'.state

lemma Indistinct.map {α β : Type} {t t' : Task LineStream (Fault IoError) α} {s s' : LineStream}
    (h : Indistinct (t.run s) (t'.run s')) (g : α → β) :
    Indistinct ((g <$> t).run s) ((g <$> t').run s') := by
  have houtcome : ∀ result : Except (Fault IoError) α,
      (result.map g).map (fun _ => ()) = result.map (fun _ => ()) := by
    rintro (_ | _) <;> rfl
  refine ⟨?_, ?_, ?_⟩
  · rw [Task.run_map, Task.run_map]
    exact h.trace
  · rw [Task.run_map, Task.run_map]
    dsimp only
    rw [houtcome, houtcome]
    exact h.outcome
  · rw [Task.run_map, Task.run_map]
    exact h.state

/-- Lines that are as long make no difference to each other. -/
lemma Alike.send {s s' : LineStream} (h : s.Alike s') {octets octets' : Octets}
    (hlength : octets.length = octets'.length) :
    (s.send octets).1 = (s'.send octets').1 ∧ (s.send octets).2.Alike (s'.send octets').2 := by
  have hsend := send_relabel Octets.outline Octets.blank octets s
  rw [h, Octets.map_blank, hlength, ← Octets.map_blank, send_relabel] at hsend
  obtain ⟨hresult, hstate⟩ := Prod.mk.inj hsend
  exact ⟨hresult.symm, hstate.symm⟩

lemma Alike.shutdown {s s' : LineStream} (h : s.Alike s') (deadline : Option Nat) :
    (s.shutdown deadline).1 = (s'.shutdown deadline).1 ∧
      (s.shutdown deadline).2.Alike (s'.shutdown deadline).2 := by
  have hshutdown := shutdown_relabel Octets.outline Octets.blank deadline s
  rw [h, shutdown_relabel] at hshutdown
  obtain ⟨hresult, hstate⟩ := Prod.mk.inj hshutdown
  exact ⟨hresult.symm, hstate.symm⟩

/-- A read takes octets from the front, and a line that it answers is made of these. -/
lemma readLineOctets_takes (loggable : Bool) (s : LineStream) :
    ∃ piece, s.incoming = piece ++ ((readLineOctets loggable).run s).state.incoming ∧
      ∀ line, ((readLineOctets loggable).run s).result = .ok line → line = Line.content piece := by
  obtain ⟨portion, hyields, -, hconcluded⟩ := readLineOctets_yields loggable s
  refine ⟨portion.piece, hyields.incoming, ?_⟩
  intro line hline
  rw [hline] at hconcluded
  cases hconcluded <;> rfl

/-- Reads of streams that are alike take as many octets and leave streams that are alike. -/
lemma Alike.readLineOctets {s s' : LineStream} (h : s.Alike s') (loggable : Bool) :
    ((LineStream.readLineOctets loggable).run s).state.Alike
      ((LineStream.readLineOctets loggable).run s').state := by
  have hread := readLineOnto_relabel Octets.blank Octets.keepsLineEnds_outline #[] s
  rw [h, readLineOnto_relabel Octets.blank Octets.keepsLineEnds_outline] at hread
  rw [state_readLineOctets, state_readLineOctets]
  exact (Prod.mk.inj hread).2.symm

/-- Nobody can tell reads of streams that are alike apart if the lines that they answer are the same,
or if these are not logged. -/
lemma Alike.indistinct_readLineOctets {s s' : LineStream} (h : s.Alike s') {loggable : Bool}
    (hlines : loggable = true → ∀ line line',
      ((LineStream.readLineOctets loggable).run s).result = .ok line →
      ((LineStream.readLineOctets loggable).run s').result = .ok line' → line = line') :
    Indistinct ((LineStream.readLineOctets loggable).run s)
      ((LineStream.readLineOctets loggable).run s') := by
  have halike := h.readLineOctets loggable
  have hread := readLineOnto_relabel Octets.blank Octets.keepsLineEnds_outline #[] s
  rw [h, readLineOnto_relabel Octets.blank Octets.keepsLineEnds_outline] at hread
  have hresult := (Prod.mk.inj hread).1
  rw [run_readLineOctets, run_readLineOctets] at hlines halike ⊢
  generalize readLineOnto #[] s = answer at hlines halike hresult ⊢
  generalize readLineOnto #[] s' = answer' at hlines halike hresult ⊢
  rcases answer with ⟨e | ⟨line, terminated⟩, s₁⟩ <;>
    rcases answer' with ⟨e' | ⟨line', terminated'⟩, s₁'⟩
  · obtain rfl : e' = e := Except.error.inj hresult
    exact ⟨rfl, rfl, halike⟩
  · exact nomatch hresult
  · exact nomatch hresult
  · obtain rfl : terminated' = terminated := (Prod.mk.inj (Except.ok.inj hresult)).2
    refine ⟨?_, rfl, halike⟩
    cases loggable with
    | false => rfl
    | true =>
      have hline : line.toList = line'.toList := hlines rfl _ _ rfl rfl
      dsimp only
      rw [hline]

/-- Nobody can tell reads of streams that are alike apart if the octets that they take are the same,
or if the line is not logged. In any case they take as many octets. -/
lemma Alike.takes_readLineOctets {s s' : LineStream} (h : s.Alike s') (loggable : Bool) :
    ∃ piece piece',
      s.incoming = piece ++ ((LineStream.readLineOctets loggable).run s).state.incoming ∧
      s'.incoming = piece' ++ ((LineStream.readLineOctets loggable).run s').state.incoming ∧
      piece'.length = piece.length ∧
      ((loggable = true → piece = piece') →
        Indistinct ((LineStream.readLineOctets loggable).run s)
          ((LineStream.readLineOctets loggable).run s')) := by
  obtain ⟨piece, hincoming, hline⟩ := readLineOctets_takes loggable s
  obtain ⟨piece', hincoming', hline'⟩ := readLineOctets_takes loggable s'
  refine ⟨piece, piece', hincoming, hincoming', ?_, ?_⟩
  · have hlength := h.incoming_length
    rw [hincoming, hincoming', List.length_append, List.length_append,
      (h.readLineOctets loggable).incoming_length] at hlength
    exact (Nat.add_right_cancel hlength).symm
  · intro hpiece
    apply h.indistinct_readLineOctets
    intro hloggable line line' hok hok'
    rw [hline line hok, hline' line' hok', hpiece hloggable]

/-- Nobody can tell writes of lines apart that are as long, if the same text is logged. -/
lemma Alike.indistinct_writeLine {s s' : LineStream} (h : s.Alike s') {text text' : String}
    {replacement : Option String} (hlength : text.utf8ByteSize = text'.utf8ByteSize)
    (hlogged : replacement.getD text = replacement.getD text') :
    Indistinct ((writeLine text replacement).run s) ((writeLine text' replacement).run s') := by
  have hencoded : (Line.encode text).length = (Line.encode text').length := by
    rw [Line.encode, Line.encode, List.length_append, List.length_append, Octets.length_ofString,
      Octets.length_ofString, hlength]
  obtain ⟨hresult, hstate⟩ := h.send hencoded
  rw [run_writeLine, run_writeLine]
  exact ⟨by rw [hlogged], by rw [hresult], hstate⟩

end LineStream

/-! ### Calls in a row -/

/-- Sending takes nothing of what is to come. -/
lemma SendCall.incoming (call : SendCall) (s : LineStream) :
    (call.task.run s).state.incoming = s.incoming := by
  cases call with
  | line text replacement =>
    rw [task, LineStream.run_writeLine]
    exact LineStream.send_incoming _ s
  | shutdown deadline => exact LineStream.shutdown_incoming deadline s

/-- A call that works on lines. -/
inductive LineCall
  | send (call : SendCall)
  | read (loggable : Bool)
  | readOctets (loggable : Bool)
deriving DecidableEq, Repr

namespace LineCall

open LineStream (Indistinct)

/-- What a call answers. -/
inductive Answer
  | sent
  | text (line : String)
  | octets (line : Octets)
deriving DecidableEq, Repr

def task : LineCall → Task LineStream (Fault IoError) Answer
  | .send call => (fun _ => .sent) <$> call.task
  | .read loggable => .text <$> LineStream.readLine loggable
  | .readOctets loggable => .octets <$> LineStream.readLineOctets loggable

/-- What becomes of calls that are made one after another, whatever became of those before. -/
def runs (calls : List LineCall) (s : LineStream) : List (Run LineStream (Fault IoError) Answer) :=
  Task.runs (calls.map task) s

/-- Whether what a call reads may be logged. -/
def loggable : LineCall → Bool
  | .send _ => false
  | .read loggable => loggable
  | .readOctets loggable => loggable

/-- Which of the octets that are to come are taken by calls that may log them. -/
def logged : List LineCall → LineStream → List Bool
  | [], _ => []
  | call :: more, s =>
    let s' := (call.task.run s).state
    List.replicate (s.incoming.length - s'.incoming.length) call.loggable ++ logged more s'

/-- Calls that are the same but for a text that something else stands for in the log. -/
inductive Hides : LineCall → LineCall → Prop
  | refl (call : LineCall) : Hides call call
  | line {text text' : String} (replacement : String)
      (length : text.utf8ByteSize = text'.utf8ByteSize) :
      Hides (.send (.line text (some replacement))) (.send (.line text' (some replacement)))

/-- Calls that are the same but for what stands for a text in the log, if anything does. -/
inductive Rephrases : LineCall → LineCall → Prop
  | refl (call : LineCall) : Rephrases call call
  | line (text : String) (replacement replacement' : Option String) :
      Rephrases (.send (.line text replacement)) (.send (.line text replacement'))

/-- Nobody can tell calls apart that hide the same, of streams that are alike, if what they take is
the same or is not logged. In any case they take as many octets. -/
lemma Hides.indistinct {call call' : LineCall} (hcalls : Hides call call') {s s' : LineStream}
    (h : s.Alike s') :
    ∃ piece piece', s.incoming = piece ++ (call.task.run s).state.incoming ∧
      s'.incoming = piece' ++ (call'.task.run s').state.incoming ∧
      piece'.length = piece.length ∧
      ((call.loggable = true → piece = piece') →
        Indistinct (call.task.run s) (call'.task.run s')) := by
  have hincoming : ∀ (call : SendCall) (s : LineStream),
      s.incoming = [] ++ ((send call).task.run s).state.incoming := by
    intro call s
    rw [task, Task.run_map]
    exact (call.incoming s).symm
  cases hcalls with
  | line replacement hlength =>
    refine ⟨[], [], hincoming _ s, hincoming _ s', rfl, fun _ => ?_⟩
    exact (h.indistinct_writeLine hlength rfl).map _
  | refl =>
    cases call with
    | send call =>
      refine ⟨[], [], hincoming _ s, hincoming _ s', rfl, fun _ => ?_⟩
      cases call with
      | line text replacement => exact (h.indistinct_writeLine rfl rfl).map _
      | shutdown deadline =>
        obtain ⟨hresult, hstate⟩ := h.shutdown deadline
        apply Indistinct.map
        exact ⟨rfl, congrArg (Except.map _) hresult, hstate⟩
    | read loggable =>
      obtain ⟨piece, piece', htakes, htakes', hlength, hsame⟩ := h.takes_readLineOctets loggable
      rw [task, LineStream.readLine_eq]
      refine ⟨piece, piece', ?_, ?_, hlength, fun hpiece => ((hsame hpiece).map _).map _⟩
      · rw [Task.run_map, Task.run_map]
        exact htakes
      · rw [Task.run_map, Task.run_map]
        exact htakes'
    | readOctets loggable =>
      obtain ⟨piece, piece', htakes, htakes', hlength, hsame⟩ := h.takes_readLineOctets loggable
      refine ⟨piece, piece', ?_, ?_, hlength, fun hpiece => (hsame hpiece).map _⟩
      · rw [task, Task.run_map]
        exact htakes
      · rw [task, Task.run_map]
        exact htakes'

lemma Rephrases.eq {call call' : LineCall} (h : Rephrases call call') (s : LineStream) :
    (call.task.run s).result = (call'.task.run s).result ∧
      (call.task.run s).state = (call'.task.run s).state := by
  cases h with
  | refl => exact ⟨rfl, rfl⟩
  | line text replacement replacement' =>
    rw [task, task, SendCall.task, SendCall.task, Task.run_map, Task.run_map,
      LineStream.run_writeLine, LineStream.run_writeLine]
    exact ⟨rfl, rfl⟩

/-- Calls that differ only in texts that others stand for in the log, made to streams that differ only
in octets that are read and not logged, log the same and end the same way. Whether and how a text is
replaced in the log makes no difference to what is sent, to any answer, or to the stream. -/
theorem secrets_stay_hidden :
    (∀ (s s' : LineStream) (calls calls' : List LineCall), s.Alike s' →
      List.Forall₂ Hides calls calls' →
      Octets.Agree (logged calls s) s.incoming s'.incoming →
      List.Forall₂ Indistinct (runs calls s) (runs calls' s')) ∧
    ∀ (s : LineStream) (calls calls' : List LineCall), List.Forall₂ Rephrases calls calls' →
      (runs calls s).map (fun run => (run.result, run.state))
        = (runs calls' s).map fun run => (run.result, run.state) := by
  constructor
  · intro s s' calls calls' halike hcalls hagree
    induction hcalls generalizing s s' with
    | nil => exact .nil
    | @cons call call' more more' hcall hmore ih =>
      obtain ⟨piece, piece', htakes, htakes', hlength, hsame⟩ := hcall.indistinct halike
      have hcount : s.incoming.length - (call.task.run s).state.incoming.length
          = piece.length := by
        rw [htakes, List.length_append, Nat.add_sub_cancel]
      rw [logged, hcount, htakes, htakes'] at hagree
      obtain ⟨hpiece, hrest⟩ := hagree.of_append hlength
      have hfirst := hsame hpiece
      exact .cons hfirst (ih _ _ hfirst.state hrest)
  · intro s calls calls' hcalls
    induction hcalls generalizing s with
    | nil => rfl
    | @cons call call' more more' hcall hmore ih =>
      obtain ⟨hresult, hstate⟩ := hcall.eq s
      have hrest := ih (call.task.run s).state
      rw [runs, runs, List.map_cons, List.map_cons, Task.runs, Task.runs, List.map_cons,
        List.map_cons, hresult, ← hstate]
      exact congrArg _ hrest

/-- A line of one octet, and another line. -/
def challenge (b : UInt8) : LineStream :=
  LineStream.ofChunks [[b, 0x0a], [0x62, 0x0a]] 1 512 none 2

/-- A line is read that is not logged, then one that is, and then a text is sent. -/
def login (text : String) (replacement : Option String) : List LineCall :=
  [.readOctets false, .read true, .send (.line text replacement)]

theorem secrets_stay_hidden_login :
    (challenge 0x61).Alike (challenge 0x63) ∧
      List.Forall₂ Indistinct (runs (login "ab" (some "x")) (challenge 0x61))
        (runs (login "cd" (some "x")) (challenge 0x63)) ∧
      (runs (login "ab" (some "x")) (challenge 0x61)).map (fun run => (run.result, run.state))
        = (runs (login "ab" none) (challenge 0x61)).map fun run => (run.result, run.state) := by
  have halike : (challenge 0x61).Alike (challenge 0x63) := by
    rw [LineStream.Alike]
    decide +kernel
  have hhides : List.Forall₂ Hides (login "ab" (some "x")) (login "cd" (some "x")) :=
    .cons (.refl _) (.cons (.refl _) (.cons (.line "x" (by decide +kernel)) .nil))
  have hrephrases : List.Forall₂ Rephrases (login "ab" (some "x")) (login "ab" none) :=
    .cons (.refl _) (.cons (.refl _) (.cons (.line "ab" (some "x") none) .nil))
  have hagree : Octets.Agree (logged (login "ab" (some "x")) (challenge 0x61))
      (challenge 0x61).incoming (challenge 0x63).incoming := by
    have hcount : (challenge 0x61).incoming.length
        - ((readOctets false).task.run (challenge 0x61)).state.incoming.length = 2 := by
      decide +kernel
    intro i hi
    match i with
    | 0 =>
      rw [login, logged, hcount] at hi
      exact absurd hi (by simp [loggable])
    | i + 1 => rfl
  exact ⟨halike, secrets_stay_hidden.1 _ _ _ _ halike hhides hagree,
    secrets_stay_hidden.2 _ _ _ hrephrases⟩

end LineCall

end Mailwire
