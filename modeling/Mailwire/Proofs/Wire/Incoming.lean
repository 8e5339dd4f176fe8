import Mathlib.Tactic
import Mailwire.Clock
import Mailwire.Wire.Basic

/-!
# What a wire has still to deliver

The octets that are to come over a wire are those that have arrived and those of the data in its
script, in order. A read takes octets from the front of them and changes nothing else about them,
whatever the delays and failures in between (`Wire.read_incoming`, `Wire.Reads.incoming`).

A wire is steady if its far end only sends data and then closes, and is never silent for longer
than a limit. A read within that limit answers, and it finds nothing only when nothing is to come
(`Wire.Steady.read`).
-/

namespace Mailwire

/-! ### Scripts of deliveries -/

namespace Delivery

/-- The octets that a row of cues delivers, whatever happens between them. -/
def payload : List (Cue Delivery) → Octets
  | [] => []
  | .act (.data octets) :: rest => octets ++ payload rest
  | _ :: rest => payload rest

@[simp] lemma payload_nil : payload [] = [] := rfl

@[simp] lemma payload_wait (ms : Nat) (rest : List (Cue Delivery)) :
    payload (.wait ms :: rest) = payload rest := rfl

@[simp] lemma payload_stall (rest : List (Cue Delivery)) :
    payload (.stall :: rest) = payload rest := rfl

@[simp] lemma payload_data (octets : Octets) (rest : List (Cue Delivery)) :
    payload (.act (.data octets) :: rest) = octets ++ payload rest := rfl

@[simp] lemma payload_fail (e : IoError) (rest : List (Cue Delivery)) :
    payload (.act (.fail e) :: rest) = payload rest := rfl

@[simp] lemma payload_eof (rest : List (Cue Delivery)) :
    payload (.act .eof :: rest) = payload rest := rfl

def ofPrompt : Prompt Delivery → Octets
  | .act (.data octets) => octets
  | _ => []

lemma payload_idle {d : Delivery} (h : d.isIdle = true) (rest : List (Cue Delivery)) :
    payload (.act d :: rest) = payload rest := by
  cases d with
  | data octets =>
    have hempty : octets = [] := by simpa [isIdle] using h
    simp [hempty]
  | fail e => simp
  | eof => simp

/-- Going on in a script hands out the octets in front and keeps all others. -/
lemma payload_advance (deadline : Option Nat) (now : Nat) (waitEnd : Option Nat)
    (cues : List (Cue Delivery)) :
    payload cues
      = ofPrompt (Script.advance isIdle deadline now waitEnd cues).1
        ++ payload (Script.advance isIdle deadline now waitEnd cues).2.2.cues := by
  induction cues generalizing now waitEnd with
  | nil => simp [Script.advance, ofPrompt, Script.ofCues]
  | cons c rest ih =>
    cases c with
    | wait ms =>
      simp only [Script.advance]
      split_ifs with hlate
      · simp [ofPrompt]
      · exact ih _ _
    | stall => simp [Script.advance, ofPrompt, Script.ofCues]
    | act d =>
      simp only [Script.advance]
      split_ifs with hidle
      · rw [payload_idle hidle]
        exact ih _ _
      · cases d <;> simp [ofPrompt, Script.ofCues]

lemma payload_next {deadline : Option Nat} {now : Nat} {s rest : Script Delivery}
    {prompt : Prompt Delivery} {now' : Nat}
    (h : s.next isIdle deadline now = (prompt, now', rest)) :
    payload s.cues = ofPrompt prompt ++ payload rest.cues := by
  rw [Script.next] at h
  rw [payload_advance deadline now s.waitEnd s.cues, h]

/-- A far end that has been silent for some time, since a wait for it began, sends data. It is never
silent for longer than one waits who has a limit, and it does nothing else before it closes. -/
def Steady (limit : Option Nat) : Nat → Nat → List (Cue Delivery) → Prop
  | began, silence, [] => ∀ most ∈ limit, silence ≤ Clock.allowance began most
  | began, silence, .wait ms :: rest => Steady limit began (silence + ms) rest
  | began, silence, .act (.data octets) :: rest =>
    octets ≠ [] ∧ (∀ most ∈ limit, silence ≤ Clock.allowance began most) ∧
      Steady limit (began + silence) 0 rest
  | _, _, _ => False

lemma Steady.silence_le {limit : Option Nat} {began silence : Nat} {cues : List (Cue Delivery)}
    (h : Steady limit began silence cues) :
    ∀ most ∈ limit, silence ≤ Clock.allowance began most := by
  induction cues generalizing silence with
  | nil => exact h
  | cons c rest ih =>
    intro most hmost
    match c with
    | .wait ms => exact Nat.le_trans (Nat.le_add_right _ _) (ih h most hmost)
    | .act (.data octets) => exact h.2.1 most hmost
    | .stall => exact h.elim
    | .act (.fail _) => exact h.elim
    | .act .eof => exact h.elim

/-- The next act of a steady script comes before the limit has passed since the wait began. -/
lemma Steady.advance {limit : Option Nat} {began silence : Nat} {cues : List (Cue Delivery)}
    (h : Steady limit began silence cues) :
    ∃ prompt now rest,
      Script.advance isIdle (limit.map (Clock.after began)) (began + silence) none cues
        = (prompt, now, rest) ∧
      ((∃ octets, prompt = .act (.data octets) ∧ octets ≠ []) ∨
        (prompt = .over ∧ payload cues = [])) ∧
      rest.waitEnd = none ∧ Steady limit now 0 rest.cues := by
  induction cues generalizing silence with
  | nil =>
    refine ⟨.over, began + silence, .ofCues [], rfl, Or.inr ⟨rfl, rfl⟩, rfl, ?_⟩
    intro most _
    exact Nat.zero_le _
  | cons c rest ih =>
    match c with
    | .stall => exact h.elim
    | .act (.fail _) => exact h.elim
    | .act .eof => exact h.elim
    | .act (.data octets) =>
      obtain ⟨hne, -, hrest⟩ := h
      refine ⟨.act (.data octets), began + silence, .ofCues rest, ?_, Or.inl ⟨octets, rfl, hne⟩,
        rfl, hrest⟩
      have hbusy : isIdle (.data octets) = false := by simpa [isIdle] using hne
      simp [Script.advance, hbusy]
    | .wait ms =>
      have h : Steady limit began (silence + ms) rest := h
      -- the end of the wait, counted from where the silence began
      have hdue : max (began + silence) (began + silence + ms) = began + (silence + ms) := by
        omega
      have hintime : Script.late (limit.map (Clock.after began)) (began + (silence + ms))
          = false := by
        cases limit with
        | none => rfl
        | some most =>
          have hle : began + (silence + ms) ≤ Clock.after began most :=
            Nat.add_le_add_left (h.silence_le most rfl) began
          simpa [Script.late] using hle
      obtain ⟨prompt, now, left, hadv, hrest⟩ := ih h
      refine ⟨prompt, now, left, ?_, hrest⟩
      simp only [Script.advance, Option.getD_none, hdue, hintime, Bool.false_eq_true, if_false]
      exact hadv

end Delivery

/-! ### Reads -/

namespace Wire

/-- The octets that are to come. -/
def incoming (w : Wire) : Octets := w.arrived ++ Delivery.payload w.deliveries.cues

/-- The octets that a read has found. -/
def found : Except (Fault IoError) Octets → Octets
  | .ok octets => octets
  | .error _ => []

/-- Taking octets that have arrived leaves the others. -/
lemma take_incoming {room : Nat} {w w' : Wire} {answer : Except (Fault IoError) Octets}
    (h : (.ok (w.take room).1, (w.take room).2) = (answer, w')) :
    w.incoming = found answer ++ w'.incoming := by
  cases h
  simp [found, take, incoming, ← List.append_assoc]

/-- A read takes octets from the front of those that are to come, and none if it fails. -/
theorem read_incoming {deadline : Option Nat} {room : Nat} {w w' : Wire}
    {answer : Except (Fault IoError) Octets} (h : w.read deadline room = (answer, w')) :
    w.incoming = found answer ++ w'.incoming := by
  rw [read] at h
  split_ifs at h with hroom harrived
  · cases h
    rfl
  · exact take_incoming h
  · have harrived : w.arrived = [] := by simpa using harrived
    split at h
    next octets now rest hnext =>
      rw [← take_incoming h, incoming, harrived, Delivery.payload_next hnext]
      rfl
    next e now rest hnext =>
      cases h
      simp [incoming, found, Delivery.payload_next hnext, Delivery.ofPrompt]
    next now rest hnext =>
      cases h
      simp [incoming, found, Delivery.payload_next hnext, Delivery.ofPrompt]
    next now rest hnext =>
      cases h
      simp [incoming, found, Delivery.payload_next hnext, Delivery.ofPrompt]
    next now rest hnext =>
      have hrest := Delivery.payload_next hnext
      dsimp only at h
      split_ifs at h with hcut
      · cases h
        simp [incoming, found, hrest, Delivery.ofPrompt]
      · split at h
        · cases h
          simp [incoming, found, hrest, Delivery.ofPrompt]
        · cases h
          simp [incoming, found, hrest, Delivery.ofPrompt]
        · cases h
          simp [incoming, found, hrest, Delivery.ofPrompt]

/-! ### Writes -/

/-- A write leaves what is to come. -/
lemma write_incoming {deadline : Option Nat} {octets : Octets} {w w' : Wire}
    {answer : Except (Fault IoError) Nat} (h : w.write deadline octets = (answer, w')) :
    w'.incoming = w.incoming := by
  obtain rfl : w' = (w.write deadline octets).2 := by rw [h]
  clear h
  rw [write]
  split_ifs with hcut
  · rfl
  · rcases w.receptions.next Reception.isIdle deadline w.now
      with ⟨(count | _ | _) | _ | _, now, rest⟩
    · dsimp only
      split_ifs <;> rfl
    · rfl
    · rfl
    · dsimp only
      split <;> rfl
    · rfl

lemma writeAll_incoming (deadline : Option Nat) (onZero : IoError) (octets : Octets) (w : Wire) :
    (w.writeAll deadline onZero octets).2.2.incoming = w.incoming := by
  fun_induction writeAll deadline onZero octets w with
  | case1 octets w hempty => rfl
  | case2 octets w hne w' hwrite => exact write_incoming hwrite
  | case3 octets w hne n w' hwrite ih => exact ih.trans (write_incoming hwrite)
  | case4 octets w hne e w' hwrite hinterrupted ih => exact ih.trans (write_incoming hwrite)
  | case5 octets w hne e w' hwrite hinterrupted => exact write_incoming hwrite
  | case6 octets w hne w' hwrite => exact write_incoming hwrite

/-! ### Reads in a row -/

/-- Reads that are made one after another, whatever became of those before, with their answers. Each
has to be answered within the limit. -/
inductive Reads (limit : Option Nat) (room : Nat) :
    Wire → List (Except (Fault IoError) Octets) → Wire → Prop
  | nil (w : Wire) : Reads limit room w [] w
  | cons {w w₁ w₂ : Wire} {answer : Except (Fault IoError) Octets}
      {answers : List (Except (Fault IoError) Octets)}
      (first : w.read (limit.map (Clock.after w.now)) room = (answer, w₁))
      (more : Reads limit room w₁ answers w₂) : Reads limit room w (answer :: answers) w₂

lemma Reads.append {limit : Option Nat} {room : Nat} {w w₁ w₂ : Wire}
    {answers more : List (Except (Fault IoError) Octets)} (h : Reads limit room w answers w₁)
    (h' : Reads limit room w₁ more w₂) : Reads limit room w (answers ++ more) w₂ := by
  induction h with
  | nil => exact h'
  | cons hfirst _ ih => exact .cons hfirst (ih h')

/-- Reads in a row find the octets that are to come in their order, and leave the others. -/
lemma Reads.incoming {limit : Option Nat} {room : Nat} {w w' : Wire}
    {answers : List (Except (Fault IoError) Octets)} (h : Reads limit room w answers w') :
    w.incoming = answers.flatMap found ++ w'.incoming := by
  induction h with
  | nil => rfl
  | cons hfirst _ ih => rw [read_incoming hfirst, ih, List.flatMap_cons, List.append_assoc]

/-! ### Steady wires -/

/-- The far end sends data and then closes. It is never silent for longer than the limit. -/
structure Steady (limit : Option Nat) (w : Wire) : Prop where
  script : Delivery.Steady limit w.now 0 w.deliveries.cues
  /-- No silence has been met yet. -/
  unmet : w.deliveries.waitEnd = none
  closes : w.afterDeliveries = .eof
  uncut : w.cut = false

/-- A read within the limit answers. It finds nothing only when nothing is to come. -/
theorem Steady.read {limit : Option Nat} {w : Wire} (h : w.Steady limit) {room : Nat}
    (hroom : 0 < room) :
    ∃ octets w', w.read (limit.map (Clock.after w.now)) room = (.ok octets, w') ∧
      w'.Steady limit ∧ (octets = [] → w.incoming = []) := by
  rw [Wire.read]
  rw [if_neg (Nat.pos_iff_ne_zero.mp hroom)]
  by_cases harrived : w.arrived = []
  · obtain ⟨prompt, now, rest, hadv, hprompt, hunmet, hscript⟩ := h.script.advance
    rw [Nat.add_zero] at hadv
    simp only [harrived, Script.next, h.unmet, hadv]
    rcases hprompt with ⟨octets, rfl, hne⟩ | ⟨rfl, hnone⟩
    · refine ⟨_, _, rfl, ⟨hscript, hunmet, h.closes, h.uncut⟩, ?_⟩
      intro hnil
      rcases List.take_eq_nil_iff.mp hnil with hzero | hnil
      · omega
      · exact absurd hnil hne
    · refine ⟨[], { w with now := now, deliveries := rest }, ?_,
        ⟨hscript, hunmet, h.closes, h.uncut⟩, ?_⟩
      · simp [h.uncut, h.closes, harrived]
      · intro _
        simp [incoming, harrived, hnone]
  · refine ⟨w.arrived.take room, { w with arrived := w.arrived.drop room }, ?_, ?_, ?_⟩
    · simp [harrived, take]
    · exact ⟨h.script, h.unmet, h.closes, h.uncut⟩
    · intro hnil
      rcases List.take_eq_nil_iff.mp hnil with hzero | hnil
      · omega
      · exact absurd hnil harrived

/-- A wire over which chunks come before the far end closes. -/
def ofChunks (chunks : List Octets) : Wire :=
  { Wire.idle with deliveries := .ofActs (chunks.map .data) }

lemma incoming_ofChunks (chunks : List Octets) : (ofChunks chunks).incoming = chunks.flatten := by
  induction chunks with
  | nil => rfl
  | cons chunk rest ih => exact congrArg (chunk ++ ·) ih

lemma steady_ofChunks (limit : Option Nat) {chunks : List Octets}
    (h : ∀ chunk ∈ chunks, chunk ≠ []) : (ofChunks chunks).Steady limit := by
  refine ⟨?_, rfl, rfl, rfl⟩
  induction chunks with
  | nil => exact fun most _ => Nat.zero_le _
  | cons chunk rest ih =>
    obtain ⟨hchunk, hrest⟩ := List.forall_mem_cons.mp h
    exact ⟨hchunk, fun most _ => Nat.zero_le _, ih hrest⟩

end Wire

end Mailwire
