import Mailwire.Proofs.Wire.Incoming
import Mailwire.Proofs.Wire.Outgoing

/-!
# Wires do not look at octets

A wire is relabelled by changing every octet that comes in, and every octet that goes out. What a far
end does depends on how many octets there are and not on which, so every operation of a wire commutes
with this relabelling (`Wire.read_relabel`, `Wire.write_relabel`, `Wire.writeAll_relabel`).
-/

namespace Mailwire

/-! ### Scripts -/

def Cue.map {α β : Type} (h : α → β) : Cue α → Cue β
  | .wait ms => .wait ms
  | .stall => .stall
  | .act a => .act (h a)

def Prompt.map {α β : Type} (h : α → β) : Prompt α → Prompt β
  | .act a => .act (h a)
  | .over => .over
  | .nothing => .nothing

def Script.map {α β : Type} (h : α → β) (s : Script α) : Script β :=
  ⟨s.cues.map (Cue.map h), s.waitEnd⟩

/-- Going on in a script does not depend on what its acts are, but for those that are idle. -/
lemma Script.advance_map {α β : Type} {h : α → β} {idle : α → Bool} {idle' : β → Bool}
    (hidle : ∀ a, idle' (h a) = idle a) (deadline : Option Nat) (now : Nat)
    (waitEnd : Option Nat) (cues : List (Cue α)) :
    advance idle' deadline now waitEnd (cues.map (Cue.map h))
      = ((advance idle deadline now waitEnd cues).1.map h,
          (advance idle deadline now waitEnd cues).2.1,
          (advance idle deadline now waitEnd cues).2.2.map h) := by
  induction cues generalizing now waitEnd with
  | nil => rfl
  | cons c rest ih =>
    cases c with
    | wait ms =>
      simp only [List.map_cons, Cue.map, advance]
      split_ifs with hlate
      · rfl
      · exact ih _ _
    | stall => rfl
    | act a =>
      simp only [List.map_cons, Cue.map, advance, hidle]
      split_ifs with hidle
      · exact ih _ _
      · rfl

lemma Script.next_map {α β : Type} {h : α → β} {idle : α → Bool} {idle' : β → Bool}
    (hidle : ∀ a, idle' (h a) = idle a) (deadline : Option Nat) (now : Nat) (s : Script α) :
    (s.map h).next idle' deadline now
      = ((s.next idle deadline now).1.map h, (s.next idle deadline now).2.1,
          (s.next idle deadline now).2.2.map h) :=
  advance_map hidle deadline now s.waitEnd s.cues

/-! ### Wires -/

namespace Delivery

def relabel (f : UInt8 → UInt8) : Delivery → Delivery
  | .data octets => .data (octets.map f)
  | .fail e => .fail e
  | .eof => .eof

lemma isIdle_relabel (f : UInt8 → UInt8) (d : Delivery) : (d.relabel f).isIdle = d.isIdle := by
  cases d with
  | data octets => cases octets <;> rfl
  | fail e => rfl
  | eof => rfl

lemma payload_relabel (f : UInt8 → UInt8) (cues : List (Cue Delivery)) :
    payload (cues.map (Cue.map (relabel f))) = (payload cues).map f := by
  induction cues with
  | nil => rfl
  | cons c rest ih =>
    match c with
    | .wait _ => exact ih
    | .stall => exact ih
    | .act (.data octets) =>
      rw [payload_data, List.map_append, ← ih]
      rfl
    | .act (.fail _) => exact ih
    | .act .eof => exact ih

end Delivery

namespace Wire

variable (f g : UInt8 → UInt8)

/-- The wire with other octets: `f` changes those that come in, and `g` those that went out. -/
def relabel (w : Wire) : Wire :=
  { w with
    arrived := w.arrived.map f
    deliveries := w.deliveries.map (Delivery.relabel f)
    sent := w.sent.map g }

lemma incoming_relabel (w : Wire) : (w.relabel f g).incoming = w.incoming.map f := by
  rw [incoming, incoming, List.map_append, ← Delivery.payload_relabel]
  rfl

lemma give_relabel (octets : Octets) (count : Nat) (w : Wire) :
    (w.relabel f g).give (octets.map g) count = (w.give octets count).relabel f g := by
  have hsent : w.sent.map g ++ (octets.map g).take count = (w.sent ++ octets.take count).map g := by
    apply Array.toList_inj.mp
    simp
  exact congrArg (fun sent => { w.relabel f g with sent := sent }) hsent

lemma take_relabel (room : Nat) (w : Wire) :
    (w.relabel f g).take room = ((w.take room).1.map f, (w.take room).2.relabel f g) := by
  simp [take, relabel]

/-- The octets that a read answers are relabelled, and what it leaves. -/
theorem read_relabel (deadline : Option Nat) (room : Nat) (w : Wire) :
    (w.relabel f g).read deadline room
      = ((w.read deadline room).1.map (List.map f), (w.read deadline room).2.relabel f g) := by
  have hempty : (w.relabel f g).arrived.isEmpty = w.arrived.isEmpty := List.isEmpty_map
  have hnext : (w.relabel f g).deliveries.next Delivery.isIdle deadline (w.relabel f g).now = _ :=
    Script.next_map (Delivery.isIdle_relabel f) deadline w.now w.deliveries
  rw [read, read, hempty, hnext]
  split_ifs with hroom harrived
  · rfl
  · rw [take_relabel]
    rfl
  · rcases w.deliveries.next Delivery.isIdle deadline w.now
      with ⟨(octets | e | _) | _ | _, now, rest⟩
    · have htake := take_relabel f g room
        { w with now := now, deliveries := rest, arrived := octets }
      exact congrArg (fun taken : Octets × Wire => (Except.ok taken.1, taken.2)) htake
    · rfl
    · rfl
    · have hcut : (w.relabel f g).cut = w.cut := rfl
      have hend : (w.relabel f g).afterDeliveries = w.afterDeliveries := rfl
      dsimp only [Prompt.map]
      rw [hcut, hend]
      split_ifs with hcut
      · rfl
      · cases w.afterDeliveries <;> rfl
    · rfl

/-- Which octets are written makes no difference to the answer, and only the number of those that
went out to what the write leaves. -/
theorem write_relabel (deadline : Option Nat) (octets : Octets) (w : Wire) :
    (w.relabel f g).write deadline (octets.map g)
      = ((w.write deadline octets).1, (w.write deadline octets).2.relabel f g) := by
  have hcut : (w.relabel f g).cut = w.cut := rfl
  have hnext : (w.relabel f g).receptions.next Reception.isIdle deadline (w.relabel f g).now
      = w.receptions.next Reception.isIdle deadline w.now := rfl
  rw [write, write, hcut, hnext, List.length_map]
  split_ifs with hcut
  · rfl
  · rcases w.receptions.next Reception.isIdle deadline w.now
      with ⟨(count | e | _) | _ | _, now, rest⟩
    · have hgive := fun count =>
        give_relabel f g octets count { w with now := now, receptions := rest }
      dsimp only
      split_ifs with hroom
      · exact congrArg (fun w : Wire => (Except.ok octets.length,
          { w with receptions := rest.putBack (.accept (count - octets.length)) })) (hgive _)
      · exact congrArg (fun w : Wire => (Except.ok count, w)) (hgive _)
    · rfl
    · rfl
    · have hgive := give_relabel f g octets octets.length
        { w with now := now, receptions := rest }
      have hend : (w.relabel f g).afterReceptions = w.afterReceptions := rfl
      dsimp only
      rw [hend]
      generalize w.afterReceptions = capacity at hgive ⊢
      cases capacity with
      | unlimited => exact congrArg (Prod.mk _) hgive
      | full => rfl
      | leaving =>
        exact congrArg (fun w : Wire => (Except.ok octets.length,
          { w with afterReceptions := .gone, connected := false })) hgive
      | gone => rfl
    · rfl

theorem writeAll_relabel (deadline : Option Nat) (onZero : IoError) (octets : Octets) (w : Wire) :
    (w.relabel f g).writeAll deadline onZero (octets.map g)
      = ((w.writeAll deadline onZero octets).1, (w.writeAll deadline onZero octets).2.1.map g,
          (w.writeAll deadline onZero octets).2.2.relabel f g) := by
  fun_induction writeAll deadline onZero octets w with
  | case1 octets w hempty =>
    rw [writeAll_eq, List.isEmpty_map, if_pos hempty]
    rfl
  | case2 octets w hne w' hwrite =>
    rw [writeAll_eq, List.isEmpty_map, if_neg hne, write_relabel, hwrite]
  | case3 octets w hne n w' hwrite ih =>
    rw [writeAll_eq, List.isEmpty_map, if_neg hne, write_relabel, hwrite]
    dsimp only
    rw [← List.map_drop, ih]
  | case4 octets w hne e w' hwrite hinterrupted ih =>
    rw [writeAll_eq, List.isEmpty_map, if_neg hne, write_relabel, hwrite]
    dsimp only
    rw [if_pos hinterrupted, ih]
  | case5 octets w hne e w' hwrite hinterrupted =>
    rw [writeAll_eq, List.isEmpty_map, if_neg hne, write_relabel, hwrite]
    dsimp only
    rw [if_neg hinterrupted]
  | case6 octets w hne w' hwrite =>
    rw [writeAll_eq, List.isEmpty_map, if_neg hne, write_relabel, hwrite]

lemma flush_relabel (deadline : Option Nat) (w : Wire) :
    (w.relabel f g).flush deadline
      = ((w.flush deadline).1, (w.flush deadline).2.relabel f g) := rfl

lemma shutdown_relabel (deadline : Option Nat) (w : Wire) :
    (w.relabel f g).shutdown deadline
      = ((w.shutdown deadline).1, (w.shutdown deadline).2.relabel f g) := rfl

end Wire

end Mailwire
