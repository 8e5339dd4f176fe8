import Mailwire.Proofs.Wire.Passage

/-!
# Far ends that fall silent

A far end falls silent if some octets come over the wire and then nothing happens any more: its script
stalls, or it is over and nothing follows it (`Wire.FallsSilent`). A read without a deadline is never
answered exactly when no octets come before that (`Wire.read_unanswered_iff`).

A read that is answered has looked at a beginning of the script only, so what would follow the script
makes no difference to it (`Wire.read_followed`).
-/

namespace Mailwire

namespace Delivery

/-- A row of cues delivers these octets, and then nothing happens any more. Behind the cues this may be
so as well. -/
inductive FallsSilent (behind : Prop) : List (Cue Delivery) → Octets → Prop
  | ends (h : behind) : FallsSilent behind [] []
  | stall (rest : List (Cue Delivery)) : FallsSilent behind (.stall :: rest) []
  | wait (ms : Nat) {rest : List (Cue Delivery)} {octets : Octets}
      (h : FallsSilent behind rest octets) : FallsSilent behind (.wait ms :: rest) octets
  | data (chunk : Octets) {rest : List (Cue Delivery)} {octets : Octets}
      (h : FallsSilent behind rest octets) :
      FallsSilent behind (.act (.data chunk) :: rest) (chunk ++ octets)

namespace FallsSilent

variable {behind : Prop} {octets : Octets} {cues skipped : List (Cue Delivery)}

lemma of_passing (hskipped : ∀ c ∈ skipped, Script.Passing isIdle c) :
    FallsSilent behind (skipped ++ cues) octets ↔ FallsSilent behind cues octets := by
  induction skipped with
  | nil => rfl
  | cons c rest ih =>
    obtain ⟨hc, hrest⟩ := List.forall_mem_cons.mp hskipped
    rw [List.cons_append, ← ih hrest]
    cases hc with
    | wait ms =>
      constructor
      · rintro ⟨⟩
        assumption
      · exact .wait ms
    | @idle a hidle =>
      obtain ⟨rfl⟩ : a = .data [] := by
        cases a <;> simp_all [isIdle]
      constructor
      · intro h
        cases h with
        | data _ h => exact h
      · intro h
        exact .data [] h

/-! An act, or the end, that is met behind cues that one gets past. -/

variable {deadline : Option Nat} {left : List (Cue Delivery)}

lemma of_act {d : Delivery} (h : Script.Reaches isIdle deadline cues (.act d) left) :
    FallsSilent behind cues octets ↔
      ∃ chunk more, d = .data chunk ∧ octets = chunk ++ more ∧ FallsSilent behind left more := by
  cases h with
  | act hpassed _ hsplit =>
    rw [hsplit, of_passing hpassed]
    constructor
    · intro h
      cases h with
      | data chunk h => exact ⟨chunk, _, rfl, rfl, h⟩
    · rintro ⟨chunk, more, rfl, rfl, h⟩
      exact .data chunk h

lemma of_end (h : Script.Reaches isIdle deadline cues .over left) :
    FallsSilent behind cues octets ↔ behind ∧ octets = [] := by
  cases h with
  | ends hpassed =>
    rw [← List.append_nil cues, of_passing hpassed]
    constructor
    · intro h
      cases h with
      | ends hbehind => exact ⟨hbehind, rfl⟩
    · rintro ⟨hbehind, rfl⟩
      exact .ends hbehind

lemma of_nothing (h : Script.Reaches isIdle none cues .nothing left) :
    FallsSilent behind cues octets ↔ octets = [] := by
  cases h with
  | nothing hpassed hsplit hstalls =>
    obtain ⟨more, rfl⟩ := hstalls rfl
    rw [hsplit, of_passing hpassed]
    constructor
    · intro h
      cases h with
      | stall => rfl
    · rintro rfl
      exact .stall more

end FallsSilent

end Delivery

/-- What follows a script makes no difference to one who does not get to its end. -/
lemma Script.advance_append {α : Type} {idle : α → Bool} {deadline : Option Nat} {now moment : Nat}
    {waitEnd : Option Nat} {cues : List (Cue α)} {prompt : Prompt α} {rest : Script α}
    (h : advance idle deadline now waitEnd cues = (prompt, moment, rest)) (hprompt : prompt ≠ .over)
    (more : List (Cue α)) :
    advance idle deadline now waitEnd (cues ++ more)
      = (prompt, moment, ⟨rest.cues ++ more, rest.waitEnd⟩) := by
  induction cues generalizing now waitEnd with
  | nil =>
    cases h
    exact absurd rfl hprompt
  | cons c cues ih =>
    cases c with
    | wait ms =>
      simp only [List.cons_append, advance] at h ⊢
      split_ifs at h ⊢ with hlate
      · cases h
        rfl
      · exact ih h
    | stall =>
      cases h
      rfl
    | act a =>
      simp only [List.cons_append, advance] at h ⊢
      split_ifs at h ⊢ with hidle
      · exact ih h
      · cases h
        rfl

namespace Wire

/-- Nothing happens behind the script. -/
def StaysSilent (w : Wire) : Prop := w.afterDeliveries = .silence ∧ w.cut = false

/-- These octets come, and then nothing happens any more. -/
def FallsSilent (w : Wire) (octets : Octets) : Prop :=
  ∃ coming, Delivery.FallsSilent w.StaysSilent w.deliveries.cues coming ∧
    octets = w.arrived ++ coming

variable {deadline : Option Nat} {room : Nat} {w w' : Wire} {octets : Octets}

/-- Octets that have arrived come first. -/
lemma fallsSilent_take (room : Nat) (w : Wire) :
    w.FallsSilent octets ↔
      ∃ more, octets = (w.take room).1 ++ more ∧ (w.take room).2.FallsSilent more := by
  constructor
  · rintro ⟨coming, hcoming, rfl⟩
    refine ⟨w.arrived.drop room ++ coming, ?_, coming, hcoming, rfl⟩
    rw [take_fst, ← List.append_assoc, List.take_append_drop]
  · rintro ⟨more, rfl, coming, hcoming, rfl⟩
    refine ⟨coming, hcoming, ?_⟩
    rw [take_fst, ← List.append_assoc]
    exact congrArg (· ++ coming) (List.take_append_drop room w.arrived)

lemma fallsSilent_of_empty (h : w.arrived = []) :
    w.FallsSilent octets ↔ Delivery.FallsSilent w.StaysSilent w.deliveries.cues octets := by
  rw [FallsSilent, h]
  simp

/-- What a read finds is the front of what comes. -/
theorem read_fallsSilent (h : w.read deadline room = (.ok octets, w')) (hne : octets ≠ []) :
    (w'.StaysSilent ↔ w.StaysSilent) ∧
      ∀ all, w.FallsSilent all ↔ ∃ more, all = octets ++ more ∧ w'.FallsSilent more := by
  rw [read] at h
  split_ifs at h with hroom harrived
  · cases h
    exact absurd rfl hne
  · cases h
    exact ⟨Iff.rfl, fun all => fallsSilent_take room w⟩
  · have hnil : w.arrived = [] := by simpa using harrived
    rcases hnext : w.deliveries.next Delivery.isIdle deadline w.now
      with ⟨(chunk | e | _) | _ | _, moment, rest⟩
    all_goals
      have hreaches := Script.reaches_next hnext
      simp only [hnext] at h
    · cases h
      refine ⟨Iff.rfl, fun all => ?_⟩
      rw [← fallsSilent_take room { w with now := moment, deliveries := rest, arrived := chunk }]
      rw [fallsSilent_of_empty hnil, Delivery.FallsSilent.of_act hreaches]
      constructor
      · rintro ⟨_, more, ⟨⟩, rfl, hmore⟩
        exact ⟨more, hmore, rfl⟩
      · rintro ⟨more, hmore, rfl⟩
        exact ⟨chunk, more, rfl, rfl, hmore⟩
    · cases h
    · cases h
      exact absurd rfl hne
    · split_ifs at h
      · cases h
      · split at h
        · cases h
          exact absurd rfl hne
        · cases h
        · cases h
    · cases h

/-- A read that meets the end of the stream, or a failure, shows that there is no silence before it. -/
theorem not_fallsSilent_of_read {answer : Except (Fault IoError) Octets} (hroom : room ≠ 0)
    (h : w.read deadline room = (answer, w'))
    (hanswer : answer = .ok [] ∨ ∃ e, answer = .error (.failed e)) : ¬ w.FallsSilent octets := by
  rw [read, if_neg hroom] at h
  split_ifs at h with harrived
  · have hne : w.arrived ≠ [] := by simpa using harrived
    cases h
    simp [hroom, hne] at hanswer
  · have hnil : w.arrived = [] := by simpa using harrived
    rw [fallsSilent_of_empty hnil]
    rcases hnext : w.deliveries.next Delivery.isIdle deadline w.now
      with ⟨(chunk | e | _) | _ | _, moment, rest⟩
    all_goals
      have hreaches := Script.reaches_next hnext
      simp only [hnext] at h
    · cases h
      cases hreaches with
      | act _ hbusy _ =>
        have hchunk : chunk ≠ [] := by simpa [Delivery.isIdle] using hbusy
        simp [hroom, hchunk] at hanswer
    · rw [Delivery.FallsSilent.of_act hreaches]
      simp
    · rw [Delivery.FallsSilent.of_act hreaches]
      simp
    · rw [Delivery.FallsSilent.of_end hreaches]
      rintro ⟨⟨hending, huncut⟩, -⟩
      simp only [huncut, hending, Bool.false_eq_true, if_false] at h
      cases h
      simp at hanswer
    · cases h
      simp at hanswer

/-- A read without a deadline is never answered exactly if the far end falls silent before it. -/
theorem read_unanswered_iff (hroom : room ≠ 0) :
    (w.read none room).1 = .error .unanswered ↔ w.FallsSilent [] := by
  rcases hread : w.read none room with ⟨answer, w'⟩
  constructor
  · rintro rfl
    rw [read, if_neg hroom] at hread
    split_ifs at hread with harrived
    · cases hread
    · have hnil : w.arrived = [] := by simpa using harrived
      rw [fallsSilent_of_empty hnil]
      rcases hnext : w.deliveries.next Delivery.isIdle none w.now
        with ⟨(chunk | e | _) | _ | _, moment, rest⟩
      all_goals
        have hreaches := Script.reaches_next hnext
        simp only [hnext] at hread
      · cases hread
      · cases hread
      · cases hread
      · rw [Delivery.FallsSilent.of_end hreaches]
        split_ifs at hread with hcut
        · cases hread
        · split at hread
          · cases hread
          · cases hread
          · next hending => exact ⟨⟨hending, by simpa using hcut⟩, rfl⟩
      · rw [Delivery.FallsSilent.of_nothing hreaches]
  · intro hsilent
    rcases answer with (e | _) | octets
    · exact absurd hsilent (not_fallsSilent_of_read hroom hread (.inr ⟨e, rfl⟩))
    · rfl
    · by_cases hne : octets = []
      · exact absurd hsilent (not_fallsSilent_of_read hroom hread (.inl (by rw [hne])))
      · obtain ⟨more, hmore, -⟩ := ((read_fallsSilent hread hne).2 []).mp hsilent
        exact absurd (List.append_eq_nil_iff.mp hmore.symm).1 hne

/-! ### What follows a script -/

/-- The same wire, but its far end goes on behind its script, and ends in some way. -/
def followed (more : List (Cue Delivery)) (ending : Ending) (w : Wire) : Wire :=
  { w with
    deliveries := ⟨w.deliveries.cues ++ more, w.deliveries.waitEnd⟩
    afterDeliveries := ending }

/-- A read looks at a beginning of the script, unless it comes to the end and finds silence there. -/
theorem read_followed (deadline : Option Nat) (room : Nat) (hsilent : w.StaysSilent)
    (hspeaks : ¬ w.FallsSilent []) (more : List (Cue Delivery)) (ending : Ending) :
    (w.followed more ending).read deadline room
      = ((w.read deadline room).1, (w.read deadline room).2.followed more ending) := by
  by_cases hroom : room = 0
  · simp [read, hroom]
  by_cases harrived : w.arrived = []
  · rcases hnext : w.deliveries.next Delivery.isIdle deadline w.now with ⟨prompt, moment, rest⟩
    have hprompt : prompt ≠ .over := by
      rintro rfl
      rw [fallsSilent_of_empty harrived, Delivery.FallsSilent.of_end (Script.reaches_next hnext)]
        at hspeaks
      exact hspeaks ⟨hsilent, rfl⟩
    have hnext' : (w.followed more ending).deliveries.next Delivery.isIdle deadline
        (w.followed more ending).now = (prompt, moment, ⟨rest.cues ++ more, rest.waitEnd⟩) :=
      Script.advance_append hnext hprompt more
    have harrived' : (w.followed more ending).arrived = [] := harrived
    simp only [read, if_neg hroom, harrived, harrived', hnext, hnext']
    rcases prompt with (octets | e | _) | _ | _
    · rfl
    · rfl
    · rfl
    · exact absurd rfl hprompt
    · rfl
  · have hsome : w.arrived.isEmpty = false := by simpa using harrived
    have hsome' : (w.followed more ending).arrived.isEmpty = false := hsome
    simp only [read, if_neg hroom, hsome, hsome']
    rfl

end Wire

end Mailwire
