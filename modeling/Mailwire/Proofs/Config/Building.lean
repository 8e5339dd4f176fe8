import Mathlib.Logic.Relation
import Mathlib.Tactic
import Mailwire.Config.Builder

/-!
# Of the steps that set something the last one counts

A step of building sets some aspects of a configuration and leaves the others as they were
(`Config.Builder.value?_apply`). So an aspect is in the end what the last step made it that sets it at all
(`Config.Builder.value?_foldl`), and only trust anchors add up. The flags are a word, but no step for one of
the two flags touches another bit (`Flags.bit_set`), so each flag is an aspect of its own. The default of the
port waits for the flags in their final form.

All of what is built is known in this way (`Config.LastSet`), and therefore it does not matter how steps of
different kinds are mixed (`Config.ofSettings_lastSet`).
-/

namespace Mailwire

/-! ### Bits of flags -/

namespace Flags

def bit (a : Flags) (i : Nat) : Bool := a.bits.toBitVec.getLsbD i

lemma eq_of_bit {a b : Flags} (h : ∀ i, a.bit i = b.bit i) : a = b := by
  obtain ⟨v⟩ := a
  obtain ⟨w⟩ := b
  congr
  exact UInt32.toBitVec_inj.mp (BitVec.eq_of_getLsbD_eq fun i _ => h i)

lemma bit_union (a b : Flags) (i : Nat) : (a.union b).bit i = (a.bit i || b.bit i) := by
  simp [bit]

lemma bit_diff (a b : Flags) (i : Nat) : (a.diff b).bit i = (a.bit i && !b.bit i) := by
  rw [bit, bits_diff, UInt32.toBitVec_and, UInt32.toBitVec_not, BitVec.getLsbD_and, BitVec.getLsbD_not]
  cases ha : a.bits.toBitVec.getLsbD i with
  | false => simp [bit, ha]
  | true =>
    have hi : i < 32 := BitVec.lt_of_getLsbD ha
    simp [bit, ha, hi]

/-- The bits of the second word are set or cleared, the others are kept. -/
lemma bit_set (a b : Flags) (enabled : Bool) (i : Nat) :
    (a.set b enabled).bit i = if b.bit i then enabled else a.bit i := by
  cases enabled with
  | false =>
    rw [set, if_neg Bool.false_ne_true, bit_diff]
    cases b.bit i <;> simp
  | true =>
    rw [set, if_pos rfl, bit_union]
    cases b.bit i <;> simp

lemma contains_iff {a b : Flags} : a.contains b = true ↔ ∀ i, b.bit i = true → a.bit i = true := by
  have hbits : a.contains b = true ↔ ∀ i, (a.bit i && b.bit i) = b.bit i := by
    rw [contains, beq_iff_eq, ← UInt32.toBitVec_inj, UInt32.toBitVec_and]
    constructor
    · intro h i
      rw [bit, bit, ← BitVec.getLsbD_and, h]
    · intro h
      exact BitVec.eq_of_getLsbD_eq fun i _ => by rw [BitVec.getLsbD_and]; exact h i
  rw [hbits]
  refine forall_congr' fun i => ?_
  cases b.bit i <;> simp

lemma bit_none (i : Nat) : none.bit i = false := by simp [bit, none]

/-- Flags that are a single bit. -/
def Single (a : Flags) (i : Nat) : Prop := ∀ j, a.bit j = decide (j = i)

lemma single_encrypt : encrypt.Single 0 := by simp [Single, bit, encrypt]

lemma single_trustAll : trustAll.Single 3 := by
  intro j
  have hword : trustAll.bits.toBitVec = BitVec.twoPow 32 3 := rfl
  rw [bit, hword, BitVec.getLsbD_twoPow]
  simp [eq_comm]

lemma contains_single {a b : Flags} {i : Nat} (h : b.Single i) : a.contains b = a.bit i := by
  rw [Bool.eq_iff_iff, contains_iff]
  simp [h _]

/-- A flag that is set or cleared makes no difference to another. -/
lemma contains_set {b d : Flags} {i j : Nat} (hb : b.Single i) (hd : d.Single j) (a : Flags)
    (enabled : Bool) : (a.set b enabled).contains d = if j = i then enabled else a.contains d := by
  rw [contains_single hd, contains_single hd, bit_set, hb j]
  simp

/-- The bits without a meaning. -/
def rest (a : Flags) : Flags := a.diff all

lemma bit_rest (a : Flags) (i : Nat) : a.rest.bit i = (a.bit i && !decide (i = 0 ∨ i = 3)) := by
  rw [rest, bit_diff, all, bit_union, single_encrypt, single_trustAll, Bool.decide_or]

/-- A word that has no bits without a meaning makes no difference to these. -/
lemma rest_set {b : Flags} (hb : b.rest = none) (a : Flags) (enabled : Bool) :
    (a.set b enabled).rest = a.rest := by
  refine eq_of_bit fun i => ?_
  have hbit : b.rest.bit i = none.bit i := by rw [hb]
  rw [bit_rest, bit_none] at hbit
  rw [bit_rest, bit_rest, bit_set]
  cases hi : b.bit i with
  | false => rfl
  | true =>
    rw [hi, Bool.true_and] at hbit
    rw [hbit, Bool.and_false, Bool.and_false]

/-- Two flags and the bits without a meaning are all there is. -/
lemma eq_of_parts {a b : Flags} (hencrypt : a.contains encrypt = b.contains encrypt)
    (htrustAll : a.contains trustAll = b.contains trustAll) (hrest : a.rest = b.rest) : a = b := by
  rw [contains_single single_encrypt, contains_single single_encrypt] at hencrypt
  rw [contains_single single_trustAll, contains_single single_trustAll] at htrustAll
  refine eq_of_bit fun i => ?_
  by_cases hi : i = 0 ∨ i = 3
  · rcases hi with rfl | rfl
    · exact hencrypt
    · exact htrustAll
  · have hbit := congrArg (bit · i) hrest
    simpa [bit_rest, hi] using hbit

end Flags

namespace Config

/-! ### What a step sets -/

/-- What can be set without the rest. -/
inductive Aspect
  | port
  | encrypt
  | trustAll
  /-- The bits without a meaning. -/
  | otherBits
  | connectTimeout
  | readTimeout
  | bufferSizes
  | maxLineLength

def Aspect.Value : Aspect → Type
  | port => UInt16
  | encrypt | trustAll => Bool
  | otherBits => Flags
  | connectTimeout | readTimeout => Duration
  | bufferSizes => UInt64 × UInt64
  | maxLineLength => UInt64

/-- What a step makes of an aspect, if it is among those that it sets. -/
def Setting.value? : (a : Aspect) → Setting → Option a.Value
  | .port, .port n => some n
  | .encrypt, .flags word => some (word.contains .encrypt)
  | .encrypt, .encrypt enabled => some enabled
  | .trustAll, .flags word => some (word.contains .trustAll)
  | .trustAll, .trustAll enabled => some enabled
  | .otherBits, .flags word => some word.rest
  | .connectTimeout, .connectTimeout limit => some limit
  | .readTimeout, .readTimeout limit => some limit
  | .bufferSizes, .bufferSizes read write => some (read, write)
  | .maxLineLength, .maxLineLength max => some max
  | _, _ => none

/-- A trust anchor, if the step adds one. -/
def Setting.root? : Setting → Option Octets
  | .root certificate => some certificate
  | _ => none

/-- What was made of an aspect last. -/
def lastOf (a : Aspect) (steps : List Setting) : Option a.Value :=
  (steps.filterMap (Setting.value? a)).getLast?

variable {β : Type} {host : String} {steps steps' : List Setting} {c c' : Config} {a : Aspect}

lemma lastOf_cons (a : Aspect) (s : Setting) (steps : List Setting) :
    lastOf a (s :: steps) = (lastOf a steps).or (s.value? a) := by
  rw [lastOf, lastOf, List.filterMap_cons]
  cases s.value? a with
  | none => exact Option.or_none.symm
  | some v =>
    rw [List.getLast?_cons]
    cases (steps.filterMap (Setting.value? a)).getLast? <;> rfl

/-! ### Steps in a row -/

namespace Builder

def value? : (a : Aspect) → Builder → Option a.Value
  | .port, b => b.port
  | .encrypt, b => some (b.settings.flags.contains .encrypt)
  | .trustAll, b => some (b.settings.flags.contains .trustAll)
  | .otherBits, b => some b.settings.flags.rest
  | .connectTimeout, b => some b.settings.connectTimeout
  | .readTimeout, b => some b.settings.readTimeout
  | .bufferSizes, b => some (b.settings.readBufferSize, b.settings.writeBufferSize)
  | .maxLineLength, b => some b.settings.maxLineLength

/-- A step leaves all that it does not set as it was. -/
lemma value?_apply (b : Builder) (s : Setting) (a : Aspect) :
    (b.apply s).value? a = (s.value? a).or (b.value? a) := by
  cases s with
  | encrypt enabled =>
    cases a with
    | encrypt => exact congrArg some (Flags.contains_set Flags.single_encrypt Flags.single_encrypt _ _)
    | trustAll => exact congrArg some (Flags.contains_set Flags.single_encrypt Flags.single_trustAll _ _)
    | otherBits => exact congrArg some (Flags.rest_set (by decide) _ enabled)
    | _ => rfl
  | trustAll enabled =>
    cases a with
    | encrypt => exact congrArg some (Flags.contains_set Flags.single_trustAll Flags.single_encrypt _ _)
    | trustAll => exact congrArg some (Flags.contains_set Flags.single_trustAll Flags.single_trustAll _ _)
    | otherBits => exact congrArg some (Flags.rest_set (by decide) _ enabled)
    | _ => rfl
  | _ => cases a <;> rfl

theorem value?_foldl (steps : List Setting) (b : Builder) (a : Aspect) :
    (steps.foldl apply b).value? a = (lastOf a steps).or (b.value? a) := by
  induction steps generalizing b with
  | nil => rfl
  | cons s steps ih => rw [List.foldl_cons, ih, value?_apply, lastOf_cons, Option.or_assoc]

lemma host_foldl (steps : List Setting) (b : Builder) :
    (steps.foldl apply b).settings.host = b.settings.host := by
  induction steps generalizing b with
  | nil => rfl
  | cons s steps ih =>
    rw [List.foldl_cons, ih]
    cases s <;> rfl

/-- Trust anchors add up. -/
lemma extraRoots_foldl (steps : List Setting) (b : Builder) :
    (steps.foldl apply b).settings.extraRoots
      = b.settings.extraRoots ++ steps.filterMap Setting.root? := by
  induction steps generalizing b with
  | nil => exact (List.append_nil _).symm
  | cons s steps ih =>
    rw [List.foldl_cons, ih]
    cases s with
    | root certificate => exact List.append_assoc _ _ _
    | _ => rfl

end Builder

/-! ### What is built -/

/-- Each aspect is what the last step that sets it has made it. -/
structure LastSet (host : String) (steps : List Setting) (c : Config) : Prop where
  host : c.host = host
  port : c.port = (lastOf .port steps).getD (if c.encrypts then 993 else 143 : UInt16)
  encrypts : c.encrypts = (lastOf .encrypt steps).getD false
  trustsAll : c.trustsAll = (lastOf .trustAll steps).getD false
  otherBits : c.flags.rest = (lastOf .otherBits steps).getD .none
  connectTimeout : c.connectTimeout = (lastOf .connectTimeout steps).getD defaultConnectTimeout
  readTimeout : c.readTimeout = (lastOf .readTimeout steps).getD defaultReadTimeout
  bufferSizes : (c.readBufferSize, c.writeBufferSize)
    = (lastOf .bufferSizes steps).getD (defaultReadBufferSize, defaultWriteBufferSize)
  maxLineLength : c.maxLineLength = (lastOf .maxLineLength steps).getD defaultMaxLineLength
  extraRoots : c.extraRoots = steps.filterMap Setting.root?

lemma eq_getD {v d : β} {x y : Option β} (hd : y = some d) (h : some v = x.or y) : v = x.getD d := by
  rw [hd, Option.or_some] at h
  exact Option.some.inj h

lemma lastSet_ofSettings (host : String) (steps : List Setting) :
    LastSet host steps (ofSettings host steps) := by
  have hlast := (Builder.ofHost host).value?_foldl steps
  have hport : (steps.foldl Builder.apply (.ofHost host)).port = lastOf .port steps :=
    (hlast .port).trans Option.or_none
  have hencrypt : (Builder.ofHost host).value? .encrypt = some false :=
    congrArg some (show Flags.none.contains .encrypt = false by decide)
  have htrustAll : (Builder.ofHost host).value? .trustAll = some false :=
    congrArg some (show Flags.none.contains .trustAll = false by decide)
  have hrest : (Builder.ofHost host).value? .otherBits = some Flags.none :=
    congrArg some (show Flags.none.rest = .none by decide)
  exact {
    host := Builder.host_foldl steps _
    port := by rw [← hport]; rfl
    encrypts := eq_getD hencrypt (hlast .encrypt)
    trustsAll := eq_getD htrustAll (hlast .trustAll)
    otherBits := eq_getD hrest (hlast .otherBits)
    connectTimeout := eq_getD rfl (hlast .connectTimeout)
    readTimeout := eq_getD rfl (hlast .readTimeout)
    bufferSizes := eq_getD rfl (hlast .bufferSizes)
    maxLineLength := eq_getD rfl (hlast .maxLineLength)
    extraRoots := Builder.extraRoots_foldl steps _ }

/-- So all of it is known. -/
lemma LastSet.unique (h : LastSet host steps c) (h' : LastSet host steps c') : c = c' := by
  have hencrypts : c.encrypts = c'.encrypts := h.encrypts.trans h'.encrypts.symm
  have htrustsAll : c.trustsAll = c'.trustsAll := h.trustsAll.trans h'.trustsAll.symm
  have hflags : c.flags = c'.flags :=
    Flags.eq_of_parts hencrypts htrustsAll (h.otherBits.trans h'.otherBits.symm)
  have hport : c.port = c'.port := by rw [h.port, h'.port, hencrypts]
  obtain ⟨hread, hwrite⟩ := Prod.mk.inj (h.bufferSizes.trans h'.bufferSizes.symm)
  have hhost : c.host = c'.host := h.host.trans h'.host.symm
  have hconnect : c.connectTimeout = c'.connectTimeout := h.connectTimeout.trans h'.connectTimeout.symm
  have hreadTimeout : c.readTimeout = c'.readTimeout := h.readTimeout.trans h'.readTimeout.symm
  have hmax : c.maxLineLength = c'.maxLineLength := h.maxLineLength.trans h'.maxLineLength.symm
  have hroots : c.extraRoots = c'.extraRoots := h.extraRoots.trans h'.extraRoots.symm
  cases c
  cases c'
  rw [mk.injEq]
  exact ⟨hhost, hport, hflags, hconnect, hreadTimeout, hread, hwrite, hmax, hroots⟩

/-! ### Steps of different kinds -/

inductive Kind
  | port
  | flags
  | connectTimeout
  | readTimeout
  | bufferSizes
  | maxLineLength
  | root
deriving DecidableEq, Repr

def Setting.kind : Setting → Kind
  | .port _ => .port
  | .flags _ | .encrypt _ | .trustAll _ => .flags
  | .connectTimeout _ => .connectTimeout
  | .readTimeout _ => .readTimeout
  | .bufferSizes _ _ => .bufferSizes
  | .maxLineLength _ => .maxLineLength
  | .root _ => .root

def Aspect.kind : Aspect → Kind
  | port => .port
  | encrypt | trustAll | otherBits => .flags
  | connectTimeout => .connectTimeout
  | readTimeout => .readTimeout
  | bufferSizes => .bufferSizes
  | maxLineLength => .maxLineLength

def ofKind (k : Kind) (steps : List Setting) : List Setting := steps.filter (·.kind = k)

/-- The steps for two different flags change places. -/
inductive Exchange : List Setting → List Setting → Prop
  | swap (front behind : List Setting) (encrypt trustAll : Bool) :
    Exchange (front ++ .encrypt encrypt :: .trustAll trustAll :: behind)
      (front ++ .trustAll trustAll :: .encrypt encrypt :: behind)

/-- Of each kind there are the same steps in the same order, but for exchanges among those for flags. -/
structure Rearranged (steps steps' : List Setting) : Prop where
  same : ∀ k, k ≠ .flags → ofKind k steps = ofKind k steps'
  flags : Relation.EqvGen Exchange (ofKind .flags steps) (ofKind .flags steps')

lemma Setting.value?_of_kind {s : Setting} (h : s.kind ≠ a.kind) : s.value? a = none := by
  unfold value?
  split
  case h_11 => rfl
  all_goals exact absurd rfl h

lemma Setting.root?_of_kind {s : Setting} (h : s.kind ≠ .root) : s.root? = none := by
  cases s with
  | root => exact absurd rfl h
  | _ => rfl

/-- No aspect is set by steps for both flags. -/
lemma Aspect.apart (a : Aspect) (encrypt trustAll : Bool) :
    Setting.value? a (.encrypt encrypt) = none ∨ Setting.value? a (.trustAll trustAll) = none := by
  cases a with
  | encrypt => exact Or.inr rfl
  | _ => exact Or.inl rfl

lemma filterMap_ofKind {pick : Setting → Option β} {k : Kind} (h : ∀ s, s.kind ≠ k → pick s = none)
    (steps : List Setting) : (ofKind k steps).filterMap pick = steps.filterMap pick := by
  rw [ofKind, List.filterMap_filter]
  refine List.filterMap_congr fun s _ => ?_
  by_cases hs : s.kind = k
  · simp [hs]
  · simp [hs, h s hs]

lemma lastOf_ofKind (a : Aspect) (steps : List Setting) : lastOf a (ofKind a.kind steps) = lastOf a steps :=
  congrArg List.getLast? (filterMap_ofKind (fun _ => Setting.value?_of_kind) steps)

/-- An exchange makes no difference to any aspect. -/
lemma Exchange.lastOf_eq (h : Exchange steps steps') (a : Aspect) : lastOf a steps = lastOf a steps' := by
  obtain ⟨front, behind, encrypt, trustAll⟩ := h
  rcases a.apart encrypt trustAll with hnone | hnone <;> simp [lastOf, List.filterMap_cons, hnone]

lemma lastOf_exchanged (h : Relation.EqvGen Exchange steps steps') (a : Aspect) :
    lastOf a steps = lastOf a steps' := by
  induction h with
  | rel _ _ hexchange => exact hexchange.lastOf_eq a
  | refl _ => rfl
  | symm _ _ _ ih => exact ih.symm
  | trans _ _ _ _ _ ih ih' => exact ih.trans ih'

namespace Rearranged

lemma lastOf_eq (h : Rearranged steps steps') (a : Aspect) : lastOf a steps = lastOf a steps' := by
  rw [← lastOf_ofKind a steps, ← lastOf_ofKind a steps']
  by_cases hflags : a.kind = .flags
  · rw [hflags]
    exact lastOf_exchanged h.flags a
  · rw [h.same a.kind hflags]

lemma extraRoots_eq (h : Rearranged steps steps') :
    steps.filterMap Setting.root? = steps'.filterMap Setting.root? := by
  have hroot : ∀ s : Setting, s.kind ≠ .root → s.root? = none := fun _ => Setting.root?_of_kind
  rw [← filterMap_ofKind hroot steps, h.same .root (by decide), filterMap_ofKind hroot]

/-- What is known of a configuration is the same. -/
lemma lastSet (h : Rearranged steps steps') (hlast : LastSet host steps c) : LastSet host steps' c where
  host := hlast.host
  port := h.lastOf_eq .port ▸ hlast.port
  encrypts := h.lastOf_eq .encrypt ▸ hlast.encrypts
  trustsAll := h.lastOf_eq .trustAll ▸ hlast.trustsAll
  otherBits := h.lastOf_eq .otherBits ▸ hlast.otherBits
  connectTimeout := h.lastOf_eq .connectTimeout ▸ hlast.connectTimeout
  readTimeout := h.lastOf_eq .readTimeout ▸ hlast.readTimeout
  bufferSizes := h.lastOf_eq .bufferSizes ▸ hlast.bufferSizes
  maxLineLength := h.lastOf_eq .maxLineLength ▸ hlast.maxLineLength
  extraRoots := h.extraRoots_eq ▸ hlast.extraRoots

end Rearranged

/-- A configuration that is built is in all respects what the last steps have made it, and no other is. So it
makes no difference how steps of different kinds are mixed, nor which comes first of two neighbours, among the
steps for flags, that are for different flags. -/
theorem ofSettings_lastSet (host : String) (steps : List Setting) :
    (∀ c, ofSettings host steps = c ↔ LastSet host steps c) ∧
    ∀ steps', Rearranged steps steps' → ofSettings host steps' = ofSettings host steps := by
  have hlast := lastSet_ofSettings host steps
  refine ⟨fun c => ⟨?_, fun h => hlast.unique h⟩, ?_⟩
  · rintro rfl
    exact hlast
  · intro steps' hsteps
    exact (lastSet_ofSettings host steps').unique (hsteps.lastSet hlast)

/-- Steps with a bit that has no meaning among the flags. -/
def mixed : List Setting :=
  [.flags ⟨2⟩, .root [1], .encrypt true, .port 10993, .trustAll true, .root [2], .maxLineLength 80,
    .port 143]

/-- The same steps by kinds, the flags exchanged. -/
def sorted : List Setting :=
  [.flags ⟨2⟩, .trustAll true, .encrypt true, .maxLineLength 80, .port 10993, .port 143, .root [1],
    .root [2]]

theorem ofSettings_lastSet_sorted :
    Rearranged mixed sorted ∧ ofSettings "a" sorted = ofSettings "a" mixed := by
  have hkinds : ∀ k, k ≠ .flags → ofKind k mixed = ofKind k sorted := by
    intro k hk
    cases k with
    | flags => exact absurd rfl hk
    | _ => rfl
  have hrearranged : Rearranged mixed sorted := ⟨hkinds, .rel _ _ (.swap [.flags ⟨2⟩] [] true true)⟩
  exact ⟨hrearranged, (ofSettings_lastSet "a" mixed).2 sorted hrearranged⟩

end Config

end Mailwire
