import Mailwire.Proofs.Config.Members
import Mailwire.Proofs.Json.Form

/-!
# Timeouts are read exactly

The seconds of a timeout may be any number of 64 bits, and its nanoseconds any of 32 bits. The full seconds
among the nanoseconds are carried. If the seconds are a number of 64 bits then, the timeout is read as the span
that is written, and otherwise the configuration is refused (`Config.ofJson_timeouts`). This does not depend on
how the timeout is written, nor on how the configuration around it is.
-/

namespace Mailwire

open Json

namespace Duration

/-! ### Carried seconds -/

section

variable {secs nanos : Nat} {d : Duration}

/-- Parts only make up the span that they are. -/
lemma ofParts?_eq_some_iff : ofParts? secs nanos = some d ↔ d.toNanos = secs * 1000000000 + nanos := by
  have hsecs : d.secs.toNat < UInt64.size := d.secs.toNat_lt
  have hnanos : d.nanos.val < 1000000000 := d.nanos.isLt
  rw [ofParts?, toNanos]
  constructor
  · intro hparts
    split_ifs at hparts with hfits
    cases hparts
    show (UInt64.ofNat (secs + nanos / 1000000000)).toNat * 1000000000 + nanos % 1000000000 = _
    rw [UInt64.toNat_ofNat_of_lt' hfits]
    omega
  · intro hsame
    have htotal : secs + nanos / 1000000000 = d.secs.toNat := by omega
    have hrest : nanos % 1000000000 = d.nanos.val := by omega
    simp only [htotal, if_pos hsecs, hrest, UInt64.ofNat_toNat]

lemma ofParts?_eq_none_iff : ofParts? secs nanos = none ↔ UInt64.size ≤ secs + nanos / 1000000000 := by
  simp [ofParts?]

end

/-! ### Durations that are written -/

/-- Seconds and nanoseconds as they may be written. There may be full seconds among the nanoseconds. -/
structure Parts where
  secs : UInt64
  nanos : UInt32

namespace Parts

variable {p : Parts} {v : List Char} {d : Duration}

def part (p : Parts) : Field → Nat
  | .secs => p.secs.toNat
  | .nanos => p.nanos.toNat

/-- The span in nanoseconds. -/
def toNanos (p : Parts) : Nat := p.secs.toNat * 1000000000 + p.nanos.toNat

/-- The seconds together with those among the nanoseconds. -/
def allSecs (p : Parts) : Nat := p.secs.toNat + p.nanos.toNat / 1000000000

/-- The parts are written in digits, as an object whose members may stand in any order, or as an array. -/
def Written (p : Parts) : List Char → Prop := schema.Form fun f v => v = printNatural (p.part f)

lemma reads_part (p : Parts) (f : schema.Field) :
    ReadsAs (schema.read f) (printNatural (p.part f)) (p.part f) := by
  cases f with
  | secs => exact readsAs_printNatural p.secs.toNat_lt (Nat.le_refl _) "u64"
  | nanos => exact readsAs_printNatural p.nanos.toNat_lt (by decide) "u32"

/-- However parts are written, it is judged whether they make up a duration. -/
lemma Written.taken (h : p.Written v) {before rest : List Char} (hbefore : Blank before) :
    taken schema.record (before ++ (v ++ rest))
      = (Schema.fit (schema.build p.part)).map fun d => (d, rest) := by
  refine Schema.Form.judged h settled ?_ hbefore
  rintro f v rfl
  exact p.reads_part f

lemma Written.readsAs (h : p.Written v) (hd : d.toNanos = p.toNanos) : ReadsAs schema.record v d := by
  have hparts : ofParts? (p.part .secs) (p.part .nanos) = some d := ofParts?_eq_some_iff.mpr hd
  have hbuild : schema.build p.part = .ok d := by simp only [schema, hparts]
  intro before rest hbefore _
  rw [h.taken hbefore, hbuild]
  rfl

lemma Written.refusedAs (h : p.Written v) (hbig : UInt64.size ≤ p.allSecs) :
    RefusedAs schema.record v (.misfit .durationOverflow) := by
  have hparts : ofParts? (p.part .secs) (p.part .nanos) = none := ofParts?_eq_none_iff.mpr hbig
  have hbuild : schema.build p.part = .error .durationOverflow := by simp only [schema, hparts]
  intro before rest hbefore _
  rw [h.taken hbefore, hbuild]
  rfl

lemma exists_duration (h : p.allSecs < UInt64.size) : ∃ d : Duration, d.toNanos = p.toNanos := by
  cases hparts : ofParts? (p.part .secs) (p.part .nanos) with
  | some d => exact ⟨d, ofParts?_eq_some_iff.mp hparts⟩
  | none => exact absurd (ofParts?_eq_none_iff.mp hparts) (Nat.not_le.mpr h)

lemma Written.read_or_refused (h : p.Written v) :
    (∃ d, ReadsAs schema.record v d) ∨ RefusedAs schema.record v (.misfit .durationOverflow) := by
  rcases Nat.lt_or_ge p.allSecs UInt64.size with hfits | hbig
  · obtain ⟨d, hd⟩ := exists_duration hfits
    exact Or.inl ⟨d, h.readsAs hd⟩
  · exact Or.inr (h.refusedAs hbig)

end Parts

/-- The parts in which a duration is written. -/
def parts (d : Duration) : Parts := ⟨d.secs, UInt32.ofNat d.nanos.val⟩

lemma parts_part (d : Duration) (f : Field) : d.parts.part f = d.part f := by
  have hnanos : d.nanos.val < UInt32.size := Nat.lt_trans d.nanos.isLt (by decide)
  cases f with
  | secs => rfl
  | nanos => exact UInt32.toNat_ofNat_of_lt' hnanos

lemma parts_toNanos (d : Duration) : d.parts.toNanos = d.toNanos := by
  have hsecs := d.parts_part .secs
  have hnanos := d.parts_part .nanos
  simp only [Parts.part, part] at hsecs hnanos
  rw [Parts.toNanos, toNanos, hsecs, hnanos]

lemma written_print (d : Duration) : d.parts.Written d.print := by
  have hprint : d.print
      = objectText [] (schema.fields.map fun f => printedMember (schema.name f) (printNatural (d.part f))) :=
    printObject_eq_objectText _
  have hform := Schema.Form.printed settled (fun f => isValue_printNatural (d.part f)) d.faithful.distinct
    schema.complete
  rw [← hprint] at hform
  refine hform.imp ?_
  rintro f v rfl
  exact congrArg printNatural (d.parts_part f).symm

end Duration

namespace Config

/-! ### Timeouts of a configuration -/

inductive Timeout
  | connect
  | read

def Timeout.field : Timeout → Field
  | .connect => .connectTimeout
  | .read => .readTimeout

def timeout (c : Config) : Timeout → Duration
  | .connect => c.connectTimeout
  | .read => c.readTimeout

/-- The configuration with these timeouts, as far as it can be written. -/
def withTimeouts (c : Config) (timeout : Timeout → Duration) : Config :=
  { c with connectTimeout := timeout .connect, readTimeout := timeout .read, extraRoots := [] }

/-- How a field may be written. Timeouts are written with the given parts, all else so that it is read as
that of the configuration. -/
def Stands (c : Config) (given : Timeout → Duration.Parts) : Field → List Char → Prop
  | .connectTimeout, v => (given .connect).Written v
  | .readTimeout, v => (given .read).Written v
  | f, v => ReadsAs f.read v (Field.value c f)

/-- The text is the configuration with the given timeouts, in any form. -/
def Written (c : Config) (given : Timeout → Duration.Parts) (text : String) : Prop :=
  ∃ before v behind, Blank before ∧ Blank behind ∧ schema.Form (c.Stands given) v ∧
    text = String.ofList (before ++ (v ++ behind))

variable {c : Config} {given : Timeout → Duration.Parts} {text : String} {v : List Char}

lemma Stands.readsAs {f : Field} {spans : Timeout → Duration} (h : c.Stands given f v)
    (hspans : ∀ t, (spans t).toNanos = (given t).toNanos) :
    ReadsAs (schema.read f) v (Field.value (c.withTimeouts spans) f) := by
  cases f with
  | connectTimeout => exact Duration.Parts.Written.readsAs h (hspans .connect)
  | readTimeout => exact Duration.Parts.Written.readsAs h (hspans .read)
  | _ => exact h

lemma Stands.read_or_refused {f : Field} (h : c.Stands given f v) :
    (∃ a, ReadsAs (schema.read f) v a) ∨ RefusedAs (schema.read f) v (.misfit .durationOverflow) := by
  cases f with
  | connectTimeout => exact Duration.Parts.Written.read_or_refused h
  | readTimeout => exact Duration.Parts.Written.read_or_refused h
  | _ => exact Or.inl ⟨_, h⟩

lemma Stands.refused {t : Timeout} (h : c.Stands given t.field v) (hbig : UInt64.size ≤ (given t).allSecs) :
    RefusedAs (schema.read t.field) v (.misfit .durationOverflow) := by
  cases t with
  | connect => exact Duration.Parts.Written.refusedAs h hbig
  | read => exact Duration.Parts.Written.refusedAs h hbig

/-- A configuration is read with the spans that are written. -/
lemma Written.ofJson_ok {spans : Timeout → Duration} (h : c.Written given text)
    (hspans : ∀ t, (spans t).toNanos = (given t).toNanos) : ofJson text = .ok (c.withTimeouts spans) := by
  obtain ⟨before, v, behind, hbefore, hbehind, hform, rfl⟩ := h
  refine whole_of_readsAs hbefore hbehind ?_
  intro before rest hbefore _
  exact hform.judged settled (fun f v hstands => hstands.readsAs hspans) hbefore

/-- A timeout whose seconds are too many is reported, whatever the other is. -/
lemma Written.ofJson_overflow {t : Timeout} (h : c.Written given text)
    (hbig : UInt64.size ≤ (given t).allSecs) : ofJson text = .error (.misfit .durationOverflow) := by
  obtain ⟨before, v, behind, hbefore, hbehind, hform, rfl⟩ := h
  exact whole_of_refusedAs hbefore hbehind
    (hform.refused (fun f v hstands => hstands.read_or_refused) (fun v hstands => hstands.refused hbig) settled)

/-! ### Configurations that are written with other timeouts -/

/-- What is written for a field if the timeouts are written in this way. -/
def Field.retimed (c : Config) (timeouts : Timeout → List Char) : Field → List Char
  | .connectTimeout => timeouts .connect
  | .readTimeout => timeouts .read
  | f => Field.text c f

/-- A configuration as it is written but for its timeouts. -/
def retimed (c : Config) (timeouts : Timeout → List Char) : String :=
  Frame.tight.object (schema.fields.map fun f => printedMember (schema.name f) (Field.retimed c timeouts f))

lemma readsAs_text (c : Config) (f : schema.Field) :
    ReadsAs (schema.read f) (Field.text c f) (Field.value c f) :=
  readsAs_of_takes (settled.read f) (isValue_text c f) fun {rest} hrest => c.faithful.takes f rest hrest

lemma written_retimed (c : Config) {timeouts : Timeout → List Char}
    (h : ∀ t, (given t).Written (timeouts t)) : c.Written given (c.retimed timeouts) := by
  have hvalue : ∀ f : schema.Field, IsValue (Field.retimed c timeouts f) := by
    intro f
    have htext := isValue_text c f
    cases f with
    | connectTimeout => exact (h .connect).isValue
    | readTimeout => exact (h .read).isValue
    | _ => exact htext
  have hform := Schema.Form.printed settled hvalue c.faithful.distinct schema.complete
  refine ⟨[], _, [], .nil, .nil, hform.imp ?_, rfl⟩
  rintro f v rfl
  have hreads : ReadsAs (schema.read f) (Field.text c f) (Field.value c f) := c.readsAs_text f
  cases f with
  | connectTimeout => exact h .connect
  | readTimeout => exact h .read
  | _ => exact @hreads

lemma written_toJson (c : Config) : c.Written (fun t => (c.timeout t).parts) c.toJson := by
  have hfield : ∀ f : schema.Field, Field.text c f = Field.retimed c (fun t => (c.timeout t).print) f := by
    intro f
    cases f <;> rfl
  have hsame : c.toJson = c.retimed fun t => (c.timeout t).print := by
    rw [toJson_eq_object, printed, retimed]
    simp only [← hfield]
    rfl
  rw [hsame]
  exact c.written_retimed fun t => (c.timeout t).written_print

/-! ### What becomes of the timeouts -/

/-- A configuration with given timeouts is read exactly if their seconds, with those carried from the
nanoseconds, are numbers of 64 bits. Then the timeouts are the spans that are given, and written again they are
still these spans. Otherwise the duration is reported to overflow. -/
theorem ofJson_timeouts (h : c.Written given text) :
    ((∃ c', ofJson text = .ok c') ↔
      ∀ t, (given t).secs.toNat + (given t).nanos.toNat / 1000000000 < UInt64.size) ∧
    (∀ c', ofJson text = .ok c' →
      c' = c.withTimeouts c'.timeout ∧
      (∀ t, (c'.timeout t).toNanos = (given t).secs.toNat * 1000000000 + (given t).nanos.toNat ∧
        (c'.timeout t).nanos.val < 1000000000) ∧
      ofJson c'.toJson = .ok c' ∧ c'.Written (fun t => (c'.timeout t).parts) c'.toJson ∧
      ∀ t, (c'.timeout t).parts.toNanos = (given t).toNanos) ∧
    ∀ t, UInt64.size ≤ (given t).secs.toNat + (given t).nanos.toNat / 1000000000 →
      ofJson text = .error (.misfit .durationOverflow) := by
  have hoverflow : ∀ t, UInt64.size ≤ (given t).allSecs → ofJson text = .error (.misfit .durationOverflow) :=
    fun t hbig => h.ofJson_overflow hbig
  have hfits : ∀ c', ofJson text = .ok c' → ∀ t, (given t).allSecs < UInt64.size := by
    intro c' hread t
    by_contra hbig
    rw [hoverflow t (Nat.not_lt.mp hbig)] at hread
    cases hread
  have hspans : (∀ t, (given t).allSecs < UInt64.size) →
      ∃ spans : Timeout → Duration, ∀ t, (spans t).toNanos = (given t).toNanos :=
    fun hfits => Classical.skolem.mp fun t => Duration.Parts.exists_duration (hfits t)
  refine ⟨⟨?_, ?_⟩, ?_, hoverflow⟩
  · rintro ⟨c', hread⟩
    exact hfits c' hread
  · intro hfits
    obtain ⟨spans, hspans⟩ := hspans hfits
    exact ⟨_, h.ofJson_ok hspans⟩
  · intro c' hread
    obtain ⟨spans, hspans⟩ := hspans (hfits c' hread)
    obtain rfl : c' = c.withTimeouts spans := by
      rw [h.ofJson_ok hspans] at hread
      exact (Except.ok.inj hread).symm
    have htimeout : ∀ t, (c.withTimeouts spans).timeout t = spans t := by
      intro t
      cases t <;> rfl
    refine ⟨?_, ?_, ofJson_toJson _, written_toJson _, ?_⟩
    · rw [funext htimeout]
    · intro t
      rw [htimeout]
      exact ⟨hspans t, (spans t).nanos.isLt⟩
    · intro t
      rw [Duration.parts_toNanos, htimeout, hspans]

/-- The first timeout with its nanoseconds in front, and the second as an array. -/
def oddly (given : Timeout → Duration.Parts) : Timeout → List Char
  | .connect => objectText [] (Duration.schema.fields.reverse.map fun f =>
      printedMember (Duration.schema.name f) (printNatural ((given .connect).part f)))
  | .read => arrayText [] (Duration.schema.fields.map fun f => ⟨[], printNatural ((given .read).part f), []⟩)

lemma written_oddly (given : Timeout → Duration.Parts) (t : Timeout) : (given t).Written (oddly given t) := by
  have hvalue : ∀ f : Duration.schema.Field, IsValue (printNatural ((given t).part f)) :=
    fun f => isValue_printNatural _
  cases t with
  | connect =>
    have hdistinct : Duration.schema.fields.reverse.Nodup := by decide
    exact Schema.Form.printed Duration.settled hvalue hdistinct fun f =>
      List.mem_reverse.mpr (Duration.schema.complete f)
  | read => exact Schema.Form.printed_array hvalue

/-- Seconds with four more among the nanoseconds, and a shorter timeout. -/
def long (secs : UInt64) : Timeout → Duration.Parts
  | .connect => ⟨secs, 4294967295⟩
  | .read => ⟨1, 1500000000⟩

/-- The longest timeout with so many nanoseconds, and one second more. -/
theorem ofJson_timeouts_longest :
    String.ofList (oddly (long 18446744073709551611) .connect)
      = "\x7b\"nanos\":4294967295,\"secs\":18446744073709551611\x7d" ∧
    String.ofList (oddly (long 18446744073709551611) .read) = "[1,1500000000]" ∧
    plainHost.Written (long 18446744073709551611) (plainHost.retimed (oddly (long 18446744073709551611))) ∧
    (∃ c', ofJson (plainHost.retimed (oddly (long 18446744073709551611))) = .ok c' ∧
      c'.connectTimeout.toNanos = 18446744073709551615294967295 ∧ c'.readTimeout.toNanos = 2500000000) ∧
    ofJson (plainHost.retimed (oddly (long 18446744073709551612))) = .error (.misfit .durationOverflow) := by
  have hwritten := fun secs => plainHost.written_retimed (written_oddly (long secs))
  obtain ⟨hread, hspans, -⟩ := ofJson_timeouts (hwritten 18446744073709551611)
  obtain ⟨-, -, hoverflow⟩ := ofJson_timeouts (hwritten 18446744073709551612)
  refine ⟨by decide +kernel, by decide +kernel, hwritten _, ?_, hoverflow .connect (by decide)⟩
  obtain ⟨c', hc'⟩ := hread.mpr fun t => by cases t <;> decide
  obtain ⟨-, htimeouts, -⟩ := hspans c' hc'
  exact ⟨c', hc', (htimeouts .connect).1, (htimeouts .read).1⟩

end Config

end Mailwire
