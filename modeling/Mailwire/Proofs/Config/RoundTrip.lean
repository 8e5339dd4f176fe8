import Mailwire.Config.Json
import Mailwire.Proofs.Json.Record

/-!
# Configurations that were written are read again

A configuration is written as an object of its fields, each of which is read as it was written: the
host whatever characters it has, numbers because they are below the bounds of their types, durations
because they are objects themselves. So nothing is lost but the extra trust anchors
(`Config.json_round_trip`).
-/

namespace Mailwire

open Json

namespace Duration

/-- What a field of a duration holds. -/
def part (d : Duration) : Field → Nat
  | .secs => d.secs.toNat
  | .nanos => d.nanos.val

/-- The parts of a duration make up this duration. -/
lemma ofParts?_part (d : Duration) : ofParts? (d.part .secs) (d.part .nanos) = some d := by
  have hnanos : d.nanos.val < 1000000000 := d.nanos.isLt
  have hsecs : d.secs.toNat < UInt64.size := d.secs.toNat_lt
  have htotal : d.secs.toNat + d.nanos.val / 1000000000 = d.secs.toNat := by
    rw [Nat.div_eq_of_lt hnanos, Nat.add_zero]
  have hrest : d.nanos.val % 1000000000 = d.nanos.val := Nat.mod_eq_of_lt hnanos
  show ofParts? d.secs.toNat d.nanos.val = some d
  rw [ofParts?]
  simp only [htotal, if_pos hsecs, hrest, UInt64.ofNat_toNat]

lemma faithful (d : Duration) :
    Schema.Faithful schema (fun f => printNatural (d.part f)) d.part := by
  refine ⟨by decide, ?_, ?_⟩
  · intro f
    cases f <;> decide
  · intro f rest hrest
    cases f with
    | secs => exact takes_natural d.secs.toNat_lt (Nat.le_refl _) "u64" hrest
    | nanos =>
      have hnanos : d.nanos.val < UInt32.size := Nat.lt_trans d.nanos.isLt (by decide)
      exact takes_natural hnanos (by decide) "u32" hrest

theorem takes_print (d : Duration) (rest : List Char) : Takes schema.record d.print d rest := by
  have hbuild : schema.build d.part = .ok d := by simp only [schema, ofParts?_part]
  exact d.faithful.takes_record rfl hbuild rest

end Duration

namespace Config

namespace Field

/-- What a configuration writes for a field. -/
def text (c : Config) : Field → List Char
  | host => printString c.host
  | port => printNatural c.port.toNat
  | flags => c.flags.print
  | connectTimeout => c.connectTimeout.print
  | readTimeout => c.readTimeout.print
  | readBufferSize => printNatural c.readBufferSize.toNat
  | writeBufferSize => printNatural c.writeBufferSize.toNat
  | maxLineLength => printNatural c.maxLineLength.toNat

/-- What a field of a configuration holds. -/
def value (c : Config) : (f : Field) → f.Value
  | host => c.host
  | port => c.port
  | flags => c.flags
  | connectTimeout => c.connectTimeout
  | readTimeout => c.readTimeout
  | readBufferSize => c.readBufferSize
  | writeBufferSize => c.writeBufferSize
  | maxLineLength => c.maxLineLength

lemma takes_size (n : UInt64) {rest : List Char} (hrest : Delimited rest) :
    Takes readSize (printNatural n.toNat) n rest := by
  have hread := (takes_natural n.toNat_lt (Nat.le_refl _) "usize" hrest).map UInt64.ofNat
  rwa [UInt64.ofNat_toNat] at hread

lemma takes_port (n : UInt16) {rest : List Char} (hrest : Delimited rest) :
    Takes readPort (printNatural n.toNat) n rest := by
  have hread := (takes_natural n.toNat_lt (by decide) "u16" hrest).map UInt16.ofNat
  rwa [UInt16.ofNat_toNat] at hread

lemma takes_flags (flags : Flags) {rest : List Char} (hrest : Delimited rest) :
    Takes Flags.read flags.print flags rest := by
  have hread := (takes_natural flags.bits.toNat_lt (by decide) "u32" hrest).map
    fun n => Flags.mk (UInt32.ofNat n)
  rwa [UInt32.ofNat_toNat] at hread

end Field

lemma faithful (c : Config) : Schema.Faithful schema (Field.text c) (Field.value c) := by
  refine ⟨by decide, ?_, ?_⟩
  · intro f
    cases f <;> decide
  · intro f rest hrest
    cases f with
    | host => exact takes_string c.host rest
    | port => exact Field.takes_port c.port hrest
    | flags => exact Field.takes_flags c.flags hrest
    | connectTimeout => exact c.connectTimeout.takes_print rest
    | readTimeout => exact c.readTimeout.takes_print rest
    | readBufferSize => exact Field.takes_size c.readBufferSize hrest
    | writeBufferSize => exact Field.takes_size c.writeBufferSize hrest
    | maxLineLength => exact Field.takes_size c.maxLineLength hrest

/-- A configuration is read as it was written, without its extra trust anchors. -/
lemma ofJson_toJson (c : Config) : ofJson c.toJson = .ok { c with extraRoots := [] } := by
  have hbuild : schema.build (Field.value c) = .ok { c with extraRoots := [] } := rfl
  have htakes := c.faithful.takes_record rfl hbuild []
  rw [Takes, List.append_nil] at htakes
  obtain ⟨hlt, hread⟩ := htakes
  have hread : schema.record c.print = .ok ⟨{ c with extraRoots := [] }, [], hlt⟩ := hread
  rw [ofJson, whole, toJson, String.toList_ofList, hread]
  rfl

/-- A configuration that was read has no extra trust anchors. -/
lemma extraRoots_of_ofJson {text : String} {c : Config} (h : ofJson text = .ok c) :
    c.extraRoots = [] := by
  rw [ofJson, whole] at h
  obtain ⟨p, hread, h⟩ := Schema.bind_eq_ok h
  obtain ⟨values, hbuild⟩ := Schema.built_of_record hread
  split_ifs at h with hend
  cases h
  rw [← Except.ok.inj hbuild]
  rfl

/-- Of a configuration that is written and read again, only the extra trust anchors are lost. So
whatever text a configuration was read from, it can be written and is read as it was, and
configurations without extra trust anchors that are written alike are the same. -/
theorem json_round_trip :
    (∀ c : Config, ofJson c.toJson = .ok { c with extraRoots := [] }) ∧
    (∀ (text : String) (c : Config), ofJson text = .ok c → ofJson c.toJson = .ok c) ∧
    ∀ c c' : Config, c.extraRoots = [] → c'.extraRoots = [] → c.toJson = c'.toJson → c = c' := by
  have hkeeps : ∀ c : Config, c.extraRoots = [] → ofJson c.toJson = .ok c := by
    intro c hroots
    rw [ofJson_toJson, ← hroots]
  refine ⟨ofJson_toJson, ?_, ?_⟩
  · intro text c hread
    exact hkeeps c (extraRoots_of_ofJson hread)
  · intro c c' hroots hroots' hsame
    have hread := hkeeps c hroots
    rw [hsame, hkeeps c' hroots'] at hread
    exact (Except.ok.inj hread).symm

/-- A configuration as a sequence, with an escaped character and a duration of 1 s and 1500000000 ns. -/
def carried : String :=
  "[\"\\u0061\", 993, 4294967295, [1, 1500000000], [60, 0], 1024, 512, 18446744073709551615]"

/-- What is read of it. -/
def normalised : Config :=
  { ofHost "a" 993 ⟨0xffffffff⟩ with
    connectTimeout := ⟨2, 500000000, by decide⟩
    maxLineLength := 0xffffffffffffffff }

/-- Also, hosts with a line feed, and with a backslash and an n, are written in different ways. -/
theorem json_round_trip_carried :
    ofJson carried = .ok normalised ∧ ofJson normalised.toJson = .ok normalised ∧
      (ofHost "\n" 143 .none).toJson ≠ (ofHost "\\n" 143 .none).toJson := by
  have hread : ofJson carried = .ok normalised := by decide +kernel
  refine ⟨hread, json_round_trip.2.1 _ _ hread, ?_⟩
  intro hsame
  have hequal := json_round_trip.2.2 _ _ rfl rfl hsame
  exact absurd (congrArg Config.host hequal) (by decide +kernel)

end Config

end Mailwire
