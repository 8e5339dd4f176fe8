import Mailwire.Config.Basic
import Mailwire.Json.Printer
import Mailwire.Json.Record

/-!
# Configurations as JSON

A configuration is written as an object of eight members. The extra trust anchors are not among
them: a member of that name is passed over like any unknown one, and a configuration that was read
has none.
-/

namespace Mailwire

open Json

/-! ### Durations -/

namespace Duration

/-- The parts in which a duration is written. -/
inductive Field
  | secs
  | nanos
deriving DecidableEq, Repr

/-- How a duration is read. Unknown members are refused. -/
def schema : Schema Duration where
  Field := Field
  Value := fun _ => Nat
  fields := [.secs, .nanos]
  complete := by intro f; cases f <;> simp
  name
    | .secs => "secs"
    | .nanos => "nanos"
  read
    | .secs => natural UInt64.size "u64"
    | .nanos => natural UInt32.size "u32"
  build values :=
    match ofParts? (values .secs) (values .nanos) with
    | some d => .ok d
    | none => .error .durationOverflow
  lenient := false
  title := "struct Duration"
  sequenceTitle := "struct Duration"

def print (d : Duration) : List Char :=
  printObject [("secs", printNatural d.secs.toNat), ("nanos", printNatural d.nanos.val)]

end Duration

/-! ### Flags -/

/-- Reads a word of flags. All bits are kept. -/
def Flags.read : Reader Flags := fun cs =>
  (natural UInt32.size "u32" cs).map fun p => p.map fun n => ⟨UInt32.ofNat n⟩

def Flags.print (flags : Flags) : List Char := printNatural flags.bits.toNat

/-! ### Configurations -/

namespace Config

/-- The members in which a configuration is written. -/
inductive Field
  | host
  | port
  | flags
  | connectTimeout
  | readTimeout
  | readBufferSize
  | writeBufferSize
  | maxLineLength
deriving DecidableEq, Repr

namespace Field

def Value : Field → Type
  | host => String
  | port => UInt16
  | flags => Flags
  | connectTimeout | readTimeout => Duration
  | readBufferSize | writeBufferSize | maxLineLength => UInt64

def name : Field → String
  | host => "host"
  | port => "port"
  | flags => "flags"
  | connectTimeout => "connect_timeout"
  | readTimeout => "read_timeout"
  | readBufferSize => "read_buffer_size"
  | writeBufferSize => "write_buffer_size"
  | maxLineLength => "max_line_length"

def readSize : Reader UInt64 := fun cs =>
  (natural UInt64.size "usize" cs).map fun p => p.map UInt64.ofNat

def readPort : Reader UInt16 := fun cs =>
  (natural UInt16.size "u16" cs).map fun p => p.map UInt16.ofNat

def read : (f : Field) → Reader f.Value
  | host => string
  | port => readPort
  | flags => Flags.read
  | connectTimeout | readTimeout => Duration.schema.record
  | readBufferSize | writeBufferSize | maxLineLength => readSize

end Field

/-- The configuration of given values, without extra trust anchors. -/
def ofValues (values : (f : Field) → f.Value) : Config where
  host := values .host
  port := values .port
  flags := values .flags
  connectTimeout := values .connectTimeout
  readTimeout := values .readTimeout
  readBufferSize := values .readBufferSize
  writeBufferSize := values .writeBufferSize
  maxLineLength := values .maxLineLength
  extraRoots := []

/-- How a configuration is read. Unknown members are passed over. -/
def schema : Schema Config where
  Field := Field
  Value := Field.Value
  fields := [.host, .port, .flags, .connectTimeout, .readTimeout, .readBufferSize,
    .writeBufferSize, .maxLineLength]
  complete := by intro f; cases f <;> simp
  name := Field.name
  read := Field.read
  build values := .ok (ofValues values)
  lenient := true
  title := "struct Config"
  sequenceTitle := "struct Config with 8 elements"

def ofJson (text : String) : Except ReadError Config := whole schema.record text

/-- A configuration as JSON, in characters. -/
def print (c : Config) : List Char :=
  printObject [
    ("host", printString c.host),
    ("port", printNatural c.port.toNat),
    ("flags", c.flags.print),
    ("connect_timeout", c.connectTimeout.print),
    ("read_timeout", c.readTimeout.print),
    ("read_buffer_size", printNatural c.readBufferSize.toNat),
    ("write_buffer_size", printNatural c.writeBufferSize.toNat),
    ("max_line_length", printNatural c.maxLineLength.toNat)]

def toJson (c : Config) : String := String.ofList c.print

end Config

end Mailwire
