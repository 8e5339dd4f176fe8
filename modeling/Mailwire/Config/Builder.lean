import Mailwire.Config.Basic

/-!
# Building a configuration step by step

A builder starts from the defaults, and each step overwrites one setting. Only the port stays open
to the end, because its default depends on the flags.
-/

namespace Mailwire.Config

/-- One step of building. -/
inductive Setting
  | port (port : UInt16)
  | flags (flags : Flags)
  | encrypt (enabled : Bool)
  | trustAll (enabled : Bool)
  | connectTimeout (limit : Duration)
  | readTimeout (limit : Duration)
  | bufferSizes (read write : UInt64)
  | maxLineLength (max : UInt64)
  /-- Adds a trust anchor. -/
  | root (certificate : Octets)
deriving DecidableEq, Repr

/-- A configuration whose port may still be missing. -/
structure Builder where
  port : Option UInt16
  /-- The other settings; the port in here does not count. -/
  settings : Config
deriving DecidableEq, Repr

namespace Builder

def ofHost (host : String) : Builder where
  port := none
  settings := .ofHost host plainPort .none

def apply (b : Builder) : Setting → Builder
  | .port port => { b with port := some port }
  | .flags flags => { b with settings.flags := flags }
  | .encrypt enabled =>
    { b with settings.flags := b.settings.flags.set .encrypt enabled }
  | .trustAll enabled =>
    { b with settings.flags := b.settings.flags.set .trustAll enabled }
  | .connectTimeout limit => { b with settings.connectTimeout := limit }
  | .readTimeout limit => { b with settings.readTimeout := limit }
  | .bufferSizes read write =>
    { b with settings.readBufferSize := read, settings.writeBufferSize := write }
  | .maxLineLength max => { b with settings.maxLineLength := max }
  | .root certificate =>
    { b with settings.extraRoots := b.settings.extraRoots ++ [certificate] }

/-- The port for flags, where none was asked for. -/
def defaultPort (flags : Flags) : UInt16 :=
  if flags.contains .encrypt then encryptedPort else plainPort

def build (b : Builder) : Config :=
  { b.settings with port := b.port.getD (defaultPort b.settings.flags) }

end Builder

/-- The configuration that a row of steps builds. -/
def ofSettings (host : String) (steps : List Setting) : Config :=
  (steps.foldl Builder.apply (.ofHost host)).build

end Mailwire.Config
