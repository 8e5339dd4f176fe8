import Mailwire.Duration
import Mailwire.Flags
import Mailwire.Octets

/-!
# Configuration of a transport

The server, how to connect to it, and the limits that hold while the connection is open.
-/

namespace Mailwire

/-- A configuration. -/
structure Config where
  host : String
  port : UInt16
  flags : Flags
  /-- How long one address may take to answer. -/
  connectTimeout : Duration
  /-- How long the server may stay silent. -/
  readTimeout : Duration
  readBufferSize : UInt64
  writeBufferSize : UInt64
  /-- The longest line that is read, its end excluded. -/
  maxLineLength : UInt64
  /-- Trust anchors beside the public ones, as certificates. -/
  extraRoots : List Octets
deriving DecidableEq, Repr

namespace Config

/-! ### Defaults -/

/-- Ten seconds for an address to answer. -/
def defaultConnectTimeout : Duration := .ofSecs 10

/-- A minute of silence. -/
def defaultReadTimeout : Duration := .ofSecs 60

/-- How much is read ahead. -/
def defaultReadBufferSize : UInt64 := 1024

/-- How much is gathered before it is sent. -/
def defaultWriteBufferSize : UInt64 := 512

/-- One mebibyte. -/
def defaultMaxLineLength : UInt64 := 1048576

/-- The port of a server that expects TLS from the first octet. -/
def encryptedPort : UInt16 := 993

/-- The port of a server that is talked to in the clear. -/
def plainPort : UInt16 := 143

def ofHost (host : String) (port : UInt16) (flags : Flags) : Config where
  host := host
  port := port
  flags := flags
  connectTimeout := defaultConnectTimeout
  readTimeout := defaultReadTimeout
  readBufferSize := defaultReadBufferSize
  writeBufferSize := defaultWriteBufferSize
  maxLineLength := defaultMaxLineLength
  extraRoots := []

/-- Whether the connection is upgraded to TLS. -/
def encrypts (c : Config) : Bool := c.flags.contains .encrypt

def trustsAll (c : Config) : Bool := c.flags.contains .trustAll

end Config

end Mailwire
