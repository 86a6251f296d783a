/-!
Contract: output with limited room.

Owns the sink that takes bytes until its room is used up. Of a text that does not fit, the bytes that
still fit are taken and the rest is lost.
-/

set_option autoImplicit false

namespace ChartParsing

/-- The bytes written so far, and how many there may be at most, if there is a limit. -/
structure ByteSink where
  limit : Option Nat
  bytes : ByteArray

namespace ByteSink

def ofLimit (limit : Option Nat) : ByteSink :=
  ⟨limit, .empty⟩

def fitting (sink : ByteSink) (chunk : ByteArray) : ByteArray :=
  match sink.limit with
  | none => chunk
  | some limit => chunk.extract 0 (limit - sink.bytes.size)

/-- Writes a text, and tells whether all of it fits. -/
def write (sink : ByteSink) (text : String) : ByteSink × Bool :=
  let chunk := text.toUTF8
  let part := sink.fitting chunk
  match sink with
  | ⟨limit, bytes⟩ => (⟨limit, bytes ++ part⟩, part.size = chunk.size)

/-- The report of a write that does not fit. -/
def fullMessage : String := "failed to write whole buffer"

end ByteSink

end ChartParsing
