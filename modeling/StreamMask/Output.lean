/-
What text is written to.

A `String` takes everything. A `Channel` takes bytes up to a limit, the first
bytes of what goes beyond it too, and is closed then.
-/
import StreamMask.IoFault

namespace StreamMask

/-- A state that takes text piece by piece. -/
class Output (ω : Type) where
  put : ω → String → ω × Option IoFault
  flush : ω → ω × Option IoFault

instance : Output String where
  put text piece := (text ++ piece, none)
  flush text := (text, none)

/-- An output for bytes that may be limited and may refuse to be flushed. -/
structure Channel where
  bytes : ByteArray := .empty
  limit : Option Nat := none
  refusesFlush : Bool := false

namespace Channel

/-- How many more bytes are taken of a piece of this size. -/
def room (channel : Channel) (size : Nat) : Nat :=
  match channel.limit with
  | none => size
  | some limit => min size (limit - channel.bytes.size)

instance : Output Channel where
  put channel piece :=
    let new := piece.toUTF8
    let taken := channel.room new.size
    ({ channel with bytes := channel.bytes ++ new.extract 0 taken },
      if taken = new.size then none else some .closed)
  flush channel := (channel, if channel.refusesFlush then some .flushRefused else none)

end Channel
end StreamMask
