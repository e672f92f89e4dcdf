/-!
# Exit statuses

How a process ended, as the host encodes it in one word: the low seven bits tell whether it
returned a code or was ended by a signal, the next byte holds the code.

* `ExitStatus.code?` -- the code the process returned;
* `ExitStatus.signal?` -- the signal that ended it;
* `ExitStatus.returned`, `ExitStatus.signalled` -- the words of the two kinds of end.

A word whose low seven bits are all set tells of a stopped process and has neither.
-/

namespace Overseer

/-- The word in which the host reports how a process ended. -/
structure ExitStatus where
  word : UInt32
  deriving DecidableEq, Repr

namespace ExitStatus

/-- The status of a process that returned `code`. -/
def returned (code : UInt8) : ExitStatus := ⟨code.toUInt32 <<< 8⟩

/-- The status of a process that a signal ended. -/
def signalled (signal : UInt8) : ExitStatus := ⟨signal.toUInt32 &&& 0x7f⟩

/-- The seven bits that tell the kind of end. -/
def kindBits (e : ExitStatus) : UInt32 := e.word &&& 0x7f

/-- The code the process returned. -/
def code? (e : ExitStatus) : Option Nat :=
  if e.kindBits = 0 then some ((e.word >>> 8) &&& 0xff).toNat else none

/-- The signal that ended the process. -/
def signal? (e : ExitStatus) : Option Nat :=
  if e.kindBits = 0 ∨ e.kindBits = 0x7f then none else some e.kindBits.toNat

/-- Whether the process returned zero. -/
def success (e : ExitStatus) : Bool := e.word = 0

end ExitStatus

end Overseer
