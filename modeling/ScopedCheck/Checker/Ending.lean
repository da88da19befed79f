namespace ScopedCheck

/-- Signals by their number. -/
structure Signal where
  number : Int
  deriving DecidableEq, Repr, Inhabited

namespace Signal

def hangup : Signal := ⟨1⟩
def interrupt : Signal := ⟨2⟩
def kill : Signal := ⟨9⟩
def terminate : Signal := ⟨15⟩

def pipe : Signal := ⟨13⟩

/-- A quotient that no word can hold. -/
def arithmetic : Signal := ⟨8⟩

/-- The use of memory that is not there. -/
def segment : Signal := ⟨11⟩

/-- A file that would become larger than it may be. -/
def fileSize : Signal := ⟨25⟩

/-- The signals that do nothing to a program unless it asks for them: a child that ended, the order
to continue, urgent data, a resized window. -/
def isHarmless (signal : Signal) : Bool :=
  [17, 18, 23, 28].contains signal.number

/-- The order to continue after a pause. -/
def resume : Signal := ⟨18⟩

/-- The signals that make a program pause. -/
def isPause (signal : Signal) : Bool :=
  [19, 20, 21, 22].contains signal.number

/-- The signals that tell a program of a wrong use of its memory. -/
def isFault (signal : Signal) : Bool :=
  [7, 11].contains signal.number

/-- The exit status after a termination by this signal was handled. -/
def exitStatus (signal : Signal) : Int :=
  128 + signal.number

end Signal

/-- How a program ended: by itself with a status, or by a signal. -/
inductive Ending where
  | exited (status : Nat)
  | killed (signal : Signal)
  deriving DecidableEq, Repr, Inhabited

namespace Ending

/-- Reads a wait status: the low seven bits hold the signal, the byte above them the status. -/
def ofWaitStatus (raw : BitVec 32) : Ending :=
  let signal := (raw &&& 0x7f#32).toNat
  if signal = 0 then .exited ((raw >>> 8) &&& 0xff#32).toNat else .killed ⟨signal⟩

/-- The status to pass on: the program's own, or zero if it has none. -/
def exitStatus : Ending → Int
  | exited status => status
  | killed _ => 0

end Ending

end ScopedCheck
