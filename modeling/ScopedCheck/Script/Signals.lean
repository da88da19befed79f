import ScopedCheck.Checker.Ending
import ScopedCheck.Script.Octets

namespace ScopedCheck.Signal

/-- The names of the signals that programs may use for purposes of their own. -/
def realtimeNames : List (String × Int) :=
  ("RTMIN", 34) :: (List.range' 1 15).map (fun n => ("RTMIN+" ++ toString n, Int.ofNat (34 + n))) ++
    (List.range' 1 14).map (fun n => ("RTMAX-" ++ toString (15 - n), Int.ofNat (49 + n))) ++ [("RTMAX", 64)]

/-- The names that a shell knows. -/
def names : List (String × Int) :=
  [("EXIT", 0), ("HUP", 1), ("INT", 2), ("QUIT", 3), ("ILL", 4), ("TRAP", 5), ("ABRT", 6),
   ("BUS", 7), ("FPE", 8), ("KILL", 9), ("USR1", 10), ("SEGV", 11), ("USR2", 12), ("PIPE", 13),
   ("ALRM", 14), ("TERM", 15), ("CHLD", 17), ("CONT", 18), ("STOP", 19),
   ("TSTP", 20), ("TTIN", 21), ("TTOU", 22), ("URG", 23), ("XCPU", 24), ("XFSZ", 25),
   ("VTALRM", 26), ("PROF", 27), ("WINCH", 28), ("IO", 29), ("PWR", 30), ("SYS", 31)] ++ realtimeNames

/-- One more than the greatest number of a signal. -/
def bound : Int := 65

/-- The signal of a number or of a name, which may be written in any case. -/
def ofText? (text : Script.Octets) : Option Signal :=
  if text ≠ [] && text.all Char.isDigit then
    let n : Int := Script.Octets.natOf 10 text
    if n < bound then some ⟨n⟩ else none
  else (names.lookup (String.ofList (text.map Char.toUpper))).map fun n => ⟨n⟩

/-- The names that the system itself has for signals without a purpose. -/
def stackFault : String × Int := ("STKFLT", 16)

/-- The signal of a number or of a name that the tools of the system know. -/
def ofSystemText? (text : Script.Octets) : Option Signal :=
  if text.map Char.toUpper = stackFault.1.toList then some ⟨stackFault.2⟩ else ofText? text

/-- The signals that can be neither caught nor ignored. -/
def isFinal (signal : Signal) : Bool :=
  signal.number = 9 || signal.number = 19

def name (signal : Signal) : String :=
  ((names.find? (·.2 = signal.number)).map Prod.fst).getD (toString signal.number)

end ScopedCheck.Signal
