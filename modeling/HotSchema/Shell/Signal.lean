/-!
# Signals

The signals of the system by their numbers, and what each does to a process that does not expect it.
-/

namespace HotSchema.Shell

def signalNames : List String :=
  ["HUP", "INT", "QUIT", "ILL", "TRAP", "ABRT", "BUS", "FPE", "KILL", "USR1", "SEGV", "USR2", "PIPE",
    "ALRM", "TERM", "STKFLT", "CHLD", "CONT", "STOP", "TSTP", "TTIN", "TTOU", "URG", "XCPU", "XFSZ",
    "VTALRM", "PROF", "WINCH", "IO", "PWR", "SYS"]

def signalName? (signal : Nat) : Option String :=
  if signal = 0 then none else signalNames[signal - 1]?

/-- The number of a signal that is given by its number or its name, in letters of either case. -/
def signalNumber? (s : String) : Option Nat :=
  match s.toNat? with
  | some n => if n ≤ 64 then some n else none
  | none =>
    let s := String.ofList (s.toList.map Char.toUpper)
    if s = "EXIT" then some 0 else (signalNames.findIdx? (· = s)).map (· + 1)

inductive SignalEffect where
  | none
  | halts
  | kills
  deriving DecidableEq

def signalEffect (signal : Nat) : SignalEffect :=
  if signal ∈ [0, 17, 18, 23, 28] then .none
  else if signal ∈ [19, 20, 21, 22] then .halts
  else .kills

end HotSchema.Shell
