/-!
# Signals

A signal is known by its number and by a name.  A shell and other programs name most signals alike.
-/

namespace Relay.Signal

/-- The names of the signals, from 1 on; a signal without a name is named by its number. -/
def names : List String :=
  ["HUP", "INT", "QUIT", "ILL", "TRAP", "ABRT", "BUS", "FPE", "KILL", "USR1", "SEGV", "USR2",
    "PIPE", "ALRM", "TERM", "STKFLT", "CHLD", "CONT", "STOP", "TSTP", "TTIN", "TTOU", "URG", "XCPU",
    "XFSZ", "VTALRM", "PROF", "WINCH", "POLL", "PWR", "SYS", "32", "33", "RTMIN"]
    ++ ((List.range 15).map fun k => "RTMIN+" ++ toString (k + 1))
    ++ ((List.range 14).map fun k => "RTMAX-" ++ toString (14 - k)) ++ ["RTMAX"]

/-- The greatest number of a signal. -/
def greatest : Nat := 64

/-- All signals that can be dealt with in another way than usual. -/
def adjustable : List Nat :=
  ((List.range greatest).map (· + 1)).filter fun n => !([9, 19, 32, 33].contains n)

/-- The name of a signal, if it has one. -/
def name? (n : Nat) : Option String :=
  if n = 32 || n = 33 then none else if n = 0 then some "EXIT" else names[n - 1]?

def shellName (n : Nat) : String :=
  if n = 0 then "EXIT"
  else if n = 16 then "16"
  else if n = 29 then "IO"
  else names.getD (n - 1) "0"

def otherNames : List (String × Nat) := [("IOT", 6), ("CLD", 17), ("IO", 29), ("EXIT", 0)]

/-- The number of a signal given by its name in capitals. -/
def named? (name : String) : Option Nat :=
  if name = "32" || name = "33" then none
  else ((names.idxOf? name).map (· + 1)) <|> otherNames.lookup name

end Relay.Signal
