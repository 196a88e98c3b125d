/-! Signals: their names, numbers, and what they do to a process that does not handle them. -/

namespace TreePipeline.Host

namespace Signal

def names : List String :=
  ["HUP", "INT", "QUIT", "ILL", "TRAP", "ABRT", "BUS", "FPE", "KILL", "USR1", "SEGV", "USR2",
    "PIPE", "ALRM", "TERM", "16", "CHLD", "CONT", "STOP", "TSTP", "TTIN", "TTOU", "URG",
    "XCPU", "XFSZ", "VTALRM", "PROF", "WINCH", "IO", "PWR", "SYS", "32", "33", "RTMIN"] ++
    (List.range 15).map (fun n => "RTMIN+" ++ toString (n + 1)) ++
    (List.range 14).map (fun n => "RTMAX-" ++ toString (14 - n)) ++ ["RTMAX"]

def last : Nat := 64

def kill : Nat := 9
def pipe : Nat := 13
def child : Nat := 17
def continue_ : Nat := 18
def stop : Nat := 19
def abort : Nat := 6
def terminate : Nat := 15
def cpuLimit : Nat := 24
def sizeLimit : Nat := 25

def ofName? (s : String) : Option Nat := (names.findIdx? fun n => n = s.toUpper).map (· + 1)

def ofLongName? (s : String) : Option Nat :=
  ofName? (if s.toUpper.startsWith "SIG" then (s.drop 3).toString else s)

inductive Effect where
  | terminate
  | ignore
  | suspend
  | resume
  deriving DecidableEq

def effect (n : Nat) : Effect :=
  if n = 17 ∨ n = 23 ∨ n = 28 then .ignore
  else if n = continue_ then .resume
  else if 19 ≤ n ∧ n ≤ 22 then .suspend
  else .terminate

def isForced (n : Nat) : Bool := n = kill || n = stop

end Signal

inductive Disposition where
  | default
  | ignored
  | caught
  deriving DecidableEq

end TreePipeline.Host
