import TreePipeline.Stage.Result
import TreePipeline.Tools.Basic

/-! How small programs run other programs: to wait for their end, to read what they print, or to
write what they read. -/

namespace TreePipeline.Tools

open Shell Host

def shellPath : Octets := Octets.ofAscii "/bin/sh"

def becomeShell (command : Chars) (env : Env) : Act Nat := do
  let _ ← Act.execute shellPath [Octets.ofAscii "sh", Octets.ofAscii "-c", toOctets command] env
  return 127

def awaitEnd (pid : Nat) : Act UInt32 := do
  match ← Act.call (.waitFor pid false) with
  | .number n => return n.toNat.toUInt32
  | _ => return 0

def runApart (child : Act Nat) : Act UInt32 := do
  let pid ← Act.fork child.run
  awaitEnd pid

def runShell (command : Chars) (env : Env) : Act UInt32 := runApart (becomeShell command env)

def startPiped (feeding : Bool) (child : Act Nat) : Act (Option (Nat × Nat)) := do
  match ← Act.call .makePipe with
  | .pair input output =>
    let (mine, other, standard) := if feeding then (output, input, 0) else (input, output, 1)
    let pid ← Act.fork (do
      Act.close mine
      let _ ← Act.call (.duplicate other standard)
      if other ≠ standard then Act.close other
      child : Act Nat).run
    Act.close other
    return some (mine, pid)
  | _ => return none

def captured (child : Act Nat) : Act (Octets × UInt32) := do
  match ← startPiped false child with
  | none => return ([], 0)
  | some (fd, pid) =>
    let text ← Act.readAll fd maxReads []
    Act.close fd
    let status ← awaitEnd pid
    return (text.toOption.getD [], status)

end TreePipeline.Tools
