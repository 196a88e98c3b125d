import TreePipeline.Stage.Result
import TreePipeline.Tools.Launching

/-! Small programs that wait: for a while, or for another program, but not for too long. -/

namespace TreePipeline.Tools

open Shell Host

def nanos? (cs : Chars) : Option Nat :=
  let (body, unit) := match cs.getLast? with
    | some 's' => (cs.dropLast, 1)
    | some 'm' => (cs.dropLast, 60)
    | some 'h' => (cs.dropLast, 3600)
    | some 'd' => (cs.dropLast, 86400)
    | _ => (cs, 1)
  let body := if body.head? = some '+' then body.drop 1 else body
  if body = "inf".toList ∨ body = "infinity".toList then some foreverNanos
  else
    let mantissa := body.takeWhile fun c => c ≠ 'e' ∧ c ≠ 'E'
    let whole := mantissa.takeWhile (· ≠ '.')
    let part := mantissa.drop (whole.length + 1)
    let shift? : Option Int := match body.drop mantissa.length with
      | [] => some 0
      | _ :: '-' :: ds => (number? ds).map fun n => -(n : Int)
      | _ :: '+' :: ds => (number? ds).map fun n => (n : Int)
      | _ :: ds => (number? ds).map fun n => (n : Int)
    match number? (whole ++ part), shift? with
    | some n, some shift => some (min foreverNanos (scaled (n * unit) (shift + 9 - part.length)))
    | _, _ => none
where
  foreverNanos : Nat := 1000000000 * 1000000000
  scaled (n : Nat) (shift : Int) : Nat :=
    let power := Nat.pow 10 (min shift.natAbs 40)
    if 0 ≤ shift then n * power else (n + power - 1) / power

def sleep : Tool := fun tool args _ =>
  withTable tool "" args fun _ args => do
    let bad := args.filter fun a => (nanos? a).isNone
    for a in bad do
      complain tool ("invalid time interval ".toList ++ inQuotes a)
    if !bad.isEmpty then pointToHelp 1 tool
    else if args.isEmpty then misuse tool "missing operand".toList
    else
      let _ ← Act.call (.sleep ((args.filterMap nanos?).foldl Nat.add 0))
      return 0

namespace TimeLimit

def misuseStatus : Nat := 125

def expiredStatus : Nat := 124

structure Watch where
  command : Chars
  signal : Nat
  foreground : Bool
  verbose : Bool
  keepStatus : Bool

def send (goal : Int) (signal : Nat) : Act Unit := do
  if goal = 0 then
    let _ ← Act.call (.dispose signal .ignored)
  let _ ← Act.call (.kill goal signal)

def stopAll (tool : String) (w : Watch) (pid : Nat) (signal : Nat) : Act Unit := do
  if w.verbose then
    complain tool ("sending signal ".toList ++ (Signal.names.getD (signal - 1) "0").toList ++ " to command ".toList ++
      inQuotes w.command)
  send pid signal
  if !w.foreground then
    send 0 signal
    if signal ≠ Signal.kill ∧ signal ≠ Signal.continue_ then
      send pid Signal.continue_
      send 0 Signal.continue_

def endBy (signal : Nat) : Act Unit := do
  let _ ← Act.call (.dispose signal .default)
  match ← Act.call .processId with
  | .number own =>
    let _ ← Act.call (.kill own signal)
  | _ => pure ()

def settle (w : Watch) (expired : Bool) (status : UInt32) : Act Nat := do
  match WaitStatus.exitCode? status, WaitStatus.signal? status with
  | some n, _ => return if expired ∧ !w.keepStatus then expiredStatus else n
  | none, some signal =>
    if !expired then endBy signal
    return if expired ∧ !w.keepStatus ∧ signal ≠ Signal.kill then expiredStatus else signal + 128
  | none, none => return misuseStatus

def watch (tool : String) (w : Watch) (pid : Nat) : (fuel : Nat) → (alarm : Option Int) →
    (insist : Option Nat) → (signal : Nat) → (expired : Bool) → Act Nat
  | 0, _, _, _, _ => return misuseStatus
  | fuel + 1, alarm, insist, signal, expired => do
    let reply ← match alarm with
      | some t => Act.call (.waitUntil pid t)
      | none => Act.call (.waitFor pid true)
    match reply with
    | .number n => settle w expired n.toNat.toUInt32
    | .failed _ => return misuseStatus
    | other =>
      let caught ← match other with
        | .interrupted =>
          match ← Act.call .takeSignals with
          | .signals ss => pure ss.head?
          | _ => pure none
        | _ => pure (some signal)
      let isOver := match other with
        | .interrupted => expired
        | _ => true
      let alarm := match other with
        | .interrupted => alarm
        | _ => none
      match caught with
      | none => watch tool w pid fuel alarm insist signal isOver
      | some s =>
        let (alarm, later) ← match insist with
          | none => pure (alarm, signal)
          | some n =>
            match ← Act.call .now with
            | .number t => pure (some (t + (n : Int)), Signal.kill)
            | _ => pure (alarm, signal)
        stopAll tool w pid s
        watch tool w pid fuel alarm none later isOver

end TimeLimit

open TimeLimit in
def timeout : Tool := fun tool args env =>
  withTableElse misuseStatus false tool "k,kill-after= s,signal= v,verbose foreground preserve-status" args
    fun os words => do
      let badTime (v : Chars) : Act Nat := misuseWith misuseStatus tool ("invalid time interval ".toList ++ inQuotes v)
      let signal := (os.value? "s").map fun v => (v, ((number? v).filter (· ≤ Signal.last)).or (Signal.ofLongName? (String.ofList v)))
      match (os.values "k").find? fun v => (nanos? v).isNone, signal with
      | some v, _ => badTime v
      | none, some (v, none) => misuseWith misuseStatus tool (inQuotes v ++ ": invalid signal".toList)
      | none, _ =>
        match words with
        | [] => pointToHelp misuseStatus tool
        | [_] => pointToHelp misuseStatus tool
        | time :: command =>
          match nanos? time with
          | none => badTime time
          | some limit =>
            let signal := (signal.bind Prod.snd).getD Signal.terminate
            let w : TimeLimit.Watch :=
              { command := command.headD [], signal := signal, foreground := os.has "foreground"
                verbose := os.has "v", keepStatus := os.has "preserve-status" }
            if !w.foreground then
              let _ ← Act.call .newGroup
            for s in [1, 2, 3, Signal.terminate, signal] do
              let _ ← Act.call (.dispose s .caught)
            let pid ← Act.fork (becomeNamed tool (fun n => "failed to run command ".toList ++ inQuotes n) command env).run
            let alarm ← match limit, ← Act.call .now with
              | 0, _ => pure none
              | n, .number t => pure (some (t + (n : Int)))
              | _, _ => pure none
            let insist := match (os.value? "k").bind nanos? with
              | some 0 => none
              | other => other
            watch tool w pid 1000000 alarm insist signal false

end TreePipeline.Tools
