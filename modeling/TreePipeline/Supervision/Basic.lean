import TreePipeline.Stage.Capture
import TreePipeline.Stage.Invocation
import TreePipeline.Stage.Result

/-!
Supervising one tool. The supervisor reacts to what it observes: that the leader of the tool's
process group has exited, that the deadline has passed, what the leader's wait status was, and what
comes through the two output pipes. Whichever of exit and deadline it sees first decides; then the
whole group is killed while the leader is not reaped yet, and the leader is reaped after that. Pipes
that are still open then get a grace before they are abandoned.
-/

namespace TreePipeline

/-- The CPU limits put on a tool: it is warned at the soft one and killed at the hard one. -/
structure CpuCeiling where
  soft : UInt64
  hard : UInt64
  deriving DecidableEq

namespace CpuCeiling

/-- Whole seconds of the limit, at least one, and one second more, if a word of 64 bits can hold
them. -/
def ofLimit? (limit : Duration) : Option CpuCeiling :=
  let soft := max limit.secs 1
  if soft = 0xffffffffffffffff then none else some ⟨soft, soft + 1⟩

end CpuCeiling

inductive Stream where
  | out
  | err
  deriving DecidableEq

inductive Observation where
  | leaderExited
  | deadlineExpired
  | reaped (result : Except SystemError UInt32)
  | received (stream : Stream) (octets : Octets)
  | closed (stream : Stream)
  | readFailed (stream : Stream) (cause : SystemError)
  | graceExpired

inductive Action where
  | warnDeadline
  | killGroup
  | reap
  | startGrace
  deriving DecidableEq

inductive Channel where
  | reading (kept : Capture.Kept)
  | ended (kept : Capture.Kept)
  | failed (cause : SystemError)
  deriving DecidableEq

namespace Channel

def isOpen : Channel → Bool
  | .reading _ => true
  | _ => false

def receive (limit : Nat) (octets : Octets) : Channel → Channel
  | .reading k => .reading (k.add limit octets)
  | c => c

def close : Channel → Channel
  | .reading k => .ended k
  | c => c

def fail (cause : SystemError) : Channel → Channel
  | .reading _ => .failed cause
  | c => c

end Channel

inductive Watch where
  | waiting
  | reaping (deadlineHit : Bool)
  | reaped (deadlineHit : Bool) (result : Except SystemError UInt32)

structure Supervisor where
  limit : Nat
  watch : Watch
  out : Channel
  err : Channel
  abandoned : Bool

namespace Supervisor

def start (limit : Nat) : Supervisor :=
  ⟨limit, .waiting, .reading .empty, .reading .empty, false⟩

def isDrained (s : Supervisor) : Bool := !s.out.isOpen && !s.err.isOpen

def isReaped (s : Supervisor) : Bool :=
  match s.watch with
  | .reaped _ _ => true
  | _ => false

def isFinished (s : Supervisor) : Bool := s.isReaped && (s.isDrained || s.abandoned)

def onChannel (s : Supervisor) (stream : Stream) (f : Channel → Channel) : Supervisor :=
  match stream with
  | .out => { s with out := f s.out }
  | .err => { s with err := f s.err }

def step (s : Supervisor) : Observation → Supervisor × List Action
  | .leaderExited =>
    match s.watch with
    | .waiting => ({ s with watch := .reaping false }, [.killGroup, .reap])
    | _ => (s, [])
  | .deadlineExpired =>
    match s.watch with
    | .waiting => ({ s with watch := .reaping true }, [.warnDeadline, .killGroup, .reap])
    | _ => (s, [])
  | .reaped result =>
    match s.watch with
    | .reaping hit =>
      ({ s with watch := .reaped hit result }, if s.isDrained then [] else [.startGrace])
    | _ => (s, [])
  | .received stream octets => (s.onChannel stream (Channel.receive s.limit octets), [])
  | .closed stream => (s.onChannel stream Channel.close, [])
  | .readFailed stream cause => (s.onChannel stream (Channel.fail cause), [])
  | .graceExpired =>
    if s.isReaped && !s.isDrained then ({ s with abandoned := true }, []) else (s, [])

theorem isFinished_of_closing (s : Supervisor) (result : Except SystemError UInt32) :
    ((((s.step .deadlineExpired).1.step (.reaped result)).1).step .graceExpired).1.isFinished := by
  have hreaped : ((s.step .deadlineExpired).1.step (.reaped result)).1.isReaped = true := by
    obtain ⟨_, w, _, _, _⟩ := s
    cases w <;> rfl
  generalize ((s.step .deadlineExpired).1.step (.reaped result)).1 = t at hreaped
  cases hdrained : t.isDrained with
  | true => simp [step, isFinished, hreaped, hdrained]
  | false =>
    simp only [step, hreaped, hdrained, isFinished, Bool.not_false, Bool.and_self, if_pos,
      Bool.or_true, Bool.and_true]
    exact hreaped

def captured (s : Supervisor) : Except SystemError (Capture.Kept × Capture.Kept) :=
  match s.out, s.err with
  | .ended out, .ended err => .ok (out, err)
  | .failed e, .ended _ => .error e
  | .failed e, .failed _ => .error e
  | .ended _, .failed e => .error e
  | _, _ => .ok (⟨[], true⟩, ⟨[], true⟩)

def abandonsPipes (s : Supervisor) : Bool :=
  match s.watch with
  | .reaped _ (.ok _) => s.abandoned
  | _ => false

/-- What comes of a tool that was reaped. An error in reaping goes before those in reading. -/
def answer (s : Supervisor) (hit : Bool) (reaped : Except SystemError UInt32)
    (invocation : Invocation) (elapsed : Duration) (artifactExists : Bool) :
    Except StageError StageResult :=
  match reaped with
  | .ok status =>
    match s.captured with
    | .error e => .error (.system e)
    | .ok (out, err) =>
      let (output, cut) := Capture.combine out.octets err.octets s.limit
      .ok {
        stageName := invocation.stageName
        exit := if hit then .timeoutKilled else classify status invocation.cpuLimit elapsed
        output := output
        truncated := out.truncated || err.truncated || cut
        durationMillis := elapsed.millis
        artifactExists := artifactExists }
  | .error e => .error (.system e)

/-- The answer, once the supervisor has finished. -/
def conclude (s : Supervisor) (invocation : Invocation) (elapsed : Duration)
    (artifactExists : Bool) : Option (Except StageError StageResult) :=
  match s.watch with
  | .reaped hit reaped =>
    if s.isDrained || s.abandoned then
      some (s.answer hit reaped invocation elapsed artifactExists)
    else none
  | _ => none

theorem isSome_conclude {s : Supervisor} (h : s.isFinished = true) (invocation : Invocation)
    (elapsed : Duration) (artifactExists : Bool) :
    (s.conclude invocation elapsed artifactExists).isSome = true := by
  obtain ⟨limit, watch, out, err, abandoned⟩ := s
  cases watch with
  | waiting | reaping => cases h
  | reaped hit reaped => simpa [conclude, isFinished, isReaped] using h

end Supervisor

end TreePipeline
