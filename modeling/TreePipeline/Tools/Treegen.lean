import TreePipeline.Artifact.Identifier
import TreePipeline.Commands.Run
import TreePipeline.Tools.Basic

/-!
The program itself, as tools may run it. A purge takes its steps one by one, so that others who work in
the directory meanwhile get in between; all else is done at once.
-/

namespace TreePipeline.Tools

open Shell Host

def innerSession (env : Env) : Session (List Invocation) where
  environment? name := (env.lookup (Utf8.encode name)).bind Utf8.decode?
  input := .ok []
  draw := BaseId.candidate 0
  executor _ := .scripted [(Stage.build.name, .launchFailure)]

def operate {α : Type} (otherwise : α) (operation : FileSystem → α × FileSystem) : Act α := do
  match ← Act.call (.files fun fs => (.tree fs, (operation fs).2)) with
  | .tree fs => return (operation fs).1
  | _ => return otherwise

def sweep (store : Store) (order : Store.PurgeOrder) : (fuel : Nat) → Store.Sweep → Act Store.Sweep
  | 0, s => return s
  | fuel + 1, s => do
    if s.result?.isSome then return s
    sweep store order fuel (← operate s fun fs => store.sweepStep order fs s)

def opening (root : Octets) (fs : FileSystem) : (Except ArtifactError Store × Int) × FileSystem :=
  match Store.openAt fs root with
  | .error e => ((.error e, fs.clock), fs)
  | .ok (store, fs) => ((.ok store, fs.clock), fs)

def purge (c : Config) (olderThan : UInt64) : Act (Ending × Int) := do
  let root := Utf8.encode c.artifactDir
  match ← operate (.ok ⟨root⟩, 0) (opening root) with
  | (.error e, clock) => return (.failed (.ofArtifact e), clock)
  | (.ok store, clock) =>
    let s ← sweep store ⟨clock, .ofSecs olderThan⟩ maxReads .listing
    return (Commands.purged store (s.result?.getD (.ok 0)), clock)

def treegen : Tool := fun _ args env => do
  let s := innerSession env
  let words := args.map fun a => Utf8.decodeLossy (toOctets a)
  let atOnce := operate (1, "", "") fun fs =>
    let (printed, w) := Commands.run s words ⟨fs, []⟩
    (printed, w.files)
  let (code, output, complaint) ← match CommandLine.read words with
    | .error _ => atOnce
    | .ok r =>
      match r.command, Commands.loadSettings s r.overrides with
      | .purge olderThan, .ok c => do
        let (e, clock) ← purge c olderThan
        pure (Commands.present s r e clock)
      | _, _ => atOnce
  let _ ← Act.write 1 (Utf8.encode output)
  let _ ← Act.write 2 (Utf8.encode complaint)
  return code

end TreePipeline.Tools
