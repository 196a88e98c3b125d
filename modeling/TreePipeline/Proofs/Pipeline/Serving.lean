import TreePipeline.Proofs.Pipeline.Progress
import TreePipeline.Proofs.Store.Resolution
import TreePipeline.Proofs.Supervision.History
import TreePipeline.Report

/-! What a success promises to those who ask for the artifacts. A run declares success on what stands
at the end of a path; serving asks besides whether that lies in the store. -/

namespace TreePipeline

open FileSystem

variable {σ : Type}

lemma Machine.runner_observes (m : Machine σ) (probe : DisplayProbe) : (m.runner probe).Observes := by
  intro i fs state result h
  obtain ⟨hit, status, -, -, hexists⟩ := Supervisor.eq_of_conclude (conclude_of_answer h)
  exact hexists

namespace Store

variable {store : Store} {fs : FileSystem} {r : Reference} {l : Location}

lemma resolve_eq_ok_iff_isFile (hfs : fs.IsOrdered)
    (hlen : (store.derive r.base r.role).length < pathLimit) :
    store.resolve fs r = .ok l ↔
      fs.canonicalize (store.derive r.base r.role) = .ok l ∧
        fs.isFile (store.derive r.base r.role) = true ∧
        ∃ root, fs.canonicalize store.root = .ok root ∧ root <+: l := by
  rw [resolve_eq_ok_iff hfs, ← canonicalize_eq_ok_iff]
  refine and_congr_right fun hcanon => ?_
  rw [isFile_iff_of_reaches ((canonicalize_eq_ok_iff.mp hcanon).reaches hlen)]
  simp only [Holds, canonicalize_eq_ok_iff]

end Store

namespace Pipeline

/-- A success names the mesh and the image of one identifier, both as paths and as references; each
was a file when its stage ended, and the image is one still. A reference is served, under the
canonical form of its path, just when the path leads to a file still and that form lies in the
store. -/
theorem success_served_iff {c : Config} {fs : FileSystem} {p : Pipeline} {m : Machine σ}
    {probe : DisplayProbe} {draw : Nat → BaseId} {submission : String} {w w' : World σ}
    {o : Outcome} {log : List LogEntry} (hp : (openWith c fs).1 = .ok p)
    (hrun : p.run (m.runner probe) draw submission w = (some o, log, w'))
    (ho : o.success = true) (hfs : w'.files.IsOrdered) :
    ∃ base mesh image, mesh = p.store.derive base .mesh ∧ image = p.store.derive base .image ∧
      o.mesh = some mesh ∧ o.image = some image ∧
      (∀ now, (Report.ofOutcome o now).meshRef = some (.mesh base) ∧
        (Report.ofOutcome o now).imageRef = some (.image base)) ∧
      (∃ k r w₁, p.steps (m.runner probe) draw submission k (Run.start w.files) w = (r, w₁) ∧
        r.phase = .rendering (p.store.setOf base) ∧ w₁.files.isFile mesh = true) ∧
      w'.files.isFile image = true ∧
      (∀ l, p.store.resolve w'.files (.mesh base) = .ok l ↔
        w'.files.canonicalize mesh = .ok l ∧ w'.files.isFile mesh = true ∧
          ∃ root, w'.files.canonicalize p.store.root = .ok root ∧ root <+: l) ∧
      (∀ l, p.store.resolve w'.files (.image base) = .ok l ↔
        w'.files.canonicalize image = .ok l ∧
          ∃ root, w'.files.canonicalize p.store.root = .ok root ∧ root <+: l) := by
  obtain ⟨base, elapsed, rfl, himage, k, r, w₁, hsteps, hphase, hmesh⟩ :=
    run_succeeded (isStaged_of_openWith hp) (m.runner_observes probe) hrun ho
  refine ⟨base, p.store.derive base .mesh, p.store.derive base .image, rfl, rfl, rfl, rfl,
    fun _ => ⟨rfl, rfl⟩, ⟨k, r, w₁, hsteps, hphase, hmesh⟩, himage, fun l => ?_, fun l => ?_⟩
  · exact Store.resolve_eq_ok_iff_isFile (r := .mesh base) hfs (length_lt_of_isFile hmesh)
  · rw [Store.resolve_eq_ok_iff_isFile (r := .image base) hfs (length_lt_of_isFile himage)]
    exact and_congr_right fun _ => and_iff_right himage

/-- A machine on which a tool does all it does at its launch, then ends so and closes its pipes. -/
def finishing (tool : Invocation → FileSystem → FileSystem) (status : UInt32) : Machine Nat :=
  .playing tool [.leaderExited, .reaped (.ok status), .closed .out, .closed .err] fun _ => rfl

def prompt (tool : Invocation → FileSystem → FileSystem) : Machine Nat := finishing tool 0

def writing (i : Invocation) (fs : FileSystem) : FileSystem :=
  (fs.writeFile i.expectedOutput []).toOption.getD fs

/-- A tool that writes its output and, to render, takes its input away. -/
def consuming (i : Invocation) (fs : FileSystem) : FileSystem :=
  if i.stageName = Stage.render.name then
    ((i.args.head?.map (writing i fs).removeFile).bind Except.toOption).getD fs
  else writing i fs

def secret : Octets := Octets.ofAscii "/x"

/-- A tool that writes its output, but to render puts a link there that leads elsewhere. -/
def leading (i : Invocation) (fs : FileSystem) : FileSystem :=
  if i.stageName = Stage.render.name then (fs.makeLink secret i.expectedOutput).toOption.getD fs
  else writing i fs

def exampleConfig : Config := .standard "/s"

def exampleTree : FileSystem :=
  Store.treeOf [([Octets.ofAscii "s"], .directory), (Path.names secret, .file [] 0o600 0)]

def examplePipeline : Pipeline where
  store := Store.exampleStore
  build := {
    stage := .build, program := "meshpro", cpuLimitSecs := 15, wallLimitSecs := 45,
    captureLimit := 65536, iterations := none, display := none }
  render := {
    stage := .render, program := "meshview", cpuLimitSecs := 15, wallLimitSecs := 45,
    captureLimit := 65536, iterations := none, display := some ":1" }

def exampleOutcome : Outcome := .succeeded (Store.exampleStore.setOf default) .zero

def exampleRun (tool : Invocation → FileSystem → FileSystem) :
    Option Outcome × List LogEntry × World Nat :=
  examplePipeline.run ((prompt tool).runner .skip) (fun _ => default) "" ⟨exampleTree, 0⟩

theorem success_served_writing : ∃ base,
    (∃ l, Store.exampleStore.resolve (exampleRun writing).2.2.files (.mesh base) = .ok l) ∧
      ∃ l, Store.exampleStore.resolve (exampleRun writing).2.2.files (.image base) = .ok l := by
  let files := (exampleRun writing).2.2.files
  let mesh := Store.exampleStore.derive default .mesh
  let image := Store.exampleStore.derive default .image
  have hopen : (openWith exampleConfig exampleTree).1 = .ok examplePipeline := by decide +kernel
  have ho : (exampleRun writing).1 = some exampleOutcome := by decide +kernel
  have hrun : exampleRun writing =
      (some exampleOutcome, (exampleRun writing).2.1, (exampleRun writing).2.2) := by rw [← ho]
  have hfs : files.IsOrdered := isOrdered_of_entries (by decide +kernel)
  have hplaces : files.canonicalize Store.exampleStore.root = .ok [Octets.ofAscii "s"] ∧
      files.canonicalize mesh = .ok (Store.inStore (ArtifactName.ofRole default .mesh)) ∧
      files.isFile mesh = true ∧
      files.canonicalize image = .ok (Store.inStore (ArtifactName.ofRole default .image)) := by
    decide +kernel
  obtain ⟨hroot, hmesh, hfile, himage⟩ := hplaces
  obtain ⟨base, _, _, -, -, hm, hi, -, -, -, hservedMesh, hservedImage⟩ :=
    success_served_iff hopen hrun rfl hfs
  obtain rfl := Option.some.inj hm
  obtain rfl := Option.some.inj hi
  exact ⟨base, ⟨_, (hservedMesh _).mpr ⟨hmesh, hfile, _, hroot, List.prefix_append _ _⟩⟩,
    ⟨_, (hservedImage _).mpr ⟨himage, _, hroot, List.prefix_append _ _⟩⟩⟩

/-- A success does not keep its mesh from being taken away, nor its image from lying elsewhere. -/
theorem success_not_served :
    (openWith exampleConfig exampleTree).1 = .ok examplePipeline ∧
      (∀ now, (Report.ofOutcome exampleOutcome now).meshRef = some (.mesh default) ∧
        (Report.ofOutcome exampleOutcome now).imageRef = some (.image default)) ∧
      ((exampleRun consuming).1 = some exampleOutcome ∧
        Store.exampleStore.resolve (exampleRun consuming).2.2.files (.mesh default) =
          .error (.notFound (Reference.mesh default).text)) ∧
      (exampleRun leading).1 = some exampleOutcome ∧
      Store.exampleStore.resolve (exampleRun leading).2.2.files (.image default) =
        .error (.outsideNamespace secret) := by
  refine ⟨by decide +kernel, fun _ => ⟨rfl, rfl⟩, ⟨?_, ?_⟩, ?_, ?_⟩ <;> decide +kernel

end Pipeline

end TreePipeline
