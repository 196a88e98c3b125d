import TreePipeline.Proofs.Files.Names
import TreePipeline.Proofs.Pipeline.Calls
import TreePipeline.Proofs.Pipeline.Serving
import TreePipeline.Stage.Display

/-! Which displays can be reached, and what becomes of a stage whose display cannot be. A display name has a
number between its last colon and the next dot, and of a local one just the socket of that number is
looked for, directly in the directory of sockets. A stage whose display is not there is refused before
anything is done for it, and so the run fails at its render stage and leaves everything as the build
stage left it. -/

namespace TreePipeline

variable {σ : Type}

namespace DisplayProbe

variable {cs p q host number : List Char} {display : String} {directory : Octets}
  {fs fs' : FileSystem} {c : Char}

/-! Display names -/

/-- Behind the last colon stands the number, and behind that nothing or a dot and whatever follows it. -/
def IsNamed (display : String) (host number : List Char) : Prop :=
  ∃ screen, display.toList = host ++ ':' :: (number ++ screen) ∧ ':' ∉ number ++ screen ∧
    (screen = [] ∨ ∃ rest, screen = '.' :: rest) ∧ number ≠ [] ∧ ∀ c ∈ number, c.isDigit = true

lemma isDigit_eq (c : Char) : isDigit c = c.isDigit := by
  simp [isDigit, Char.isDigit, Char.le_def]

lemma cutAtLastColon_eq_none (hcs : ':' ∉ cs) : cutAtLastColon cs = none := by
  induction cs with
  | nil => rfl
  | cons c cs ih =>
    simp only [List.mem_cons, not_or] at hcs
    simp [cutAtLastColon, ih hcs.2, Ne.symm hcs.1]

lemma cutAtLastColon_append (p : List Char) (hq : ':' ∉ q) :
    cutAtLastColon (p ++ ':' :: q) = some (p, q) := by
  induction p with
  | nil => simp [cutAtLastColon, cutAtLastColon_eq_none hq]
  | cons c p ih => simp [cutAtLastColon, ih]

lemma cutAtLastColon_eq_some_iff : cutAtLastColon cs = some (p, q) ↔ cs = p ++ ':' :: q ∧ ':' ∉ q := by
  constructor
  · intro h
    by_cases hcs : ':' ∈ cs
    · -- there is a last colon, and it is there that the text is cut
      obtain ⟨q', p', hsplit, hq'⟩ := List.eq_append_cons_of_mem (List.mem_reverse.mpr hcs)
      have hcut : cs = p'.reverse ++ ':' :: q'.reverse := by
        rw [← List.reverse_reverse cs, hsplit]
        simp
      rw [hcut, cutAtLastColon_append _ (by simpa using hq')] at h
      obtain ⟨rfl, rfl⟩ := Prod.mk.inj (Option.some.inj h)
      exact ⟨hcut, by simpa using hq'⟩
    · rw [cutAtLastColon_eq_none hcs] at h
      cases h
  · rintro ⟨rfl, hq⟩
    exact cutAtLastColon_append p hq

lemma ne_dot_of_isDigit (h : c.isDigit = true) : c ≠ '.' := by
  rintro rfl
  cases h

lemma takeWhile_of_digits {screen : List Char} (hnumber : ∀ c ∈ number, c.isDigit = true)
    (hscreen : screen = [] ∨ ∃ rest, screen = '.' :: rest) :
    (number ++ screen).takeWhile (fun c => c ≠ '.') = number := by
  have hdots : ∀ c ∈ number, decide (c ≠ '.') = true := fun c hc =>
    decide_eq_true (ne_dot_of_isDigit (hnumber c hc))
  rw [List.takeWhile_append_of_pos hdots]
  rcases hscreen with rfl | ⟨rest, rfl⟩ <;> simp

lemma dropWhile_starts (cs : List Char) : cs.dropWhile (fun c => c ≠ '.') = [] ∨
    ∃ rest, cs.dropWhile (fun c => c ≠ '.') = '.' :: rest := by
  cases h : cs.dropWhile (fun c => c ≠ '.') with
  | nil => exact Or.inl rfl
  | cons c rest =>
    have hne : cs.dropWhile (fun c => decide (c ≠ '.')) ≠ [] := h ▸ List.cons_ne_nil c rest
    have hhead := List.head_dropWhile_not (fun c => decide (c ≠ '.')) hne
    simp only [h, List.head_cons, decide_eq_false_iff_not, not_not] at hhead
    exact Or.inr ⟨rest, by rw [hhead]⟩

lemma parse?_eq_some_iff : parse? display = some (host, number) ↔ IsNamed display host number := by
  have hparts : parse? display = some (host, number) ↔ ∃ rest,
      (display.toList = host ++ ':' :: rest ∧ ':' ∉ rest) ∧
        rest.takeWhile (fun c => c ≠ '.') = number ∧ number ≠ [] ∧ ∀ c ∈ number, c.isDigit = true := by
    simp only [parse?, bind, Option.bind_eq_some_iff, Prod.exists, cutAtLastColon_eq_some_iff,
      Option.ite_none_left_eq_some, Option.some.injEq, Prod.mk.injEq, Bool.or_eq_true,
      List.isEmpty_iff, Bool.not_eq_true', not_or, isDigit_eq, Bool.not_eq_false, List.all_eq_true]
    constructor
    · rintro ⟨_, rest, hcut, ⟨hne, hdigits⟩, rfl, rfl⟩
      exact ⟨rest, hcut, rfl, hne, hdigits⟩
    · rintro ⟨rest, hcut, rfl, hne, hdigits⟩
      exact ⟨host, rest, hcut, ⟨hne, hdigits⟩, rfl, rfl⟩
  rw [hparts]
  constructor
  · rintro ⟨rest, hcut, rfl, hne, hdigits⟩
    refine ⟨rest.dropWhile (fun c => c ≠ '.'), ?_, ?_, dropWhile_starts rest, hne, hdigits⟩
    · rw [List.takeWhile_append_dropWhile]
      exact hcut.1
    · rw [List.takeWhile_append_dropWhile]
      exact hcut.2
  · rintro ⟨screen, hdisplay, hcolon, hscreen, hne, hdigits⟩
    exact ⟨_, ⟨hdisplay, hcolon⟩, takeWhile_of_digits hdigits hscreen, hne, hdigits⟩

/-! Sockets -/

def socketName (number : List Char) : Octets := Octets.ofAscii (String.ofList ('X' :: number))

lemma mem_socketName {b : UInt8} (hnumber : ∀ c ∈ number, c.isDigit = true)
    (hb : b ∈ socketName number) : b = 0x58 ∨ 0x30 ≤ b := by
  simp only [socketName, Octets.ofAscii, String.toList_ofList, List.map_cons, List.mem_cons,
    List.mem_map] at hb
  rcases hb with rfl | ⟨c, hc, rfl⟩
  · exact Or.inl rfl
  · have hdigit : 0x30 ≤ c.toNat ∧ c.toNat ≤ 0x39 := by
      simpa [Char.isDigit, UInt32.le_iff_toNat_le] using hnumber c hc
    refine Or.inr (UInt8.le_iff_toNat_le.mpr ?_)
    rw [Nat.toUInt8_eq, UInt8.toNat_ofNat', Nat.mod_eq_of_lt (by omega)]
    exact hdigit.1

lemma isEntryName_socketName (hnumber : ∀ c ∈ number, c.isDigit = true) :
    Path.IsEntryName (socketName number) := by
  have hhead : (socketName number).head? = some 0x58 := by
    simp [socketName, Octets.ofAscii]
  constructor
  · intro h
    rw [h] at hhead
    cases hhead
  · intro h
    rw [h] at hhead
    revert hhead
    decide
  · intro h
    rw [h] at hhead
    revert hhead
    decide
  · intro h
    have hb := mem_socketName hnumber h
    revert hb
    decide
  · intro h
    have hb := mem_socketName hnumber h
    revert hb
    decide

lemma components_socketPath (directory : Octets) (hnumber : ∀ c ∈ number, c.isDigit = true) :
    Path.components (socketPath directory number) = Path.components directory ++ [socketName number] :=
  Path.components_join directory (isEntryName_socketName hnumber)

/-! The check -/

lemma isLocal_eq_false_iff : isLocal host = false ↔ host ≠ [] ∧ host ≠ "unix".toList := by
  simp [isLocal]

lemma isAvailableIn_iff : isAvailableIn fs directory display = true ↔
    ∃ host number, IsNamed display host number ∧ ((host ≠ [] ∧ host ≠ "unix".toList) ∨
      fs.pathExists (socketPath directory number) = true) := by
  simp only [← parse?_eq_some_iff, ← isLocal_eq_false_iff]
  unfold isAvailableIn
  cases parse? display with
  | none => simp
  | some name => simp [Prod.ext_iff]

lemma check_eq_ok_iff : check (.socketDirectory directory) fs display = .ok () ↔
    ∃ host number, IsNamed display host number ∧ ((host ≠ [] ∧ host ≠ "unix".toList) ∨
      fs.pathExists (socketPath directory number) = true) := by
  rw [← isAvailableIn_iff, check, probeIn]
  cases isAvailableIn fs directory display <;> simp

lemma check_eq_error {probe : DisplayProbe} (h : probe.check fs display ≠ .ok ()) :
    probe.check fs display = .error (.displayUnavailable display) := by
  cases probe with
  | skip => exact absurd rfl h
  | socketDirectory directory =>
    simp only [check, probeIn] at h ⊢
    split at h
    · exact absurd rfl h
    · rename_i hunavailable
      rw [if_neg hunavailable]

lemma check_congr (h : ∀ host number, IsNamed display host number →
      fs.pathExists (socketPath directory number) = fs'.pathExists (socketPath directory number)) :
    check (.socketDirectory directory) fs display =
      check (.socketDirectory directory) fs' display := by
  have havailable : isAvailableIn fs directory display = isAvailableIn fs' directory display := by
    unfold isAvailableIn
    cases hname : parse? display with
    | none => rfl
    | some name => exact congrArg (!isLocal name.1 || ·) (h _ _ (parse?_eq_some_iff.mp hname))
  simp only [check, probeIn, havailable]

end DisplayProbe

/-! Stages -/

namespace Machine

variable {m : Machine σ} {probe : DisplayProbe} {i : Invocation} {fs : FileSystem} {display : String}

lemma executeStage_of_check (m : Machine σ) (state : σ) (hi : i.display = some display)
    (hcheck : probe.check fs display ≠ .ok ()) :
    m.executeStage probe i fs state = ⟨.error (.displayUnavailable display), fs, state, []⟩ := by
  refine executeStage_of_display ?_
  rw [displayCheck, hi]
  exact DisplayProbe.check_eq_error hcheck

end Machine

namespace Pipeline

variable {c : Config} {fs fs' : FileSystem} {p : Pipeline} {m : Machine σ} {probe : DisplayProbe}
  {draw : Nat → BaseId} {submission : String} {w : World σ} {set : ArtifactSet} {s : StageConfig}

lemma display_of_render? (h : StageConfig.render? c = some s) : s.display = some c.display := by
  obtain ⟨_, _, h⟩ := Option.bind_eq_some_iff.mp h
  cases h
  rfl

lemma run_of_unrendered {executor : Executor σ} {built rendered : Execution σ} {kind : FailureKind}
    (hprepared : p.Prepares draw submission w.files fs set)
    (hbuilt : executor.execute (p.build.invocation set) fs w.state = built)
    (hbuild : stageFailure built.answer = none)
    (hrendered : executor.execute (p.render.invocation set) built.files built.state = rendered)
    (hrender : stageFailure rendered.answer = some kind) :
    ∃ elapsed log, p.run executor draw submission w =
      (some (.failed (some set.base) kind (some p.render.stage.name) elapsed), log, rendered.world) := by
  subst hbuilt hrendered
  obtain ⟨k, r₁, hk, hsteps, hphase⟩ := hprepared.steps executor
  obtain ⟨r₂, hr₂⟩ := runStage_passed (r := r₁) executor ⟨fs, w.state⟩ hbuild
  have hmiddle := steps_next hsteps ((step_building hphase).trans hr₂)
  obtain ⟨r₃, elapsed, hr₃, hphase₃⟩ := runStage_failed (r := { r₂ with phase := .rendering set })
    executor (executor.execute (p.build.invocation set) fs w.state).world hrender
  have hend := steps_next hmiddle ((step_rendering rfl).trans hr₃)
  exact ⟨elapsed, _, run_of_steps hend hphase₃ hk⟩

lemma run_of_check (hp : (openWith c fs').1 = .ok p)
    (hprepared : p.Prepares draw submission w.files fs set) {built : Execution σ}
    (hbuilt : m.executeStage probe (p.build.invocation set) fs w.state = built)
    (hbuild : stageFailure built.answer = none)
    (hcheck : probe.check built.files c.display ≠ .ok ()) :
    built.files.isFile set.mesh = true ∧ ∃ elapsed log,
      p.run (m.runner probe) draw submission w =
        (some (.failed (some set.base) .launch (some Stage.render.name) elapsed), log,
          built.world) := by
  subst hbuilt
  have hstaged := isStaged_of_openWith hp
  obtain ⟨result, hanswer, hexists⟩ := artifactExists_of_stageFailure hbuild
  have hmesh := m.runner_observes probe _ _ _ result hanswer
  change result.artifactExists =
    FileSystem.isFile _ (set.path p.build.stage.outputRole) at hmesh
  rw [hstaged.build, hexists] at hmesh
  refine ⟨hmesh.symm, ?_⟩
  have hdisplay : (p.render.invocation set).display = some c.display :=
    display_of_render? (stages_of_openWith hp).2
  have hrendered := m.executeStage_of_check
    (m.executeStage probe (p.build.invocation set) fs w.state).state hdisplay hcheck
  change (m.runner probe).execute _ _ _ = _ at hrendered
  obtain ⟨elapsed, log, hrun⟩ := run_of_unrendered hprepared rfl hbuild hrendered rfl
  rw [hstaged.render] at hrun
  exact ⟨elapsed, log, hrun⟩

open DisplayProbe in
/-- A display is taken to be there if its name has a number in it, and either it is one of another host
or the socket of that number is there. Nothing else is asked of the tree, and the path that is asked for
goes one name beyond the directory of sockets. A stage whose display is not there is refused by its name
and without any effect. In a run that is the render stage; the run fails there for want of a launch, and
the mesh stays where it is. -/
theorem display_gates_render (m : Machine σ) :
    (∀ fs directory display, check (.socketDirectory directory) fs display = .ok () ↔
      ∃ host number, IsNamed display host number ∧ ((host ≠ [] ∧ host ≠ "unix".toList) ∨
        fs.pathExists (socketPath directory number) = true)) ∧
    (∀ fs fs' directory display,
      (∀ host number, IsNamed display host number →
        fs.pathExists (socketPath directory number) =
          fs'.pathExists (socketPath directory number)) →
      check (.socketDirectory directory) fs display =
        check (.socketDirectory directory) fs' display) ∧
    (∀ directory display host number, IsNamed display host number →
      Path.IsEntryName (socketName number) ∧ Path.components (socketPath directory number) =
        Path.components directory ++ [socketName number]) ∧
    (∀ probe i fs state display, i.display = some display → check probe fs display ≠ .ok () →
      m.executeStage probe i fs state = ⟨.error (.displayUnavailable display), fs, state, []⟩) ∧
    ∀ (c : Config) (fs₀ : FileSystem) (p : Pipeline) (probe : DisplayProbe) (draw : Nat → BaseId)
      (submission : String) (w : World σ) (fs : FileSystem) (set : ArtifactSet),
      (openWith c fs₀).1 = .ok p → p.Prepares draw submission w.files fs set →
      let built := m.executeStage probe (p.build.invocation set) fs w.state
      stageFailure built.answer = none → check probe built.files c.display ≠ .ok () →
      built.files.isFile set.mesh = true ∧ ∃ elapsed log,
        p.run (m.runner probe) draw submission w =
          (some (.failed (some set.base) .launch (some Stage.render.name) elapsed), log,
            built.world) := by
  refine ⟨fun _ _ _ => check_eq_ok_iff, fun _ _ _ _ => check_congr, ?_, ?_, ?_⟩
  · rintro directory display host number ⟨screen, -, -, -, -, hdigits⟩
    exact ⟨isEntryName_socketName hdigits, components_socketPath directory hdigits⟩
  · intro probe i fs state display hi hcheck
    exact m.executeStage_of_check state hi hcheck
  · intro c fs₀ p probe draw submission w fs set hp hprepared built hbuild hcheck
    exact run_of_check hp hprepared rfl hbuild hcheck

lemma eq_ok_getD {ε α : Type} {x : Except ε α} (a : α) (h : x.toOption.isSome = true) :
    x = .ok (x.toOption.getD a) := by
  cases x with
  | error e => cases h
  | ok b => rfl

def preparedTree : FileSystem :=
  ((examplePipeline.store.allocate (fun _ => default) exampleTree).files.writeFile
    (Store.exampleStore.setOf default).source (Utf8.encode "F")).toOption.getD exampleTree

lemma prepares_preparedTree : examplePipeline.Prepares (fun _ => default) "F" exampleTree preparedTree
    (Store.exampleStore.setOf default) := by
  have halloc : (examplePipeline.store.allocate (fun _ => default) exampleTree).result =
      .ok (Store.exampleStore.setOf default) := by decide +kernel
  exact ⟨halloc, eq_ok_getD exampleTree (by decide +kernel)⟩

theorem display_gates_render_missing : ∃ elapsed log w',
    examplePipeline.run ((prompt writing).runner .standard) (fun _ => default) "F" ⟨exampleTree, 0⟩ =
      (some (.failed (some default) .launch (some Stage.render.name) elapsed), log, w') ∧
    w'.files.isFile (Store.exampleStore.derive default .mesh) = true := by
  have hp : (openWith exampleConfig exampleTree).1 = .ok examplePipeline := by decide +kernel
  have hbuild : stageFailure ((prompt writing).executeStage .standard
      (examplePipeline.build.invocation (Store.exampleStore.setOf default)) preparedTree 0).answer =
      none := by decide +kernel
  have hcheck : DisplayProbe.standard.check ((prompt writing).executeStage .standard
      (examplePipeline.build.invocation (Store.exampleStore.setOf default)) preparedTree 0).files
      exampleConfig.display ≠ .ok () := by decide +kernel
  obtain ⟨hmesh, elapsed, log, hrun⟩ := (display_gates_render (prompt writing)).2.2.2.2 exampleConfig
    exampleTree examplePipeline .standard (fun _ => default) "F" ⟨exampleTree, 0⟩ preparedTree _ hp
    prepares_preparedTree hbuild hcheck
  exact ⟨elapsed, log, _, hrun, hmesh⟩

end Pipeline

end TreePipeline
