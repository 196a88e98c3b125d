import TreePipeline.Proofs.Files.Opening
import TreePipeline.Proofs.Pipeline.Calls
import TreePipeline.Proofs.Pipeline.Serving
import TreePipeline.Proofs.Store.Contention

/-! What a run tells of its submission. Two runs of one pipeline in one tree that are answered alike
call by call go side by side, whatever their submissions; only the event of their start tells these
apart. What the submission says is found by the executor in one file, and by nobody else. -/

namespace TreePipeline

open FileSystem

variable {σ τ : Type}

/-- One call of an executor: the tree it found, what it was asked, and its reply with the time. -/
structure Exchange where
  found : FileSystem
  invocation : Invocation
  answer : Except StageError StageResult
  events : List Event
  ended : Int

/-- The executor together with what has passed between it and its caller. -/
def Executor.observed (executor : Executor σ) : Executor (σ × List Exchange) where
  execute i fs state :=
    let x := executor.execute i fs state.1
    ⟨x.answer, x.files, (x.state, state.2 ++ [⟨fs, i, x.answer, x.events, x.files.clock⟩]), x.events⟩

def World.withExchanges (w : World σ) (xs : List Exchange) : World (σ × List Exchange) :=
  ⟨w.files, w.state, xs⟩

lemma Executor.projectsTo_observed (executor : Executor σ) :
    executor.observed.ProjectsTo executor Prod.fst :=
  fun _ _ _ => rfl

def Exchange.reply (timed : Bool) (x : Exchange) :
    Except StageError StageResult × List Event × Option Int :=
  (x.answer, x.events, if timed then some x.ended else none)

/-- The executors have replied the same, call by call, as far as both were called. -/
def RepliedAlike (timed : Bool) (xs xs' : List Exchange) : Prop :=
  ∀ (j : Nat) (x x' : Exchange), xs[j]? = some x → xs'[j]? = some x' → x.reply timed = x'.reply timed

section RepliedAlike

variable {timed : Bool} {xs xs' ys ys' : List Exchange} {x x' : Exchange}

lemma repliedAlike_of_map (h : xs.map (Exchange.reply timed) = xs'.map (Exchange.reply timed)) :
    RepliedAlike timed xs xs' := by
  intro j x x' hx hx'
  have hj := congrArg (·[j]?) h
  simpa [hx, hx'] using hj

lemma RepliedAlike.of_prefix (h : RepliedAlike timed xs xs') (hys : ys <+: xs) (hys' : ys' <+: xs') :
    RepliedAlike timed ys ys' := by
  obtain ⟨zs, rfl⟩ := hys
  obtain ⟨zs', rfl⟩ := hys'
  intro j x x' hx hx'
  refine h j x x' ?_ ?_
  · rw [List.getElem?_append_left (List.getElem?_eq_some_iff.mp hx).1, hx]
  · rw [List.getElem?_append_left (List.getElem?_eq_some_iff.mp hx').1, hx']

lemma RepliedAlike.last (h : RepliedAlike timed (xs ++ [x]) (xs' ++ [x']))
    (hlength : xs.length = xs'.length) : x.reply timed = x'.reply timed :=
  h xs.length x x' (by simp) (by simp [hlength])

end RepliedAlike

/-! What is told of a submission -/

/-- The event without what it tells of the submission, and without its time unless that counts. -/
def Event.veil (timed : Bool) : Event → Event
  | .submissionStarted base _ _ => .submissionStarted base "" 0
  | .submissionFinished success millis failure =>
    .submissionFinished success (if timed then millis else 0) failure
  | e => e

def LogEntry.veil (timed : Bool) (e : LogEntry) : LogEntry := ⟨e.span, e.event.veil timed⟩

def Outcome.veil (timed : Bool) (o : Outcome) : Outcome :=
  { o with elapsed := if timed then o.elapsed else .zero }

def Report.veil (timed : Bool) (r : Report) : Report :=
  { r with elapsedSeconds := if timed then r.elapsedSeconds else Duration.zero.toSeconds }

def Phase.veil (timed : Bool) : Phase → Phase
  | .finished o => .finished (o.veil timed)
  | p => p

def Phase.IsEarly : Phase → Prop
  | .reserving _ | .writing _ => True
  | .building _ | .rendering _ | .finished _ => False

lemma Report.veil_ofOutcome (timed : Bool) (o : Outcome) (now : Timestamp) :
    (ofOutcome o now).veil timed = ofOutcome (o.veil timed) now := by
  have hseconds : (o.veil timed).elapsed.toSeconds =
      if timed then o.elapsed.toSeconds else Duration.zero.toSeconds :=
    apply_ite Duration.toSeconds ..
  obtain ⟨base, success⟩ := o
  cases base <;> cases success <;> simp only [veil, ofOutcome, hseconds] <;> rfl

structure Run.Alike (timed : Bool) (r r' : Run) : Prop where
  began : r.began = r'.began
  phase : r.phase.veil timed = r'.phase.veil timed
  log : r.log.map (LogEntry.veil timed) = r'.log.map (LogEntry.veil timed)

namespace Run.Alike

variable {timed : Bool} {r r' : Run} {fs fs' : FileSystem}

lemma logPlain (h : r.Alike timed r') {e e' : Event} (he : e.veil timed = e'.veil timed) :
    (r.logPlain e).Alike timed (r'.logPlain e') where
  began := h.began
  phase := h.phase
  log := by simp [Run.logPlain, h.log, LogEntry.veil, he]

lemma logWithin (h : r.Alike timed r') (base : BaseId) {es es' : List Event}
    (hes : es.map (Event.veil timed) = es'.map (Event.veil timed)) :
    (r.logWithin base es).Alike timed (r'.logWithin base es') where
  began := h.began
  phase := h.phase
  log := by
    have hspan := congrArg (List.map fun e => (⟨some base.text, e⟩ : LogEntry)) hes
    simpa [Run.logWithin, h.log, LogEntry.veil, Function.comp_def] using hspan

lemma setPhase (h : r.Alike timed r') {p p' : Phase} (hp : p.veil timed = p'.veil timed) :
    Run.Alike timed { r with phase := p } { r' with phase := p' } :=
  ⟨h.began, hp, h.log⟩

lemma finish (h : r.Alike timed r') {o o' : Outcome} (ho : o.veil timed = o'.veil timed) :
    (r.finish o).Alike timed (r'.finish o') := by
  have hfields := ho
  simp only [Outcome.veil, Outcome.mk.injEq] at hfields
  obtain ⟨-, hsuccess, helapsed, hfailure, -⟩ := hfields
  have hphase : Phase.veil timed (.finished o) = Phase.veil timed (.finished o') :=
    congrArg Phase.finished ho
  refine (h.setPhase hphase).logPlain ?_
  simp only [Event.veil, hsuccess, hfailure]
  cases timed <;> simp_all

lemma elapsed (h : r.Alike timed r') (hclock : timed = true → fs.clock = fs'.clock) :
    (if timed then r.elapsed fs else .zero) = if timed then r'.elapsed fs' else .zero := by
  cases timed with
  | false => rfl
  | true => simp only [Run.elapsed, h.began, hclock rfl]

lemma failed (h : r.Alike timed r') (hclock : timed = true → fs.clock = fs'.clock)
    (base : Option BaseId) (kind : FailureKind) (stage : Option String) :
    (Outcome.failed base kind stage (r.elapsed fs)).veil timed =
      (Outcome.failed base kind stage (r'.elapsed fs')).veil timed := by
  simp only [Outcome.veil, Outcome.failed, h.elapsed hclock]

lemma succeeded (h : r.Alike timed r') (hclock : timed = true → fs.clock = fs'.clock)
    (set : ArtifactSet) :
    (Outcome.succeeded set (r.elapsed fs)).veil timed =
      (Outcome.succeeded set (r'.elapsed fs')).veil timed := by
  simp only [Outcome.veil, Outcome.succeeded, h.elapsed hclock]

end Run.Alike

lemma FileSystem.clock_store (fs : FileSystem) (l : Location) (content : Octets) :
    (fs.store l content).clock = fs.clock := by
  have hputs : ∀ (ls : List Location) (fs : FileSystem) (node : Node),
      (ls.foldl (fun fs l => fs.put l node) fs).clock = fs.clock := by
    intro ls
    induction ls with
    | nil => exact fun _ _ => rfl
    | cons l ls ih => exact fun fs node => ih (fs.put l node) node
  unfold store putAll
  split
  · exact hputs ..
  · rfl
  · rfl

structure World.Alike (timed : Bool) (w : World (σ × List Exchange))
    (w' : World (τ × List Exchange)) : Prop where
  asked : w.state.2.map Exchange.invocation = w'.state.2.map Exchange.invocation
  clock : timed = true → w.files.clock = w'.files.clock

section

variable {timed : Bool} {w : World (σ × List Exchange)} {w' : World (τ × List Exchange)}

lemma World.Alike.exchange (hw : w.Alike timed w') (i : Invocation) {x : Execution σ}
    {x' : Execution τ} (hreply : RepliedAlike timed
      (w.state.2 ++ [⟨w.files, i, x.answer, x.events, x.files.clock⟩])
      (w'.state.2 ++ [⟨w'.files, i, x'.answer, x'.events, x'.files.clock⟩])) :
    x.answer = x'.answer ∧ x.events = x'.events ∧
      World.Alike timed
        ⟨x.files, x.state, w.state.2 ++ [⟨w.files, i, x.answer, x.events, x.files.clock⟩]⟩
        ⟨x'.files, x'.state, w'.state.2 ++ [⟨w'.files, i, x'.answer, x'.events, x'.files.clock⟩]⟩ := by
  have hlength : w.state.2.length = w'.state.2.length := by
    simpa using congrArg List.length hw.asked
  have hlast := hreply.last hlength
  simp only [Exchange.reply, Prod.mk.injEq] at hlast
  obtain ⟨hanswer, hevents, hended⟩ := hlast
  refine ⟨hanswer, hevents, by simp [hw.asked], ?_⟩
  rintro rfl
  simpa using hended

end

namespace Pipeline

variable {timed : Bool} {r r' : Run} {w : World (σ × List Exchange)}
  {w' : World (τ × List Exchange)} {executor : Executor σ} {executor' : Executor τ}

lemma alike_reserve (p : Pipeline) (draw : Nat → BaseId) (text text' : String) (attempt : Nat)
    (hr : r.Alike timed r') (hw : w.Alike timed w') (hfiles : w.files = w'.files) :
    let x := p.reserve draw text attempt r w
    let x' := p.reserve draw text' attempt r' w'
    x.1.Alike timed x'.1 ∧ x.2.Alike timed x'.2 ∧ x.2.files = x'.2.files ∧
      ∀ set, x.1.phase = .writing set → ∃ l, x.2.files.HasPlace set.source l := by
  have hrefuse : ∀ e : ArtifactError,
      ((r.logPlain (.allocationFailed e.message)).finish
        (.failed none .allocation none (r.elapsed w.files))).Alike timed
      ((r'.logPlain (.allocationFailed e.message)).finish
        (.failed none .allocation none (r'.elapsed w'.files))) :=
    fun e => (hr.logPlain rfl).finish (hr.failed hw.clock ..)
  have hstarted : ∀ (base digest digest' : String) (size size' : Nat),
      [Event.submissionStarted base digest size].map (Event.veil timed) =
        [Event.submissionStarted base digest' size'].map (Event.veil timed) :=
    fun _ _ _ _ _ => rfl
  unfold reserve
  rw [← hfiles] at hrefuse ⊢
  dsimp only
  split
  · exact ⟨hrefuse _, hw, hfiles, fun set h => nomatch h⟩
  split
  · rename_i hreserved
    refine ⟨(hr.setPhase rfl).logWithin _ (hstarted ..), ⟨hw.asked, fun _ => rfl⟩, rfl, ?_⟩
    intro set hset
    obtain rfl := Phase.writing.inj hset
    obtain ⟨l, -, -, hplace, -⟩ := hasPlace_of_createNew (Store.createNew_of_reserved hreserved)
    exact ⟨l, hplace⟩
  · exact ⟨(hr.setPhase rfl).logPlain rfl, hw, hfiles, fun set h => nomatch h⟩
  · exact ⟨hrefuse _, hw, hfiles, fun set h => nomatch h⟩

lemma alike_writeSource (text text' : String) (set : ArtifactSet) (hr : r.Alike timed r')
    (hw : w.Alike timed w') (hfiles : w.files = w'.files) (hplace : ∃ l, w.files.HasPlace set.source l) :
    let x := writeSource text set r w
    let x' := writeSource text' set r' w'
    x.1.Alike timed x'.1 ∧ x.2.Alike timed x'.2 := by
  obtain ⟨l, hwrite⟩ := hplace
  unfold writeSource
  rw [← hfiles, hwrite, hwrite]
  refine ⟨hr.setPhase rfl, hw.asked, fun _ => ?_⟩
  exact (FileSystem.clock_store ..).trans (FileSystem.clock_store ..).symm

def afterStage (config : StageConfig) (set : ArtifactSet) (next : Run → World σ → Run)
    (skipped : List Event) (r : Run) (x : Execution σ) : Run :=
  let r := r.logWithin set.base (x.events ++ stageEvents config.stage x.answer)
  match stageFailure x.answer with
  | none => next r x.world
  | some kind =>
    (r.logWithin set.base skipped).finish
      (.failed (some set.base) kind (some config.stage.name) (r.elapsed x.files))

lemma runStage_eq (config : StageConfig) (executor : Executor σ) (set : ArtifactSet)
    (next : Run → World σ → Run) (skipped : List Event) (r : Run) (w : World σ) :
    runStage config executor set next skipped r w =
      let x := executor.execute (config.invocation set) w.files w.state
      (afterStage config set next skipped r x, x.world) := by
  unfold runStage afterStage
  generalize executor.execute (config.invocation set) w.files w.state = x
  dsimp only
  cases stageFailure x.answer <;> rfl

lemma alike_afterStage (config : StageConfig) (set : ArtifactSet) {next : Run → World σ → Run}
    {next' : Run → World τ → Run} (skipped : List Event) (hr : r.Alike timed r') {x : Execution σ}
    {x' : Execution τ} (hanswer : x.answer = x'.answer) (hevents : x.events = x'.events)
    (hclock : timed = true → x.files.clock = x'.files.clock)
    (hnext : ∀ {r r'}, Run.Alike timed r r' → (next r x.world).Alike timed (next' r' x'.world)) :
    (afterStage config set next skipped r x).Alike timed
      (afterStage config set next' skipped r' x') := by
  unfold afterStage
  dsimp only
  rw [← hanswer, ← hevents]
  generalize x.events ++ stageEvents config.stage x.answer = es
  have hlogged := hr.logWithin set.base (Eq.refl (es.map (Event.veil timed)))
  cases stageFailure x.answer with
  | none => exact hnext hlogged
  | some kind => exact (hlogged.logWithin set.base rfl).finish (hlogged.failed hclock ..)

lemma not_isEarly_writeSource (text : String) (set : ArtifactSet) (r : Run) (w : World σ) :
    ¬ (writeSource text set r w).1.phase.IsEarly := by
  unfold writeSource
  split <;> exact not_false

lemma not_isEarly_runStage (config : StageConfig) (executor : Executor σ) (set : ArtifactSet)
    {next : Run → World σ → Run} (hnext : ∀ r w, ¬ (next r w).phase.IsEarly) (skipped : List Event)
    (r : Run) (w : World σ) :
    ¬ (runStage config executor set next skipped r w).1.phase.IsEarly := by
  rw [runStage_eq]
  unfold afterStage
  dsimp only
  split
  · exact hnext _ _
  · exact not_false

lemma alike_runStage (config : StageConfig) (set : ArtifactSet)
    {next : Run → World (σ × List Exchange) → Run} {next' : Run → World (τ × List Exchange) → Run}
    (skipped : List Event) (hr : r.Alike timed r') (hw : w.Alike timed w')
    (hnext : ∀ {r r' w w'}, Run.Alike timed r r' → World.Alike timed w w' →
      (next r w).Alike timed (next' r' w')) :
    let x := runStage config executor.observed set next skipped r w
    let x' := runStage config executor'.observed set next' skipped r' w'
    RepliedAlike timed x.2.state.2 x'.2.state.2 →
      x.1.Alike timed x'.1 ∧ x.2.Alike timed x'.2 := by
  rw [runStage_eq, runStage_eq]
  intro x x' h
  obtain ⟨hanswer, hevents, hworld⟩ := hw.exchange (config.invocation set) h
  exact ⟨alike_afterStage config set skipped hr hanswer hevents hworld.clock
    fun hr => hnext hr hworld, hworld⟩

structure Abreast (timed : Bool) (r : Run) (w : World (σ × List Exchange)) (r' : Run)
    (w' : World (τ × List Exchange)) : Prop where
  run : r.Alike timed r'
  world : w.Alike timed w'
  files : r.phase.IsEarly → w.files = w'.files
  place : ∀ set, r.phase = .writing set → ∃ l, w.files.HasPlace set.source l

lemma Abreast.late (hr : r.Alike timed r') (hw : w.Alike timed w') (h : ¬ r.phase.IsEarly) :
    Abreast timed r w r' w' where
  run := hr
  world := hw
  files hearly := absurd hearly h
  place set hset := absurd (by rw [hset]; trivial) h

lemma phase_eq_of_veil {q q' : Phase} (h : q.veil timed = q'.veil timed)
    (hq : ∀ o, q ≠ .finished o) : q' = q := by
  cases q' with
  | finished o' =>
    cases q with
    | finished o => exact absurd rfl (hq o)
    | reserving | writing | building | rendering => cases h
  | reserving | writing | building | rendering =>
    cases q with
    | finished o => cases h
    | reserving | writing | building | rendering => exact h.symm

lemma finished_of_veil {o : Outcome} {q : Phase} (h : Phase.veil timed (.finished o) = q.veil timed) :
    ∃ o', q = .finished o' ∧ o.veil timed = o'.veil timed := by
  cases q with
  | finished o' => exact ⟨o', rfl, Phase.finished.inj h⟩
  | reserving | writing | building | rendering => cases h

variable {p : Pipeline} {draw : Nat → BaseId} {text text' : String}

lemma Abreast.step (h : Abreast timed r w r' w') :
    let x := p.step executor.observed draw text r w
    let x' := p.step executor'.observed draw text' r' w'
    RepliedAlike timed x.2.state.2 x'.2.state.2 → Abreast timed x.1 x.2 x'.1 x'.2 := by
  intro x x' hreply
  cases hphase : r.phase with
  | reserving attempt =>
    have hphase' := phase_eq_of_veil h.run.phase (by simp [hphase])
    have hx : x = p.reserve draw text attempt r w := step_reserving hphase
    have hx' : x' = p.reserve draw text' attempt r' w' := step_reserving (hphase'.trans hphase)
    obtain ⟨hrun, hworld, hfiles, hplace⟩ := alike_reserve p draw text text' attempt h.run h.world
      (h.files (hphase ▸ trivial))
    rw [hx, hx']
    exact ⟨hrun, hworld, fun _ => hfiles, hplace⟩
  | writing set =>
    have hphase' := phase_eq_of_veil h.run.phase (by simp [hphase])
    have hx : x = writeSource text set r w := step_writing hphase
    have hx' : x' = writeSource text' set r' w' := step_writing (hphase'.trans hphase)
    obtain ⟨hrun, hworld⟩ := alike_writeSource text text' set h.run h.world
      (h.files (hphase ▸ trivial)) (h.place set hphase)
    rw [hx, hx']
    exact .late hrun hworld (not_isEarly_writeSource _ _ _ _)
  | building set =>
    have hphase' := phase_eq_of_veil h.run.phase (by simp [hphase])
    have hx : x = runStage .. := step_building hphase
    have hx' : x' = runStage .. := step_building (hphase'.trans hphase)
    rw [hx, hx'] at hreply ⊢
    obtain ⟨hrun, hworld⟩ := alike_runStage p.build set _ h.run h.world
      (fun hr _ => hr.setPhase rfl) hreply
    refine .late hrun hworld (not_isEarly_runStage p.build _ set ?_ _ _ _)
    exact fun _ _ => not_false
  | rendering set =>
    have hphase' := phase_eq_of_veil h.run.phase (by simp [hphase])
    have hx : x = runStage .. := step_rendering hphase
    have hx' : x' = runStage .. := step_rendering (hphase'.trans hphase)
    rw [hx, hx'] at hreply ⊢
    obtain ⟨hrun, hworld⟩ := alike_runStage p.render set _ h.run h.world
      (fun hr hw => hr.finish (hr.succeeded hw.clock set)) hreply
    refine .late hrun hworld (not_isEarly_runStage p.render _ set ?_ _ _ _)
    exact fun _ _ => not_false
  | finished o =>
    obtain ⟨o', hphase', -⟩ := finished_of_veil (hphase ▸ h.run.phase)
    have hx : x = (r, w) := step_finished hphase
    have hx' : x' = (r', w') := step_finished hphase'
    rw [hx, hx']
    exact h

/-! A whole run -/

lemma prefix_step (p : Pipeline) (executor : Executor σ) (draw : Nat → BaseId) (text : String)
    (r : Run) (w : World (σ × List Exchange)) :
    w.state.2 <+: (p.step executor.observed draw text r w).2.state.2 := by
  unfold step
  split
  · unfold reserve
    dsimp only
    split
    · exact List.prefix_rfl
    · split <;> exact List.prefix_rfl
  · unfold writeSource
    split <;> exact List.prefix_rfl
  · rw [runStage_eq]
    exact List.prefix_append _ _
  · rw [runStage_eq]
    exact List.prefix_append _ _
  · exact List.prefix_rfl

lemma prefix_steps (p : Pipeline) (executor : Executor σ) (draw : Nat → BaseId) (text : String)
    (n : Nat) (r : Run) (w : World (σ × List Exchange)) :
    w.state.2 <+: (p.steps executor.observed draw text n r w).2.state.2 := by
  induction n with
  | zero => exact List.prefix_rfl
  | succ n ih =>
    rw [steps_succ]
    exact ih.trans (prefix_step ..)

lemma Abreast.steps (p : Pipeline) (draw : Nat → BaseId) (executor : Executor σ)
    (executor' : Executor τ) (text text' : String) (h : Abreast timed r w r' w') (n : Nat) :
    let x := p.steps executor.observed draw text n r w
    let x' := p.steps executor'.observed draw text' n r' w'
    RepliedAlike timed x.2.state.2 x'.2.state.2 → Abreast timed x.1 x.2 x'.1 x'.2 := by
  induction n with
  | zero => exact fun _ => h
  | succ n ih =>
    simp only [steps_succ]
    intro hreply
    have hbefore := hreply.of_prefix (prefix_step p executor draw text _ _)
      (prefix_step p executor' draw text' _ _)
    exact (ih hbefore).step hreply

lemma abreast_start (timed : Bool) (w : World σ) (w' : World τ) (h : w.files = w'.files) :
    Abreast timed (Run.start (w.withExchanges []).files) (w.withExchanges [])
      (Run.start (w'.withExchanges []).files) (w'.withExchanges []) where
  run := ⟨congrArg FileSystem.clock h, rfl, rfl⟩
  world := ⟨rfl, fun _ => congrArg FileSystem.clock h⟩
  files _ := h
  place _ hset := nomatch hset

lemma world_run (p : Pipeline) (executor : Executor σ) (draw : Nat → BaseId) (text : String)
    (w : World σ) :
    (p.run executor draw text w).2.2 =
      (p.steps executor draw text maxSteps (Run.start w.files) w).2 := by
  unfold run
  generalize p.steps executor draw text maxSteps (Run.start w.files) w = x
  obtain ⟨r, w'⟩ := x
  cases hphase : r.phase <;> simp only [hphase]

lemma exists_steps_of_run (p : Pipeline) (executor : Executor σ) (draw : Nat → BaseId)
    (text : String) (w : World σ) :
    ∃ r w' o, p.steps executor draw text maxSteps (Run.start w.files) w = (r, w') ∧
      r.phase = .finished o ∧ p.run executor draw text w = (some o, r.log, w') := by
  obtain ⟨o, log, w', calls, hrun, -⟩ := p.course_run executor draw text w
  unfold run at hrun ⊢
  generalize p.steps executor draw text maxSteps (Run.start w.files) w = x at hrun ⊢
  obtain ⟨r, w''⟩ := x
  cases hphase : r.phase with
  | finished o' => exact ⟨r, w'', o', rfl, hphase, by simp only [hphase]⟩
  | reserving | writing | building | rendering => simp [hphase] at hrun

/-! What the executor finds -/

lemma exists_prepares {fs : FileSystem} {set : ArtifactSet}
    (hsingle : ∀ l, fs.get? l = none → fs.namesOf l = [l])
    (h : (p.store.allocate draw fs).result = .ok set) (text : String) :
    ∃ fs', p.Prepares draw text fs fs' set ∧ fs.AddsFile set.source (Utf8.encode text) fs' := by
  obtain ⟨base, rfl, hreserved⟩ := allocateFrom_eq_ok h
  have hnew := Store.createNew_of_reserved hreserved
  obtain ⟨fs', hwrite, hadds⟩ := exists_addsFile hsingle hnew (Utf8.encode text)
  exact ⟨fs', ⟨h, hwrite⟩, hadds⟩

/-- A run to its end, with what passed meanwhile between it and its executor. -/
structure Passes (p : Pipeline) (executor : Executor σ) (draw : Nat → BaseId) (text : String)
    (w : World σ) (o : Outcome) (log : List LogEntry) (w' : World σ) (xs : List Exchange) : Prop where
  run : p.run executor draw text w = (some o, log, w')
  observed : p.run executor.observed draw text (w.withExchanges []) =
    (some o, log, w'.withExchanges xs)

lemma exists_passes (p : Pipeline) (executor : Executor σ) (draw : Nat → BaseId) (text : String)
    (w : World σ) :
    ∃ r o w' xs, p.steps executor.observed draw text maxSteps (Run.start (w.withExchanges []).files)
        (w.withExchanges []) = (r, w'.withExchanges xs) ∧
      r.phase = .finished o ∧ p.Passes executor draw text w o r.log w' xs := by
  obtain ⟨r, ⟨files, state, xs⟩, o, hsteps, hphase, hrun⟩ :=
    p.exists_steps_of_run executor.observed draw text (w.withExchanges [])
  have hplain : p.run executor draw text w = _ :=
    run_map executor.projectsTo_observed p draw text (w.withExchanges [])
  rw [hrun] at hplain
  exact ⟨r, o, ⟨files, state⟩, xs, hsteps, hphase, hplain, hrun⟩

namespace Passes

variable {w w' : World σ} {fs : FileSystem} {o : Outcome} {log : List LogEntry} {xs : List Exchange}
  {set : ArtifactSet}

lemma exchanges_eq (h : p.Passes executor draw text w o log w' xs) :
    (p.steps executor.observed draw text maxSteps (Run.start (w.withExchanges []).files)
      (w.withExchanges [])).2.state.2 = xs := by
  have hworld := p.world_run executor.observed draw text (w.withExchanges [])
  rw [h.observed] at hworld
  exact congrArg (fun w => w.state.2) hworld.symm

lemma exchanges_of_error (h : p.Passes executor draw text w o log w' xs) {e : ArtifactError}
    (hrefused : (p.store.allocate draw w.files).result = .error e) : xs = [] := by
  obtain ⟨k, r, hk, hsteps, hphase⟩ :=
    p.steps_allocated executor.observed draw text (w.withExchanges [])
  rw [show (p.store.allocate draw (w.withExchanges []).files).result = _ from hrefused] at hphase
  obtain ⟨elapsed, hphase⟩ := hphase
  rw [← h.exchanges_eq, steps_of_finished hsteps hphase (by omega)]
  rfl

lemma exchanges_of_prepares (h : p.Passes executor draw text w o log w' xs)
    (hprepared : p.Prepares draw text w.files fs set) :
    ∃ x rest, xs = x :: rest ∧ x.found = fs ∧ x.invocation = p.build.invocation set := by
  obtain ⟨k, r, hk, hsteps, hphase⟩ :=
    Prepares.steps (w := w.withExchanges []) hprepared executor.observed
  obtain ⟨n, hn⟩ := Nat.exists_eq_add_of_le (Nat.le_of_succ_le hk)
  have hbuild := steps_next hsteps ((step_building hphase).trans (runStage_eq ..))
  obtain ⟨rest, hrest⟩ := prefix_steps p executor draw text n
    (p.steps executor.observed draw text (k + 1) (Run.start (w.withExchanges []).files)
      (w.withExchanges [])).1
    (p.steps executor.observed draw text (k + 1) (Run.start (w.withExchanges []).files)
      (w.withExchanges [])).2
  rw [← steps_add, ← hn, h.exchanges_eq, hbuild] at hrest
  exact ⟨_, rest, hrest.symm, rfl, rfl⟩

end Passes

/-- A submission reaches its own source and nothing else. Of two runs from one tree, with whatever
submissions and with executors that reply the same call by call, the invocations are the same, and so
are the outcomes, the reports and the logs but for the digest and size of the submission; where the
executors do not take the same time, but for the times of the runs besides. An executor is called if
an identifier is reserved, and finds the submission octet by octet in its source, all else being as
it was. -/
theorem run_discreet (p : Pipeline) (draw : Nat → BaseId) (executor : Executor σ)
    (executor' : Executor τ) (fs : FileSystem) (state : σ) (state' : τ) (text text' : String) :
    ∃ o log w xs o' log' w' xs',
      p.Passes executor draw text ⟨fs, state⟩ o log w xs ∧
      p.Passes executor' draw text' ⟨fs, state'⟩ o' log' w' xs' ∧
      (∀ timed, RepliedAlike timed xs xs' →
        xs.map Exchange.invocation = xs'.map Exchange.invocation ∧
        o.veil timed = o'.veil timed ∧
        (∀ now, (Report.ofOutcome o now).veil timed = (Report.ofOutcome o' now).veil timed) ∧
        log.map (LogEntry.veil timed) = log'.map (LogEntry.veil timed)) ∧
      match (p.store.allocate draw fs).result with
      | .error _ => xs = []
      | .ok set => (∀ l, fs.get? l = none → fs.namesOf l = [l]) →
        ∃ x rest, xs = x :: rest ∧ x.invocation = p.build.invocation set ∧
          fs.AddsFile set.source (Utf8.encode text) x.found := by
  obtain ⟨r, o, w, xs, hsteps, hphase, hpasses⟩ := p.exists_passes executor draw text ⟨fs, state⟩
  obtain ⟨r', o', w', xs', hsteps', hphase', hpasses'⟩ :=
    p.exists_passes executor' draw text' ⟨fs, state'⟩
  refine ⟨o, r.log, w, xs, o', r'.log, w', xs', hpasses, hpasses', fun timed hreply => ?_, ?_⟩
  · have hstart := abreast_start timed ⟨fs, state⟩ ⟨fs, state'⟩ rfl
    have habreast := hstart.steps p draw executor executor' text text' maxSteps
    rw [hsteps, hsteps'] at habreast
    obtain ⟨hrun, hworld, -⟩ := habreast hreply
    have hoi := hrun.phase
    rw [hphase, hphase'] at hoi
    have ho := Phase.finished.inj hoi
    refine ⟨hworld.asked, ho, fun now => ?_, hrun.log⟩
    rw [Report.veil_ofOutcome, Report.veil_ofOutcome, ho]
  · cases halloc : (p.store.allocate draw fs).result with
    | error e => exact hpasses.exchanges_of_error halloc
    | ok set =>
      intro hsingle
      obtain ⟨fs', hprepared, hadds⟩ := exists_prepares hsingle halloc text
      obtain ⟨x, rest, hxs, rfl, hinvocation⟩ := hpasses.exchanges_of_prepares hprepared
      exact ⟨x, rest, hxs, hinvocation, hadds⟩

theorem run_discreet_scripted : ∃ o log w xs log' w' xs',
    examplePipeline.Passes (.scripted []) (fun _ => default) "F" ⟨exampleTree, []⟩ o log w xs ∧
    examplePipeline.Passes (.scripted []) (fun _ => default) "" ⟨exampleTree, []⟩ o log' w' xs' ∧
    o = exampleOutcome ∧ log ≠ log' ∧
    log.map (LogEntry.veil true) = log'.map (LogEntry.veil true) ∧
    ∃ x rest, xs = x :: rest ∧ exampleTree.AddsFile (Store.exampleStore.derive default .source)
      (Utf8.encode "F") x.found := by
  obtain ⟨o, log, w, xs, o', log', w', xs', hpasses, hpasses', halike, hfound⟩ :=
    run_discreet examplePipeline (fun _ => default) (.scripted []) (.scripted []) exampleTree [] []
      "F" ""
  have hobserved := hpasses.observed
  have hobserved' := hpasses'.observed
  have hreply : RepliedAlike true xs xs' := by
    refine repliedAlike_of_map ?_
    rw [show xs = _ from (congrArg (·.2.2.state.2) hobserved).symm,
      show xs' = _ from (congrArg (·.2.2.state.2) hobserved').symm]
    decide +kernel
  obtain ⟨-, ho, -, hlog⟩ := halike true hreply
  obtain rfl : o = o' := ho
  refine ⟨o, log, w, xs, log', w', xs', hpasses, hpasses', ?_, ?_, hlog, ?_⟩
  · refine Option.some.inj ((congrArg (·.1) hobserved).symm.trans ?_)
    decide +kernel
  · rw [show log = _ from (congrArg (·.2.1) hobserved).symm,
      show log' = _ from (congrArg (·.2.1) hobserved').symm]
    decide +kernel
  · have halloc : (examplePipeline.store.allocate (fun _ => default) exampleTree).result =
        .ok (Store.exampleStore.setOf default) := by decide +kernel
    rw [halloc] at hfound
    obtain ⟨x, rest, hxs, -, hadds⟩ := hfound fun _ _ => rfl
    exact ⟨x, rest, hxs, hadds⟩

end Pipeline

end TreePipeline
