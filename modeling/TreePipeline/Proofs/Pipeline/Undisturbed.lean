import TreePipeline.Proofs.Pipeline.Confinement

/-! A run beside others that share its store. As long as others leave alone what is its own, each of
its steps comes to what it would have come to without them. -/

namespace TreePipeline

open FileSystem

variable {σ : Type}

def Outcome.untimed (o : Outcome) : Outcome := { o with elapsed := .zero }

namespace Phase

def untimed : Phase → Phase
  | .finished o => .finished o.untimed
  | phase => phase

/-- A run in this phase has got the identifier. -/
inductive Has (store : Store) (base : BaseId) : Phase → Prop
  | writing : Has store base (.writing (store.setOf base))
  | building : Has store base (.building (store.setOf base))
  | rendering : Has store base (.rendering (store.setOf base))
  | finished {o : Outcome} (h : o.base = some base) : Has store base (.finished o)

inductive Lacks : Phase → Prop
  | reserving {attempt : Nat} : Lacks (.reserving attempt)
  | finished {elapsed : Duration} : Lacks (.finished (.failed none .allocation none elapsed))

variable {store : Store} {base base' : BaseId} {phase : Phase} {set : ArtifactSet} {o : Outcome}

lemma Has.unique (h : phase.Has store base) (h' : phase.Has store base') : base = base' := by
  cases h with
  | writing | building | rendering =>
    cases h'
    rfl
  | finished h =>
    cases h' with
    | finished h' => exact Option.some.inj (h.symm.trans h')

lemma Lacks.not_has (h : phase.Lacks) : ¬ phase.Has store base := by
  intro hhas
  cases h with
  | reserving => cases hhas
  | finished =>
    cases hhas with
    | finished h => cases h

lemma has_of_untimed (h : phase.untimed.Has store base) : phase.Has store base := by
  cases phase with
  | finished o =>
    cases h with
    | finished h => exact .finished h
  | reserving | writing | building | rendering => exact h

lemma eq_of_untimed {phase' : Phase} (h : phase.untimed = phase') (h' : ∀ o, phase' ≠ .finished o) :
    phase = phase' := by
  cases phase with
  | finished o => exact absurd h.symm (h' _)
  | reserving | writing | building | rendering => exact h

lemma finished_of_untimed (h : phase.untimed = .finished o) :
    ∃ o', phase = .finished o' ∧ o'.untimed = o := by
  cases phase with
  | finished o' => exact ⟨o', rfl, Phase.finished.inj h⟩
  | reserving | writing | building | rendering => cases h

end Phase

namespace Call

def summary (c : Call) : Invocation × Option FailureKind := (c.invocation, c.failure)

end Call

namespace Store

variable {store : Store} {base base' : BaseId} {fs fs' fs₁ : FileSystem}

lemma Alike.refl (store : Store) (base : BaseId) (fs : FileSystem) : store.Alike base fs fs :=
  ⟨rfl, fun _ => rfl⟩

lemma Alike.trans (h : store.Alike base fs fs') (h' : store.Alike base fs' fs₁) :
    store.Alike base fs fs₁ :=
  ⟨h.frame.trans h'.frame, fun role => (h.standing role).trans (h'.standing role)⟩

lemma Affects.alike (h : store.Affects base fs fs') (hne : base' ≠ base) :
    store.Alike base' fs' fs := ⟨h.frame, h.others base' hne⟩

end Store

namespace Pipeline

variable {p : Pipeline} {executor : Executor σ} {draw : Nat → BaseId} {submission : String}
  {r : Run} {w start : World σ} {base base' : BaseId} {config : StageConfig} {phase phase' : Phase}
  {fs fs' fs₁ : FileSystem} {calls made : List Call} {set : ArtifactSet}

/-- The calls that name a file of the identifier. -/
def callsOf (p : Pipeline) (base : BaseId) (calls : List Call) : List Call :=
  calls.filter fun c =>
    c.invocation.files.any fun f => Role.all.any fun role => f = p.store.derive base role

lemma mem_callsOf {c : Call} : c ∈ p.callsOf base calls ↔
    c ∈ calls ∧ ∃ role, p.store.derive base role ∈ c.invocation.files := by
  unfold callsOf
  rw [List.mem_filter]
  refine and_congr_right fun _ => ?_
  simp only [List.any_eq_true, decide_eq_true_eq]
  constructor
  · rintro ⟨f, hf, role, -, rfl⟩
    exact ⟨role, hf⟩
  · rintro ⟨role, hrole⟩
    exact ⟨_, hrole, role, by cases role <;> decide, rfl⟩

def MadeFor (p : Pipeline) (base : BaseId) (made : List Call) : Prop :=
  ∀ c ∈ made, ∃ config : StageConfig, c.invocation = config.invocation (p.store.setOf base)

lemma madeFor_nil (p : Pipeline) (base : BaseId) : p.MadeFor base [] := fun _ hc => by cases hc

lemma MadeFor.callsOf_append (h : p.MadeFor base made) (calls : List Call) :
    p.callsOf base (calls ++ made) = p.callsOf base calls ++ made := by
  have hmade : p.callsOf base made = made := by
    refine List.filter_eq_self.mpr fun c hc => ?_
    obtain ⟨config, hconfig⟩ := h c hc
    have hmem : c ∈ p.callsOf base made := by
      rw [mem_callsOf, hconfig, config.files_invocation]
      exact ⟨hc, _, List.mem_cons_self⟩
    exact (List.mem_filter.mp hmem).2
  exact (List.filter_append ..).trans (congrArg _ hmade)

lemma MadeFor.callsOf_append_ne (h : p.MadeFor base made) (hne : base' ≠ base)
    (calls : List Call) : p.callsOf base' (calls ++ made) = p.callsOf base' calls := by
  have hmade : p.callsOf base' made = [] := by
    refine List.eq_nil_iff_forall_not_mem.mpr fun c hc => ?_
    obtain ⟨hmem, role, hrole⟩ := mem_callsOf.mp hc
    obtain ⟨config, hconfig⟩ := h c hmem
    rw [hconfig] at hrole
    obtain ⟨role', hrole'⟩ := StageConfig.derive_of_mem_files hrole
    exact hne (p.store.derive_inj hrole').1
  exact (List.filter_append ..).trans ((congrArg _ hmade).trans (List.append_nil _))

/-! What one step can do -/

inductive Calling (p : Pipeline) (set : ArtifactSet) : Phase → StageConfig → Prop
  | build : Calling p set (.building set) p.build
  | render : Calling p set (.rendering set) p.render

def afterCall (p : Pipeline) : Phase → Option FailureKind → Phase
  | .building set, none => .rendering set
  | .building set, some kind =>
    .finished (.failed (some set.base) kind (some p.build.stage.name) .zero)
  | .rendering set, none => .finished (.succeeded set .zero)
  | .rendering set, some kind =>
    .finished (.failed (some set.base) kind (some p.render.stage.name) .zero)
  | phase, _ => phase

lemma Calling.hasStage (h : p.Calling set phase config) : p.HasStage config := by
  cases h with
  | build => exact Or.inl rfl
  | render => exact Or.inr rfl

lemma Calling.untimed (h : p.Calling set phase config) : phase.untimed = phase := by
  cases h <;> rfl

lemma Calling.ne_finished (h : p.Calling set phase config) (o : Outcome) :
    phase ≠ .finished o := by
  cases h <;> exact Phase.noConfusion

lemma Calling.ne_writing (h : p.Calling set phase config) (set' : ArtifactSet) :
    phase ≠ .writing set' := by
  cases h <;> exact Phase.noConfusion

lemma Calling.has_afterCall (h : p.Calling (p.store.setOf base) phase config)
    (failure : Option FailureKind) : (p.afterCall phase failure).Has p.store base := by
  cases h with
  | build =>
    cases failure with
    | none => exact .rendering
    | some kind => exact .finished rfl
  | render => cases failure <;> exact .finished rfl

lemma step_calling (executor : Executor σ) (draw : Nat → BaseId) (submission : String) (w : World σ)
    (calls : List Call) (h : p.Calling set r.phase config) {x : Execution σ}
    (hx : executor.execute (config.invocation set) w.files w.state = x) :
    ∃ r', p.step executor.traced draw submission r (w.withCalls calls) =
        (r', x.world.withCalls (calls ++ [⟨config.invocation set, x.answer⟩])) ∧
      r'.phase.untimed = p.afterCall r.phase (stageFailure x.answer) := by
  generalize hphase : r.phase = phase at h
  cases h with
  | build =>
    rw [step_building hphase]
    cases hfailure : stageFailure x.answer with
    | none =>
      obtain ⟨r', hr⟩ := runStage_traced_passed hx hfailure
      exact ⟨_, hr, rfl⟩
    | some kind =>
      obtain ⟨r', elapsed, hr, hphase'⟩ := runStage_traced_failed hx hfailure
      exact ⟨r', hr, by rw [hphase']; rfl⟩
  | render =>
    rw [step_rendering hphase]
    cases hfailure : stageFailure x.answer with
    | none =>
      obtain ⟨r', hr⟩ := runStage_traced_passed hx hfailure
      exact ⟨_, hr, rfl⟩
    | some kind =>
      obtain ⟨r', elapsed, hr, hphase'⟩ := runStage_traced_failed hx hfailure
      exact ⟨r', hr, by rw [hphase']; rfl⟩

lemma step_reserving_cases (executor : Executor σ) (submission : String) (w : World σ)
    (calls : List Call) {attempt : Nat} (h : r.phase = .reserving attempt) :
    (∃ fs r', p.store.attempt (draw attempt) w.files = .reserved fs ∧
      p.step executor.traced draw submission r (w.withCalls calls) =
        (r', World.withCalls ⟨fs, w.state⟩ calls) ∧
      r'.phase = .writing (p.store.setOf (draw attempt))) ∨
    ∃ r', p.step executor.traced draw submission r (w.withCalls calls) = (r', w.withCalls calls) ∧
      r'.phase.Lacks := by
  rw [step_reserving h]
  by_cases hlast : Store.maxAttempts ≤ attempt
  · obtain ⟨r', elapsed, hr, hphase⟩ :=
      p.reserve_exhausted draw submission r (w.withCalls calls) hlast
    exact Or.inr ⟨r', hr, hphase ▸ .finished⟩
  · cases hattempt : p.store.attempt (draw attempt) w.files with
    | reserved fs =>
      obtain ⟨r', hr, hphase⟩ :=
        p.reserve_reserved draw submission r (w.withCalls calls) hlast hattempt
      exact Or.inl ⟨fs, r', rfl, hr, hphase⟩
    | taken =>
      obtain ⟨r', hr, hphase⟩ := p.reserve_taken draw submission r (w.withCalls calls) hlast hattempt
      exact Or.inr ⟨r', hr, hphase ▸ .reserving⟩
    | refused e =>
      obtain ⟨r', elapsed, hr, hphase⟩ :=
        p.reserve_refused draw submission r (w.withCalls calls) hlast hattempt
      exact Or.inr ⟨r', hr, hphase ▸ .finished⟩

/-! A run beside others -/

inductive Asked (p : Pipeline) (base : BaseId) : Phase → List Invocation → Prop
  | writing {set : ArtifactSet} : Asked p base (.writing set) []
  | building {set : ArtifactSet} : Asked p base (.building set) []
  | rendering {set : ArtifactSet} :
    Asked p base (.rendering set) [p.build.invocation (p.store.setOf base)]
  | unbuilt {o : Outcome} (h : o.success = false) :
    Asked p base (.finished o) [p.build.invocation (p.store.setOf base)]
  | finished {o : Outcome} : Asked p base (.finished o)
    [p.build.invocation (p.store.setOf base), p.render.invocation (p.store.setOf base)]

lemma Asked.written {inv : List Invocation} (h : p.Asked base (.writing set) inv) :
    p.Asked base (.building set) inv := by
  cases h
  exact .building

structure Undisturbed (p : Pipeline) (executor : Executor σ) (submission : String) (start : World σ)
    (base : BaseId) (phase : Phase) (fs : FileSystem) (calls : List Call) : Prop where
  held : fs.HoldsFile (p.store.derive base .source)
  asked : p.Asked base phase (calls.map Call.invocation)
  alone : ∃ (n : Nat) (r : Run) (w : World σ) (made : List Call),
    p.steps executor.traced (fun _ => base) submission n (Run.start start.files)
      (start.withCalls []) = (r, w.withCalls made) ∧
    r.phase.untimed = phase.untimed ∧ p.store.IsPlain w.files ∧ p.store.Alike base fs w.files ∧
    made.map Call.summary = calls.map Call.summary
  spared : p.SparesSources executor → phase ≠ .writing (p.store.setOf base) → ∃ mode,
    fs.standing (p.store.derive base .source) = some (.file (Utf8.encode submission) mode 0)

namespace Undisturbed

lemma congr (h : p.Undisturbed executor submission start base phase fs calls)
    (halike : p.store.Alike base fs' fs) :
    p.Undisturbed executor submission start base phase fs' calls where
  held := by
    obtain ⟨content, mode, hheld⟩ := h.held
    exact ⟨content, mode, (halike.standing _).trans hheld⟩
  asked := h.asked
  alone := by
    obtain ⟨n, r, w, made, hsteps, hphase, hplain, hw, hmade⟩ := h.alone
    exact ⟨n, r, w, made, hsteps, hphase, hplain, halike.trans hw, hmade⟩
  spared := by
    rw [halike.standing]
    exact h.spared

lemma reserved (executor : Executor σ) (submission : String) (hstart : p.store.IsPlain start.files)
    (hfs : p.store.IsPlain fs) (halike : p.store.Alike base fs start.files)
    (hattempt : p.store.attempt base fs = .reserved fs₁) :
    p.Undisturbed executor submission start base (.writing (p.store.setOf base)) fs₁ [] := by
  obtain ⟨-, hheld, -, fs₁', hattempt', haffects, halike'⟩ := halike.reserve hfs hstart hattempt
  refine ⟨hheld, .writing, ?_, fun _ hphase => absurd rfl hphase⟩
  have hfirst : ¬ Store.maxAttempts ≤ 0 := by decide
  obtain ⟨r, hr, hphase⟩ := p.reserve_reserved (fun _ => base) submission (Run.start start.files)
    (start.withCalls []) hfirst hattempt'
  refine ⟨1, r, ⟨fs₁', start.state⟩, [], ?_, by rw [hphase], haffects.plain, halike', rfl⟩
  exact steps_next (n := 0) rfl ((step_reserving rfl).trans hr)

lemma written (h : p.Undisturbed executor submission start base
      (.writing (p.store.setOf base)) fs calls) (hfs : p.store.IsPlain fs)
    (hwrite : fs.writeFile (p.store.derive base .source) (Utf8.encode submission) = .ok fs₁) :
    p.Undisturbed executor submission start base (.building (p.store.setOf base)) fs₁ calls := by
  obtain ⟨n, r, w, made, hsteps, hphase, hplain, halike, hmade⟩ := h.alone
  obtain ⟨fs₂, fs₂', mode, hfs₂, hfs₂', -, haffects, halike', hstanding⟩ :=
    halike.write hfs hplain h.held (Utf8.encode submission)
  obtain rfl := Except.ok.inj (hwrite.symm.trans hfs₂)
  refine ⟨⟨_, mode, hstanding⟩, h.asked.written, ?_, fun _ _ => ⟨mode, hstanding⟩⟩
  have hwriting := Phase.eq_of_untimed hphase fun o ho => by cases ho
  have hsolo : (w.withCalls made).files.writeFile (p.store.setOf base).source
    (Utf8.encode submission) = .ok fs₂' := hfs₂'
  obtain ⟨r', hr, hphase'⟩ := writeSource_ok (r := r) hsolo
  exact ⟨n + 1, r', ⟨fs₂', w.state⟩, made, steps_next hsteps ((step_writing hwriting).trans hr),
    by rw [hphase'], haffects.plain, halike', hmade⟩

lemma asked_called {inv : List Invocation} (h : p.Asked base phase inv)
    (hcalling : p.Calling (p.store.setOf base) phase config) {failure : Option FailureKind}
    (hphase : phase'.untimed = p.afterCall phase failure) :
    p.Asked base phase' (inv ++ [config.invocation (p.store.setOf base)]) := by
  cases hcalling with
  | build =>
    cases h
    cases failure with
    | none =>
      obtain rfl := Phase.eq_of_untimed hphase fun o ho => by cases ho
      exact .rendering
    | some kind =>
      obtain ⟨o, rfl, ho⟩ := Phase.finished_of_untimed hphase
      exact .unbuilt (congrArg Outcome.success ho)
  | render =>
    cases h
    cases failure with
    | none | some =>
      obtain ⟨o, rfl, -⟩ := Phase.finished_of_untimed hphase
      exact .finished

lemma called (h : p.Undisturbed executor submission start base phase fs calls)
    (hconf : executor.IsConfined) (hkeeps : p.KeepsSources executor) (hfs : p.store.IsPlain fs)
    (hcalling : p.Calling (p.store.setOf base) phase config) {state : σ} {x : Execution σ}
    (hx : executor.execute (config.invocation (p.store.setOf base)) fs state = x)
    (hphase : phase'.untimed = p.afterCall phase (stageFailure x.answer)) :
    p.Undisturbed executor submission start base phase' x.files
      (calls ++ [⟨config.invocation (p.store.setOf base), x.answer⟩]) := by
  subst hx
  obtain ⟨n, r, w, made, hsteps, hsame, hplain, halike, hmade⟩ := h.alone
  have hr : r.phase = phase :=
    Phase.eq_of_untimed (hsame.trans hcalling.untimed) hcalling.ne_finished
  obtain ⟨hfailure, halike'⟩ := hconf.call config hfs hplain halike state w.state
  obtain ⟨r', hstep, hphase'⟩ :=
    step_calling executor (fun _ => base) submission w made (hr.symm ▸ hcalling) rfl
  refine ⟨hkeeps config base fs state hcalling.hasStage hfs h.held, ?_,
    ⟨n + 1, r', _, _, steps_next hsteps hstep, ?_, (hconf.affects config hplain w.state).plain,
      halike', ?_⟩, fun hspares _ => ?_⟩
  · rw [List.map_append]
    exact asked_called h.asked hcalling hphase
  · rw [hphase', hphase, hr, hfailure]
  · simp only [List.map_append, hmade, List.map_cons, List.map_nil, Call.summary, Call.failure,
      hfailure]
  · rw [hspares config base fs state hcalling.hasStage hfs]
    exact h.spared hspares (hcalling.ne_writing _)

end Undisturbed

end Pipeline

end TreePipeline
