import TreePipeline.Proofs.Pipeline.Crowd
import TreePipeline.Proofs.Pipeline.Serving
import TreePipeline.Proofs.Pipeline.Undisturbed

/-! Runs side by side with a confined executor: each of them goes the way it would have gone alone with
the identifier it got. -/

namespace TreePipeline

open FileSystem Pipeline

variable {σ ι : Type}

/-- A run that is alone and draws the identifier comes, times apart, to the outcome and the calls, and
leaves the files of the identifier as they are in the tree. -/
def Pipeline.AloneComesTo (p : Pipeline) (executor : Executor σ) (submission : String) (w : World σ)
    (base : BaseId) (o : Outcome) (calls : List Call) (fs : FileSystem) : Prop :=
  ∃ (o' : Outcome) (log : List LogEntry) (w' : World σ) (calls' : List Call),
    p.run executor.traced (fun _ => base) submission (w.withCalls []) =
        (some o', log, w'.withCalls calls') ∧
      o'.untimed = o.untimed ∧ calls'.map Call.summary = calls.map Call.summary ∧
      ∀ role, w'.files.standing (p.store.derive base role) =
        fs.standing (p.store.derive base role)

namespace Crowd

variable {p : Pipeline} {executor : Executor σ} {draw : ι → Nat → BaseId} {submission : ι → String}
  {start : World σ} {s : Crowd ι σ} {i : ι} {base : BaseId} {r : Run} {w : World σ}
  {made : List Call}

structure IsIsolated (p : Pipeline) (executor : Executor σ) (submission : ι → String)
    (start : World σ) (s : Crowd ι σ) : Prop where
  plain : p.store.IsPlain s.files
  known : ∀ i, (s.runs i).phase.Lacks ∨ ∃ base, (s.runs i).phase.Has p.store base
  distinct : ∀ i j base, (s.runs i).phase.Has p.store base → (s.runs j).phase.Has p.store base → i = j
  fresh : ∀ base, (∀ i, ¬ (s.runs i).phase.Has p.store base) →
    p.store.Alike base s.files start.files ∧ p.callsOf base s.calls = []
  undisturbed : ∀ i base, (s.runs i).phase.Has p.store base →
    p.Undisturbed executor (submission i) start base (s.runs i).phase s.files
      (p.callsOf base s.calls)
  owned : ∀ c ∈ s.calls, ∃ i base, (s.runs i).phase.Has p.store base ∧ c ∈ p.callsOf base s.calls

lemma isIsolated_start (executor : Executor σ) (submission : ι → String) (w start : World σ)
    (began : ι → Int) (hw : start.files = w.files) (hplain : p.store.IsPlain w.files) :
    IsIsolated p executor submission start (Crowd.start w began : Crowd ι σ) where
  plain := hplain
  known _ := Or.inl .reserving
  distinct _ _ _ h := by cases h
  fresh base _ := ⟨hw ▸ .refl _ _ _, rfl⟩
  undisturbed _ _ h := by cases h
  owned _ hc := by cases hc

lemma IsIsolated.pass (h : IsIsolated p executor submission start s) (nanos : Nat) :
    IsIsolated p executor submission start
      { s with world := { s.world with files := s.files.tick nanos } } :=
  have halike := fun b => p.store.alike_tick b s.files nanos
  { h with
    plain := Store.isPlain_tick h.plain nanos
    fresh := fun b hb => ⟨(halike b).trans (h.fresh b hb).1, (h.fresh b hb).2⟩
    undisturbed := fun j b hj => (h.undisturbed j b hj).congr (halike b) }

lemma IsIsolated.not_has_of_reserved {fs : FileSystem}
    (h : IsIsolated p executor submission start s)
    (hattempt : p.store.attempt base s.files = .reserved fs) (j : ι) :
    ¬ (s.runs j).phase.Has p.store base := by
  intro hj
  have hvacant := ((Store.Alike.refl p.store base s.files).reserve h.plain h.plain hattempt).1
  obtain ⟨content, mode, hheld⟩ := (h.undisturbed j base hj).held
  cases hvacant.symm.trans hheld

lemma IsIsolated.aloneComesTo (h : IsIsolated p executor submission start s) {o : Outcome}
    (hphase : (s.runs i).phase = .finished o) (hbase : o.base = some base) :
    p.AloneComesTo executor (submission i) start base o (p.callsOf base s.calls) s.files := by
  obtain ⟨n, r, w', made, hsteps, hsame, -, halike, hmade⟩ :=
    (h.undisturbed i base (hphase ▸ .finished hbase)).alone
  rw [hphase] at hsame
  obtain ⟨o', hr, ho'⟩ := Phase.finished_of_untimed hsame
  exact ⟨o', r.log, w', made, run_of_finished hsteps hr, ho', hmade,
    fun role => (halike.standing role).symm⟩

lemma IsIsolated.derive_of_mem (h : IsIsolated p executor submission start s)
    (hhas : (s.runs i).phase.Has p.store base) {c : Call} (hc : c ∈ p.callsOf base s.calls)
    {f : Octets} (hf : f ∈ c.invocation.files) : ∃ role, f = p.store.derive base role := by
  have hmem := List.mem_map_of_mem (f := Call.invocation) hc
  have hasked := (h.undisturbed i base hhas).asked
  generalize (p.callsOf base s.calls).map Call.invocation = inv, (s.runs i).phase = phase
    at hmem hasked
  have hconfig : ∃ config : StageConfig, c.invocation = config.invocation (p.store.setOf base) := by
    cases hasked with
    | writing | building => cases hmem
    | rendering | unbuilt => exact ⟨_, List.mem_singleton.mp hmem⟩
    | finished =>
      simp only [List.mem_cons, List.not_mem_nil, or_false] at hmem
      rcases hmem with hbuild | hrender
      · exact ⟨_, hbuild⟩
      · exact ⟨_, hrender⟩
  obtain ⟨config, hconfig⟩ := hconfig
  rw [hconfig] at hf
  exact StageConfig.derive_of_mem_files hf

variable [DecidableEq ι]

lemma has_update {r : Run} {j : ι} (h : (Function.update s.runs i r j).phase.Has p.store base) :
    j = i ∧ r.phase.Has p.store base ∨ j ≠ i ∧ (s.runs j).phase.Has p.store base := by
  by_cases hj : j = i
  · subst hj
    rw [Function.update_self] at h
    exact Or.inl ⟨rfl, h⟩
  · rw [Function.update_of_ne hj] at h
    exact Or.inr ⟨hj, h⟩

lemma IsIsolated.idle (h : IsIsolated p executor submission start s)
    (hbefore : (s.runs i).phase.Lacks) (hafter : r.phase.Lacks) :
    IsIsolated p executor submission start ⟨s.world, Function.update s.runs i r⟩ := by
  have hiff : ∀ j b, (Function.update s.runs i r j).phase.Has p.store b ↔
      (s.runs j).phase.Has p.store b := by
    intro j b
    by_cases hj : j = i
    · subst hj
      rw [Function.update_self]
      exact iff_of_false hafter.not_has hbefore.not_has
    · rw [Function.update_of_ne hj]
  have hother : ∀ j b, (s.runs j).phase.Has p.store b → Function.update s.runs i r j = s.runs j := by
    rintro j b hb
    refine Function.update_of_ne ?_ _ _
    rintro rfl
    exact hbefore.not_has hb
  refine ⟨h.plain, fun j => ?_, fun j k b hj hk => ?_, fun b hb => ?_, fun j b hj => ?_, fun c hc => ?_⟩
  · by_cases hj : j = i
    · subst hj
      exact Or.inl (by simpa using hafter)
    · simpa [hj] using h.known j
  · exact h.distinct j k b ((hiff j b).mp hj) ((hiff k b).mp hk)
  · exact h.fresh b fun j hj => hb j ((hiff j b).mpr hj)
  · have hold := (hiff j b).mp hj
    change p.Undisturbed _ _ _ _ (Function.update s.runs i r j).phase s.files (p.callsOf b s.calls)
    rw [hother j b hold]
    exact h.undisturbed j b hold
  · obtain ⟨j, b, hj, hmem⟩ := h.owned c hc
    exact ⟨j, b, (hiff j b).mpr hj, hmem⟩

lemma has_update_of_has (hbefore : ∀ b, (s.runs i).phase.Has p.store b → b = base)
    (hafter : r.phase.Has p.store base) {j : ι} {b : BaseId} (hj : (s.runs j).phase.Has p.store b) :
    (Function.update s.runs i r j).phase.Has p.store b := by
  by_cases hji : j = i
  · subst hji
    rwa [Function.update_self, hbefore b hj]
  · rwa [Function.update_of_ne hji]

lemma IsIsolated.distinct_update (h : IsIsolated p executor submission start s)
    (hothers : ∀ j, j ≠ i → ¬ (s.runs j).phase.Has p.store base)
    (hafter : r.phase.Has p.store base) {j k : ι} {b : BaseId}
    (hj : (Function.update s.runs i r j).phase.Has p.store b)
    (hk : (Function.update s.runs i r k).phase.Has p.store b) : j = k := by
  rcases has_update hj with ⟨hji, hj'⟩ | ⟨hji, hj'⟩ <;>
    rcases has_update hk with ⟨hki, hk'⟩ | ⟨hki, hk'⟩
  · exact hji.trans hki.symm
  · exact absurd (hj'.unique hafter ▸ hk') (hothers k hki)
  · exact absurd (hk'.unique hafter ▸ hj') (hothers j hji)
  · exact h.distinct j k b hj' hk'

lemma IsIsolated.advance (h : IsIsolated p executor submission start s)
    (hbefore : ∀ b, (s.runs i).phase.Has p.store b → b = base)
    (hothers : ∀ j, j ≠ i → ¬ (s.runs j).phase.Has p.store base)
    (hafter : r.phase.Has p.store base) (haffects : p.store.Affects base s.files w.files)
    (hmade : p.MadeFor base made)
    (hnew : p.Undisturbed executor (submission i) start base r.phase w.files
      (p.callsOf base s.calls ++ made)) :
    IsIsolated p executor submission start
      ⟨w.withCalls (s.calls ++ made), Function.update s.runs i r⟩ := by
  have hself : (Function.update s.runs i r i).phase.Has p.store base := by
    rwa [Function.update_self]
  have hkept : ∀ j b, (s.runs j).phase.Has p.store b →
      (Function.update s.runs i r j).phase.Has p.store b :=
    fun _ _ => has_update_of_has hbefore hafter
  refine ⟨haffects.plain, fun j => ?_, fun j k b => h.distinct_update hothers hafter,
    fun b hb => ?_, fun j b hj => ?_, fun c hc => ?_⟩
  · rcases h.known j with hlacks | ⟨b, hb⟩
    · by_cases hji : j = i
      · exact Or.inr ⟨base, hji ▸ hself⟩
      · exact Or.inl (by simpa [hji] using hlacks)
    · exact Or.inr ⟨b, hkept j b hb⟩
  · have hne : b ≠ base := by
      rintro rfl
      exact hb i hself
    obtain ⟨halike, hcalls⟩ := h.fresh b fun j hj => hb j (hkept j b hj)
    exact ⟨(haffects.alike hne).trans halike, (hmade.callsOf_append_ne hne s.calls).trans hcalls⟩
  · change p.Undisturbed _ _ _ _ (Function.update s.runs i r j).phase w.files
      (p.callsOf b (s.calls ++ made))
    rcases has_update hj with ⟨rfl, hj'⟩ | ⟨hji, hj'⟩
    · obtain rfl := hj'.unique hafter
      rwa [Function.update_self, hmade.callsOf_append]
    · have hne : b ≠ base := by
        rintro rfl
        exact hothers j hji hj'
      rw [Function.update_of_ne hji, hmade.callsOf_append_ne hne]
      exact (h.undisturbed j b hj').congr (haffects.alike hne)
  · change ∃ j b, _ ∧ c ∈ p.callsOf b (s.calls ++ made)
    rcases List.mem_append.mp hc with hold | hlast
    · obtain ⟨j, b, hj, hmem⟩ := h.owned c hold
      refine ⟨j, b, hkept j b hj, mem_callsOf.mpr ⟨hc, (mem_callsOf.mp hmem).2⟩⟩
    · refine ⟨i, base, hself, ?_⟩
      rw [hmade.callsOf_append]
      exact List.mem_append_right _ hlast

lemma IsIsolated.proceed (h : IsIsolated p executor submission start s)
    (hhas : (s.runs i).phase.Has p.store base) (hafter : r.phase.Has p.store base)
    (haffects : p.store.Affects base s.files w.files) (hmade : p.MadeFor base made)
    (hnew : p.Undisturbed executor (submission i) start base r.phase w.files
      (p.callsOf base s.calls ++ made)) :
    IsIsolated p executor submission start
      ⟨w.withCalls (s.calls ++ made), Function.update s.runs i r⟩ :=
  h.advance (fun _ hb => hb.unique hhas)
    (fun j hne hj => hne (h.distinct j i base hj hhas)) hafter haffects hmade hnew

lemma IsIsolated.step_lacking (h : IsIsolated p executor submission start s)
    (hstart : p.store.IsPlain start.files) (draw : ι → Nat → BaseId)
    (hlacks : (s.runs i).phase.Lacks) :
    IsIsolated p executor submission start (s.step p executor draw submission i) := by
  generalize hphase : (s.runs i).phase = phase at hlacks
  cases hlacks with
  | finished => rwa [step_of_finished hphase]
  | @reserving attempt =>
    have hworld : s.world = s.plainWorld.withCalls s.calls := rfl
    unfold Crowd.step
    rw [hworld]
    rcases step_reserving_cases executor (submission i) s.plainWorld s.calls hphase with
      ⟨fs, r, hattempt, hstep, hr⟩ | ⟨r, hstep, hr⟩
    · rw [hstep]
      have hnone := h.not_has_of_reserved hattempt
      obtain ⟨halike, hcalls⟩ := h.fresh _ hnone
      obtain ⟨-, -, haffects, -⟩ :=
        (Store.Alike.refl p.store _ s.files).reserve h.plain h.plain hattempt
      have hnew := Undisturbed.reserved executor (submission i) hstart h.plain halike hattempt
      have hadvance := h.advance (i := i) (r := r) (w := ⟨fs, s.plainWorld.state⟩)
        (fun b hb => absurd (hphase ▸ hb) Phase.Lacks.reserving.not_has) (fun j _ => hnone j)
        (hr ▸ .writing) haffects (p.madeFor_nil _) (by rwa [hr, hcalls])
      rwa [List.append_nil] at hadvance
    · rw [hstep]
      exact h.idle (hphase ▸ .reserving) hr

lemma IsIsolated.step_writing (h : IsIsolated p executor submission start s)
    (draw : ι → Nat → BaseId) (hphase : (s.runs i).phase = .writing (p.store.setOf base)) :
    IsIsolated p executor submission start (s.step p executor draw submission i) := by
  have hhas : (s.runs i).phase.Has p.store base := hphase ▸ .writing
  have hkept := h.undisturbed i base hhas
  obtain ⟨fs, -, -, hwrite, -, haffects, -⟩ := (Store.Alike.refl p.store base s.files).write
    h.plain h.plain hkept.held (Utf8.encode (submission i))
  have hsource : s.world.files.writeFile (p.store.setOf base).source
    (Utf8.encode (submission i)) = .ok fs := hwrite
  obtain ⟨r, hr, hphase'⟩ := writeSource_ok (r := s.runs i) hsource
  unfold Crowd.step
  rw [Pipeline.step_writing hphase, hr]
  have hnew := (hphase ▸ hkept).written h.plain hwrite
  have hproceed := h.proceed (r := r) (w := ⟨fs, s.plainWorld.state⟩) hhas (hphase' ▸ .building)
    haffects (p.madeFor_nil _) (by rwa [hphase', List.append_nil])
  rwa [List.append_nil] at hproceed

lemma IsIsolated.step_calling (h : IsIsolated p executor submission start s)
    (hconf : executor.IsConfined) (hkeeps : p.KeepsSources executor) (draw : ι → Nat → BaseId)
    (hhas : (s.runs i).phase.Has p.store base) {config : StageConfig}
    (hcalling : p.Calling (p.store.setOf base) (s.runs i).phase config) :
    IsIsolated p executor submission start (s.step p executor draw submission i) := by
  have hworld : s.world = s.plainWorld.withCalls s.calls := rfl
  have hkept := h.undisturbed i base hhas
  obtain ⟨r, hstep, hphase⟩ := Pipeline.step_calling executor (draw i) (submission i) s.plainWorld
    s.calls hcalling rfl
  unfold Crowd.step
  rw [hworld, hstep]
  refine h.proceed hhas (Phase.has_of_untimed (hphase ▸ hcalling.has_afterCall _))
    (hconf.affects config h.plain _) ?_ (hkept.called hconf hkeeps h.plain hcalling rfl hphase)
  intro c hc
  rw [List.mem_singleton.mp hc]
  exact ⟨config, rfl⟩

lemma IsIsolated.step_having (h : IsIsolated p executor submission start s)
    (hconf : executor.IsConfined) (hkeeps : p.KeepsSources executor) (draw : ι → Nat → BaseId)
    (hhas : (s.runs i).phase.Has p.store base) :
    IsIsolated p executor submission start (s.step p executor draw submission i) := by
  have hcall : ∀ config, p.Calling (p.store.setOf base) (s.runs i).phase config →
      IsIsolated p executor submission start (s.step p executor draw submission i) :=
    fun _ => h.step_calling hconf hkeeps draw hhas
  generalize hphase : (s.runs i).phase = phase at hhas hcall
  cases hhas with
  | writing => exact h.step_writing draw hphase
  | building => exact hcall _ .build
  | rendering => exact hcall _ .render
  | finished => rwa [step_of_finished hphase]

lemma IsIsolated.step (h : IsIsolated p executor submission start s) (hconf : executor.IsConfined)
    (hkeeps : p.KeepsSources executor) (hstart : p.store.IsPlain start.files)
    (draw : ι → Nat → BaseId) (i : ι) :
    IsIsolated p executor submission start (s.step p executor draw submission i) := by
  rcases h.known i with hlacks | ⟨base, hhas⟩
  · exact h.step_lacking hstart draw hlacks
  · exact h.step_having hconf hkeeps draw hhas

lemma IsIsolated.run (h : IsIsolated p executor submission start s) (hconf : executor.IsConfined)
    (hkeeps : p.KeepsSources executor) (hstart : p.store.IsPlain start.files)
    (draw : ι → Nat → BaseId) (moves : List (Store.Move ι)) :
    IsIsolated p executor submission start (s.run p executor draw submission moves) := by
  induction moves generalizing s with
  | nil => exact h
  | cons m rest ih =>
    cases m with
    | step i => exact ih (h.step hconf hkeeps hstart draw i)
    | pass nanos => exact ih (h.pass nanos)

/-- Runs side by side do not interfere. Whatever the order of their steps and the time between them,
each ends after twelve of its own. If it had got an identifier, then its outcome, its calls and the
files of that identifier are, times apart, those of a run that is alone and draws that identifier;
else it failed without a call. No two runs have an identifier or a file in common. -/
theorem runs_isolated (p : Pipeline) (executor : Executor σ) (draw : ι → Nat → BaseId)
    (submission : ι → String) (began : ι → Int) (w : World σ) (hplain : p.store.IsPlain w.files)
    (hconf : executor.IsConfined) (hkeeps : p.KeepsSources executor) (moves : List (Store.Move ι)) :
    let s := (Crowd.start w began).run p executor draw submission moves
    (∀ i, maxSteps ≤ moves.countP (isStepOf i) → ∃ o, (s.runs i).phase = .finished o) ∧
    (∀ i o, (s.runs i).phase = .finished o →
      (∃ elapsed, o = .failed none .allocation none elapsed) ∨
      ∃ base, o.base = some base ∧
        (∀ state, p.AloneComesTo executor (submission i) ⟨w.files, state⟩ base o
          (p.callsOf base s.calls) s.files) ∧
        (let build := p.build.invocation (p.store.setOf base)
         let render := p.render.invocation (p.store.setOf base)
         let asked := (p.callsOf base s.calls).map Call.invocation
         asked = [build] ∧ o.success = false ∨ asked = [build, render]) ∧
        (p.SparesSources executor → s.files.readFile (p.store.derive base .source) =
          .ok (Utf8.encode (submission i)))) ∧
    (∀ i j base base', i ≠ j → (s.runs i).phase.Has p.store base →
      (s.runs j).phase.Has p.store base' → base ≠ base' ∧
        ∀ c ∈ p.callsOf base s.calls, ∀ c' ∈ p.callsOf base' s.calls,
          ∀ f ∈ c.invocation.files, f ∉ c'.invocation.files) ∧
    ∀ c ∈ s.calls, ∃ i base, (s.runs i).phase.Has p.store base ∧ c ∈ p.callsOf base s.calls := by
  intro s
  have hstate : ∀ state, IsIsolated p executor submission ⟨w.files, state⟩ s := fun state =>
    (isIsolated_start executor submission w ⟨w.files, state⟩ began rfl hplain).run hconf hkeeps
      hplain draw moves
  have h := hstate w.state
  refine ⟨fun i => finished_of_steps p executor draw submission w began, fun i o ho => ?_,
    fun i j base base' hne hbase hbase' => ?_, h.owned⟩
  · rcases h.known i with hlacks | ⟨base, hhas⟩
    · rw [ho] at hlacks
      cases hlacks with
      | finished => exact Or.inl ⟨_, rfl⟩
    · have hkept := h.undisturbed i base hhas
      rw [ho] at hhas hkept
      cases hhas with
      | finished hbase =>
        refine Or.inr
          ⟨base, hbase, fun state => (hstate state).aloneComesTo ho hbase, ?_, fun hspares => ?_⟩
        · have hasked := hkept.asked
          dsimp only
          generalize (p.callsOf base s.calls).map Call.invocation = asked at hasked
          cases hasked with
          | unbuilt hfailed => exact Or.inl ⟨rfl, hfailed⟩
          | finished => exact Or.inr rfl
        · obtain ⟨mode, hsource⟩ := hkept.spared hspares Phase.noConfusion
          exact (h.plain base .source).readFile_eq_ok hsource
  · have hbases : base ≠ base' := by
      rintro rfl
      exact hne (h.distinct i j base hbase hbase')
    refine ⟨hbases, fun c hc c' hc' f hf hf' => hbases ?_⟩
    obtain ⟨role, rfl⟩ := h.derive_of_mem hbase hc hf
    obtain ⟨role', hrole'⟩ := h.derive_of_mem hbase' hc' hf'
    exact (p.store.derive_inj hrole').1

def exampleDraw (_ : Bool) : Nat → BaseId
  | 0 => default
  | _ => ⟨"L3D_11111111111111111111111111111111", by decide⟩

def exampleSubmission (i : Bool) : String := if i then "G" else "F"

/-- Two runs that draw the same candidates. -/
def examplePair (fs : FileSystem) (executor : Executor σ) (state : σ)
    (moves : List (Store.Move Bool)) : Crowd Bool σ :=
  (Crowd.start ⟨fs, state⟩ fun _ => 0).run examplePipeline executor exampleDraw exampleSubmission moves

def inTurn : List (Store.Move Bool) := (List.replicate maxSteps [.step false, .step true]).flatten

lemma isPlain_exampleTree : Store.exampleStore.IsPlain exampleTree :=
  Store.isPlain_of_entries _ (by decide) rfl

theorem runs_isolated_inTurn :
    let s := examplePair exampleTree (.scripted []) [] inTurn
    ∃ o, (s.runs true).phase = .finished o ∧ o.base = some (exampleDraw true 1) ∧
      examplePipeline.AloneComesTo (.scripted []) "G" ⟨exampleTree, []⟩ (exampleDraw true 1) o
        (examplePipeline.callsOf (exampleDraw true 1) s.calls) s.files ∧
      s.files.readFile (Store.exampleStore.derive (exampleDraw true 1) .source) =
        .ok (Utf8.encode "G") := by
  have hspares := examplePipeline.sparesSources_scripted []
  obtain ⟨hends, hkept, -⟩ := runs_isolated examplePipeline (.scripted []) exampleDraw
    exampleSubmission (fun _ => 0) ⟨exampleTree, []⟩ isPlain_exampleTree
    (Executor.isConfined_scripted []) hspares.keeps inTurn
  obtain ⟨o, ho⟩ := hends true (by decide)
  have hfinished : ((examplePair exampleTree (.scripted []) [] inTurn).runs true).phase =
      .finished (.succeeded (Store.exampleStore.setOf (exampleDraw true 1)) .zero) := by
    decide +kernel
  obtain rfl := Phase.finished.inj (hfinished.symm.trans ho)
  obtain ⟨elapsed, hfailed⟩ | ⟨base, hbase, halone, -, hsource⟩ := hkept true _ hfinished
  · cases hfailed
  · obtain rfl := Option.some.inj hbase
    exact ⟨_, hfinished, rfl, halone [], hsource hspares⟩

def idle : Executor Unit := .trying fun _ => []

def emptying : Executor Unit := .trying fun i => i.files.map fun f fs => fs.writeFile f []

def removing : Executor Unit := .trying fun i =>
  (i.args.head?.toList.map fun f fs => fs.removeFile f) ++ [fun fs => fs.writeFile i.expectedOutput []]

lemma isConfined_idle : idle.IsConfined := Executor.isConfined_trying fun _ _ hop => by cases hop

lemma isConfined_emptying : emptying.IsConfined := Executor.isConfined_trying fun i op hop => by
  obtain ⟨f, hf, rfl⟩ := List.mem_map.mp hop
  exact ⟨f, hf, actsAt_writeFile f []⟩

lemma isConfined_removing : removing.IsConfined := Executor.isConfined_trying fun i op hop => by
  rcases List.mem_append.mp hop with hop | hop
  · obtain ⟨f, hf, rfl⟩ := List.mem_map.mp hop
    exact ⟨f, List.mem_append_left _ hf, actsAt_removeFile f⟩
  · obtain rfl := List.mem_singleton.mp hop
    exact ⟨_, i.expectedOutput_mem, actsAt_writeFile _ []⟩

/-- The outputs of an identifier are there, but not its source. -/
def leftoverTree : FileSystem :=
  Store.treeOf [([Octets.ofAscii "s"], .directory),
    (Store.inStore (ArtifactName.ofRole default .mesh), .file [] 0o644 0),
    (Store.inStore (ArtifactName.ofRole default .image), .file [] 0o644 0)]

/-- The mesh of one identifier is a link to the source of another. -/
def linkedTree : FileSystem :=
  Store.treeOf [([Octets.ofAscii "s"], .directory),
    (Store.inStore (ArtifactName.ofRole default .mesh),
      .link (ArtifactName.ofRole (exampleDraw true 1) .source))]

/-- What runs of confined executors do not have. Sources can be changed by their own run; if they can
be taken away, two runs get one identifier; alone a run may draw another identifier, and find other
files there; and by a link one run can find the files of another. -/
theorem runs_not_isolated :
    (emptying.IsConfined ∧ removing.IsConfined ∧ idle.IsConfined ∧
      Store.exampleStore.IsPlain exampleTree ∧ Store.exampleStore.IsPlain leftoverTree) ∧
    (let s := examplePair exampleTree emptying () inTurn
     ∀ i, ∃ base, (s.runs i).phase = .finished (.succeeded (Store.exampleStore.setOf base) .zero) ∧
       s.files.readFile (Store.exampleStore.derive base .source) ≠
         .ok (Utf8.encode (exampleSubmission i))) ∧
    (let s := examplePair exampleTree removing ()
       (List.replicate 4 (.step false) ++ List.replicate 4 (.step true))
     ∀ i, (s.runs i).phase = .finished (.succeeded (Store.exampleStore.setOf default) .zero)) ∧
    (((examplePair leftoverTree idle () inTurn).runs true).phase =
        .finished (.failed (some (exampleDraw true 1)) .missingArtifact (some Stage.build.name) .zero) ∧
      (examplePipeline.run idle (exampleDraw true) (exampleSubmission true) ⟨leftoverTree, ()⟩).1 =
        some (.succeeded (Store.exampleStore.setOf default) .zero)) ∧
    ((examplePair linkedTree idle () inTurn).runs false).phase =
        .finished (.failed (some default) .missingArtifact (some Stage.render.name) .zero) ∧
      (examplePipeline.run idle (exampleDraw false) (exampleSubmission false) ⟨linkedTree, ()⟩).1 =
        some (.failed (some default) .missingArtifact (some Stage.build.name) .zero) := by
  refine ⟨⟨isConfined_emptying, isConfined_removing, isConfined_idle, isPlain_exampleTree,
    Store.isPlain_of_entries _ (by decide) rfl⟩, fun i => ?_, fun i => ?_, ⟨?_, ?_⟩, ?_, ?_⟩
  · cases i with
    | false => exact ⟨default, by decide +kernel, by decide +kernel⟩
    | true => exact ⟨exampleDraw true 1, by decide +kernel, by decide +kernel⟩
  · cases i <;> decide +kernel
  all_goals decide +kernel

end Crowd

end TreePipeline
