import TreePipeline.Proofs.Pipeline.Calls
import TreePipeline.Proofs.Store.Sharing

/-! Executors that keep to the files an invocation names. Such a call changes no file of another
submission, and comes to the same wherever those files are the same. -/

namespace TreePipeline

open FileSystem

variable {σ : Type}

/-- The paths by which an invocation names files, its input and its output. -/
def Invocation.files (i : Invocation) : List Octets := i.args.head?.toList ++ [i.expectedOutput]

def Invocation.IsPlain (i : Invocation) (fs : FileSystem) : Prop := ∀ f ∈ i.files, fs.IsPlainAt f

def Invocation.Names (i : Invocation) (fs : FileSystem) (l : Location) : Prop :=
  ∃ f ∈ i.files, fs.place? f = some l

/-- Trees that agree on what the invocation names, times apart. -/
structure Invocation.Agrees (i : Invocation) (fs fs' : FileSystem) : Prop where
  frame : fs.frame = fs'.frame
  plain : i.IsPlain fs
  plain' : i.IsPlain fs'
  standing : ∀ f ∈ i.files, fs.standing f = fs'.standing f

/-- The executor changes only files that the invocation names, and what it finds in these decides
whether the stage fails and what it leaves in them. -/
structure Executor.IsConfined (executor : Executor σ) : Prop where
  writes : ∀ (i : Invocation) (fs : FileSystem) (state : σ), i.IsPlain fs →
    fs.ChangesOnly (executor.execute i fs state).files (i.Names fs)
  reads : ∀ (i : Invocation) (fs fs' : FileSystem) (state state' : σ), i.Agrees fs fs' →
    Pipeline.stageFailure (executor.execute i fs state).answer =
        Pipeline.stageFailure (executor.execute i fs' state').answer ∧
      ∀ f ∈ i.files, (executor.execute i fs state).files.standing f =
        (executor.execute i fs' state').files.standing f

namespace Invocation

variable {i : Invocation} {fs fs' fs₁ fs₁' : FileSystem} {f : Octets}
  {op : FileSystem → Except SystemError FileSystem}

lemma expectedOutput_mem (i : Invocation) : i.expectedOutput ∈ i.files :=
  List.mem_append_right _ List.mem_cons_self

lemma IsPlain.changesOnly (hi : i.IsPlain fs) (hop : ActsAt f op) (hf : f ∈ i.files)
    (h : op fs = .ok fs₁) : fs.ChangesOnly fs₁ (i.Names fs) :=
  (hop.changes fs fs₁ (hi f hf) h).mono fun _ hl => ⟨f, hf, hl⟩

lemma Agrees.act (h : i.Agrees fs fs') (hop : ActsAt f op) (hf : f ∈ i.files) :
    (∃ e e', op fs = .error e ∧ op fs' = .error e') ∨
      ∃ fs₁ fs₁', op fs = .ok fs₁ ∧ op fs' = .ok fs₁' ∧ i.Agrees fs₁ fs₁' := by
  have hplain := h.plain f hf
  have hplain' := h.plain' f hf
  refine (hop.agrees fs fs' h.frame hplain hplain' (h.standing f hf)).imp_right ?_
  rintro ⟨fs₁, fs₁', hfs₁, hfs₁', hsame⟩
  have hchange := hop.changes fs fs₁ hplain hfs₁
  have hchange' := hop.changes fs' fs₁' hplain' hfs₁'
  refine ⟨fs₁, fs₁', hfs₁, hfs₁', ?_, fun g hg => hchange.isPlainAt (h.plain g hg),
    fun g hg => hchange'.isPlainAt (h.plain' g hg), fun g hg => ?_⟩
  · rw [hchange.frame, hchange'.frame, h.frame]
  obtain ⟨n, hn⟩ := hplain.named
  obtain ⟨m, hm⟩ := (h.plain g hg).named
  have hplaces : ∀ {path k : Octets}, Path.EndsIn path k → fs.place? path = fs'.place? path :=
    fun hk => place?_eq_of_frame h.frame hk.noSlash
  by_cases hgf : fs.place? g = fs.place? f
  · have hgf' : fs'.place? g = fs'.place? f := by rw [← hplaces hm, ← hplaces hn, hgf]
    rw [standing_congr ((hchange.place?_eq hm).trans (hgf.trans (hchange.place?_eq hn).symm)), hsame,
      standing_congr ((hchange'.place?_eq hm).trans (hgf'.trans (hchange'.place?_eq hn).symm))]
  · have hother : ∀ l, fs.place? g = some l → ¬ fs.place? f = some l := by
      rintro l hl hl'
      exact hgf (hl.trans hl'.symm)
    rw [hchange.standing_eq hm hother, h.standing g hg, hchange'.standing_eq hm]
    rwa [← hplaces hm, ← hplaces hn]

end Invocation

namespace Behavior

variable {i : Invocation} {fs fs' : FileSystem}

lemma changesOnly_act (b : Behavior) (hi : fs.IsPlainAt i.expectedOutput) :
    fs.ChangesOnly (b.act i fs).2 fun l => fs.place? i.expectedOutput = some l := by
  cases b with
  | produce =>
    unfold act
    cases hwrite : fs.writeFile i.expectedOutput (body i.stageName) with
    | error e => exact .refl fs _
    | ok fs₁ => exact (actsAt_writeFile _ _).changes fs fs₁ hi hwrite
  | «omit» | timeout | launchFailure => exact .refl fs _

lemma failure_resultOf (exit : ExitOutcome) (h : i.Agrees fs fs') :
    (resultOf i exit fs).failure = (resultOf i exit fs').failure := by
  have hout := i.expectedOutput_mem
  unfold StageResult.failure resultOf
  rw [(h.plain _ hout).pathExists_eq, (h.plain' _ hout).pathExists_eq, h.standing _ hout]

lemma act_agrees (b : Behavior) (h : i.Agrees fs fs') :
    Pipeline.stageFailure (b.act i fs).1 = Pipeline.stageFailure (b.act i fs').1 ∧
      ∀ f ∈ i.files, (b.act i fs).2.standing f = (b.act i fs').2.standing f := by
  cases b with
  | produce =>
    unfold act
    obtain ⟨e, e', he, he'⟩ | ⟨fs₁, fs₁', hwrite, hwrite', hagree⟩ :=
      h.act (actsAt_writeFile _ (body i.stageName)) i.expectedOutput_mem
    · rw [he, he']
      exact ⟨rfl, h.standing⟩
    · rw [hwrite, hwrite']
      exact ⟨failure_resultOf _ hagree, hagree.standing⟩
  | «omit» | timeout => exact ⟨failure_resultOf _ h, h.standing⟩
  | launchFailure => exact ⟨rfl, h.standing⟩

end Behavior

namespace Executor

lemma isConfined_scripted (table : List (String × Behavior)) : (scripted table).IsConfined where
  writes i _ _ hi := (Behavior.changesOnly_act _ (hi _ i.expectedOutput_mem)).mono
    fun _ hl => ⟨_, i.expectedOutput_mem, hl⟩
  reads _ _ _ _ _ h := Behavior.act_agrees _ h

def tried (fs : FileSystem) (op : FileSystem → Except SystemError FileSystem) : FileSystem :=
  (op fs).toOption.getD fs

def trying (ops : Invocation → List (FileSystem → Except SystemError FileSystem)) :
    Executor Unit where
  execute i fs _ :=
    let fs := (ops i).foldl tried fs
    ⟨.ok (Behavior.resultOf i (.exited 0) fs), fs, (), []⟩

variable {i : Invocation} {fs fs' : FileSystem} {f : Octets}
  {op : FileSystem → Except SystemError FileSystem}
  {ops : List (FileSystem → Except SystemError FileSystem)}

lemma changesOnly_tried (hi : i.IsPlain fs) (hop : ActsAt f op) (hf : f ∈ i.files) :
    fs.ChangesOnly (tried fs op) (i.Names fs) := by
  unfold tried
  cases hfs : op fs with
  | error e => exact .refl fs _
  | ok fs₁ => exact hi.changesOnly hop hf hfs

lemma changesOnly_foldl_tried (hi : i.IsPlain fs) (hops : ∀ op ∈ ops, ∃ f ∈ i.files, ActsAt f op) :
    fs.ChangesOnly (ops.foldl tried fs) (i.Names fs) := by
  induction ops generalizing fs with
  | nil => exact .refl fs _
  | cons op rest ih =>
    obtain ⟨f, hf, hop⟩ := hops op List.mem_cons_self
    have hfirst := changesOnly_tried hi hop hf
    have hrest := ih (fun g hg => hfirst.isPlainAt (hi g hg)) fun op' hop' =>
      hops op' (List.mem_cons_of_mem op hop')
    refine hfirst.trans (hrest.mono ?_)
    rintro l ⟨g, hg, hl⟩
    obtain ⟨n, hn⟩ := (hi g hg).named
    exact ⟨g, hg, (hfirst.place?_eq hn).symm.trans hl⟩

lemma agrees_foldl_tried (h : i.Agrees fs fs') (hops : ∀ op ∈ ops, ∃ f ∈ i.files, ActsAt f op) :
    i.Agrees (ops.foldl tried fs) (ops.foldl tried fs') := by
  induction ops generalizing fs fs' with
  | nil => exact h
  | cons op rest ih =>
    obtain ⟨f, hf, hop⟩ := hops op List.mem_cons_self
    refine ih ?_ fun op' hop' => hops op' (List.mem_cons_of_mem op hop')
    unfold tried
    obtain ⟨e, e', he, he'⟩ | ⟨fs₁, fs₁', hfs₁, hfs₁', hagree⟩ := h.act hop hf
    · rwa [he, he']
    · rwa [hfs₁, hfs₁']

lemma isConfined_trying {ops : Invocation → List (FileSystem → Except SystemError FileSystem)}
    (hops : ∀ i, ∀ op ∈ ops i, ∃ f ∈ i.files, ActsAt f op) : (trying ops).IsConfined where
  writes i _ _ hi := changesOnly_foldl_tried hi (hops i)
  reads i _ _ _ _ h :=
    have hagree := agrees_foldl_tried h (hops i)
    ⟨Behavior.failure_resultOf _ hagree, hagree.standing⟩

end Executor

section Calls

variable {store : Store} {config : StageConfig} {base base' : BaseId} {fs fs' : FileSystem}
  {executor : Executor σ} {f : Octets}

lemma StageConfig.files_invocation (config : StageConfig) (store : Store) (base : BaseId) :
    (config.invocation (store.setOf base)).files =
      [store.derive base config.stage.inputRole, store.derive base config.stage.outputRole] := by
  unfold Invocation.files invocation
  dsimp only
  rw [config.head?_args, store.path_setOf, store.path_setOf]
  rfl

lemma StageConfig.derive_of_mem_files (hf : f ∈ (config.invocation (store.setOf base)).files) :
    ∃ role, f = store.derive base role := by
  rw [config.files_invocation] at hf
  rcases List.mem_cons.mp hf with rfl | hf
  · exact ⟨_, rfl⟩
  · exact ⟨_, List.mem_singleton.mp hf⟩

lemma StageConfig.isPlain_invocation (hfs : store.IsPlain fs) :
    (config.invocation (store.setOf base)).IsPlain fs := by
  intro f hf
  obtain ⟨role, rfl⟩ := derive_of_mem_files hf
  exact hfs base role

lemma Executor.IsConfined.affects (h : executor.IsConfined) (config : StageConfig)
    (hfs : store.IsPlain fs) (state : σ) :
    store.Affects base fs
      (executor.execute (config.invocation (store.setOf base)) fs state).files := by
  refine Store.affects_of_changesOnly hfs (h.writes _ fs state (StageConfig.isPlain_invocation hfs)) ?_
  rintro l ⟨f, hf, hl⟩
  obtain ⟨role, rfl⟩ := StageConfig.derive_of_mem_files hf
  exact ⟨role, hl⟩

lemma Executor.IsConfined.standing_of_notMem (h : executor.IsConfined) (hfs : store.IsPlain fs)
    (state : σ) {role : Role}
    (hrole : store.derive base role ∉ (config.invocation (store.setOf base)).files) :
    (executor.execute (config.invocation (store.setOf base)) fs state).files.standing
      (store.derive base role) = fs.standing (store.derive base role) := by
  refine (h.writes _ fs state (StageConfig.isPlain_invocation hfs)).standing_eq
    (store.endsIn_derive base role) ?_
  rintro l hl ⟨f, hf, hl'⟩
  obtain ⟨role', rfl⟩ := StageConfig.derive_of_mem_files hf
  exact hrole ((Store.place?_derive_inj hl hl').2 ▸ hf)

lemma Executor.IsConfined.call (h : executor.IsConfined) (config : StageConfig)
    (hfs : store.IsPlain fs) (hfs' : store.IsPlain fs') (halike : store.Alike base fs fs')
    (state state' : σ) :
    Pipeline.stageFailure (executor.execute (config.invocation (store.setOf base)) fs state).answer =
        Pipeline.stageFailure
          (executor.execute (config.invocation (store.setOf base)) fs' state').answer ∧
      store.Alike base (executor.execute (config.invocation (store.setOf base)) fs state).files
        (executor.execute (config.invocation (store.setOf base)) fs' state').files := by
  have hagree : ∀ f ∈ (config.invocation (store.setOf base)).files, fs.standing f = fs'.standing f := by
    intro f hf
    obtain ⟨role, rfl⟩ := StageConfig.derive_of_mem_files hf
    exact halike.standing role
  obtain ⟨hfailure, hfiles⟩ := h.reads _ fs fs' state state'
    ⟨halike.frame, StageConfig.isPlain_invocation hfs, StageConfig.isPlain_invocation hfs', hagree⟩
  refine ⟨hfailure, ?_, fun role => ?_⟩
  · rw [(h.affects config hfs state).frame, (h.affects config hfs' state').frame, halike.frame]
  · by_cases hrole : store.derive base role ∈ (config.invocation (store.setOf base)).files
    · exact hfiles _ hrole
    · rw [h.standing_of_notMem hfs state hrole, h.standing_of_notMem hfs' state' hrole,
        halike.standing role]

end Calls

namespace Pipeline

def HasStage (p : Pipeline) (config : StageConfig) : Prop := config = p.build ∨ config = p.render

/-- No stage takes away the source of the submission it is run for. -/
def KeepsSources (p : Pipeline) (executor : Executor σ) : Prop :=
  ∀ config base fs state, p.HasStage config → p.store.IsPlain fs →
    fs.HoldsFile (p.store.derive base .source) →
    (executor.execute (config.invocation (p.store.setOf base)) fs state).files.HoldsFile
      (p.store.derive base .source)

/-- No stage changes it either. -/
def SparesSources (p : Pipeline) (executor : Executor σ) : Prop :=
  ∀ config base fs state, p.HasStage config → p.store.IsPlain fs →
    (executor.execute (config.invocation (p.store.setOf base)) fs state).files.standing
      (p.store.derive base .source) = fs.standing (p.store.derive base .source)

lemma SparesSources.keeps {p : Pipeline} {executor : Executor σ} (h : p.SparesSources executor) :
    p.KeepsSources executor := by
  rintro config base fs state hconfig hfs ⟨content, mode, hsource⟩
  exact ⟨content, mode, (h config base fs state hconfig hfs).trans hsource⟩

lemma sparesSources_scripted (p : Pipeline) (table : List (String × Behavior)) :
    p.SparesSources (.scripted table) := by
  intro config base fs state _ hfs
  have houtput : (config.invocation (p.store.setOf base)).expectedOutput =
      p.store.derive base config.stage.outputRole := p.store.path_setOf base _
  have hplain : fs.IsPlainAt (config.invocation (p.store.setOf base)).expectedOutput :=
    houtput ▸ hfs base _
  refine (Behavior.changesOnly_act _ hplain).standing_eq (p.store.endsIn_derive base .source) ?_
  intro l hl hl'
  rw [houtput] at hl'
  have hrole := (Store.place?_derive_inj hl hl').2
  generalize config.stage = stage at hrole
  cases stage <;> cases hrole

end Pipeline

end TreePipeline
