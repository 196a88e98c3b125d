import TreePipeline.Proofs.Pipeline.Crowd
import TreePipeline.Proofs.Pipeline.Narration

/-! Whose entry an entry of the log is. While a run has an identifier, all that it tells is within the
span of the identifier, however many other runs tell things in between. The last entry of each run is
told when that span was left. -/

namespace TreePipeline

variable {σ ι : Type}

def Phase.current? : Phase → Option ArtifactSet
  | .writing set | .building set | .rendering set => some set
  | .reserving _ | .finished _ => none

/-- What a run has told where it stands: nothing in a span before its identifier was reserved, all in
the span of the identifier from its start on, but for the end, which is in no span. -/
inductive Attributed (submission : String) : Phase → List LogEntry → Prop where
  | reserving {k} (passed : List BaseId) :
    Attributed submission (.reserving k) (passed.map .taken)
  | current {phase set} (h : phase.current? = some set) (passed : List BaseId) (es : List Event) :
    Attributed submission phase
      (passed.map .taken ++ set.base.span (.started set.base submission :: es))
  | unreserved {o} (h : o.base = none) (passed : List BaseId) (e : ArtifactError) :
    Attributed submission (.finished o) (passed.map .taken ++ [.refused e, o.closing])
  | finished {o base} (h : o.base = some base) (passed : List BaseId) (es : List Event) :
    Attributed submission (.finished o)
      (passed.map .taken ++ base.span (.started base submission :: es) ++ [o.closing])

namespace Attributed

variable {p : Pipeline} {draw : Nat → BaseId} {submission : String} {fs fs' : FileSystem}
  {phase phase' : Phase} {xs : List Exchange} {log es : List LogEntry}

lemma exists_current {set : ArtifactSet} (h : Attributed submission phase log)
    (hset : phase.current? = some set) : ∃ (passed : List BaseId) (es : List Event),
      log = passed.map .taken ++ set.base.span (.started set.base submission :: es) := by
  cases h with
  | reserving | unreserved | finished => cases hset
  | current hset' passed es =>
    obtain rfl := Option.some.inj (hset'.symm.trans hset)
    exact ⟨passed, es, rfl⟩

lemma exists_reserving {k : Nat} (h : Attributed submission (.reserving k) log) :
    ∃ passed : List BaseId, log = passed.map .taken := by
  cases h with
  | reserving passed => exact ⟨passed, rfl⟩
  | current hset => cases hset

lemma extend (h : Attributed submission phase log)
    (hstep : p.Says draw submission fs fs' phase phase' xs es) :
    Attributed submission phase' (log ++ es) := by
  cases hstep with
  | @passedOver k hrest =>
    obtain ⟨passed, rfl⟩ := h.exists_reserving
    have hlog : passed.map LogEntry.taken ++ [.taken (draw k)] = (passed ++ [draw k]).map .taken := by
      rw [List.map_append]
      rfl
    rw [hlog]
    exact .reserving _
  | refused hrest ho =>
    obtain ⟨passed, rfl⟩ := h.exists_reserving
    exact .unreserved ho.1 passed _
  | @reserved _ k hrest =>
    obtain ⟨passed, rfl⟩ := h.exists_reserving
    have hset : (Phase.writing (p.store.setOf (draw k))).current? = some (p.store.setOf (draw k)) := rfl
    exact .current hset passed []
  | written hwrite =>
    obtain ⟨passed, told, rfl⟩ := h.exists_current rfl
    rw [List.append_nil]
    exact .current rfl passed told
  | unwritten hwrite ho =>
    obtain ⟨passed, told, rfl⟩ := h.exists_current rfl
    rw [BaseId.span_join]
    exact .finished ho.1 passed _
  | built hx hes hpassed =>
    obtain ⟨passed, told, rfl⟩ := h.exists_current rfl
    rw [List.append_assoc, ← BaseId.span_append]
    exact .current rfl passed _
  | unbuilt hx hes hfailed ho =>
    obtain ⟨passed, told, rfl⟩ := h.exists_current rfl
    rw [BaseId.span_join]
    exact .finished ho passed _
  | rendered hx hes ho =>
    obtain ⟨passed, told, rfl⟩ := h.exists_current rfl
    rw [BaseId.span_join]
    exact .finished ho passed _
  | ended =>
    rw [List.append_nil]
    exact h

lemma step (h : Attributed submission phase log) (p : Pipeline) (executor : Executor σ)
    (draw : Nat → BaseId) {r : Run} (hr : r.phase = phase ∧ r.log = log) (w : World σ) :
    let x := p.step executor draw submission r w
    Attributed submission x.1.phase x.1.log := by
  obtain ⟨es, hlog, hstep⟩ := p.stepSays executor draw submission r w
  dsimp only
  rw [hlog, hr.2]
  rw [hr.1] at hstep
  exact h.extend hstep

lemma steps (p : Pipeline) (executor : Executor σ) (draw : Nat → BaseId) (submission : String)
    (w : World σ) (n : Nat) :
    let x := p.steps executor draw submission n (Run.start w.files) w
    Attributed submission x.1.phase x.1.log := by
  induction n with
  | zero => exact .reserving []
  | succ n ih =>
    simp only [Pipeline.steps_succ]
    exact ih.step p executor draw ⟨rfl, rfl⟩ _

end Attributed

namespace Crowd

variable [DecidableEq ι] (p : Pipeline) (executor : Executor σ) (draw : ι → Nat → BaseId)
  (submission : ι → String)

def tells (s : Crowd ι σ) : Store.Move ι → List (ι × LogEntry)
  | .step i => (((s.step p executor draw submission i).runs i).log.drop (s.runs i).log.length).map
      fun e => (i, e)
  | .pass _ => []

/-- All that is told by the runs, in the order in which they tell it. -/
def stream (s : Crowd ι σ) : List (Store.Move ι) → List (ι × LogEntry)
  | [] => []
  | m :: rest => s.tells p executor draw submission m ++
      (s.move p executor draw submission m).stream rest

def partOf (i : ι) (stream : List (ι × LogEntry)) : List LogEntry :=
  (stream.filter fun x => x.1 = i).map Prod.snd

omit σ in
lemma partOf_append (i : ι) (xs ys : List (ι × LogEntry)) :
    partOf i (xs ++ ys) = partOf i xs ++ partOf i ys := by
  rw [partOf, List.filter_append, List.map_append]
  rfl

lemma partOf_self (i : ι) (es : List LogEntry) : partOf i (es.map fun e => (i, e)) = es := by
  have hall : (es.map fun e => (i, e)).filter (fun x => x.1 = i) = es.map fun e => (i, e) :=
    List.filter_eq_self.mpr fun x hx => by
      obtain ⟨e, -, rfl⟩ := List.mem_map.mp hx
      exact decide_eq_true rfl
  rw [partOf, hall, List.map_map]
  exact List.map_id es

lemma partOf_other {i j : ι} (h : j ≠ i) (es : List LogEntry) :
    partOf i (es.map fun e => (j, e)) = [] := by
  have hnone : (es.map fun e => (j, e)).filter (fun x => x.1 = i) = [] :=
    List.filter_eq_nil_iff.mpr fun x hx => by
      obtain ⟨e, -, rfl⟩ := List.mem_map.mp hx
      exact fun hi => h (of_decide_eq_true hi)
  rw [partOf, hnone]
  rfl

lemma log_move (s : Crowd ι σ) (m : Store.Move ι) (i : ι) :
    ((s.move p executor draw submission m).runs i).log =
      (s.runs i).log ++ partOf i (s.tells p executor draw submission m) := by
  cases m with
  | pass nanos => exact (List.append_nil _).symm
  | step j =>
    by_cases hj : j = i
    · subst hj
      obtain ⟨es, hlog, -⟩ :=
        p.stepSays executor.traced (draw j) (submission j) (s.runs j) s.world
      have hself : ((s.step p executor draw submission j).runs j).log = (s.runs j).log ++ es := by
        rw [runs_step_self, hlog]
      rw [move, tells, partOf_self, hself, List.drop_left]
    · rw [move, tells, partOf_other hj, runs_step_of_ne p executor draw submission s hj,
        List.append_nil]

lemma log_run (s : Crowd ι σ) (moves : List (Store.Move ι)) (i : ι) :
    ((s.run p executor draw submission moves).runs i).log =
      (s.runs i).log ++ partOf i (s.stream p executor draw submission moves) := by
  induction moves generalizing s with
  | nil => exact (List.append_nil _).symm
  | cons m rest ih =>
    have hrest := ih (s.move p executor draw submission m)
    rw [log_move, List.append_assoc, ← partOf_append] at hrest
    exact hrest

lemma attributed_run (s : Crowd ι σ) (moves : List (Store.Move ι)) (i : ι)
    (h : Attributed (submission i) (s.runs i).phase (s.runs i).log) :
    let r := (s.run p executor draw submission moves).runs i
    Attributed (submission i) r.phase r.log := by
  -- a move of another run leaves this one as it is
  induction moves generalizing s with
  | nil => exact h
  | cons m rest ih =>
    refine ih (s.move p executor draw submission m) ?_
    cases m with
    | pass nanos => exact h
    | step j =>
      by_cases hj : j = i
      · subst hj
        rw [move, runs_step_self]
        exact h.step p executor.traced (draw j) ⟨rfl, rfl⟩ s.world
      · rw [move, runs_step_of_ne p executor draw submission s hj]
        exact h

end Crowd

namespace Pipeline

/-- Alone or among others, a run tells all in the span of its identifier, from its start to the entry
before the last; the last, which tells how it ended, is in no span. -/
theorem entries_attributed (p : Pipeline) (executor : Executor σ) :
    (∀ (draw : Nat → BaseId) (submission : String) (w : World σ),
      ∃ o log w', p.run executor draw submission w = (some o, log, w') ∧
        Attributed submission (.finished o) log) ∧
    ∀ {ι : Type} [DecidableEq ι] (draw : ι → Nat → BaseId) (submission : ι → String) (w : World σ)
      (began : ι → Int) (moves : List (Store.Move ι)) (i : ι),
      let s := Crowd.start w began
      let r := (s.run p executor draw submission moves).runs i
      Crowd.partOf i (s.stream p executor draw submission moves) = r.log ∧
        Attributed (submission i) r.phase r.log := by
  refine ⟨fun draw submission w => ?_, fun draw submission w began moves i => ⟨?_, ?_⟩⟩
  · obtain ⟨r, w', o, hsteps, hphase, hrun⟩ := p.exists_steps_of_run executor draw submission w
    have htold := Attributed.steps p executor draw submission w maxSteps
    rw [hsteps] at htold
    dsimp only at htold
    rw [hphase] at htold
    exact ⟨o, r.log, w', hrun, htold⟩
  · have hlog := Crowd.log_run p executor draw submission (Crowd.start w began) moves i
    rw [hlog]
    rfl
  · exact Crowd.attributed_run p executor draw submission (Crowd.start w began) moves i
      (.reserving [])

/-- A run with an identifier starts within its span and ends in none. -/
theorem closing_unattributed :
    (scriptedRun exampleTree []).1 = some exampleOutcome ∧ exampleOutcome.base = some default ∧
      (scriptedRun exampleTree []).2.1.head? =
        some ⟨some (default : BaseId).text, .started default "F"⟩ ∧
      (scriptedRun exampleTree []).2.1.getLast? = some ⟨none, .submissionFinished true 0 none⟩ := by
  refine ⟨by decide +kernel, rfl, by decide +kernel, by decide +kernel⟩

end Pipeline

end TreePipeline
