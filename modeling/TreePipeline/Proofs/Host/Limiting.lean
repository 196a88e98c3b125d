import TreePipeline.Proofs.Config.Limits
import TreePipeline.Proofs.Supervision.Ceiling
import TreePipeline.Host.Simulation

/-! Which CPU limits come to a ceiling. The greatest word stands for no limit, so the two greatest limits
do not: the hard one of the one is that word, and for that of the other there is no word. -/

namespace TreePipeline

open Host

namespace CpuCeiling

variable {limit : Duration} {c : CpuCeiling}

/-- The word that stands for no limit. -/
def unlimited : UInt64 := 0xffffffffffffffff

lemma toNat_unlimited : unlimited.toNat = 2 ^ 64 - 1 := rfl

lemma eq_unlimited_iff {w : UInt64} : w = unlimited ↔ w.toNat = 2 ^ 64 - 1 := by
  rw [← UInt64.toNat_inj, toNat_unlimited]

lemma ofLimit?_eq_none_iff : ofLimit? limit = none ↔ limit.secs.toNat = 2 ^ 64 - 1 := by
  have hmax : (max limit.secs 1).toNat = max limit.secs.toNat 1 := Duration.toNat_max limit.secs 1
  have htop : max limit.secs 1 = unlimited ↔ limit.secs.toNat = 2 ^ 64 - 1 := by
    rw [eq_unlimited_iff, hmax]
    omega
  rw [← htop]
  unfold ofLimit?
  dsimp only
  split
  · exact iff_of_true rfl ‹_›
  · exact iff_of_false (Option.some_ne_none _) ‹_›

lemma toNat_soft (h : ofLimit? limit = some c) : c.soft.toNat = max 1 limit.secs.toNat := by
  unfold ofLimit? at h
  dsimp only at h
  split at h
  · cases h
  · cases h
    exact (Duration.toNat_max limit.secs 1).trans (Nat.max_comm ..)

lemma hard_eq_unlimited_iff (h : ofLimit? limit = some c) :
    c.hard = unlimited ↔ limit.secs.toNat = 2 ^ 64 - 2 := by
  rw [eq_unlimited_iff, toNat_hard h]
  omega

/-- The warning comes after the whole seconds of the limit, or after the first one, and the kill one
second later and beyond the limit. -/
structure Encloses (c : CpuCeiling) (limit : Duration) : Prop where
  soft : c.soft.toNat = max 1 limit.secs.toNat
  hard : c.hard.toNat = c.soft.toNat + 1
  lt : c.soft < c.hard
  above : limit.total < c.hard.toNat * 10 ^ 9
  warns : c.soft ≠ unlimited

/-- The kill comes at all: its word does not stand for no limit. -/
structure IsReal (c : CpuCeiling) (limit : Duration) : Prop extends c.Encloses limit where
  kills : c.hard ≠ unlimited

lemma encloses_of_ofLimit? (h : ofLimit? limit = some c) : c.Encloses limit := by
  have hsoft := toNat_soft h
  have hhard : c.hard.toNat = c.soft.toNat + 1 := by
    rw [toNat_hard h, hsoft, Nat.max_comm]
  have hlt : c.soft < c.hard := by
    rw [UInt64.lt_iff_toNat_lt]
    omega
  have hword := c.hard.toNat_lt
  have hwarns : c.soft ≠ unlimited := fun htop => by
    rw [eq_unlimited_iff] at htop
    omega
  exact ⟨hsoft, hhard, hlt, total_lt_hardNanos h, hwarns⟩

lemma exists_isReal_iff :
    (∃ c, ofLimit? limit = some c ∧ c.IsReal limit) ↔ limit.secs.toNat < 2 ^ 64 - 2 := by
  have hword := limit.secs.toNat_lt
  constructor
  · rintro ⟨c, hc, hreal⟩
    have hhard : limit.secs.toNat ≠ 2 ^ 64 - 2 :=
      fun h => hreal.kills ((hard_eq_unlimited_iff hc).mpr h)
    have hsome : limit.secs.toNat ≠ 2 ^ 64 - 1 := fun h => by
      rw [ofLimit?_eq_none_iff.mpr h] at hc
      cases hc
    omega
  · intro hlt
    have hsome : ofLimit? limit ≠ none := fun h => by
      rw [ofLimit?_eq_none_iff] at h
      omega
    obtain ⟨c, hc⟩ := Option.ne_none_iff_exists'.mp hsome
    refine ⟨c, hc, encloses_of_ofLimit? hc, fun htop => ?_⟩
    rw [hard_eq_unlimited_iff hc] at htop
    omega

/-- The limits on CPU time that the two words are for a process. -/
def bounds (c : CpuCeiling) : Limit := ⟨Computer.boundOf c.soft, Computer.boundOf c.hard⟩

end CpuCeiling

namespace Host

namespace Computer

variable {c : Computer} {p : Process} {used nanos : Nat}

lemma boundOf_eq_none_iff {w : UInt64} : boundOf w = none ↔ w = CpuCeiling.unlimited := by
  unfold boundOf
  split
  · exact iff_of_true rfl ‹_›
  · exact iff_of_false (Option.some_ne_none _) ‹_›

lemma reachesLimit_boundOf {w : UInt64} : reachesLimit used (boundOf w) = true ↔
    w ≠ CpuCeiling.unlimited ∧ w.toNat * 10 ^ 9 ≤ used := by
  by_cases htop : w = CpuCeiling.unlimited
  · rw [boundOf_eq_none_iff.mpr htop]
    simp [reachesLimit, htop]
  · have hbound : boundOf w = some w.toNat := if_neg htop
    rw [hbound]
    simp [reachesLimit, htop]

end Computer

/-! A process at work that ignores the warning -/

structure Process.Endures (p : Process) (hard : Option Nat) (used : Nat) : Prop where
  alive : p.isDead = false
  ignores : p.disposition Signal.cpuLimit = .ignored
  limit : (p.limit .cpu).hard = hard
  used : p.cpuUsed = used

namespace Computer

variable {c : Computer} {p r : Process} {pid used nanos : Nat} {hard : Option Nat}

def IsEnduring (c : Computer) (pid : Nat) (hard : Option Nat) (used : Nat) : Prop :=
  ∃ p, c.process? pid = some p ∧ p.Endures hard used

def IsGone (c : Computer) (pid : Nat) : Prop := ∀ p, c.process? pid = some p → p.isDead = true

lemma IsEnduring.not_isGone (h : c.IsEnduring pid hard used) : ¬ c.IsGone pid := by
  obtain ⟨p, hp, henduring⟩ := h
  intro hgone
  have hdead := hgone p hp
  rw [henduring.alive] at hdead
  cases hdead

lemma mem_of_process? (hp : c.process? pid = some p) : p ∈ c.processes ∧ p.pid = pid := by
  have hpid := List.find?_some hp
  exact ⟨List.mem_of_find?_eq_some hp, of_decide_eq_true hpid⟩

lemma process?_setProcess (hr : c.process? p.pid = some r) :
    (c.setProcess p).process? p.pid = some p := by
  have hentry : ((fun q : Process => decide (q.pid = p.pid)) ∘
      fun q => if q.pid = p.pid then p else q) = fun q => decide (q.pid = p.pid) := by
    funext q
    rw [Function.comp_apply]
    split
    · rename_i hq
      rw [hq]
    · rfl
  obtain ⟨-, hpid⟩ := mem_of_process? hr
  rw [process?] at hr ⊢
  rw [setProcess, List.find?_map, hentry, hr, Option.map_some, if_pos hpid]

def heir (p : Process) (status : UInt32) (r : Process) : Option Process :=
  if r.pid = p.pid then
    if p.parent = 1 then none
    else some { p with activity := .dead status, descriptors := [], pending := [] }
  else if r.pid = p.parent then some (noteChild r)
  else if r.parent = p.pid then if r.isDead then none else some { r with parent := 1 }
  else some r

lemma heir_eq_some {status : UInt32} {r' : Process} (h : heir p status r = some r') :
    r'.isDead = true ∨ r'.pid = r.pid ∧ r.pid ≠ p.pid := by
  rw [heir] at h
  by_cases hself : r.pid = p.pid
  · rw [if_pos hself] at h
    obtain rfl := Option.some.inj (Option.ite_none_left_eq_some.mp h).2
    exact Or.inl rfl
  rw [if_neg hself] at h
  refine Or.inr ⟨?_, hself⟩
  by_cases hparent : r.pid = p.parent
  · rw [if_pos hparent] at h
    obtain rfl := Option.some.inj h
    unfold noteChild
    split <;> rfl
  rw [if_neg hparent] at h
  by_cases hchild : r.parent = p.pid
  · rw [if_pos hchild] at h
    obtain rfl := Option.some.inj (Option.ite_none_left_eq_some.mp h).2
    rfl
  · rw [if_neg hchild] at h
    rw [Option.some.inj h]

lemma isGone_die (halive : p.isDead = false) (status : UInt32) : (c.die p status).IsGone p.pid := by
  have hprocesses : (c.die p status).processes = c.processes.filterMap (heir p status) := by
    rw [die, halive]
    rfl
  intro q hq
  obtain ⟨hmem, hpid⟩ := mem_of_process? hq
  rw [hprocesses] at hmem
  obtain ⟨r, -, hheir⟩ := List.mem_filterMap.mp hmem
  rcases heir_eq_some hheir with hdead | ⟨hpid', hother⟩
  · exact hdead
  · exact absurd (hpid'.symm.trans hpid) hother

lemma isGone_consume (h : p.Endures hard used) (hreached : reachesLimit (used + nanos) hard = true) :
    (c.consume p nanos).IsGone p.pid := by
  obtain ⟨halive, -, rfl, rfl⟩ := h
  let worked : Process := { p with cpuUsed := p.cpuUsed + nanos }
  have hworked : worked.isDead = false := halive
  have hkill : c.consume p nanos = (c.setProcess worked).deliver worked Signal.kill := if_pos hreached
  have hdie : (c.setProcess worked).deliver worked Signal.kill =
      (c.setProcess worked).die worked (WaitStatus.ofSignal Signal.kill) := by
    rw [deliver, hworked]
    rfl
  rw [hkill, hdie]
  exact isGone_die hworked _

lemma deliver_ignored (h : p.Endures hard used) : c.deliver p Signal.cpuLimit = c := by
  rw [deliver, h.alive, h.ignores]
  rfl

lemma isEnduring_consume (hr : c.process? p.pid = some r) (h : p.Endures hard used)
    (hshort : reachesLimit (used + nanos) hard = false) :
    (c.consume p nanos).IsEnduring p.pid hard (used + nanos) := by
  obtain ⟨halive, hignores, rfl, rfl⟩ := h
  let worked : Process := { p with cpuUsed := p.cpuUsed + nanos }
  let warned : Process := worked.setLimit .cpu
    { p.limit .cpu with soft := (p.limit .cpu).soft.map (· + 1) }
  have hworked : worked.Endures (p.limit .cpu).hard (p.cpuUsed + nanos) := ⟨halive, hignores, rfl, rfl⟩
  have hwarned : warned.Endures (p.limit .cpu).hard (p.cpuUsed + nanos) := ⟨halive, hignores, rfl, rfl⟩
  have hconsume : c.consume p nanos =
      if reachesLimit (p.cpuUsed + nanos) (p.limit .cpu).soft = true then
        (c.setProcess warned).deliver warned Signal.cpuLimit
      else c.setProcess worked :=
    if_neg (Bool.eq_false_iff.mp hshort)
  rw [hconsume]
  split
  · rw [deliver_ignored hwarned]
    exact ⟨warned, process?_setProcess (p := warned) hr, hwarned⟩
  · exact ⟨worked, process?_setProcess (p := worked) hr, hworked⟩

/-- What a process goes on with, after what time, and how much of that is work. -/
structure Turn where
  program : Program
  cost : Nat
  work : Nat

def takeTurn (pid : Nat) (c : Computer) (t : Turn) : Computer := c.goOn pid t.program t.cost t.work

lemma IsGone.takeTurn (h : c.IsGone pid) (t : Turn) : c.takeTurn pid t = c := by
  unfold Computer.takeTurn goOn
  split
  · rfl
  · exact if_pos (h _ ‹_›)

lemma IsEnduring.takeTurn (h : c.IsEnduring pid hard used) (t : Turn) :
    if reachesLimit (used + t.work) hard = true then (c.takeTurn pid t).IsGone pid
    else (c.takeTurn pid t).IsEnduring pid hard (used + t.work) := by
  obtain ⟨p, hp, halive, hignores, hlimit, hused⟩ := h
  obtain ⟨readyAt, hturn⟩ : ∃ readyAt, c.takeTurn pid t =
      c.consume { p with activity := .running t.program, readyAt := readyAt } t.work := by
    unfold Computer.takeTurn goOn
    rw [hp]
    dsimp only
    rw [halive]
    exact ⟨_, rfl⟩
  let going : Process := { p with activity := .running t.program, readyAt := readyAt }
  have hgoing : going.Endures hard used := ⟨rfl, hignores, hlimit, hused⟩
  obtain ⟨-, rfl⟩ := mem_of_process? hp
  rw [hturn]
  split
  · exact isGone_consume hgoing ‹_›
  · exact isEnduring_consume (p := going) hp hgoing (Bool.not_eq_true _ |>.mp ‹_›)

lemma reachesLimit_mono {more : Nat} (hle : used ≤ more) (h : reachesLimit used hard = true) :
    reachesLimit more hard = true := by
  cases hard with
  | none => cases h
  | some seconds =>
    rw [reachesLimit, decide_eq_true_eq] at h ⊢
    exact h.trans hle

def takeTurns (c : Computer) (pid : Nat) (turns : List Turn) : Computer :=
  turns.foldl (takeTurn pid) c

def workOf : List Turn → Nat
  | [] => 0
  | t :: rest => t.work + workOf rest

lemma IsGone.takeTurns (h : c.IsGone pid) (turns : List Turn) : c.takeTurns pid turns = c := by
  induction turns with
  | nil => rfl
  | cons t rest ih =>
    rw [Computer.takeTurns, List.foldl_cons, h.takeTurn t]
    exact ih

lemma IsEnduring.takeTurns (h : c.IsEnduring pid hard used)
    (hshort : reachesLimit used hard = false) (turns : List Turn) :
    if reachesLimit (used + workOf turns) hard = true then (c.takeTurns pid turns).IsGone pid
    else (c.takeTurns pid turns).IsEnduring pid hard (used + workOf turns) := by
  induction turns generalizing c used with
  | nil =>
    have hnothing : used + workOf [] = used := rfl
    rw [hnothing, hshort]
    exact h
  | cons t rest ih =>
    have hwork : used + workOf (t :: rest) = used + t.work + workOf rest := by
      simp only [workOf, Nat.add_assoc]
    have hturns : c.takeTurns pid (t :: rest) = (c.takeTurn pid t).takeTurns pid rest := rfl
    have hturn := h.takeTurn t
    rw [hwork, hturns]
    by_cases hreached : reachesLimit (used + t.work) hard = true
    · rw [if_pos hreached] at hturn
      rw [if_pos (reachesLimit_mono (Nat.le_add_right _ _) hreached), hturn.takeTurns rest]
      exact hturn
    · rw [if_neg hreached] at hturn
      exact ih hturn (Bool.not_eq_true _ |>.mp hreached)

lemma processes_begin (c : Computer) (loaded : Loaded) (env : Env) (ceiling : CpuCeiling)
    (wallLimit : Duration) : ∃ p, (c.begin loaded env ceiling wallLimit).processes = [p] ∧
      p.isDead = false ∧ p.activity = .running loaded.program ∧ p.limit .cpu = ceiling.bounds ∧
      p.cpuUsed = 0 :=
  ⟨_, rfl, rfl, rfl, rfl, rfl⟩

end Computer

namespace Simulation

variable {inherited : Env} {i : Invocation} {fs : FileSystem} {c : Computer}
  {launched : FileSystem × Computer}

lemma limits_of_launch (h : (machine inherited).launchChecked i fs c = .ok launched) :
    ∃ p, launched.2.processes = [p] ∧ p.isDead = false ∧ p.cpuUsed = 0 ∧
      match CpuCeiling.ofLimit? i.cpuLimit with
      | some ceiling => p.limit .cpu = ceiling.bounds
      | none => p.activity = .running unlimitable := by
  rw [Machine.launchChecked] at h
  split at h
  · cases h
  · generalize CpuCeiling.ofLimit? i.cpuLimit = ceiling at h ⊢
    cases ceiling with
    | none =>
      obtain rfl := Except.ok.inj h
      obtain ⟨p, hp, halive, hactivity, -, hused⟩ := Computer.processes_begin _ _ _ _ _
      exact ⟨p, hp, halive, hused, hactivity⟩
    | some ceiling =>
      simp only [machine, machinery] at h
      split at h
      · cases h
      · obtain rfl := Except.ok.inj h
        obtain ⟨p, hp, halive, -, hlimit, hused⟩ := Computer.processes_begin _ _ _ _ _
        exact ⟨p, hp, halive, hused, hlimit⟩

end Simulation

end Host

namespace CpuCeiling

lemma isGone_takeTurns_iff {computer : Computer} {pid used : Nat} (h : ofLimit? limit = some c)
    (henduring : computer.IsEnduring pid c.bounds.hard used)
    (hshort : Computer.reachesLimit used c.bounds.hard = false) (turns : List Computer.Turn) :
    (computer.takeTurns pid turns).IsGone pid ↔
      c.IsReal limit ∧ c.hardNanos ≤ used + Computer.workOf turns := by
  have hreal : c.IsReal limit ↔ c.hard ≠ unlimited :=
    ⟨IsReal.kills, fun hkills => ⟨encloses_of_ofLimit? h, hkills⟩⟩
  have hreaches : Computer.reachesLimit (used + Computer.workOf turns) c.bounds.hard = true ↔
      c.hard ≠ unlimited ∧ c.hardNanos ≤ used + Computer.workOf turns := Computer.reachesLimit_boundOf
  have hturns := henduring.takeTurns hshort turns
  rw [hreal, ← hreaches]
  split at hturns
  · exact iff_of_true hturns ‹_›
  · exact iff_of_false hturns.not_isGone ‹_›

/-- The limits that come to a real ceiling are those below `2 ^ 64 - 2` seconds. With that one, which is
accepted with a factor of one, a tool that ignores the warning may work for ever, and with the one
above no tool is started. -/
theorem real_below_top (limit : Duration) :
    ((∃ c, ofLimit? limit = some c ∧ c.IsReal limit) ↔ limit.secs.toNat < 2 ^ 64 - 2) ∧
    (∀ c, ofLimit? limit = some c →
      c.Encloses limit ∧ (c.hard = unlimited ↔ limit.secs.toNat = 2 ^ 64 - 2)) ∧
    (ofLimit? limit = none ↔ limit.secs.toNat = 2 ^ 64 - 1) ∧
    (∀ config : Config, config.IsAccepted → ∀ stage s, StageConfig.ofConfig? config stage = some s →
      ∀ set, (s.invocation set).cpuLimit = limit →
        limit = .ofSecs config.cpuLimitSecs ∧ 1 ≤ config.cpuLimitSecs.toNat ∧
          ((∃ c, ofLimit? limit = some c ∧ c.IsReal limit ∧ c.soft = config.cpuLimitSecs) ↔
            config.cpuLimitSecs.toNat < 2 ^ 64 - 2)) ∧
    (∀ (inherited : Env) (i : Invocation) (fs : FileSystem) (computer : Computer)
      (launched : FileSystem × Computer), i.cpuLimit = limit →
      (Simulation.machine inherited).launchChecked i fs computer = .ok launched →
      ∃ p, launched.2.processes = [p] ∧ p.isDead = false ∧ p.cpuUsed = 0 ∧
        match ofLimit? limit with
        | some c => p.limit .cpu = c.bounds
        | none => p.activity = .running Simulation.unlimitable) ∧
    ∀ c, ofLimit? limit = some c → ∀ (computer : Computer) (pid used : Nat)
      (turns : List Computer.Turn), computer.IsEnduring pid c.bounds.hard used →
      Computer.reachesLimit used c.bounds.hard = false →
      ((computer.takeTurns pid turns).IsGone pid ↔
        c.IsReal limit ∧ c.hardNanos ≤ used + Computer.workOf turns) := by
  refine ⟨exists_isReal_iff, fun c hc => ⟨encloses_of_ofLimit? hc, hard_eq_unlimited_iff hc⟩,
    ofLimit?_eq_none_iff, ?_, ?_,
    fun c hc _ _ _ turns henduring hshort => isGone_takeTurns_iff hc henduring hshort turns⟩
  · rintro config haccepted stage s hs set rfl
    obtain ⟨-, hsecs, -⟩ := Config.limits_of_ofConfig? hs
    have hlimit : (s.invocation set).cpuLimit = .ofSecs config.cpuLimitSecs :=
      congrArg Duration.ofSecs hsecs
    have hpos := Config.cpuLimitSecs_pos haccepted.validate_eq_ok
    have hiff : (∃ c, ofLimit? (.ofSecs config.cpuLimitSecs) = some c ∧
        c.IsReal (.ofSecs config.cpuLimitSecs)) ↔ config.cpuLimitSecs.toNat < 2 ^ 64 - 2 :=
      exists_isReal_iff
    rw [hlimit, ← hiff]
    refine ⟨rfl, hpos, ?_⟩
    refine ⟨fun ⟨c, hc, hreal, _⟩ => ⟨c, hc, hreal⟩, fun ⟨c, hc, hreal⟩ => ⟨c, hc, hreal, ?_⟩⟩
    rw [← UInt64.toNat_inj, hreal.soft]
    exact Nat.max_eq_right hpos
  · rintro inherited i fs computer launched rfl
    exact Simulation.limits_of_launch

/-- A tree in which the tool that builds is there to be run. -/
def toolTree : FileSystem :=
  Store.treeOf [([Octets.ofAscii "bin"], .directory),
    ([Octets.ofAscii "bin", Octets.ofAscii "meshpro"], .file (Loader.binary "true") 0o755 0)]

/-- The settings with a limit of so many seconds, and a deadline after as many. -/
def limited (secs : UInt64) : Config :=
  { Config.exampleDefaults with cpuLimitSecs := secs, wallFactor := 1 }

/-- What builds under these settings. -/
def limitedBuild (secs : UInt64) : StageConfig where
  stage := .build
  program := "meshpro"
  cpuLimitSecs := secs
  wallLimitSecs := secs
  captureLimit := 65536
  iterations := none
  display := none

def limitedLaunch (secs : UInt64) : Invocation :=
  (limitedBuild secs).invocation (Store.exampleStore.setOf default)

def ignoring (c : Computer) (p : Process) : Computer :=
  { c with processes := [{ p with dispositions := [(Signal.cpuLimit, .ignored)] }] }

theorem real_below_top_greatest :
    let config := limited 18446744073709551613
    let i := limitedLaunch 18446744073709551613
    Config.ofEnvironment Config.exampleDefaults
        (Config.limitsLookup "18446744073709551613" "1") = .ok config ∧
      StageConfig.ofConfig? config .build = some (limitedBuild 18446744073709551613) ∧
      ∃ c launched p, ofLimit? i.cpuLimit = some c ∧ c.IsReal i.cpuLimit ∧
        c.hard.toNat = 2 ^ 64 - 2 ∧
        (Simulation.machine []).launchChecked i toolTree (.idle toolTree) = .ok launched ∧
        launched.2.processes = [p] ∧ p.limit .cpu = c.bounds ∧
        ((ignoring launched.2 p).takeTurns p.pid [⟨.exit 0, 0, c.hardNanos⟩]).IsGone p.pid := by
  intro config i
  have hread : Config.ofEnvironment Config.exampleDefaults
      (Config.limitsLookup "18446744073709551613" "1") = .ok config := by
    decide +kernel
  have hstage : StageConfig.ofConfig? config .build = some (limitedBuild 18446744073709551613) := by
    decide
  have hlaunches : ((Simulation.machine []).launchChecked i toolTree (.idle toolTree)).isOk = true := by
    decide +kernel
  obtain ⟨launched, hlaunch⟩ : ∃ launched,
      (Simulation.machine []).launchChecked i toolTree (.idle toolTree) = .ok launched := by
    generalize (Simulation.machine []).launchChecked i toolTree (.idle toolTree) = answer at hlaunches
    cases answer with
    | error e => cases hlaunches
    | ok launched => exact ⟨launched, rfl⟩
  obtain ⟨-, -, -, haccepted, hlaunched, hgone⟩ := real_below_top i.cpuLimit
  obtain ⟨-, -, hiff⟩ := haccepted config (.environment _ _ hread) _ _ hstage
    (Store.exampleStore.setOf default) rfl
  obtain ⟨c, hc, hreal, hsoft⟩ := hiff.mpr (by decide)
  obtain ⟨p, hp, halive, hused, hlimits⟩ :=
    hlaunched [] i toolTree (.idle toolTree) launched rfl hlaunch
  rw [hc] at hlimits
  have hhard : c.hard.toNat = 2 ^ 64 - 2 := by
    rw [hreal.hard, hsoft]
    rfl
  refine ⟨hread, hstage, c, launched, p, hc, hreal, hhard, hlaunch, hp, hlimits, ?_⟩
  have hentry : (ignoring launched.2 p).process? p.pid =
      some { p with dispositions := [(Signal.cpuLimit, .ignored)] } :=
    List.find?_cons_of_pos (decide_eq_true rfl)
  have hshort : Computer.reachesLimit 0 c.bounds.hard = false := by
    refine Bool.eq_false_iff.mpr fun hreaches => ?_
    have hnanos := (Computer.reachesLimit_boundOf.mp hreaches).2
    rw [hhard] at hnanos
    omega
  have hwork : 0 + Computer.workOf [⟨.exit 0, 0, c.hardNanos⟩] = c.hardNanos := by
    simp [Computer.workOf]
  have henduring : (ignoring launched.2 p).IsEnduring p.pid c.bounds.hard 0 :=
    ⟨_, hentry, halive, rfl, congrArg Limit.hard hlimits, hused⟩
  exact (hgone c hc _ _ _ _ henduring hshort).mpr ⟨hreal, hwork.ge⟩

/-- The two limits above are accepted, but the one kills nothing however long it works, and with the
other the process that is started is not the tool. -/
theorem accepted_without_ceiling :
    (∃ c, Config.ofEnvironment Config.exampleDefaults
        (Config.limitsLookup "18446744073709551614" "1") = .ok (limited 18446744073709551614) ∧
      StageConfig.ofConfig? (limited 18446744073709551614) .build =
        some (limitedBuild 18446744073709551614) ∧
      ofLimit? (limitedLaunch 18446744073709551614).cpuLimit = some c ∧ c.hard = unlimited ∧
      ∀ used, Computer.reachesLimit used c.bounds.hard = false) ∧
    Config.ofEnvironment Config.exampleDefaults
        (Config.limitsLookup "18446744073709551615" "1") = .ok (limited 18446744073709551615) ∧
      StageConfig.ofConfig? (limited 18446744073709551615) .build =
        some (limitedBuild 18446744073709551615) ∧
      ofLimit? (limitedLaunch 18446744073709551615).cpuLimit = none ∧
      ∃ launched p, (Simulation.machine []).launchChecked (limitedLaunch 18446744073709551615)
          toolTree (.idle toolTree) = .ok launched ∧
        launched.2.processes = [p] ∧ p.activity = .running Simulation.unlimitable :=
  ⟨⟨⟨18446744073709551614, 18446744073709551615⟩, by decide +kernel, by decide, by decide, rfl,
      fun _ => rfl⟩,
    by decide +kernel, by decide, by decide, _, _, rfl, rfl, rfl⟩

end CpuCeiling

end TreePipeline
