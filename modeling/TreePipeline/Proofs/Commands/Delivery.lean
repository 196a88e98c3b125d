import TreePipeline.Commands.Run
import TreePipeline.Proofs.Pipeline.Discretion
import TreePipeline.Proofs.Text.Utf8

/-! What becomes of a grammar that the program is given. It stands octet by octet in its source when the
first tool is called, or no tool is called at all; and if it cannot be read, or the settings are refused,
nothing has changed. -/

namespace TreePipeline

open FileSystem

variable {σ : Type}

/-! Opening the store -/

lemma Store.keeps_openAt {fs fs' : FileSystem} {root : Octets} {store : Store}
    (h : openAt fs root = .ok (store, fs')) : fs.Keeps fs' := by
  unfold openAt at h
  split at h
  · rename_i hmake
    obtain ⟨-, rfl⟩ := Prod.mk.inj (Except.ok.inj h)
    exact FileSystem.keeps_makeDirectories hmake
  · cases h

lemma Pipeline.keeps_openWith {c : Config} {fs fs' : FileSystem} {p : Pipeline}
    (h : openWith c fs = (.ok p, fs')) : fs.Keeps fs' := by
  unfold openWith at h
  generalize StageConfig.build? c = build, StageConfig.render? c = render,
    hopen : Store.openAt fs (Utf8.encode c.artifactDir) = opened at h
  obtain _ | ⟨store, opened⟩ := opened
  · cases h
  · have hkeeps := Store.keeps_openAt hopen
    obtain _ | build := build
    · cases h
    · obtain _ | render := render
      · cases h
      · obtain ⟨-, rfl⟩ := Prod.mk.inj h
        exact hkeeps

/-! Reports -/

namespace Report

variable {r r' : Report}

def opening : List Char := "\x7b\n  \"success\": ".toList

lemma pretty_eq (r : Report) : ∃ rest, r.toJson.pretty.toList =
    opening ++ (Json.scalarText (.bool r.success) ++ rest) := by
  obtain ⟨success, elapsed, mesh, image, message, time⟩ := r
  simp only [toJson, List.cons_append, Json.pretty, Json.textAt, String.toList_ofList,
    List.append_assoc]
  exact ⟨_, rfl⟩

lemma success_of_pretty (h : r.toJson.pretty = r'.toJson.pretty) : r.success = r'.success := by
  obtain ⟨rest, hr⟩ := pretty_eq r
  obtain ⟨rest', hr'⟩ := pretty_eq r'
  have htext := List.append_cancel_left (hr.symm.trans ((congrArg String.toList h).trans hr'))
  cases hs : r.success <;> cases hs' : r'.success <;> simp_all [Json.scalarText]

lemma ne_pretty (r : Report) : "" ≠ r.toJson.pretty ++ "\n" := by
  intro h
  have hchars := congrArg String.toList h
  rw [String.toList_append] at hchars
  simp at hchars

end Report

/-- The session with everything on record that passes between it and what runs its stages. -/
def Session.observed (s : Session σ) : Session (σ × List Exchange) where
  environment? := s.environment?
  input := s.input
  draw := s.draw
  executor probe := (s.executor probe).observed

namespace Commands

variable {s : Session σ} {c : Config} {input : Option String} {skip : Bool} {fs fs' : FileSystem}
  {text : String} {octets : Octets} {w w' : World σ} {e : Ending} {xs : List Exchange} {p : Pipeline}
  {set : ArtifactSet}

/-- What the grammar is to be read from holds these octets. -/
def Supplies (s : Session σ) (input : Option String) (fs : FileSystem) (octets : Octets) : Prop :=
  match input with
  | some path => fs.readFile (Utf8.encode path) = .ok octets
  | none => s.input = .ok octets

lemma asText_eq_ok_iff : asText octets = .ok text ↔ octets = Utf8.encode text := by
  rw [← Utf8.decode?_eq_some_iff]
  unfold asText
  cases Utf8.decode? octets <;> simp

lemma bind_asText_eq_ok_iff {found : Except SystemError Octets} :
    found.bind asText = .ok text ↔ found = .ok (Utf8.encode text) := by
  cases found with
  | error e => exact ⟨(fun h => nomatch h), (fun h => nomatch h)⟩
  | ok octets => exact asText_eq_ok_iff.trans (by rw [Except.ok.injEq])

lemma readGrammar_eq_ok_iff :
    readGrammar s input fs = .ok text ↔ Supplies s input fs (Utf8.encode text) := by
  unfold readGrammar Supplies
  cases input with
  | some path =>
    have hread : fs.readText (Utf8.encode path) = .ok text ↔ _ := bind_asText_eq_ok_iff
    simp only [← hread]
    cases fs.readText (Utf8.encode path) <;> simp
  | none =>
    simp only [← bind_asText_eq_ok_iff]
    cases s.input.bind asText <;> simp

lemma exists_supplies (h : readGrammar s input fs = .ok text) :
    ∃ octets, Supplies s input fs octets ∧ Utf8.decode? octets = some text :=
  ⟨_, readGrammar_eq_ok_iff.mp h, Utf8.decode?_eq_some_iff.mpr rfl⟩

/-! The command -/

inductive Delivery (s : Session σ) (c : Config) (input : Option String) (skip : Bool) (w : World σ) :
    Ending → World σ → List Exchange → Prop
  | unread {f : Failure} (hread : readGrammar s input w.files = .error f) :
    Delivery s c input skip w (.failed f) w []
  | unopened {text : String} {e : SetupError} {fs : FileSystem}
    (hread : readGrammar s input w.files = .ok text)
    (hopen : Pipeline.openWith c w.files = (.error e, fs)) :
    Delivery s c input skip w (refusal e) ⟨fs, w.state⟩ []
  | made {text : String} {p : Pipeline} {fs : FileSystem} {o : Outcome} {log : List LogEntry}
    {w' : World σ} {xs : List Exchange} (hread : readGrammar s input w.files = .ok text)
    (hopen : Pipeline.openWith c w.files = (.ok p, fs))
    (hpasses : p.Passes (s.executor (if skip then .skip else .standard)) s.draw text ⟨fs, w.state⟩
      o log w' xs) :
    Delivery s c input skip w
      (conclude (⟨none, .generationStarting c.cpuLimitSecs.toNat c.artifactDir⟩ :: log) o
        w'.files.clock) w' xs

lemma runPipeline_of_run {probe : DisplayProbe} {o : Outcome} {log : List LogEntry}
    (h : p.run (s.executor probe) s.draw text w = (some o, log, w')) :
    runPipeline s c p probe text w =
      (conclude (⟨none, .generationStarting c.cpuLimitSecs.toNat c.artifactDir⟩ :: log) o
        w'.files.clock, w') := by
  unfold runPipeline
  rw [h]

lemma exists_delivery (s : Session σ) (c : Config) (input : Option String) (skip : Bool)
    (w : World σ) : ∃ e w' xs, generate s c input skip w = (e, w') ∧
      generate s.observed c input skip (w.withExchanges []) = (e, w'.withExchanges xs) ∧
      Delivery s c input skip w e w' xs := by
  have hread : readGrammar s.observed input (w.withExchanges []).files =
    readGrammar s input w.files := rfl
  unfold generate
  rw [hread, show (w.withExchanges []).files = w.files from rfl]
  cases hgrammar : readGrammar s input w.files with
  | error f => exact ⟨_, w, [], rfl, rfl, .unread hgrammar⟩
  | ok text =>
    generalize hopen : Pipeline.openWith c w.files = opened
    obtain ⟨e | p, fs⟩ := opened
    · exact ⟨_, ⟨fs, w.state⟩, [], rfl, rfl, .unopened hgrammar hopen⟩
    · obtain ⟨r, o, w', xs, -, -, hpasses⟩ := p.exists_passes
        (s.executor (if skip then .skip else .standard)) s.draw text ⟨fs, w.state⟩
      exact ⟨_, w', xs, runPipeline_of_run hpasses.run,
        runPipeline_of_run (s := s.observed) hpasses.observed, .made hgrammar hopen hpasses⟩

namespace Delivery

lemma of_unread (h : Delivery s c input skip w e w' xs)
    (hread : ∀ text, readGrammar s input w.files ≠ .ok text) :
    e.code = 1 ∧ e.output = "" ∧ w' = w ∧ xs = [] := by
  cases h with
  | unread => exact ⟨rfl, rfl, rfl, rfl⟩
  | unopened hgrammar | made hgrammar => exact absurd hgrammar (hread _)

lemma of_allocate (h : Delivery s c input skip w e w' xs) (htidy : w.files.IsTidy)
    (hread : readGrammar s input w.files = .ok text)
    (hopen : Pipeline.openWith c w.files = (.ok p, fs))
    (halloc : (p.store.allocate s.draw fs).result = .ok set) :
    (∃ report : Report, e.output = report.toJson.pretty ++ "\n") ∧
      ∃ x rest, xs = x :: rest ∧ x.invocation = p.build.invocation set ∧
        x.found.readFile set.source = .ok (Utf8.encode text) := by
  cases h with
  | unread hgrammar => cases hread.symm.trans hgrammar
  | unopened _ hrefused => cases hopen.symm.trans hrefused
  | made hgrammar hopened hpasses =>
    obtain rfl := Except.ok.inj (hread.symm.trans hgrammar)
    cases hopen.symm.trans hopened
    refine ⟨⟨_, rfl⟩, ?_⟩
    have hfs := (Pipeline.keeps_openWith hopen).isTidy htidy
    obtain ⟨fs', hprepared, l, mode, time, -, -, -, hsource, -⟩ :=
      Pipeline.exists_prepares hfs halloc text
    obtain ⟨x, rest, hxs, rfl, hinvocation⟩ := hpasses.exchanges_of_prepares hprepared
    exact ⟨x, rest, hxs, hinvocation, hsource⟩

lemma exists_allocate (h : Delivery s c input skip w e w' xs) (hxs : xs ≠ []) :
    ∃ text p fs set, readGrammar s input w.files = .ok text ∧
      Pipeline.openWith c w.files = (.ok p, fs) ∧
      (p.store.allocate s.draw fs).result = .ok set := by
  cases h with
  | unread | unopened => exact absurd rfl hxs
  | @made text p fs _ _ _ _ hgrammar hopen hpasses =>
    cases halloc : (p.store.allocate s.draw fs).result with
    | error e => exact absurd (hpasses.exchanges_of_error halloc) hxs
    | ok set => exact ⟨text, p, fs, set, hgrammar, hopen, halloc⟩

lemma code_eq_zero_iff (h : Delivery s c input skip w e w' xs) : e.code = 0 ↔
    ∃ report : Report, e.output = report.toJson.pretty ++ "\n" ∧ report.success = true := by
  cases h with
  | unread =>
    exact iff_of_false Nat.one_ne_zero fun ⟨report, h, _⟩ => report.ne_pretty h
  | @unopened _ refused =>
    cases refused with
    | store => exact iff_of_false Nat.one_ne_zero fun ⟨report, h, _⟩ => report.ne_pretty h
    | deadlineOverflow => exact iff_of_false (by decide) fun ⟨report, h, _⟩ => report.ne_pretty h
  | @made _ _ _ o _ w' _ =>
    let printed := Report.ofOutcome o (.ofClock w'.files.clock)
    change (if printed.success then 0 else 1) = 0 ↔ ∃ report : Report,
      printed.toJson.pretty ++ "\n" = report.toJson.pretty ++ "\n" ∧ report.success = true
    have hcode : (if printed.success then 0 else 1) = 0 ↔ printed.success = true := by
      cases printed.success <;> decide
    rw [hcode]
    constructor
    · intro hsuccess
      exact ⟨printed, rfl, hsuccess⟩
    · rintro ⟨report, hoi, hsuccess⟩
      rw [Report.success_of_pretty ((String.append_left_inj _).mp hoi), hsuccess]

end Delivery

/-- A run of the program, with what passed meanwhile between it and the executor of its stages. -/
structure Runs (s : Session σ) (words : List String) (w : World σ) (code : Nat)
    (output complaint : String) (w' : World σ) (xs : List Exchange) : Prop where
  run : run s words w = ((code, output, complaint), w')
  observed : Commands.run s.observed words (w.withExchanges []) =
    ((code, output, complaint), w'.withExchanges xs)

variable {words : List String} {r : Request}

lemma runs_of_read_eq_error {notice : Notice} (h : CommandLine.read words = .error notice)
    (s : Session σ) (w : World σ) :
    ∃ code output complaint, Runs s words w code output complaint w [] := by
  have hrun : ∀ {τ : Type} (s : Session τ) (w : World τ), Commands.run s words w =
      (((noticeEnding notice).code, (noticeEnding notice).output,
        (noticeEnding notice).complaint), w) := by
    intro τ s w
    unfold Commands.run
    rw [h]
  exact ⟨_, _, _, hrun s w, hrun s.observed (w.withExchanges [])⟩

lemma runs_of_serve (h : CommandLine.read words = .ok r) (hserve : serve s r w = (e, w'))
    (hobserved : serve s.observed r (w.withExchanges []) = (e, w'.withExchanges xs)) :
    Runs s words w e.code e.output (present s r e w'.files.clock).2.2 w' xs where
  run := by
    unfold Commands.run
    rw [h]
    simp only [hserve]
    rfl
  observed := by
    unfold Commands.run
    rw [h]
    simp only [hobserved]
    rfl

/-- A grammar is delivered whole, or there is no trace of it. A command line that is refused changes
nothing. If the settings are refused, or the grammar cannot be read, or what is read is no text, the
command fails and nothing has changed. If the store is opened and a name reserved, then the octets
that were to be read stand in the source when the build stage is called, before any other call, and a
report is printed. Otherwise no stage is called. The code is zero just if a report of success is
printed. -/
theorem generate_delivers_or_leaves_no_trace (s : Session σ) (words : List String) (w : World σ) :
    (∀ notice, CommandLine.read words = .error notice →
      ∃ code output complaint, Runs s words w code output complaint w []) ∧
    ∀ r input skip, CommandLine.read words = .ok r → r.command = .generate input skip →
      ∃ code output complaint w' xs, Runs s words w code output complaint w' xs ∧
      ((∀ c, loadSettings s r.overrides ≠ .ok c) ∨
          (∀ octets, Supplies s input w.files octets → Utf8.decode? octets = none) →
        code = 1 ∧ output = "" ∧ w' = w ∧ xs = []) ∧
      (∀ c octets text p fs set, loadSettings s r.overrides = .ok c →
        Supplies s input w.files octets → Utf8.decode? octets = some text →
        Pipeline.openWith c w.files = (.ok p, fs) →
        (p.store.allocate s.draw fs).result = .ok set → w.files.IsTidy →
        (∃ report : Report, output = report.toJson.pretty ++ "\n") ∧
          ∃ x rest, xs = x :: rest ∧ x.invocation = p.build.invocation set ∧
            x.found.readFile set.source = .ok octets) ∧
      (xs ≠ [] → ∃ c octets text p fs set, loadSettings s r.overrides = .ok c ∧
        Supplies s input w.files octets ∧ Utf8.decode? octets = some text ∧
        Pipeline.openWith c w.files = (.ok p, fs) ∧
        (p.store.allocate s.draw fs).result = .ok set) ∧
      (code = 0 ↔ ∃ report : Report,
        output = report.toJson.pretty ++ "\n" ∧ report.success = true) := by
  refine ⟨fun notice h => runs_of_read_eq_error h s w, fun r input skip hread hcommand => ?_⟩
  cases hload : loadSettings s r.overrides with
  | error f =>
    have hserve : serve s r w = (.failed f, w) := by
      unfold serve
      rw [hload]
    have hobserved : serve s.observed r (w.withExchanges []) = (.failed f, w.withExchanges []) := by
      unfold serve
      rw [show loadSettings s.observed r.overrides = .error f from hload]
    refine ⟨_, _, _, w, [], runs_of_serve hread hserve hobserved, fun _ => ⟨rfl, rfl, rfl, rfl⟩, ?_, ?_,
      ?_⟩
    · intro c octets text p fs set hc
      cases hc
    · intro hxs
      exact absurd rfl hxs
    · exact iff_of_false Nat.one_ne_zero fun ⟨report, hoi, _⟩ => report.ne_pretty hoi
  | ok c =>
    obtain ⟨e, w', xs, hplain, hobserved, hdelivery⟩ := exists_delivery s c input skip w
    have hserve : serve s r w = (e, w') := by
      unfold serve
      rw [hload]
      simp only [carryOut, hcommand, hplain]
    have hserved : serve s.observed r (w.withExchanges []) = (e, w'.withExchanges xs) := by
      unfold serve
      rw [show loadSettings s.observed r.overrides = .ok c from hload]
      simp only [carryOut, hcommand, hobserved]
    refine ⟨_, _, _, w', xs, runs_of_serve hread hserve hserved, ?_, ?_, ?_,
      hdelivery.code_eq_zero_iff⟩
    · rintro (hrefused | hunread)
      · exact absurd rfl (hrefused c)
      · refine hdelivery.of_unread fun text htext => ?_
        obtain ⟨octets, hsupplies, hdecode⟩ := exists_supplies htext
        cases (hunread octets hsupplies).symm.trans hdecode
    · intro c' octets text p fs set hc hsupplies hdecode hopen halloc htidy
      obtain rfl := Except.ok.inj hc
      obtain rfl := Utf8.decode?_eq_some_iff.mp hdecode
      exact hdelivery.of_allocate htidy (readGrammar_eq_ok_iff.mpr hsupplies) hopen halloc
    · intro hxs
      obtain ⟨text, p, fs, set, htext, hopen, halloc⟩ := hdelivery.exists_allocate hxs
      obtain ⟨octets, hsupplies, hdecode⟩ := exists_supplies htext
      exact ⟨c, octets, text, p, fs, set, rfl, hsupplies, hdecode, hopen, halloc⟩

def exampleSession : Session (List Invocation) where
  environment? _ := none
  input := .ok (Utf8.encode "F")
  draw _ := default
  executor _ := .scripted []

def exampleRequest : Request where
  verbose := false
  json := false
  overrides := { artifactDir := some "/s" }
  command := .generate none false

theorem generate_delivers_example : ∃ code output complaint w' xs,
    Runs exampleSession ["--artifact-dir", "/s", "generate"] ⟨Pipeline.exampleTree, []⟩ code output
      complaint w' xs ∧
    ∃ x rest, xs = x :: rest ∧
      x.found.readFile (Store.exampleStore.derive default .source) = .ok (Utf8.encode "F") := by
  have hread : CommandLine.read ["--artifact-dir", "/s", "generate"] = .ok exampleRequest := by
    decide +kernel
  have hload : loadSettings exampleSession exampleRequest.overrides = .ok Pipeline.exampleConfig := by
    decide +kernel
  have hp : (Pipeline.openWith Pipeline.exampleConfig Pipeline.exampleTree).1 =
      .ok Pipeline.examplePipeline := by decide +kernel
  have halloc : (Pipeline.examplePipeline.store.allocate exampleSession.draw
      (Pipeline.openWith Pipeline.exampleConfig Pipeline.exampleTree).2).result =
        .ok (Store.exampleStore.setOf default) := by decide +kernel
  obtain ⟨code, output, complaint, w', xs, hruns, -, hdelivers, -⟩ :=
    (generate_delivers_or_leaves_no_trace exampleSession ["--artifact-dir", "/s", "generate"]
      ⟨Pipeline.exampleTree, []⟩).2 exampleRequest none false hread rfl
  obtain ⟨-, x, rest, hxs, -, hfound⟩ := hdelivers _ (Utf8.encode "F") "F" _ _ _ hload rfl
    (Utf8.decode?_eq_some_iff.mpr rfl) (Prod.ext hp rfl) halloc fun _ _ => rfl
  exact ⟨code, output, complaint, w', xs, hruns, x, rest, hxs, hfound⟩

end Commands

end TreePipeline
