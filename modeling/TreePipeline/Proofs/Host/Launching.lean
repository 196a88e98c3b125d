import TreePipeline.Host.Simulation
import TreePipeline.Commands.Run
import TreePipeline.Proofs.Files.Ordered
import TreePipeline.Proofs.Store.Resolution

/-! The search for a tool against the search that a launch makes. Both look in the same places in the
same order, but the first takes any regular file for the tool, and the second only one that may be
run. What the first does not find the second does not either. -/

namespace TreePipeline

open FileSystem

namespace Path

variable {path a b : Octets}

def IsOpenEnded (path : Octets) : Prop :=
  endsInSlash path = true ∨ ∀ n ∈ (names path).getLast?, ¬ IsStep n

lemma last_of_append (front : List Octets) {ns : List Octets} {n : Octets} (h : n ∈ ns.getLast?) :
    n ∈ (front ++ ns).getLast? := by
  rw [List.getLast?_append, Option.mem_def.mp h]
  rfl

lemma names_of_noSlash (h : slash ∉ b) (hne : b ≠ []) : names b = [b] := by
  rw [names, Octets.splitOn_of_notMem h]
  simp [hne]

lemma exists_last_slash (h : slash ∈ path) : ∃ a b, path = a ++ slash :: b ∧ slash ∉ b := by
  obtain ⟨b, a, hpath, hb⟩ := List.eq_append_cons_of_mem (List.mem_reverse.mpr h)
  refine ⟨a.reverse, b.reverse, ?_, fun hmem => hb (List.mem_reverse.mp hmem)⟩
  rw [← List.reverse_reverse path, hpath]
  simp

lemma isOpenEnded_append (a : Octets) (hb : b = [] ∨ b = dot) : IsOpenEnded (a ++ slash :: b) := by
  rcases hb with rfl | rfl
  · exact Or.inl (by simp [endsInSlash])
  · refine Or.inr fun n hn => ?_
    have hnames : names (a ++ slash :: dot) = names a ++ [dot] := names_append_slash a dot
    rw [hnames, List.getLast?_concat, Option.mem_some_iff] at hn
    exact fun hstep => hstep.1 hn.symm

lemma slash_mem_of_components (h : 1 < (components path).length) : slash ∈ path := by
  by_contra hslash
  have habsolute : isAbsolute path = false := by
    have hhead : path.head? ≠ some slash := fun hhead => hslash (List.mem_of_mem_head? hhead)
    simpa [isAbsolute] using hhead
  by_cases hne : path = []
  · rw [hne] at h
    exact absurd h (by decide)
  · rw [components, habsolute, names_of_noSlash hslash hne] at h
    exact absurd h (Nat.lt_irrefl 1)

lemma exists_end_of_components (hslash : slash ∈ path) (hone : ¬ 1 < (components path).length) :
    ∃ a b, path = a ++ slash :: b ∧ (b = [] ∨ b = dot) := by
  obtain ⟨a, b, hpath, hb⟩ := exists_last_slash hslash
  refine ⟨a, b, hpath, ?_⟩
  by_cases hne : b = []
  · exact Or.inl hne
  right
  have hnames : names path = names a ++ [b] := by
    rw [hpath, names_append_slash, names_of_noSlash hb hne]
  by_contra hdot
  have hkept : b ∈ (names a ++ [b]).filter fun n => n ≠ dot :=
    List.mem_filter.mpr ⟨List.mem_append_right _ List.mem_cons_self, by simpa using hdot⟩
  apply hone
  by_cases habsolute : isAbsolute path = true
  · rw [components, habsolute, hnames]
    have hlen := List.length_pos_of_mem hkept
    simp only [if_true, List.length_cons]
    omega
  · -- the first name stands before the slash, so that the last one is another
    have ha : names a ≠ [] := by
      cases a with
      | nil => exact absurd (by rw [hpath]; rfl) habsolute
      | cons c r =>
        refine names_ne_nil (fun hc => habsolute ?_) r
        rw [hpath, hc]
        rfl
    obtain ⟨n, r, hn⟩ := List.exists_cons_of_ne_nil ha
    have hkept : b ∈ (r ++ [b]).filter fun n => n ≠ dot :=
      List.mem_filter.mpr ⟨List.mem_append_right _ List.mem_cons_self, by simpa using hdot⟩
    have hlen := List.length_pos_of_mem hkept
    rw [components, Bool.not_eq_true _ |>.mp habsolute, hnames, hn]
    simpa using hlen

lemma isOpenEnded_of_components (hslash : slash ∈ path) (hone : ¬ 1 < (components path).length) :
    IsOpenEnded path := by
  obtain ⟨a, b, rfl, hb⟩ := exists_end_of_components hslash hone
  exact isOpenEnded_append a hb

lemma isOpenEnded_join (dir : Octets) (hslash : slash ∈ path)
    (hone : ¬ 1 < (components path).length) : IsOpenEnded (join dir path) := by
  obtain ⟨a, b, rfl, hb⟩ := exists_end_of_components hslash hone
  rw [join]
  split
  · exact isOpenEnded_append a hb
  · split
    · rw [← List.append_assoc]
      exact isOpenEnded_append (dir ++ a) hb
    · rw [← List.cons_append, ← List.append_assoc]
      exact isOpenEnded_append _ hb

end Path

namespace FileSystem

variable {fs : FileSystem} {k : Nat} {e : Ending} {here l : Location} {ns : List Octets} {a : Arrival}

lemma Leads.get?_of_openEnded (hfs : fs.IsOrdered) (h : Leads fs k e here ns a)
    (hkeep : e.keepLink = false) (hhere : fs.get? here = some .directory)
    (hopen : e.directory = true ∨ ∀ n ∈ ns.getLast?, ¬ IsStep n) (ha : a = .found l) :
    fs.get? l = some .directory := by
  induction h with
  | here =>
    obtain rfl := Arrival.found.inj ha
    exact hhere
  | @dot k e here rest a _ ih =>
    have hrest : ∀ n ∈ rest.getLast?, n ∈ (Path.dot :: rest).getLast? := fun _ =>
      Path.last_of_append [Path.dot]
    exact ih hkeep hhere (hopen.imp_right fun hlast n hn => hlast n (hrest n hn)) ha
  | @dotDot k e here rest a _ ih =>
    have hrest : ∀ n ∈ rest.getLast?, n ∈ (Path.dotDot :: rest).getLast? := fun _ =>
      Path.last_of_append [Path.dotDot]
    exact ih hkeep (hfs.dropLast hhere) (hopen.imp_right fun hlast n hn => hlast n (hrest n hn)) ha
  | tooLong | vacant | broken | blocked => cases ha
  | @directory k e here n rest a hn hb hget _ ih =>
    have hrest : ∀ m ∈ rest.getLast?, m ∈ (n :: rest).getLast? := fun _ =>
      Path.last_of_append [n]
    exact ih hkeep hget (hopen.imp_right fun hlast m hm => hlast m (hrest m hm)) ha
  | kept _ _ _ hkept =>
    rw [hkeep] at hkept
    cases hkept
  | @link k e here n rest goal a hn hb hget hgo _ ih =>
    have hbase : fs.get? (linkBase goal here) = some .directory := by
      rw [linkBase]
      split
      · exact if_pos rfl
      · exact hhere
    refine ih hkeep hbase ?_ ha
    rcases hopen with hopen | hopen
    · left
      rw [Ending.behind, hopen]
      rfl
    · right
      obtain ⟨r, m, rfl⟩ := List.eq_nil_or_concat rest |>.resolve_left fun hnil => by
        subst hnil
        exact hopen n rfl hn
      intro m' hm'
      rw [List.concat_eq_append, ← List.append_assoc, List.getLast?_concat, Option.mem_some_iff] at hm'
      subst hm'
      apply hopen m
      rw [List.concat_eq_append, ← List.cons_append, List.getLast?_concat, Option.mem_some_iff]
  | leaf hn _ _ _ hdir =>
    rcases hopen with hopen | hopen
    · rw [hdir] at hopen
      cases hopen
    · exact absurd hn (hopen _ rfl)

lemma isFile_of_isOpenEnded {path : Octets} (hfs : fs.IsOrdered)
    (hdir : fs.get? fs.directory = some .directory) (hopen : Path.IsOpenEnded path) :
    fs.isFile path = false := by
  refine Bool.eq_false_iff.mpr fun hfile => ?_
  obtain ⟨l, ⟨_, _, _, k, _, hleads⟩, content, mode, time, hget⟩ := isFile_iff.mp hfile
  have horigin : fs.get? (fs.origin path) = some .directory := by
    rw [origin]
    split
    · exact if_pos rfl
    · exact hdir
  have hl := hleads.get?_of_openEnded hfs rfl horigin hopen rfl
  rw [hget] at hl
  cases hl

lemma walk_ne_execFormat (fs : FileSystem) (links : Nat) (e : Ending) (here : Location)
    (ns : List Octets) : fs.walk links e here ns ≠ .error .execFormat := by
  rcases exists_leads fs links e here ns with hloop | ⟨k, hk, a, ha⟩
  · rw [hloop]
    decide
  · rw [ha.walk_eq_result hk]
    cases a with
    | found | vacant => exact nofun
    | broken | blocked | tooLong => decide

lemma locate_ne_execFormat (fs : FileSystem) (keepLink : Bool) (path : Octets) :
    fs.locate keepLink path ≠ .error (.os .execFormat) := by
  have hfollow : fs.follow keepLink false path ≠ .error (.os .execFormat) := by
    rw [follow]
    split
    · intro h
      cases h
    · split
      · decide
      · dsimp only
        split
        · intro h
          cases h
        · rename_i e hwalk
          intro h
          rw [SystemError.os.inj (Except.error.inj h)] at hwalk
          exact fs.walk_ne_execFormat _ _ _ _ hwalk
  have htarget : fs.target keepLink path ≠ .error (.os .execFormat) := by
    rw [target]
    split
    · decide
    · exact hfollow
  rw [locate]
  split
  · intro h
    cases h
  · decide
  · rename_i e he
    intro h
    rw [Except.error.inj h] at he
    exact htarget he

end FileSystem

namespace Host.Loader

variable {fs : FileSystem} {path : Octets}

/-- The system takes what stands at the path for a program. -/
def isRunnable (fs : FileSystem) (path : Octets) : Bool := (executable fs path).isOk

lemma isFile_of_isRunnable (h : isRunnable fs path = true) : fs.isFile path = true := by
  rw [isRunnable, executable] at h
  cases hlocate : fs.locate false path with
  | error e =>
    rw [hlocate] at h
    cases e <;> cases h
  | ok l =>
    rw [hlocate] at h
    dsimp only at h
    split at h
    · rename_i content mode time hget
      exact isFile_iff.mpr ⟨l, locate_eq_ok_iff.mp hlocate, content, mode, time, hget⟩
    · cases h

lemma exists_error_of_not_isRunnable (h : isRunnable fs path = false) :
    ∃ e, executable fs path = .error e := by
  rw [isRunnable] at h
  cases hexecutable : executable fs path with
  | error e => exact ⟨e, rfl⟩
  | ok x =>
    rw [hexecutable] at h
    cases h

lemma executable_ne_execFormat (fs : FileSystem) (path : Octets) :
    executable fs path ≠ .error .execFormat := by
  rw [executable]
  split
  · rename_i e he
    intro h
    rw [Except.error.inj h] at he
    exact fs.locate_ne_execFormat false path he
  · decide
  · split
    · split
      · decide
      · exact nofun
    · decide

lemma load_of_error {e : Errno} (h : executable fs path = .error e) (args : List Octets) (env : Env) :
    load fs path args env = .error e := by
  rw [load, h]
  rfl

def call (fs : FileSystem) (program : Octets) (args : List Octets) (env : Env) (path : Octets) :
    Except Errno Loaded :=
  match load fs path (program :: args) env with
  | .error e =>
    if e = .execFormat then
      let sh := Octets.ofAscii "/bin/sh"
      load fs sh (sh :: path :: args) env
    else .error e
  | r => r

lemma search_eq (fs : FileSystem) (program : Octets) (args : List Octets) (env : Env) :
    search fs program args env =
      if program = [] then .error .noEntry
      else if program.contains Path.slash then call fs program args env program
      else search.along program (call fs program args env)
        (ProgramSearch.entries
          ((env.lookup (Octets.ofAscii "PATH")).getD (Octets.ofAscii "/bin:/usr/bin"))) .noEntry :=
  rfl

variable {program searchPath : Octets} {args : List Octets} {env : Env} {loaded : Loaded}

lemma call_of_error {e : Errno} (h : executable fs path = .error e) :
    call fs program args env path = .error e := by
  have hform : e ≠ .execFormat := fun hform => executable_ne_execFormat fs path (by rw [h, hform])
  rw [call, load_of_error h]
  exact if_neg hform

lemma call_of_load (h : load fs path (program :: args) env = .ok loaded) :
    call fs program args env path = .ok loaded := by
  rw [call, h]

/-- The errors for which a launch goes on to the next place. -/
def IsPassedOver (e : Errno) : Prop := e = .accessDenied ∨ e = .noEntry ∨ e = .notDirectory

variable {run : Octets → Except Errno Loaded} {dirs : List Octets}

lemma along_cons {d : Octets} {e : Errno} (h : run (Path.join d program) = .error e)
    (he : IsPassedOver e) (rest : List Octets) (last : Errno) :
    ∃ last', search.along program run (d :: rest) last = search.along program run rest last' := by
  rw [search.along, h]
  dsimp only
  by_cases hdenied : e = .accessDenied
  · rw [if_pos hdenied]
    exact ⟨_, rfl⟩
  · rw [if_neg hdenied, if_pos (he.resolve_left hdenied)]
    exact ⟨_, rfl⟩

lemma along_of_errors (h : ∀ d ∈ dirs, ∃ e, run (Path.join d program) = .error e) (last : Errno) :
    ∃ e, search.along program run dirs last = .error e := by
  induction dirs generalizing last with
  | nil => exact ⟨last, rfl⟩
  | cons d rest ih =>
    obtain ⟨e, he⟩ := h d List.mem_cons_self
    by_cases hpassed : IsPassedOver e
    · obtain ⟨last', hrest⟩ := along_cons he hpassed rest last
      rw [hrest]
      exact ih (fun d hd => h d (List.mem_cons_of_mem _ hd)) last'
    · rw [IsPassedOver, not_or] at hpassed
      rw [search.along, he]
      dsimp only
      rw [if_neg hpassed.1, if_neg hpassed.2]
      exact ⟨e, rfl⟩

lemma along_of_ok {before after : List Octets} {d : Octets}
    (hbefore : ∀ d ∈ before, ∃ e, run (Path.join d program) = .error e ∧ IsPassedOver e)
    (hd : run (Path.join d program) = .ok loaded) (last : Errno) :
    search.along program run (before ++ d :: after) last = .ok loaded := by
  induction before generalizing last with
  | nil => rw [List.nil_append, search.along, hd]
  | cons b before ih =>
    obtain ⟨e, he, hpassed⟩ := hbefore b List.mem_cons_self
    obtain ⟨last', hrest⟩ := along_cons he hpassed (before ++ d :: after) last
    rw [List.cons_append, hrest]
    exact ih (fun d hd => hbefore d (List.mem_cons_of_mem _ hd)) last'

/-! What the two searches find -/

/-- The places along the search path in which the program is looked for. -/
def candidates (searchPath program : Octets) : List Octets :=
  (ProgramSearch.entries searchPath).map fun dir => Path.join dir program

/-- The file that a launch takes for the program: the one at its path if there is a slash in it, else
the first along the search path that may be run. -/
def located (fs : FileSystem) (searchPath program : Octets) : Option Octets :=
  if program.contains Path.slash then if isRunnable fs program then some program else none
  else (candidates searchPath program).find? (isRunnable fs)

lemma find_of_one_component (hone : ¬ 1 < (Path.components program).length) :
    ProgramSearch.find fs (some searchPath) program =
      (candidates searchPath program).find? fs.isFile :=
  if_neg hone

lemma find_of_components (h : 1 < (Path.components program).length) :
    ProgramSearch.find fs (some searchPath) program =
      if fs.isFile program then some program else none :=
  if_pos h

lemma located_of_slash (h : Path.slash ∈ program) : located fs searchPath program =
    if isRunnable fs program then some program else none :=
  if_pos (List.contains_iff_mem.mpr h)

lemma located_of_noSlash (h : Path.slash ∉ program) : located fs searchPath program =
    (candidates searchPath program).find? (isRunnable fs) :=
  if_neg fun hcontains => h (List.contains_iff_mem.mp hcontains)

lemma find_of_openEnded (hfs : fs.IsOrdered) (hdir : fs.get? fs.directory = some .directory)
    (hslash : Path.slash ∈ program) (hone : ¬ 1 < (Path.components program).length) :
    ProgramSearch.find fs (some searchPath) program = none := by
  rw [find_of_one_component hone, List.find?_eq_none]
  intro p hp hfile
  obtain ⟨dir, -, rfl⟩ := List.mem_map.mp hp
  rw [isFile_of_isOpenEnded hfs hdir (Path.isOpenEnded_join dir hslash hone)] at hfile
  cases hfile

lemma located_of_find (hfs : fs.IsOrdered) (hdir : fs.get? fs.directory = some .directory)
    (hfind : ProgramSearch.find fs (some searchPath) program = some path)
    (hrun : isRunnable fs path = true) : located fs searchPath program = some path := by
  by_cases hparts : 1 < (Path.components program).length
  · rw [find_of_components hparts] at hfind
    obtain rfl := Option.some.inj (Option.ite_none_right_eq_some.mp hfind).2
    rw [located_of_slash (Path.slash_mem_of_components hparts), if_pos hrun]
  · by_cases hslash : Path.slash ∈ program
    · rw [find_of_openEnded hfs hdir hslash hparts] at hfind
      cases hfind
    · rw [find_of_one_component hparts, List.find?_eq_some_iff_append] at hfind
      obtain ⟨-, before, after, hsplit, hbefore⟩ := hfind
      rw [located_of_noSlash hslash, List.find?_eq_some_iff_append]
      refine ⟨hrun, before, after, hsplit, fun q hq => ?_⟩
      have hfile := hbefore q hq
      rw [Bool.not_eq_true'] at hfile ⊢
      exact Bool.eq_false_iff.mpr fun h => Bool.eq_false_iff.mp hfile (isFile_of_isRunnable h)

lemma located_of_find_none (hfs : fs.IsOrdered) (hdir : fs.get? fs.directory = some .directory)
    (hfind : ProgramSearch.find fs (some searchPath) program = none) :
    located fs searchPath program = none := by
  by_cases hslash : Path.slash ∈ program
  · have hfile : fs.isFile program = false := by
      by_cases hparts : 1 < (Path.components program).length
      · rw [find_of_components hparts] at hfind
        by_contra hfile
        rw [if_pos (Bool.not_eq_false _ |>.mp hfile)] at hfind
        cases hfind
      · exact isFile_of_isOpenEnded hfs hdir (Path.isOpenEnded_of_components hslash hparts)
    rw [located_of_slash hslash, if_neg]
    exact fun h => Bool.eq_false_iff.mp hfile (isFile_of_isRunnable h)
  · have hparts : ¬ 1 < (Path.components program).length :=
      fun h => hslash (Path.slash_mem_of_components h)
    rw [find_of_one_component hparts, List.find?_eq_none] at hfind
    rw [located_of_noSlash hslash, List.find?_eq_none]
    exact fun q hq h => hfind q hq (isFile_of_isRunnable h)

lemma isRunnable_of_located (h : located fs searchPath program = some path) :
    isRunnable fs path = true := by
  by_cases hslash : Path.slash ∈ program
  · rw [located_of_slash hslash] at h
    obtain ⟨hrun, hpath⟩ := Option.ite_none_right_eq_some.mp h
    obtain rfl := Option.some.inj hpath
    exact hrun
  · rw [located_of_noSlash hslash] at h
    exact List.find?_some h

lemma search_of_located_none (h : located fs searchPath program = none)
    (hpath : env.lookup (Octets.ofAscii "PATH") = some searchPath) :
    ∃ e, search fs program args env = .error e := by
  rw [search_eq, hpath, Option.getD_some]
  by_cases hempty : program = []
  · rw [if_pos hempty]
    exact ⟨_, rfl⟩
  rw [if_neg hempty]
  by_cases hslash : Path.slash ∈ program
  · rw [located_of_slash hslash] at h
    have hrun : isRunnable fs program = false := by
      by_contra hrun
      rw [if_pos (Bool.not_eq_false _ |>.mp hrun)] at h
      cases h
    obtain ⟨e, he⟩ := exists_error_of_not_isRunnable hrun
    rw [if_pos (List.contains_iff_mem.mpr hslash), call_of_error he]
    exact ⟨e, rfl⟩
  · rw [located_of_noSlash hslash, List.find?_eq_none] at h
    rw [if_neg fun hcontains => hslash (List.contains_iff_mem.mp hcontains)]
    refine along_of_errors (fun d hd => ?_) _
    have hrun := h _ (List.mem_map_of_mem hd)
    obtain ⟨e, he⟩ := exists_error_of_not_isRunnable (Bool.not_eq_true _ |>.mp hrun)
    exact ⟨e, call_of_error he⟩

lemma search_of_located (h : located fs searchPath program = some path) (hne : program ≠ [])
    (hpassed : ∀ q ∈ candidates searchPath program, ∀ e, executable fs q = .error e → IsPassedOver e)
    (hpath : env.lookup (Octets.ofAscii "PATH") = some searchPath)
    (hload : load fs path (program :: args) env = .ok loaded) :
    search fs program args env = .ok loaded := by
  rw [search_eq, if_neg hne, hpath, Option.getD_some]
  by_cases hslash : Path.slash ∈ program
  · rw [located_of_slash hslash] at h
    obtain rfl := Option.some.inj (Option.ite_none_right_eq_some.mp h).2
    rw [if_pos (List.contains_iff_mem.mpr hslash), call_of_load hload]
  · rw [located_of_noSlash hslash, candidates, List.find?_map, Option.map_eq_some_iff] at h
    obtain ⟨d, hd, rfl⟩ := h
    obtain ⟨-, before, after, hsplit, hbefore⟩ := List.find?_eq_some_iff_append.mp hd
    rw [if_neg fun hcontains => hslash (List.contains_iff_mem.mp hcontains), hsplit]
    refine along_of_ok (fun b hb => ?_) (call_of_load hload) _
    have hrun := hbefore b hb
    rw [Function.comp_apply, Bool.not_eq_true'] at hrun
    obtain ⟨e, he⟩ := exists_error_of_not_isRunnable hrun
    have hcandidate : Path.join b program ∈ candidates searchPath program := by
      refine List.mem_map_of_mem ?_
      rw [hsplit]
      exact List.mem_append_left _ hb
    exact ⟨e, call_of_error he, hpassed _ hcandidate e he⟩

lemma executeStage_of_search {inherited : Env} {probe : DisplayProbe} {i : Invocation} {e : Errno}
    (hdisplay : Machine.displayCheck probe i fs = .ok ())
    (hceiling : CpuCeiling.ofLimit? i.cpuLimit ≠ none)
    (hsearch : search fs i.program i.args (Simulation.setOver inherited i.env) = .error e)
    (c : Computer) : ∃ cause, ((Simulation.machine inherited).executeStage probe i fs c).answer =
      .error (.launch i.program cause) := by
  obtain ⟨ceiling, hceiling⟩ := Option.ne_none_iff_exists'.mp hceiling
  have hlaunch : ∃ cause, (Simulation.machine inherited).launchChecked i fs c = .error cause := by
    unfold Machine.launchChecked
    split
    · exact ⟨_, rfl⟩
    · rw [hceiling]
      simp only [Simulation.machine, Simulation.machinery, hsearch]
      exact ⟨_, rfl⟩
  obtain ⟨cause, hlaunch⟩ := hlaunch
  rw [Machine.executeStage_of_error hdisplay hlaunch]
  exact ⟨cause, rfl⟩

lemma ne_nil_of_find (hfs : fs.IsOrdered) (hdir : fs.get? fs.directory = some .directory)
    (hfind : ProgramSearch.find fs (some searchPath) program = some path) : program ≠ [] := by
  rintro rfl
  have hone : ¬ 1 < (Path.components []).length := by decide
  rw [find_of_one_component hone] at hfind
  have hfile := List.find?_some hfind
  obtain ⟨dir, -, rfl⟩ := List.mem_map.mp (List.mem_of_find?_eq_some hfind)
  have hopen : Path.IsOpenEnded (Path.join dir []) := by
    by_cases hne : dir = []
    · subst hne
      exact Or.inr nofun
    by_cases hend : Path.endsInSlash dir = true
    · have hjoin : Path.join dir [] = dir := by simp [Path.join, Path.isAbsolute, hne, hend]
      rw [hjoin]
      exact Or.inl hend
    · have hjoin : Path.join dir [] = dir ++ [Path.slash] := by
        simp [Path.join, Path.isAbsolute, hne, hend]
      rw [hjoin]
      exact Path.isOpenEnded_append dir (Or.inl rfl)
  rw [isFile_of_isOpenEnded hfs hdir hopen] at hfile
  cases hfile

/-- The search for a tool finds what a launch takes for it just if what it finds may be run. If it
finds nothing every launch fails; what it finds and may be run is run, unless a place before it stops
the launch. -/
theorem find_eq_located_iff (hfs : fs.IsOrdered) (hdir : fs.get? fs.directory = some .directory)
    (searchPath program : Octets) :
    let found := ProgramSearch.find fs (some searchPath) program
    (found = located fs searchPath program ↔ ∀ p ∈ found, isRunnable fs p = true) ∧
    (found = none → ∀ (inherited : Env) (probe : DisplayProbe) (i : Invocation) (c : Computer),
      i.program = program →
      (Simulation.setOver inherited i.env).lookup (Octets.ofAscii "PATH") = some searchPath →
      Machine.displayCheck probe i fs = .ok () → CpuCeiling.ofLimit? i.cpuLimit ≠ none →
      ∃ cause, ((Simulation.machine inherited).executeStage probe i fs c).answer =
        .error (.launch program cause)) ∧
    ∀ p ∈ found, isRunnable fs p = true →
      (∀ q ∈ candidates searchPath program, ∀ e, executable fs q = .error e → IsPassedOver e) →
      ∀ args env loaded, env.lookup (Octets.ofAscii "PATH") = some searchPath →
        load fs p (program :: args) env = .ok loaded → search fs program args env = .ok loaded := by
  intro found
  refine ⟨⟨fun h p hp => ?_, fun h => ?_⟩, ?_, ?_⟩
  · exact isRunnable_of_located (h.symm.trans hp)
  · cases hfind : found with
    | none => exact (located_of_find_none hfs hdir hfind).symm
    | some p => exact (located_of_find hfs hdir hfind (h p hfind)).symm
  · rintro hfind inherited probe i c rfl hpath hdisplay hceiling
    have hfails : ∃ e, search fs i.program i.args (Simulation.setOver inherited i.env) = .error e :=
      search_of_located_none (located_of_find_none hfs hdir hfind) hpath
    obtain ⟨e, he⟩ := hfails
    exact executeStage_of_search hdisplay hceiling he c
  · intro p hp hrun hpassed args env loaded hpath hload
    exact search_of_located (located_of_find hfs hdir hp hrun) (ne_nil_of_find hfs hdir hp) hpassed
      hpath hload

/-- A tool of one name in each of two directories, of which one may not be run. -/
def twoTools : FileSystem :=
  Store.treeOf [([Octets.ofAscii "a"], .directory), ([Octets.ofAscii "b"], .directory),
    ([Octets.ofAscii "a", Octets.ofAscii "tool"], .file [] 0o644 0),
    ([Octets.ofAscii "b", Octets.ofAscii "tool"], .file (binary "true") 0o755 0)]

def runnableFirst : Octets := Octets.ofAscii "/b:/a"

def runnableEnv : Env := [(Octets.ofAscii "PATH", runnableFirst)]

def launchOf (program : Octets) : Invocation :=
  ⟨"build", program, [], [], none, .ofSecs 15, .ofSecs 45, 1, Octets.ofAscii "/out"⟩

lemma exists_loaded {x : Except Errno Loaded} (h : x.isOk = true) : ∃ loaded, x = .ok loaded := by
  cases x with
  | error e => cases h
  | ok loaded => exact ⟨loaded, rfl⟩

theorem find_eq_located_runnable :
    let tool := Octets.ofAscii "tool"
    let missing := Octets.ofAscii "missing"
    twoTools.IsOrdered ∧ twoTools.get? twoTools.directory = some .directory ∧
      ProgramSearch.find twoTools (some runnableFirst) tool = located twoTools runnableFirst tool ∧
      (∃ loaded, load twoTools (Octets.ofAscii "/b/tool") [tool] runnableEnv = .ok loaded ∧
        search twoTools tool [] runnableEnv = .ok loaded) ∧
      ∃ cause, ((Simulation.machine runnableEnv).executeStage .skip (launchOf missing) twoTools
        (Computer.idle twoTools)).answer = .error (.launch missing cause) := by
  intro tool missing
  have hfs : twoTools.IsOrdered := isOrdered_of_entries (by decide +kernel)
  have htool := find_eq_located_iff hfs rfl runnableFirst tool
  have hmissing := find_eq_located_iff hfs rfl runnableFirst missing
  refine ⟨hfs, rfl, htool.1.mpr (by decide +kernel), ?_, ?_⟩
  · have hfind : ProgramSearch.find twoTools (some runnableFirst) tool =
        some (Octets.ofAscii "/b/tool") := by
      decide +kernel
    have hloads : (load twoTools (Octets.ofAscii "/b/tool") [tool] runnableEnv).isOk = true := by
      decide +kernel
    have hplaces : ∀ q ∈ candidates runnableFirst tool, isRunnable twoTools q = true ∨
        executable twoTools q = .error .accessDenied := by
      decide +kernel
    have hpassed : ∀ q ∈ candidates runnableFirst tool, ∀ e,
        executable twoTools q = .error e → IsPassedOver e := by
      intro q hq e he
      rcases hplaces q hq with hrun | hdenied
      · rw [isRunnable, he] at hrun
        cases hrun
      · exact Or.inl (Except.error.inj (he.symm.trans hdenied))
    obtain ⟨loaded, hload⟩ := exists_loaded hloads
    exact ⟨loaded, hload, htool.2.2 _ hfind (by decide +kernel) hpassed [] runnableEnv loaded rfl hload⟩
  · exact hmissing.2.1 (by decide +kernel) runnableEnv .skip (launchOf missing)
      (Computer.idle twoTools) rfl rfl rfl (by decide +kernel)

/-- A file that may not be run is found before one that may be, and also where it is the only one. -/
theorem find_ne_located :
    (ProgramSearch.find twoTools (some (Octets.ofAscii "/a:/b")) (Octets.ofAscii "tool") =
        some (Octets.ofAscii "/a/tool") ∧
      located twoTools (Octets.ofAscii "/a:/b") (Octets.ofAscii "tool") =
        some (Octets.ofAscii "/b/tool")) ∧
    ProgramSearch.find twoTools (some (Octets.ofAscii "/a")) (Octets.ofAscii "tool") =
        some (Octets.ofAscii "/a/tool") ∧
      located twoTools (Octets.ofAscii "/a") (Octets.ofAscii "tool") = none := by
  refine ⟨⟨?_, ?_⟩, ?_, ?_⟩ <;> decide +kernel

end Host.Loader

end TreePipeline
