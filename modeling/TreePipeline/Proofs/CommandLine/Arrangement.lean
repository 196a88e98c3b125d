import TreePipeline.Proofs.CommandLine.Words

/-! What a command line asks for, however its words are arranged. Each side of the command's name counts
for itself, and what is said after the name goes before what is said in front of it. -/

namespace TreePipeline

/-! Requests -/

open CommandLine

def Command.scope : Command → Scope
  | .generate .. => .generate
  | .resolve _ => .resolve
  | .doctor => .doctor
  | .purge _ => .purge

namespace Request

variable {r r' : Request} {before after : List Content} {scope : Scope}

def raises (r : Request) : Flag → Bool
  | .verbose => r.verbose
  | .json => r.json
  | .skipDisplayCheck =>
    match r.command with
    | .generate _ skip => skip
    | _ => false
  | .help | .version => false

def value? (r : Request) : (s : Setting) → Option s.Value
  | .cpuLimit => r.overrides.cpuLimit
  | .wallFactor => r.overrides.wallFactor
  | .artifactDir => r.overrides.artifactDir
  | .buildCommand => r.overrides.buildCommand
  | .renderCommand => r.overrides.renderCommand
  | .iterations => r.overrides.iterations
  | .display => r.overrides.display
  | .input =>
    match r.command with
    | .generate input _ => input
    | _ => none
  | .olderThan =>
    match r.command with
    | .purge olderThan => some olderThan
    | _ => none

def reference? (r : Request) : Option String :=
  match r.command with
  | .resolve v => some v
  | _ => none

/-- The request is what is said on both sides of the command's name. Of a value that is said on both, the one
said after the name counts. -/
structure Says (r : Request) (before after : List Content) : Prop where
  flag : ∀ f, r.raises f = true ↔ .flag f ∈ before ∨ .flag f ∈ after
  setting : ∀ s x, r.value? s = some x ↔
    .setting s x ∈ after ∨ .setting s x ∈ before ∧ ∀ y, .setting s y ∉ after
  reference : ∀ v, r.reference? = some v ↔ .reference v ∈ after

lemma ext_of_says (hscope : r.command.scope = r'.command.scope) (h : r.Says before after)
    (h' : r'.Says before after) : r = r' := by
  have hflag : ∀ f, r.raises f = r'.raises f := fun f =>
    Bool.eq_iff_iff.mpr ((h.flag f).trans (h'.flag f).symm)
  have hvalue : ∀ s, r.value? s = r'.value? s := fun s =>
    Option.ext fun x => (h.setting s x).trans (h'.setting s x).symm
  have hreference : r.reference? = r'.reference? :=
    Option.ext fun v => (h.reference v).trans (h'.reference v).symm
  obtain ⟨verbose, json, o, command⟩ := r
  obtain ⟨verbose', json', o', command'⟩ := r'
  obtain rfl : verbose = verbose' := hflag .verbose
  obtain rfl : json = json' := hflag .json
  have ho : o = o' := by
    obtain ⟨⟩ := o
    obtain ⟨⟩ := o'
    rw [Overrides.mk.injEq]
    exact ⟨hvalue .cpuLimit, hvalue .wallFactor, hvalue .artifactDir, hvalue .buildCommand,
      hvalue .renderCommand, hvalue .iterations, hvalue .display⟩
  have hcommand : command = command' := by
    cases command with
    | generate input skip =>
      cases command' with
      | generate input' skip' =>
        exact congrArg₂ Command.generate (hvalue .input) (hflag .skipDisplayCheck)
      | resolve | doctor | purge => cases hscope
    | resolve v =>
      cases command' with
      | resolve w => exact congrArg Command.resolve (Option.some.inj hreference)
      | generate | doctor | purge => cases hscope
    | doctor =>
      cases command' with
      | doctor => rfl
      | generate | resolve | purge => cases hscope
    | purge n =>
      cases command' with
      | purge m => exact congrArg Command.purge (Option.some.inj (hvalue .olderThan))
      | generate | resolve | doctor => cases hscope
  rw [ho, hcommand]

end Request

namespace CommandLine

variable {scope : Scope} {g top under : Given} {r : Request} {c : Command} {f : Flag} {s : Setting}
  {name : String} {before after ts : List Token} {bs cs : List Content}

def Content.IsAllowed (scope : Scope) : Content → Prop
  | .flag f => f ≠ .help ∧ f ≠ .version ∧ Switch.allowed scope (.flag f) = true
  | .setting s _ => Switch.allowed scope (.setting s) = true
  | .reference _ => scope = .resolve

lemma Token.isAllowed {t : Token} (h : t.IsWritten scope) : t.content.IsAllowed scope := by
  cases t with
  | flag => exact ⟨h.1, h.2.1, h.2.2.1⟩
  | setting => exact h.1
  | reference => exact h.1

lemma exists_command? (hr : r.Says bs cs) (hscope : r.command.scope = scope)
    (hbs : ∀ c ∈ bs, c.IsAllowed .top) (hunder : under.Says cs) :
    ∃ c, under.command? scope = some c := by
  subst hscope
  cases hcommand : r.command with
  | generate input skip => exact ⟨_, rfl⟩
  | doctor => exact ⟨_, rfl⟩
  | resolve v =>
    have hv : r.reference? = some v := by rw [Request.reference?, hcommand]
    have hgiven := (hunder.reference v).mpr ((hr.reference v).mp hv)
    exact ⟨.resolve v, by simp [Command.scope, Given.command?, hgiven]⟩
  | purge n =>
    have hn : r.value? .olderThan = some n := by
      simp only [Request.value?]
      rw [hcommand]
      rfl
    rcases (hr.setting .olderThan n).mp hn with hafter | ⟨hbefore, -⟩
    · have hgiven : under.olderThan = some n := (hunder.setting .olderThan n).mpr hafter
      exact ⟨.purge n, by simp [Command.scope, Given.command?, hgiven]⟩
    · exact absurd (hbs _ hbefore) (by simp [Content.IsAllowed, Switch.allowed])

lemma scope_of_command? (h : under.command? scope = some c) : c.scope = scope := by
  cases scope with
  | top => cases h
  | generate | doctor =>
    cases h
    rfl
  | resolve | purge =>
    obtain ⟨_, -, rfl⟩ := Option.map_eq_some_iff.mp h
    rfl

section Absent

variable (hcs : ∀ c ∈ cs, c.IsAllowed scope) (hg : g.Says cs)
include hcs hg

lemma not_mem_flags (hf : f = .help ∨ f = .version ∨ Switch.allowed scope (.flag f) = false) :
    f ∉ g.flags := by
  intro hmem
  obtain ⟨hhelp, hversion, hallowed⟩ := hcs _ ((hg.flag f).mp hmem)
  rcases hf with rfl | rfl | hf
  · exact hhelp rfl
  · exact hversion rfl
  · exact Bool.false_ne_true (hf.symm.trans hallowed)

lemma get_eq_none (hs : Switch.allowed scope (.setting s) = false) : g.get s = none := by
  rw [Option.eq_none_iff_forall_ne_some]
  intro x hx
  exact Bool.false_ne_true (hs.symm.trans (hcs _ ((hg.setting s x).mp hx)))

lemma reference_eq_none (hscope : scope ≠ .resolve) : g.reference = none := by
  rw [Option.eq_none_iff_forall_ne_some]
  intro v hv
  exact hscope (hcs _ ((hg.reference v).mp hv))

end Absent

section Combine

variable (htop : top.Says bs) (hunder : under.Says cs) (hbs : ∀ c ∈ bs, c.IsAllowed .top)
  (hcs : ∀ c ∈ cs, c.IsAllowed scope) (hc : under.command? scope = some c)
include htop hunder hbs hcs hc

lemma raises_combine (f : Flag) :
    (combine top under c).raises f = true ↔ f ∈ top.flags ∨ f ∈ under.flags := by
  cases f with
  | verbose | json => simp [combine, Request.raises, or_comm]
  | help | version =>
    exact iff_of_false Bool.false_ne_true
      (not_or.mpr ⟨not_mem_flags hbs htop (by simp), not_mem_flags hcs hunder (by simp)⟩)
  | skipDisplayCheck =>
    rw [or_iff_right (not_mem_flags hbs htop (Or.inr (Or.inr rfl)))]
    cases scope with
    | generate =>
      cases hc
      exact List.contains_iff_mem
    | top => cases hc
    | resolve | doctor | purge =>
      refine iff_of_false ?_ (not_mem_flags hcs hunder (Or.inr (Or.inr rfl)))
      cases c with
      | generate => cases scope_of_command? hc
      | resolve | doctor | purge => exact Bool.false_ne_true

lemma value?_combine (s : Setting) :
    (combine top under c).value? s = (under.get s).or (top.get s) := by
  cases s with
  | cpuLimit | wallFactor | artifactDir | buildCommand | renderCommand | iterations | display => rfl
  | input =>
    rw [get_eq_none hbs htop rfl, Option.or_none]
    cases scope with
    | generate =>
      cases hc
      rfl
    | top => cases hc
    | resolve | doctor | purge =>
      rw [get_eq_none hcs hunder rfl]
      cases c with
      | generate => cases scope_of_command? hc
      | resolve | doctor | purge => rfl
  | olderThan =>
    rw [get_eq_none hbs htop rfl, Option.or_none]
    cases scope with
    | purge =>
      obtain ⟨n, hn, rfl⟩ := Option.map_eq_some_iff.mp hc
      exact hn.symm
    | top => cases hc
    | generate | resolve | doctor =>
      rw [get_eq_none hcs hunder rfl]
      cases c with
      | purge => cases scope_of_command? hc
      | generate | resolve | doctor => rfl

omit htop hbs in
lemma reference?_combine : (combine top under c).reference? = under.reference := by
  cases scope with
  | resolve =>
    obtain ⟨v, hv, rfl⟩ := Option.map_eq_some_iff.mp hc
    exact hv.symm
  | top => cases hc
  | generate | doctor | purge =>
    rw [reference_eq_none hcs hunder (by decide)]
    cases c with
    | resolve => cases scope_of_command? hc
    | generate | doctor | purge => rfl

lemma says_combine : (combine top under c).Says bs cs where
  flag f := by rw [raises_combine htop hunder hbs hcs hc, htop.flag, hunder.flag]
  setting s x := by
    rw [value?_combine htop hunder hbs hcs hc, Option.or_eq_some_iff, hunder.setting, htop.setting,
      Option.eq_none_iff_forall_ne_some, and_comm]
    simp only [Ne, hunder.setting]
  reference v := by rw [reference?_combine hunder hcs hc, hunder.reference]

end Combine

/-! Reading -/

def contents (ts : List Token) : List Content := ts.map Token.content

def gather (ts : List Token) : Except Notice Given := (contents ts).foldlM Given.take .empty

lemma contents_append (ts ts' : List Token) : contents (ts ++ ts') = contents ts ++ contents ts' :=
  List.map_append

lemma contents_cons (t : Token) (ts : List Token) : contents (t :: ts) = t.content :: contents ts := rfl

lemma exists_gather (h : Distinct (contents ts)) : ∃ g, gather ts = .ok g ∧ g.Says (contents ts) :=
  (Given.foldlM_take (contents ts)).1 h

lemma distinct_of_gather (h : gather ts = .ok g) : Distinct (contents ts) ∧ g.Says (contents ts) := by
  by_cases hdistinct : Distinct (contents ts)
  · obtain ⟨g', hg', hsays⟩ := exists_gather hdistinct
    obtain rfl := Except.ok.inj (h.symm.trans hg')
    exact ⟨hdistinct, hsays⟩
  · cases h.symm.trans ((Given.foldlM_take (contents ts)).2 hdistinct)

lemma eq_usage_of_gather {n : Notice} (h : gather ts = .error n) : n = .usage := by
  by_cases hdistinct : Distinct (contents ts)
  · obtain ⟨g, hg, -⟩ := exists_gather hdistinct
    cases h.symm.trans hg
  · exact Except.error.inj (h.symm.trans ((Given.foldlM_take (contents ts)).2 hdistinct))

def arranged (before : List Token) (name : String) (after : List Token) : List String :=
  before.flatMap Token.words ++ name :: after.flatMap Token.words

section Arranged

variable (hname : (name, scope) ∈ commands) (hbefore : ∀ t ∈ before, t.IsWritten .top)
  (hafter : ∀ t ∈ after, t.IsWritten scope)
include hname hbefore hafter

lemma read_arranged : read (arranged before name after) =
    (before.flatMap Token.words).foldlM (Progress.readWord .top) Progress.start >>= fun p =>
      gather after >>= fun under =>
        match under.command? scope with
        | none => .error .usage
        | some c => p.settle >>= fun top => .ok (combine top under c) := by
  have hstart : Progress.start.IsOpen := ⟨rfl, rfl⟩
  have hunder : (after.flatMap Token.words).foldlM (Progress.readWord scope) Progress.start >>=
      Progress.settle = gather after := (comesTo_tokens hafter hstart).settled
  unfold read arranged
  rw [readTop_tokens hbefore hstart hname, bind_assoc, ← hunder]
  refine bind_congr fun p => ?_
  rw [bind_assoc]
  rfl

lemma read_cases :
    (∃ top under c, gather before = .ok top ∧ gather after = .ok under ∧
      under.command? scope = some c ∧ read (arranged before name after) = .ok (combine top under c)) ∨
    read (arranged before name after) = .error .usage ∧ ∀ top under, gather before = .ok top →
      gather after = .ok under → under.command? scope = none := by
  have htop : (before.flatMap Token.words).foldlM (Progress.readWord .top) Progress.start >>=
      Progress.settle = gather before := (comesTo_tokens hbefore ⟨rfl, rfl⟩).settled
  rw [read_arranged hname hbefore hafter]
  cases hfold : (before.flatMap Token.words).foldlM (Progress.readWord .top) Progress.start with
  | error n =>
    rw [hfold] at htop
    obtain rfl := eq_usage_of_gather htop.symm
    refine Or.inr ⟨rfl, fun top under h => ?_⟩
    cases htop.trans h
  | ok p =>
    rw [hfold] at htop
    change p.settle = gather before at htop
    cases hunder : gather after with
    | error n =>
      obtain rfl := eq_usage_of_gather hunder
      exact Or.inr ⟨rfl, fun top under _ h => by cases h⟩
    | ok under =>
      cases hc : under.command? scope with
      | none =>
        refine Or.inr ⟨by simp only [bind, Except.bind, hc], fun top under' _ h => ?_⟩
        rwa [← Except.ok.inj h]
      | some c =>
        cases hg : gather before with
        | error n =>
          obtain rfl := eq_usage_of_gather hg
          refine Or.inr ⟨?_, fun top under' h => by cases h⟩
          simp only [bind, Except.bind, hc, htop, hg]
        | ok top =>
          refine Or.inl ⟨top, under, c, rfl, rfl, hc, ?_⟩
          simp only [bind, Except.bind, hc, htop, hg]

lemma read_eq_ok_iff : read (arranged before name after) = .ok r ↔
    Distinct (contents before) ∧ Distinct (contents after) ∧ r.command.scope = scope ∧
      r.Says (contents before) (contents after) := by
  have hbs : ∀ c ∈ contents before, c.IsAllowed .top :=
    List.forall_mem_map.mpr fun t ht => Token.isAllowed (hbefore t ht)
  have hcs : ∀ c ∈ contents after, c.IsAllowed scope :=
    List.forall_mem_map.mpr fun t ht => Token.isAllowed (hafter t ht)
  constructor
  · intro h
    obtain ⟨top, under, c, htop, hunder, hc, hread⟩ | ⟨hread, -⟩ := read_cases hname hbefore hafter
    · obtain rfl := Except.ok.inj (hread.symm.trans h)
      obtain ⟨hdistinct, htop⟩ := distinct_of_gather htop
      obtain ⟨hdistinct', hunder⟩ := distinct_of_gather hunder
      exact ⟨hdistinct, hdistinct', scope_of_command? hc, says_combine htop hunder hbs hcs hc⟩
    · cases hread.symm.trans h
  · rintro ⟨hdistinct, hdistinct', hscope, hsays⟩
    obtain ⟨top, htop, htop'⟩ := exists_gather hdistinct
    obtain ⟨under, hunder, hunder'⟩ := exists_gather hdistinct'
    obtain ⟨c, hc⟩ := exists_command? hsays hscope hbs hunder'
    obtain ⟨top', under', c', h, h', hc', hread⟩ | ⟨-, hnone⟩ := read_cases hname hbefore hafter
    · obtain rfl := Except.ok.inj (htop.symm.trans h)
      obtain rfl := Except.ok.inj (hunder.symm.trans h')
      have hscope' : (combine top under c').command.scope = r.command.scope :=
        (scope_of_command? hc').trans hscope.symm
      rw [hread, Request.ext_of_says hscope' (says_combine htop' hunder' hbs hcs hc') hsays]
    · cases (hnone top under htop hunder).symm.trans hc

lemma eq_usage_of_read {n : Notice} (h : read (arranged before name after) = .error n) :
    n = .usage := by
  obtain ⟨top, under, c, -, -, -, hread⟩ | ⟨hread, -⟩ := read_cases hname hbefore hafter
  · cases hread.symm.trans h
  · exact Except.error.inj (h.symm.trans hread)

end Arranged

/-! Arrangements of one request -/

def Setting.all : List Setting :=
  [.cpuLimit, .wallFactor, .artifactDir, .buildCommand, .renderCommand, .iterations, .display, .input,
    .olderThan]

end CommandLine

/-- All that has to be said for the request. -/
def Request.contents (r : Request) : List Content :=
  (([.verbose, .json, .skipDisplayCheck] : List Flag).filter r.raises).map .flag ++
    Setting.all.filterMap (fun s => (r.value? s).map (.setting s)) ++
    (r.reference?.map .reference).toList

namespace Request

variable {r : Request} {bs cs : List Content}

lemma flag_mem_contents {f : Flag} : .flag f ∈ r.contents ↔ r.raises f = true := by
  cases f <;> simp [contents, raises]

lemma setting_mem_contents {s : Setting} {x : s.Value} :
    .setting s x ∈ r.contents ↔ r.value? s = some x := by
  have hs : s ∈ Setting.all := by cases s <;> decide
  simp only [contents, List.mem_append, List.mem_map, List.mem_filterMap, Option.mem_toList]
  constructor
  · rintro ((⟨f, -, hf⟩ | ⟨t, -, ht⟩) | hv)
    · cases hf
    · obtain ⟨y, hy, hc⟩ := Option.map_eq_some_iff.mp ht
      cases hc
      exact hy
    · obtain ⟨v, -, hc⟩ := Option.map_eq_some_iff.mp hv
      cases hc
  · intro h
    exact Or.inl (Or.inr ⟨s, hs, by rw [h, Option.map_some]⟩)

lemma reference_mem_contents {v : String} : .reference v ∈ r.contents ↔ r.reference? = some v := by
  simp [contents]

lemma nodup_contents (r : Request) : r.contents.Nodup := by
  have hsettings : (Setting.all.filterMap fun s => (r.value? s).map (Content.setting s)).Nodup := by
    refine List.Nodup.filterMap (fun s t c hs ht => ?_) (by decide)
    obtain ⟨x, -, rfl⟩ := Option.map_eq_some_iff.mp hs
    obtain ⟨y, -, hc⟩ := Option.map_eq_some_iff.mp ht
    cases hc
    rfl
  have hreference : (r.reference?.map Content.reference).toList.Nodup := by
    cases r.reference? <;> simp
  refine List.Nodup.append (List.Nodup.append ?_ hsettings ?_) hreference ?_
  · exact List.Nodup.map (fun _ _ => Content.flag.inj) (List.Nodup.filter _ (by decide))
  · intro c hflag hsetting
    obtain ⟨f, -, rfl⟩ := List.mem_map.mp hflag
    obtain ⟨s, -, hs⟩ := List.mem_filterMap.mp hsetting
    obtain ⟨x, -, hc⟩ := Option.map_eq_some_iff.mp hs
    cases hc
  · intro c hc hreference
    obtain ⟨v, -, rfl⟩ := Option.map_eq_some_iff.mp (Option.mem_toList.mp hreference)
    rcases List.mem_append.mp hc with hflag | hsetting
    · obtain ⟨f, -, hf⟩ := List.mem_map.mp hflag
      cases hf
    · obtain ⟨s, -, hs⟩ := List.mem_filterMap.mp hsetting
      obtain ⟨x, -, hc⟩ := Option.map_eq_some_iff.mp hs
      cases hc

lemma distinct_contents (r : Request) : Distinct r.contents := by
  refine List.Nodup.map_on (fun c hc d hd h => ?_) r.nodup_contents
  cases c with
  | flag f =>
    cases d with
    | flag g =>
      cases h
      rfl
    | setting | reference => cases h
  | setting s x =>
    cases d with
    | setting t y =>
      cases h
      have hxy := (setting_mem_contents.mp hc).symm.trans (setting_mem_contents.mp hd)
      rw [Option.some.inj hxy]
    | flag | reference => cases h
  | reference v =>
    cases d with
    | reference w =>
      have hvw := (reference_mem_contents.mp hc).symm.trans (reference_mem_contents.mp hd)
      rw [Option.some.inj hvw]
    | flag | setting => cases h

/-- There are words for the request: no path in it is empty, and no reference starts with a dash. -/
structure IsSayable (r : Request) : Prop where
  value : ∀ s x, r.value? s = some x → s.IsSayable x
  reference : ∀ v, r.reference? = some v → v.toList.head? ≠ some '-'

lemma exists_spells (sw : Switch) : ∃ opening, Spells opening sw := by
  have hlong : ∃ e ∈ longNames, e.2 = sw := by
    rcases sw with f | s
    · cases f <;> decide
    · cases s <;> decide
  obtain ⟨e, he, hsw⟩ := hlong
  exact ⟨_, Or.inl ⟨e, he, hsw, rfl⟩⟩

lemma allowed_of_raises {f : Flag} (h : r.raises f = true) :
    f ≠ .help ∧ f ≠ .version ∧ Switch.allowed r.command.scope (.flag f) = true := by
  cases f with
  | verbose | json => exact ⟨nofun, nofun, rfl⟩
  | help | version => cases h
  | skipDisplayCheck =>
    refine ⟨nofun, nofun, ?_⟩
    simp only [raises] at h
    split at h
    · rename_i hcommand
      rw [hcommand]
      rfl
    · cases h

lemma allowed_of_value? {s : Setting} {x : s.Value} (h : r.value? s = some x) :
    Switch.allowed r.command.scope (.setting s) = true := by
  cases s with
  | cpuLimit | wallFactor | artifactDir | buildCommand | renderCommand | iterations | display => rfl
  | input =>
    obtain ⟨verbose, json, overrides, command⟩ := r
    cases command with
    | generate => rfl
    | resolve | doctor | purge => cases h
  | olderThan =>
    obtain ⟨verbose, json, overrides, command⟩ := r
    cases command with
    | purge => rfl
    | generate | resolve | doctor => cases h

lemma exists_token {c : Content} (hr : r.IsSayable) (hc : c ∈ r.contents) :
    ∃ t : Token, t.content = c ∧ t.IsWritten r.command.scope := by
  cases c with
  | flag f =>
    obtain ⟨hhelp, hversion, hallowed⟩ := allowed_of_raises (flag_mem_contents.mp hc)
    obtain ⟨opening, hopening⟩ := exists_spells (.flag f)
    exact ⟨.flag f opening, rfl, hhelp, hversion, hallowed, hopening⟩
  | setting s x =>
    have hx := setting_mem_contents.mp hc
    obtain ⟨opening, hopening⟩ := exists_spells (.setting s)
    obtain ⟨text, htext⟩ := Setting.exists_writes (hr.value s x hx)
    exact ⟨.setting s x opening text true, rfl, allowed_of_value? hx, hopening, htext, nofun⟩
  | reference v =>
    have hv := reference_mem_contents.mp hc
    refine ⟨.reference v, rfl, ?_, hr.reference v hv⟩
    simp only [reference?] at hv
    split at hv
    · rename_i hcommand
      rw [hcommand]
      rfl
    · cases hv

lemma says_of_perm (h : (bs ++ cs).Perm r.contents) (hbs : ∀ c ∈ bs, c.IsAllowed .top) :
    r.Says bs cs where
  flag f := by rw [← flag_mem_contents, ← h.mem_iff, List.mem_append]
  setting s x := by
    have hmem : ∀ y, r.value? s = some y ↔ .setting s y ∈ bs ∨ .setting s y ∈ cs := fun y => by
      rw [← setting_mem_contents, ← h.mem_iff, List.mem_append]
    constructor
    · intro hx
      rcases (hmem x).mp hx with hb | hc
      · by_cases hother : ∃ y, .setting s y ∈ cs
        · obtain ⟨y, hy⟩ := hother
          obtain rfl := Option.some.inj (((hmem y).mpr (Or.inr hy)).symm.trans hx)
          exact Or.inl hy
        · exact Or.inr ⟨hb, not_exists.mp hother⟩
      · exact Or.inl hc
    · rintro (hc | ⟨hb, -⟩)
      · exact (hmem x).mpr (Or.inr hc)
      · exact (hmem x).mpr (Or.inl hb)
  reference v := by
    rw [← reference_mem_contents, ← h.mem_iff, List.mem_append]
    exact or_iff_right fun hb => absurd (hbs _ hb) (by simp [Content.IsAllowed])

end Request

namespace CommandLine

variable {scope : Scope} {r : Request} {c : Content} {b₁ b₂ a₁ a₂ : List Content}

/-! Moving -/

lemma distinct_middle : Distinct (b₁ ++ c :: b₂) ↔
    (∀ d ∈ b₁ ++ b₂, d.switch? ≠ c.switch?) ∧ Distinct (b₁ ++ b₂) := by
  rw [Distinct, Distinct, List.map_append, List.map_cons, List.nodup_middle, List.nodup_cons,
    ← List.map_append]
  simp only [List.mem_map, not_exists, not_and]

lemma says_move (hc : c.IsAllowed .top) (hb : ∀ d ∈ b₁ ++ b₂, d.switch? ≠ c.switch?)
    (ha : ∀ d ∈ a₁ ++ a₂, d.switch? ≠ c.switch?) :
    r.Says (b₁ ++ c :: b₂) (a₁ ++ a₂) ↔ r.Says (b₁ ++ b₂) (a₁ ++ c :: a₂) := by
  have hmem : ∀ (l₁ l₂ : List Content) (d : Content), d ∈ l₁ ++ c :: l₂ ↔ d = c ∨ d ∈ l₁ ++ l₂ :=
    fun _ _ _ => List.perm_middle.mem_iff.trans List.mem_cons
  have hflag : ∀ f, .flag f ∈ b₁ ++ c :: b₂ ∨ .flag f ∈ a₁ ++ a₂ ↔
      .flag f ∈ b₁ ++ b₂ ∨ .flag f ∈ a₁ ++ c :: a₂ := by
    intro f
    rw [hmem, hmem, or_assoc, or_left_comm]
  have hsetting : ∀ s (x : s.Value), .setting s x ∈ a₁ ++ a₂ ∨
        .setting s x ∈ b₁ ++ c :: b₂ ∧ (∀ y, .setting s y ∉ a₁ ++ a₂) ↔
      .setting s x ∈ a₁ ++ c :: a₂ ∨
        .setting s x ∈ b₁ ++ b₂ ∧ ∀ y, .setting s y ∉ a₁ ++ c :: a₂ := by
    intro s x
    simp only [hmem]
    by_cases hs : c.switch? = some (.setting s)
    · have hbefore : .setting s x ∉ b₁ ++ b₂ := fun h => hb _ h hs.symm
      have hafter : ∀ y, .setting s y ∉ a₁ ++ a₂ := fun y h => ha _ h hs.symm
      simp [hbefore, hafter]
    · have hne : ∀ y, .setting s y ≠ c := fun y h => hs (h ▸ rfl)
      simp [hne]
  have hreference : ∀ v, .reference v ∈ a₁ ++ a₂ ↔ .reference v ∈ a₁ ++ c :: a₂ := by
    intro v
    have hne : .reference v ≠ c := by
      rintro rfl
      cases hc
    rw [hmem, or_iff_right hne]
  constructor
  · intro h
    exact ⟨fun f => (h.flag f).trans (hflag f), fun s x => (h.setting s x).trans (hsetting s x),
      fun v => (h.reference v).trans (hreference v)⟩
  · intro h
    exact ⟨fun f => (h.flag f).trans (hflag f).symm,
      fun s x => (h.setting s x).trans (hsetting s x).symm,
      fun v => (h.reference v).trans (hreference v).symm⟩

lemma exists_name (command : Command) : ∃ name, (name, command.scope) ∈ commands := by
  have hnames : ∀ scope, scope ≠ .top → ∃ p ∈ commands, p.2 = scope := by
    intro scope
    cases scope <;> decide
  have hscope : command.scope ≠ .top := by cases command <;> nofun
  obtain ⟨⟨name, _⟩, hmem, rfl⟩ := hnames command.scope hscope
  exact ⟨name, hmem⟩

lemma exists_arrangement (hr : r.IsSayable) :
    ∃ ts, contents ts = r.contents ∧ ∀ t ∈ ts, t.IsWritten r.command.scope := by
  have hlist : ∀ cs : List Content, (∀ c ∈ cs, c ∈ r.contents) →
      ∃ ts, contents ts = cs ∧ ∀ t ∈ ts, t.IsWritten r.command.scope := by
    intro cs hcs
    induction cs with
    | nil => exact ⟨[], rfl, by simp⟩
    | cons c cs ih =>
      obtain ⟨hc, hrest⟩ := List.forall_mem_cons.mp hcs
      obtain ⟨ts, rfl, hts⟩ := ih hrest
      obtain ⟨t, rfl, ht⟩ := Request.exists_token hr hc
      exact ⟨t :: ts, rfl, List.forall_mem_cons.mpr ⟨ht, hts⟩⟩
  exact hlist r.contents fun _ hc => hc

lemma eq_of_ok_iff {x y : Except Notice Request} (h : ∀ r, x = .ok r ↔ y = .ok r)
    (hx : ∀ n, x = .error n → n = .usage) (hy : ∀ n, y = .error n → n = .usage) : x = y := by
  cases x with
  | ok r => exact ((h r).mp rfl).symm
  | error n =>
    cases y with
    | ok r => cases (h r).mpr rfl
    | error m => rw [hx n rfl, hy m rfl]

lemma read_move {name : String} {t : Token} {b₁ b₂ a₁ a₂ : List Token} (hname : (name, scope) ∈ commands)
    (hb : ∀ u ∈ b₁ ++ t :: b₂, u.IsWritten .top) (ha : ∀ u ∈ a₁ ++ t :: a₂, u.IsWritten scope)
    (hnew : ∀ u ∈ (b₁ ++ b₂) ++ (a₁ ++ a₂), u.content.switch? ≠ t.content.switch?) :
    read (arranged (b₁ ++ t :: b₂) name (a₁ ++ a₂)) =
      read (arranged (b₁ ++ b₂) name (a₁ ++ t :: a₂)) := by
  have hmem : ∀ (l₁ l₂ : List Token) (u : Token), u ∈ l₁ ++ t :: l₂ ↔ u = t ∨ u ∈ l₁ ++ l₂ :=
    fun _ _ _ => List.perm_middle.mem_iff.trans List.mem_cons
  have hb' : ∀ u ∈ b₁ ++ b₂, u.IsWritten .top := fun u hu => hb u ((hmem ..).mpr (Or.inr hu))
  have ha' : ∀ u ∈ a₁ ++ a₂, u.IsWritten scope := fun u hu => ha u ((hmem ..).mpr (Or.inr hu))
  have hallowed : t.content.IsAllowed .top :=
    Token.isAllowed (hb t ((hmem ..).mpr (Or.inl rfl)))
  have hbefore : ∀ d ∈ contents b₁ ++ contents b₂, d.switch? ≠ t.content.switch? := by
    rw [← contents_append]
    exact List.forall_mem_map.mpr fun u hu => hnew u (List.mem_append_left _ hu)
  have hafter : ∀ d ∈ contents a₁ ++ contents a₂, d.switch? ≠ t.content.switch? := by
    rw [← contents_append]
    exact List.forall_mem_map.mpr fun u hu => hnew u (List.mem_append_right _ hu)
  refine eq_of_ok_iff (fun r => ?_) (fun _ => eq_usage_of_read hname hb ha')
    (fun _ => eq_usage_of_read hname hb' ha)
  rw [read_eq_ok_iff hname hb ha', read_eq_ok_iff hname hb' ha]
  simp only [contents_append, contents_cons, distinct_middle, says_move hallowed hbefore hafter,
    and_iff_right hbefore, and_iff_right hafter]

/-- How a command line is arranged does not matter. Any request is read from any arrangement of what it
says, in whatever order, spelling and division between both sides of the command's name; and there is one
unless a path is empty or the reference starts with a dash. In general the request that is read is the
one that is said, where the value said last counts of those on different sides; and nothing is read if
one side says something twice. An option that is named once can be moved from one side to the other. -/
theorem arrangements_read_alike :
    (∀ r name before after, (name, r.command.scope) ∈ commands → (∀ t ∈ before, t.IsWritten .top) →
      (∀ t ∈ after, t.IsWritten r.command.scope) →
      (contents before ++ contents after).Perm r.contents →
      read (arranged before name after) = .ok r) ∧
    (∀ r : Request, r.IsSayable → ∃ name after, (name, r.command.scope) ∈ commands ∧
      contents after = r.contents ∧ ∀ t ∈ after, t.IsWritten r.command.scope) ∧
    (∀ scope name before after, (name, scope) ∈ commands → (∀ t ∈ before, t.IsWritten .top) →
      (∀ t ∈ after, t.IsWritten scope) →
      (∀ r, read (arranged before name after) = .ok r ↔
        Distinct (contents before) ∧ Distinct (contents after) ∧ r.command.scope = scope ∧
          r.Says (contents before) (contents after)) ∧
      (¬ Distinct (contents before) ∨ ¬ Distinct (contents after) →
        read (arranged before name after) = .error .usage)) ∧
    ∀ scope name t b₁ b₂ a₁ a₂, (name, scope) ∈ commands →
      (∀ u ∈ b₁ ++ t :: b₂, u.IsWritten .top) → (∀ u ∈ a₁ ++ t :: a₂, u.IsWritten scope) →
      (∀ u ∈ (b₁ ++ b₂) ++ (a₁ ++ a₂), u.content.switch? ≠ t.content.switch?) →
      read (arranged (b₁ ++ t :: b₂) name (a₁ ++ a₂)) =
        read (arranged (b₁ ++ b₂) name (a₁ ++ t :: a₂)) := by
  refine ⟨fun r name before after hname hb ha hperm => ?_, fun r hr => ?_,
    fun scope name before after hname hb ha =>
      ⟨fun r => read_eq_ok_iff hname hb ha, fun htwice => ?_⟩,
    fun scope name t b₁ b₂ a₁ a₂ => read_move⟩
  · have hdistinct : Distinct (contents before ++ contents after) :=
      (hperm.map Content.switch?).nodup_iff.mpr r.distinct_contents
    rw [Distinct, List.map_append] at hdistinct
    have hallowed : ∀ c ∈ contents before, c.IsAllowed .top :=
      List.forall_mem_map.mpr fun t ht => Token.isAllowed (hb t ht)
    exact (read_eq_ok_iff hname hb ha).mpr ⟨hdistinct.of_append_left, hdistinct.of_append_right, rfl,
      Request.says_of_perm hperm hallowed⟩
  · obtain ⟨name, hname⟩ := exists_name r.command
    obtain ⟨after, hcontents, hafter⟩ := exists_arrangement hr
    exact ⟨name, after, hname, hcontents, hafter⟩
  · cases hread : read (arranged before name after) with
    | error n => rw [eq_usage_of_read hname hb ha hread]
    | ok r =>
      obtain ⟨hbefore, hafter, -⟩ := (read_eq_ok_iff hname hb ha).mp hread
      exact absurd htwice (not_or.mpr ⟨not_not.mpr hbefore, not_not.mpr hafter⟩)

theorem arrangements_read_alike_example :
    read ["--display=-1", "generate", "-i", "generate", "-v"] =
      .ok ⟨true, false, { display := some "-1" }, .generate (some "generate") false⟩ := by
  have hdisplay : Token.IsWritten .top (.setting .display "-1" "--display" "-1" true) :=
    ⟨rfl, Or.inl ⟨("display", .setting .display), by decide, rfl, by decide⟩, rfl, nofun⟩
  have hinput : Token.IsWritten .generate (.setting .input "generate" "-i" "generate" false) :=
    ⟨rfl, Or.inr ⟨('i', .setting .input), by decide, rfl, by decide⟩, ⟨rfl, by decide⟩,
      fun _ => by decide⟩
  have hverbose : Token.IsWritten .generate (.flag .verbose "-v") :=
    ⟨by decide, by decide, rfl, Or.inr ⟨('v', .flag .verbose), by decide, rfl, by decide⟩⟩
  exact arrangements_read_alike.1
    ⟨true, false, { display := some "-1" }, .generate (some "generate") false⟩ "generate"
    [.setting .display "-1" "--display" "-1" true]
    [.setting .input "generate" "-i" "generate" false, .flag .verbose "-v"]
    (by decide) (List.forall_mem_singleton.mpr hdisplay)
    (List.forall_mem_cons.mpr ⟨hinput, List.forall_mem_singleton.mpr hverbose⟩)
    (@List.perm_append_comm _ [_, _] [_])

end CommandLine

end TreePipeline
