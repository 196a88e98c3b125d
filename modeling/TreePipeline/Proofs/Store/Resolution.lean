import TreePipeline.Proofs.Artifact.Naming
import TreePipeline.Proofs.Files.Ordered

/-! What serving an artifact answers: where its path leads decides between the file, its absence, a
place that is not the store's and a failure of the system. -/

namespace TreePipeline.Store

open FileSystem

variable {store : Store} {fs : FileSystem} {r : Reference} {base : BaseId} {role : Role}
  {p root : Location}

/-- A regular file below the store's own location. -/
def Holds (store : Store) (fs : FileSystem) (p : Location) : Prop :=
  fs.IsRegular p ∧ ∃ root, fs.LeadsTo store.root (.found root) ∧ root <+: p

lemma not_leadsTo_nil {a : Arrival} : ¬ fs.LeadsTo [] a := fun h => h.2.1 rfl

lemma Holds.root_ne_nil (h : store.Holds fs p) : store.root ≠ [] := by
  rintro hroot
  obtain ⟨_, root, hr, _⟩ := h
  exact not_leadsTo_nil (hroot ▸ hr)

lemma leadsTo_root (hroot : store.root ≠ [])
    (h : fs.LeadsTo (store.derive base role) (.found p)) :
    ∃ j root, fs.LeadsTo store.root (.found root) ∧
      Leads fs j ⟨false, false, true⟩ root [ArtifactName.ofRole base role] (.found p) :=
  h.passesThrough (ArtifactName.isEntryName_ofRole base role) hroot

lemma resolve_of_found (hfs : fs.IsOrdered)
    (h : fs.LeadsTo (store.derive r.base r.role) (.found p))
    (hroot : fs.LeadsTo store.root (.found root)) [Decidable (store.Holds fs p)] :
    store.resolve fs r =
      if store.Holds fs p then .ok p else .error (.outsideNamespace (pathOf p)) := by
  have hholds : (root.isPrefixOf p = true ∧ fs.isFile (pathOf p) = true) ↔ store.Holds fs p := by
    rw [hfs.isFile_pathOf (ArtifactName.isEntryName_ofRole r.base r.role) h,
      List.isPrefixOf_iff_prefix, Holds, and_comm]
    refine and_congr_right fun _ => ⟨fun hp => ⟨root, hroot, hp⟩, ?_⟩
    rintro ⟨root', hroot', hp⟩
    obtain rfl : root = root' := Arrival.found.inj (hroot.unique hroot')
    exact hp
  simp only [resolve, canonicalize_of_found h, canonicalize_of_found hroot, hholds]

lemma resolve_of_missing {a : Arrival} (h : fs.LeadsTo (store.derive r.base r.role) a)
    (ha : a.IsMissing) : store.resolve fs r = .error (.notFound r.text) := by
  simp [resolve, canonicalize_of_missing h ha, SystemError.isNotFound]

lemma resolve_of_failure {e : SystemError}
    (h : fs.canonicalize (store.derive r.base r.role) = .error e) (he : e.isNotFound = false) :
    store.resolve fs r = .error (.system e) := by
  simp [resolve, h, he]

lemma resolve_of_no_root (h : fs.LeadsTo (store.derive r.base r.role) (.found p))
    (hroot : store.root = []) : store.resolve fs r = .error (.system (.os .noEntry)) := by
  simp [resolve, canonicalize_of_found h, hroot, canonicalize_nil]

inductive Verdict (store : Store) (fs : FileSystem) (r : Reference) :
    Except ArtifactError Location → Prop
  | served {p : Location} (hlead : fs.LeadsTo (store.derive r.base r.role) (.found p))
    (hholds : store.Holds fs p) : Verdict store fs r (.ok p)
  | outside {p : Location} (hlead : fs.LeadsTo (store.derive r.base r.role) (.found p))
    (hholds : ¬ store.Holds fs p) (hroot : store.root ≠ []) :
    Verdict store fs r (.error (.outsideNamespace (pathOf p)))
  | noRoot {p : Location} {cause : SystemError}
    (hlead : fs.LeadsTo (store.derive r.base r.role) (.found p)) (hholds : ¬ store.Holds fs p)
    (hroot : store.root = []) : Verdict store fs r (.error (.system cause))
  | missing {a : Arrival} (hlead : fs.LeadsTo (store.derive r.base r.role) a) (hmissing : a.IsMissing) :
    Verdict store fs r (.error (.notFound r.text))
  | failed {cause : SystemError}
    (hnone : ∀ a, fs.LeadsTo (store.derive r.base r.role) a → ¬ a.IsMissing ∧ ∀ l, a ≠ .found l) :
    Verdict store fs r (.error (.system cause))

lemma verdict_resolve (store : Store) (hfs : fs.IsOrdered) (r : Reference) :
    store.Verdict fs r (store.resolve fs r) := by
  classical
  rcases canonicalize_cases fs (store.derive_ne_nil r.base r.role) with
    ⟨p, hp, _⟩ | ⟨a, ha, hlead, _⟩ | ⟨hnone, e, he, hefound⟩
  · by_cases hroot : store.root = []
    · rw [resolve_of_no_root hp hroot]
      exact .noRoot hp (fun hholds => hholds.root_ne_nil hroot) hroot
    · obtain ⟨_, root, hr, _⟩ := leadsTo_root hroot hp
      rw [resolve_of_found hfs hp hr]
      split
      · exact .served hp ‹_›
      · exact .outside hp ‹_› hroot
  · rw [resolve_of_missing hlead ha]
    exact .missing hlead ha
  · rw [resolve_of_failure he hefound]
    exact .failed hnone

lemma resolve_eq_ok_iff (hfs : fs.IsOrdered) :
    store.resolve fs r = .ok p ↔
      fs.LeadsTo (store.derive r.base r.role) (.found p) ∧ store.Holds fs p := by
  have hverdict := verdict_resolve store hfs r
  generalize store.resolve fs r = answer at hverdict ⊢
  cases hverdict with
  | @served q hlead hholds =>
    simp only [Except.ok.injEq, hlead.iff_eq, Arrival.found.injEq]
    exact ⟨fun hqp => ⟨hqp.symm, hqp ▸ hholds⟩, fun hpq => hpq.1.symm⟩
  | outside hlead hholds | noRoot hlead hholds =>
    simp only [hlead.iff_eq, Arrival.found.injEq, reduceCtorEq, false_iff, not_and]
    exact fun hpq => hpq ▸ hholds
  | missing hlead hmissing =>
    simp only [hlead.iff_eq, reduceCtorEq, false_iff, not_and]
    exact fun hpa => absurd (hpa ▸ hmissing) (Arrival.not_isMissing_found p)
  | failed hnone =>
    simp only [reduceCtorEq, false_iff, not_and]
    exact fun hp => absurd rfl ((hnone _ hp).2 p)

/-- The four verdicts on a reference. A file is served if the path leads to it and it lies below the
store's own location, name by name; what is missing and what lies elsewhere are told apart; every
other failure is the system's. -/
theorem resolve_verdicts (store : Store) (fs : FileSystem) (hfs : fs.IsOrdered) (r : Reference) :
    (∀ p, store.resolve fs r = .ok p ↔
      fs.LeadsTo (store.derive r.base r.role) (.found p) ∧ store.Holds fs p) ∧
    (∀ p, store.resolve fs r = .ok p → Path.names (pathOf p) = p) ∧
    (∀ text, store.resolve fs r = .error (.notFound text) ↔
      text = r.text ∧ ∃ a, a.IsMissing ∧ fs.LeadsTo (store.derive r.base r.role) a) ∧
    (∀ path, store.resolve fs r = .error (.outsideNamespace path) ↔
      store.root ≠ [] ∧ ∃ p, path = pathOf p ∧
        fs.LeadsTo (store.derive r.base r.role) (.found p) ∧ ¬ store.Holds fs p) ∧
    ((∃ cause, store.resolve fs r = .error (.system cause)) ↔
      (¬ ∃ a, a.IsMissing ∧ fs.LeadsTo (store.derive r.base r.role) a) ∧
        ((∃ p, fs.LeadsTo (store.derive r.base r.role) (.found p)) → store.root = [])) := by
  refine ⟨fun p => resolve_eq_ok_iff hfs,
    fun p hp => hfs.names_pathOf (ArtifactName.isEntryName_ofRole r.base r.role)
      ((resolve_eq_ok_iff hfs).mp hp).1, ?_⟩
  have hverdict := verdict_resolve store hfs r
  generalize store.resolve fs r = answer at hverdict ⊢
  cases hverdict with
  | served hlead hholds => simp [hlead.iff_eq, hholds, hholds.root_ne_nil]
  | outside hlead hholds hroot => simp [hlead.iff_eq, hholds, hroot, eq_comm]
  | noRoot hlead hholds hroot => simp [hlead.iff_eq, hroot]
  | @missing a hlead hmissing =>
    have hfound : ∀ q, Arrival.found q ≠ a := by
      rintro q rfl
      exact Arrival.not_isMissing_found q hmissing
    simp [hlead.iff_eq, hfound, hmissing, eq_comm]
  | failed hnone =>
    have hfound : ∀ q, ¬ fs.LeadsTo (store.derive r.base r.role) (.found q) :=
      fun q hq => (hnone _ hq).2 q rfl
    have hmissing : ¬ ∃ a, a.IsMissing ∧ fs.LeadsTo (store.derive r.base r.role) a := by
      rintro ⟨a, ha, hlead⟩
      exact (hnone a hlead).1 ha
    simp [hfound, hmissing]

def treeOf (nodes : List (Location × Node)) : FileSystem := { nodes, clock := 0, directory := [] }

def exampleStore : Store := ⟨Octets.ofAscii "/s"⟩

def inStore (name : Octets) : Location := [Octets.ofAscii "s", name]

def chainName (k : Nat) : Octets := [0x61 + k.toUInt8]

/-- A store in which one link and `n` more after it lead to a file. -/
def linkChain (n : Nat) : FileSystem :=
  treeOf (([Octets.ofAscii "s"], .directory) ::
    (inStore (ArtifactName.ofRole default .image), .link (chainName 0)) ::
    (inStore (chainName n), .file [] 0o644 0) ::
    (List.range n).map fun k => (inStore (chainName k), .link (chainName (k + 1))))

theorem resolve_verdicts_linkChain : (linkChain 39).IsOrdered ∧
    (linkChain 39).LeadsTo (exampleStore.derive default .image) (.found (inStore (chainName 39))) ∧
    exampleStore.Holds (linkChain 39) (inStore (chainName 39)) := by
  have hfs : (linkChain 39).IsOrdered := isOrdered_of_entries (by decide +kernel)
  exact ⟨hfs, ((resolve_verdicts exampleStore (linkChain 39) hfs (.image default)).1 _).mp
    (by decide +kernel)⟩

/-- A store in which a link leads on below a file. -/
def linkBelowFile : FileSystem :=
  treeOf [([Octets.ofAscii "s"], .directory),
    (inStore (ArtifactName.ofRole default .image), .link (Octets.ofAscii "f/x")),
    (inStore (Octets.ofAscii "f"), .file [] 0o644 0)]

/-- Links that end at a file of the store are not followed beyond the fortieth, and what cannot be
there since a file is in the way does not count as missing. -/
theorem resolve_refuses_long_chain :
    ((∃ k p, Leads (linkChain 40) k (canonicalEnding (exampleStore.derive default .image))
        ((linkChain 40).origin (exampleStore.derive default .image))
        (Path.names (exampleStore.derive default .image)) (.found p) ∧
        exampleStore.Holds (linkChain 40) p) ∧
      exampleStore.resolve (linkChain 40) (.image default) = .error (.system (.os .linkLoop))) ∧
    ((linkBelowFile.get? (inStore (Octets.ofAscii "f") ++ [Octets.ofAscii "x"]) = none) ∧
      exampleStore.resolve linkBelowFile (.image default) =
        .error (.system (.os .notDirectory))) := by
  refine ⟨⟨?_, by decide +kernel⟩, by decide +kernel, by decide +kernel⟩
  have hwalk : (linkChain 40).walk 41 (canonicalEnding (exampleStore.derive default .image))
      ((linkChain 40).origin (exampleStore.derive default .image))
      (Path.names (exampleStore.derive default .image)) =
      (Arrival.found (inStore (chainName 40))).result := by decide +kernel
  obtain ⟨k, _, hk⟩ := walk_eq_result_iff.mp hwalk
  have hroot : (linkChain 40).LeadsTo exampleStore.root (.found [Octets.ofAscii "s"]) :=
    canonicalize_eq_ok_iff.mp (by decide +kernel)
  exact ⟨k, _, hk, ⟨[], 0o644, 0, by decide +kernel⟩, _, hroot, by decide +kernel⟩

lemma canonicalize_of_resolve (h : store.resolve fs r = .ok p) :
    fs.canonicalize (store.derive r.base r.role) = .ok p ∧
      ∃ root, fs.canonicalize store.root = .ok root := by
  unfold resolve at h
  split at h
  · split at h <;> simp at h
  · rename_i l hl
    split at h
    · simp at h
    · rename_i root hroot
      split at h
      · obtain rfl := Except.ok.inj h
        exact ⟨hl, root, hroot⟩
      · simp at h

lemma eq_of_leadsTo_derive (h : fs.LeadsTo (store.derive base role) (.found p))
    (hroot : fs.LeadsTo store.root (.found root)) :
    p = root ++ [ArtifactName.ofRole base role] ∨
      ∃ goal, fs.get? (root ++ [ArtifactName.ofRole base role]) = some (.link goal) := by
  obtain ⟨j, mid, hmid, hj⟩ := leadsTo_root hroot.2.1 h
  obtain rfl : mid = root := Arrival.found.inj (hmid.unique hroot)
  obtain ⟨node, hnode, hp⟩ := hj.found_name (ArtifactName.isEntryName_ofRole base role)
  refine hp.imp_right ?_
  rintro ⟨goal, rfl⟩
  exact ⟨goal, hnode⟩

/-- A source is served only where a link stands for the artifact that was asked for or for the
source. -/
theorem source_served_through_link (store : Store) (fs : FileSystem) (r : Reference) (p : Location)
    (h : store.resolve fs r = .ok p) (id : BaseId)
    (hsource : fs.canonicalize (store.derive id .source) = .ok p) :
    ∃ root goal, fs.canonicalize store.root = .ok root ∧
      (fs.get? (root ++ [ArtifactName.ofRole r.base r.role]) = some (.link goal) ∨
        fs.get? (root ++ [ArtifactName.ofRole id .source]) = some (.link goal)) := by
  obtain ⟨hserved, root, hroot⟩ := canonicalize_of_resolve h
  have hdir := canonicalize_eq_ok_iff.mp hroot
  rcases eq_of_leadsTo_derive (canonicalize_eq_ok_iff.mp hserved) hdir with hp | ⟨goal, hgoal⟩
  · rcases eq_of_leadsTo_derive (canonicalize_eq_ok_iff.mp hsource) hdir with hp' | ⟨goal, hgoal⟩
    · have hname := List.singleton_inj.mp (List.append_cancel_left (hp.symm.trans hp'))
      have hrole := (ArtifactName.ofRole_inj hname).2
      have hexp := r.exposable
      simp [hrole, Role.isExposable] at hexp
    · exact ⟨root, goal, hroot, Or.inr hgoal⟩
  · exact ⟨root, goal, hroot, Or.inl hgoal⟩

/-- A store in which the image of a submission is a link to its source. -/
def linkedSource : FileSystem :=
  treeOf [([Octets.ofAscii "s"], .directory),
    (inStore (ArtifactName.ofRole default .source), .file [] 0o644 0),
    (inStore (ArtifactName.ofRole default .image), .link (ArtifactName.ofRole default .source))]

theorem source_served_linkedSource :
    ∃ root goal, linkedSource.canonicalize exampleStore.root = .ok root ∧
      (linkedSource.get? (root ++ [ArtifactName.ofRole default .image]) = some (.link goal) ∨
        linkedSource.get? (root ++ [ArtifactName.ofRole default .source]) = some (.link goal)) :=
  source_served_through_link exampleStore linkedSource (.image default)
    (inStore (ArtifactName.ofRole default .source)) (by decide +kernel) default (by decide +kernel)

theorem resolve_yields_source : ∃ p,
    exampleStore.resolve linkedSource (.image default) = .ok p ∧
      linkedSource.canonicalize (exampleStore.derive default .source) = .ok p :=
  ⟨inStore (ArtifactName.ofRole default .source), by decide +kernel, by decide +kernel⟩

end TreePipeline.Store
