import TreePipeline.Proofs.Files.Names

/-! Following names step by step, as a relation that counts the links it follows and has no bound on
them. The walk with a supply of links agrees with it as long as the supply lasts, and only then. -/

namespace TreePipeline

namespace Node

def isLeaf : Node → Bool
  | .file .. => true
  | .device _ => true
  | _ => false

end Node

namespace FileSystem

inductive Arrival where
  | found (l : Location)
  | vacant (dir : Location) (name : Octets)
  | broken
  | blocked
  | tooLong

def Arrival.result : Arrival → Except Errno Target
  | .found l => .ok (.found l)
  | .vacant dir name => .ok (.absent dir name)
  | .broken => .error .noEntry
  | .blocked => .error .notDirectory
  | .tooLong => .error .nameTooLong

def Arrival.IsMissing (a : Arrival) : Prop := a = .broken ∨ ∃ dir name, a = .vacant dir name

@[simp] lemma Arrival.not_isMissing_found (l : Location) : ¬ (Arrival.found l).IsMissing := by
  simp [Arrival.IsMissing]

def IsStep (n : Octets) : Prop := n ≠ Path.dot ∧ n ≠ Path.dotDot

def InBounds (e : Ending) (here : Location) (n : Octets) : Prop :=
  n.length ≤ nameLimit ∧ (e.shortWay = true → (pathOf (here ++ [n])).length < pathLimit)

def Ending.behind (e : Ending) (goal : Octets) (rest : List Octets) : Ending :=
  { e with directory := e.directory || (rest.isEmpty && Path.endsInSlash goal) }

def linkBase (goal : Octets) (here : Location) : Location :=
  if Path.isAbsolute goal then [] else here

/-- Where names lead from a location, so many links followed on the way. -/
inductive Leads (fs : FileSystem) : Nat → Ending → Location → List Octets → Arrival → Prop
  | here {e here} : Leads fs 0 e here [] (.found here)
  | dot {k e here rest a} : Leads fs k e here rest a → Leads fs k e here (Path.dot :: rest) a
  | dotDot {k e here rest a} : Leads fs k e here.dropLast rest a →
      Leads fs k e here (Path.dotDot :: rest) a
  | tooLong {e here n rest} : IsStep n → ¬ InBounds e here n → Leads fs 0 e here (n :: rest) .tooLong
  | vacant {e here n} : IsStep n → InBounds e here n → fs.get? (here ++ [n]) = none →
      Leads fs 0 e here [n] (.vacant here n)
  | broken {e here n rest} : IsStep n → InBounds e here n → fs.get? (here ++ [n]) = none →
      rest ≠ [] → Leads fs 0 e here (n :: rest) .broken
  | directory {k e here n rest a} : IsStep n → InBounds e here n →
      fs.get? (here ++ [n]) = some .directory → Leads fs k e (here ++ [n]) rest a →
      Leads fs k e here (n :: rest) a
  | kept {e here n goal} : IsStep n → InBounds e here n → fs.get? (here ++ [n]) = some (.link goal) →
      e.keepLink = true → e.directory = false → Leads fs 0 e here [n] (.found (here ++ [n]))
  | link {k e here n rest goal a} : IsStep n → InBounds e here n →
      fs.get? (here ++ [n]) = some (.link goal) →
      (rest ≠ [] ∨ e.keepLink = false ∨ e.directory = true) →
      Leads fs k (e.behind goal rest) (linkBase goal here) (Path.names goal ++ rest) a →
      Leads fs (k + 1) e here (n :: rest) a
  | leaf {e here n node} : IsStep n → InBounds e here n → fs.get? (here ++ [n]) = some node →
      node.isLeaf = true → e.directory = false → Leads fs 0 e here [n] (.found (here ++ [n]))
  | blocked {e here n rest node} : IsStep n → InBounds e here n →
      fs.get? (here ++ [n]) = some node → node.isLeaf = true →
      (rest ≠ [] ∨ e.directory = true) → Leads fs 0 e here (n :: rest) .blocked

def continueAt (fs : FileSystem) (e : Ending) :
    Nat → Location → Octets → List Octets → Except Errno Target
  | 0, _, _, _ => .error .linkLoop
  | links + 1, here, goal, rest =>
    fs.walk links (e.behind goal rest) (linkBase goal here) (Path.names goal ++ rest)

lemma walk_eq (fs : FileSystem) (links : Nat) (e : Ending) :
    fs.walk links e = fs.walkNames e (fs.continueAt e links) := by
  cases links <;> rfl

variable {fs : FileSystem} {e : Ending} {here : Location} {n : Octets} {rest : List Octets}
  {jump : Location → Octets → List Octets → Except Errno Target}

lemma walkNames_dot : fs.walkNames e jump here (Path.dot :: rest) = fs.walkNames e jump here rest := by
  simp [walkNames]

lemma walkNames_dotDot :
    fs.walkNames e jump here (Path.dotDot :: rest) = fs.walkNames e jump here.dropLast rest := by
  simp [walkNames, Path.dot, Path.dotDot]

lemma walkNames_tooLong (hn : IsStep n) (hb : ¬ InBounds e here n) :
    fs.walkNames e jump here (n :: rest) = .error .nameTooLong := by
  by_cases hl : nameLimit < n.length
  · simp [walkNames, hn.1, hn.2, hl]
  · have hs : e.shortWay = true ∧ pathLimit ≤ (pathOf (here ++ [n])).length := by
      simp only [InBounds, not_and, Classical.not_imp, Nat.not_lt] at hb
      exact hb (Nat.le_of_not_lt hl)
    simp [walkNames, hn.1, hn.2, hl, hs.1, hs.2]

lemma walkNames_step (hn : IsStep n) (hb : InBounds e here n) :
    fs.walkNames e jump here (n :: rest) =
      match fs.get? (here ++ [n]) with
      | none => if rest = [] then .ok (.absent here n) else .error .noEntry
      | some .directory => fs.walkNames e jump (here ++ [n]) rest
      | some (.link goal) =>
        if rest = [] ∧ e.keepLink ∧ ¬ e.directory then .ok (.found (here ++ [n]))
        else jump here goal rest
      | some _ =>
        if rest = [] ∧ ¬ e.directory then .ok (.found (here ++ [n])) else .error .notDirectory := by
  have hl : ¬ nameLimit < n.length := Nat.not_lt.mpr hb.1
  have hs : ¬ (e.shortWay = true ∧ pathLimit ≤ (pathOf (here ++ [n])).length) :=
    fun h => Nat.not_lt.mpr h.2 (hb.2 h.1)
  cases hget : fs.get? (here ++ [n]) with
  | none => simp only [walkNames, hn.1, hn.2, hl, hs, hget, if_false]
  | some node => cases node <;> simp only [walkNames, hn.1, hn.2, hl, hs, hget, if_false]

lemma leads_leaf {node : Node} (hn : IsStep n) (hb : InBounds e here n)
    (hg : fs.get? (here ++ [n]) = some node) (hleaf : node.isLeaf = true) :
    ∃ a, Leads fs 0 e here (n :: rest) a := by
  by_cases h : rest = [] ∧ e.directory = false
  · obtain ⟨rfl, hd⟩ := h
    exact ⟨_, .leaf hn hb hg hleaf hd⟩
  · exact ⟨_, .blocked hn hb hg hleaf (by simpa only [not_and_or, Bool.not_eq_false] using h)⟩

lemma Leads.walk_eq_result {k links : Nat} {names : List Octets} {a : Arrival}
    (h : Leads fs k e here names a) (hk : k ≤ links) : fs.walk links e here names = a.result := by
  induction h generalizing links with
  | here => simp [walk_eq, walkNames, Arrival.result]
  | dot _ ih => rw [walk_eq, walkNames_dot, ← walk_eq, ih hk]
  | dotDot _ ih => rw [walk_eq, walkNames_dotDot, ← walk_eq, ih hk]
  | tooLong hn hb => rw [walk_eq, walkNames_tooLong hn hb, Arrival.result]
  | vacant hn hb hg => simp [walk_eq, walkNames_step hn hb, hg, Arrival.result]
  | broken hn hb hg hr => simp [walk_eq, walkNames_step hn hb, hg, hr, Arrival.result]
  | directory hn hb hg _ ih =>
    rw [walk_eq, walkNames_step hn hb, hg]
    rw [← ih hk, walk_eq]
  | kept hn hb hg hkeep hd => simp [walk_eq, walkNames_step hn hb, hg, hkeep, hd, Arrival.result]
  | @link k e here n rest goal a hn hb hg hgo _ ih =>
    obtain ⟨links, rfl⟩ := Nat.exists_eq_add_of_le' (Nat.le_trans (Nat.le_add_left 1 k) hk)
    have hnot : ¬ (rest = [] ∧ e.keepLink = true ∧ ¬ e.directory = true) := by
      rintro ⟨h₁, h₂, h₃⟩
      rcases hgo with h | h | h <;> simp_all
    rw [walk_eq, walkNames_step hn hb, hg]
    simp only [hnot, if_false, continueAt]
    exact ih (Nat.le_of_succ_le_succ hk)
  | leaf hn hb hg hleaf hd =>
    rename_i node
    cases node <;> simp_all [walk_eq, walkNames_step hn hb, Arrival.result, Node.isLeaf]
  | blocked hn hb hg hleaf hgo =>
    rename_i rest node
    cases node <;> rcases hgo with h | h <;>
      simp_all [walk_eq, walkNames_step hn hb, Arrival.result, Node.isLeaf]

lemma exists_leads_of_continueAt {links : Nat}
    (hgo : ∀ here goal rest, fs.continueAt e links here goal rest = .error .linkLoop ∨
      ∃ k, k + 1 ≤ links ∧ ∃ a, Leads fs k (e.behind goal rest) (linkBase goal here)
        (Path.names goal ++ rest) a)
    (names : List Octets) : ∀ here, fs.walk links e here names = .error .linkLoop ∨
      ∃ k ≤ links, ∃ a, Leads fs k e here names a := by
  induction names with
  | nil => exact fun here => Or.inr ⟨0, Nat.zero_le _, _, .here⟩
  | cons n rest ih =>
    intro here
    by_cases hdot : n = Path.dot
    · subst hdot
      rw [walk_eq, walkNames_dot, ← walk_eq]
      exact (ih here).imp_right fun ⟨k, hk, a, h⟩ => ⟨k, hk, a, .dot h⟩
    by_cases hdotDot : n = Path.dotDot
    · subst hdotDot
      rw [walk_eq, walkNames_dotDot, ← walk_eq]
      exact (ih here.dropLast).imp_right fun ⟨k, hk, a, h⟩ => ⟨k, hk, a, .dotDot h⟩
    have hn : IsStep n := ⟨hdot, hdotDot⟩
    by_cases hb : InBounds e here n
    swap
    · exact Or.inr ⟨0, Nat.zero_le _, _, .tooLong hn hb⟩
    cases hg : fs.get? (here ++ [n]) with
    | none =>
      by_cases hr : rest = []
      · subst hr
        exact Or.inr ⟨0, Nat.zero_le _, _, .vacant hn hb hg⟩
      · exact Or.inr ⟨0, Nat.zero_le _, _, .broken hn hb hg hr⟩
    | some node =>
      cases node with
      | directory =>
        rw [walk_eq, walkNames_step hn hb, hg]
        simp only [← walk_eq]
        exact (ih (here ++ [n])).imp_right fun ⟨k, hk, a, h⟩ => ⟨k, hk, a, .directory hn hb hg h⟩
      | link goal =>
        by_cases hkept : rest = [] ∧ e.keepLink = true ∧ e.directory = false
        · obtain ⟨rfl, hkeep, hd⟩ := hkept
          exact Or.inr ⟨0, Nat.zero_le _, _, .kept hn hb hg hkeep hd⟩
        · have hopen : rest ≠ [] ∨ e.keepLink = false ∨ e.directory = true := by
            simpa only [not_and_or, Bool.not_eq_true, Bool.not_eq_false] using hkept
          have hif : ¬ (rest = [] ∧ e.keepLink = true ∧ ¬ e.directory = true) := by
            simpa only [Bool.not_eq_true] using hkept
          rw [walk_eq, walkNames_step hn hb, hg]
          simp only [hif, if_false]
          exact (hgo here goal rest).imp_right fun ⟨k, hk, a, h⟩ =>
            ⟨k + 1, hk, a, .link hn hb hg hopen h⟩
      | file content mode time =>
        exact Or.inr ⟨0, Nat.zero_le _, leads_leaf hn hb hg rfl⟩
      | device kind => exact Or.inr ⟨0, Nat.zero_le _, leads_leaf hn hb hg rfl⟩

lemma exists_leads (fs : FileSystem) (links : Nat) (e : Ending) (here : Location)
    (names : List Octets) : fs.walk links e here names = .error .linkLoop ∨
      ∃ k ≤ links, ∃ a, Leads fs k e here names a := by
  induction links generalizing e here names with
  | zero => exact exists_leads_of_continueAt (fun _ _ _ => Or.inl rfl) names here
  | succ links ih =>
    refine exists_leads_of_continueAt (fun base goal rest => ?_) names here
    exact (ih (e.behind goal rest) (linkBase goal base) (Path.names goal ++ rest)).imp_right
      fun ⟨k, hk, a, h⟩ => ⟨k, Nat.succ_le_succ hk, a, h⟩

lemma Arrival.result_ne_linkLoop (a : Arrival) : a.result ≠ .error .linkLoop := by
  cases a <;> simp [Arrival.result, Errno.noEntry, Errno.notDirectory, Errno.nameTooLong, Errno.linkLoop]

lemma Arrival.result_injective : Function.Injective Arrival.result := by
  intro a b h
  cases a <;> cases b <;>
    simp_all [Arrival.result, Errno.noEntry, Errno.notDirectory, Errno.nameTooLong]

lemma walk_eq_result_iff {links : Nat} {names : List Octets} {a : Arrival} :
    fs.walk links e here names = a.result ↔ ∃ k ≤ links, Leads fs k e here names a := by
  constructor
  · intro h
    rcases exists_leads fs links e here names with hloop | ⟨k, hk, b, hb⟩
    · exact absurd (h.symm.trans hloop) a.result_ne_linkLoop
    · have hba : b = a := Arrival.result_injective ((hb.walk_eq_result hk).symm.trans h)
      exact ⟨k, hk, hba ▸ hb⟩
  · rintro ⟨k, hk, h⟩
    exact h.walk_eq_result hk

lemma Leads.unique {k j : Nat} {names : List Octets} {a b : Arrival}
    (ha : Leads fs k e here names a) (hb : Leads fs j e here names b) : a = b := by
  apply Arrival.result_injective
  rw [← ha.walk_eq_result (Nat.le_max_left k j), ← hb.walk_eq_result (Nat.le_max_right k j)]

end FileSystem

end TreePipeline
