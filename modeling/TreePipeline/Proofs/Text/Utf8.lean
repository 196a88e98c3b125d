import Mathlib.Algebra.Group.Nat.Defs
import Mathlib.Tactic.Common
import TreePipeline.Text.Utf8

/-! Strict reading inverts writing: octets are read as a text just if they are what is written for it.
What has been read of a character fixes its first octets, and what is owed are the others; without
all of these it is an ill-formed piece. -/

namespace TreePipeline.Utf8

variable {q q' : State} {b low high : UInt8} {owed bits v : Nat} {front bs : Octets} {s : String}
  {c : Char}

def tailOf : Nat → Nat → Octets
  | 0, _ => []
  | owed + 1, v => UInt8.ofNat (v / 64 ^ owed % 64 + 128) :: tailOf owed v

@[simp] lemma length_tailOf (owed v : Nat) : (tailOf owed v).length = owed := by
  induction owed with
  | zero => rfl
  | succ owed ih => rw [tailOf, List.length_cons, ih]

def Fixes (front : Octets) (owed v : Nat) : Prop :=
  v.isValidChar ∧ String.utf8EncodeChar (Char.ofNat v) = front ++ tailOf owed v

def Begun (front : Octets) : State → Prop
  | .start => front = []
  | .inside owed low high bits => 0 < owed ∧ 128 ≤ low.toNat ∧ high.toNat < 192 ∧
      ∀ v, v / 64 ^ owed = bits → low.toNat ≤ v / 64 ^ (owed - 1) % 64 + 128 →
        v / 64 ^ (owed - 1) % 64 + 128 ≤ high.toNat → Fixes front owed v

lemma begun_start : Begun [] .start := rfl

lemma toNat_val_ofNat (h : v.isValidChar) : (Char.ofNat v).val.toNat = v := by
  unfold Char.ofNat
  rw [dif_pos h]
  rfl

/-! Reading a character -/

lemma lead_eq_some (h : lead b = some (q, some c)) :
    q = .start ∧ String.utf8EncodeChar c = [b] := by
  unfold lead at h
  split at h
  · rename_i hb
    obtain ⟨rfl, rfl⟩ : State.start = q ∧ Char.ofNat b.toNat = c := by simpa using h
    have hlow : b.toNat ≤ 127 := hb
    have hvalid : b.toNat.isValidChar := Or.inl (by omega)
    simp [String.utf8EncodeChar, toNat_val_ofNat hvalid, hlow]
  · grind

lemma fixes_of_two (hb : 0xc2 ≤ b.toNat) (hb' : b.toNat ≤ 0xdf) (hv : v / 64 = b.toNat - 0xc0) :
    Fixes [b] 1 v := by
  have hvalid : v.isValidChar := Or.inl (by omega)
  have hfront : UInt8.ofNat (v / 64 % 32 + 192) = b := by
    rw [← UInt8.toNat_inj, UInt8.toNat_ofNat']
    omega
  refine ⟨hvalid, ?_⟩
  unfold String.utf8EncodeChar
  dsimp only
  rw [toNat_val_ofNat hvalid, if_neg (by omega), if_pos (by omega), hfront]
  simp [tailOf]

lemma fixes_of_three (hb : 0xe0 ≤ b.toNat) (hb' : b.toNat ≤ 0xef) (hv : v / 4096 = b.toNat - 0xe0)
    (hlow : 0x800 ≤ v) (hgap : v < 0xd800 ∨ 0xdfff < v) : Fixes [b] 2 v := by
  have hvalid : v.isValidChar := by
    unfold Nat.isValidChar
    omega
  have hfront : UInt8.ofNat (v / 4096 % 16 + 224) = b := by
    rw [← UInt8.toNat_inj, UInt8.toNat_ofNat']
    omega
  refine ⟨hvalid, ?_⟩
  unfold String.utf8EncodeChar
  dsimp only
  rw [toNat_val_ofNat hvalid, if_neg (by omega), if_neg (by omega), if_pos (by omega), hfront]
  simp [tailOf]

lemma fixes_of_four (hb : 0xf0 ≤ b.toNat) (hb' : b.toNat ≤ 0xf4) (hv : v / 262144 = b.toNat - 0xf0)
    (hlow : 0x10000 ≤ v) (hhigh : v < 0x110000) : Fixes [b] 3 v := by
  have hvalid : v.isValidChar := by
    unfold Nat.isValidChar
    omega
  have hfront : UInt8.ofNat (v / 262144 % 8 + 240) = b := by
    rw [← UInt8.toNat_inj, UInt8.toNat_ofNat']
    omega
  refine ⟨hvalid, ?_⟩
  unfold String.utf8EncodeChar
  dsimp only
  rw [toNat_val_ofNat hvalid, if_neg (by omega), if_neg (by omega), if_neg (by omega), hfront]
  simp [tailOf]

lemma begun_lead (h : lead b = some (q, none)) : Begun [b] q := by
  unfold lead at h
  simp only [UInt8.le_iff_toNat_le, UInt8.lt_iff_toNat_lt, ← UInt8.toNat_inj, UInt8.reduceToNat] at h
  split at h
  · cases h
  split at h
  · cases h
  split at h
  · cases h
    exact ⟨Nat.one_pos, by decide, by decide, fun v hv _ _ =>
      fixes_of_two (by omega) (by omega) (by simpa using hv)⟩
  split at h
  · cases h
    refine ⟨Nat.two_pos, ?_, ?_, fun v hv hlow hhigh => ?_⟩
    · split <;> decide
    · split <;> decide
    simp only [apply_ite UInt8.toNat, UInt8.reduceToNat, Nat.reducePow, Nat.reduceSub] at hv hlow hhigh
    refine fixes_of_three (by omega) (by omega) hv ?_ ?_
    · split at hlow <;> omega
    · split at hhigh <;> omega
  split at h
  · cases h
    refine ⟨by decide, ?_, ?_, fun v hv hlow hhigh => ?_⟩
    · split <;> decide
    · split <;> decide
    simp only [apply_ite UInt8.toNat, UInt8.reduceToNat, Nat.reducePow, Nat.reduceSub] at hv hlow hhigh
    refine fixes_of_four (by omega) (by omega) hv ?_ ?_
    · split at hlow <;> omega
    · split at hhigh <;> omega
  · cases h

lemma Begun.next (h : Begun front (.inside (owed + 1) low high bits)) (hb : low ≤ b ∧ b ≤ high)
    (hv : v / 64 ^ owed = 64 * bits + (b.toNat - 128)) : Fixes (front ++ [b]) owed v := by
  obtain ⟨-, hlow, hhigh, hfixes⟩ := h
  simp only [UInt8.le_iff_toNat_le] at hb
  have hbits : v / 64 ^ (owed + 1) = bits := by
    rw [Nat.pow_succ, ← Nat.div_div_eq_div_mul, hv]
    omega
  have hoctet : v / 64 ^ owed % 64 + 128 = b.toNat := by
    rw [hv]
    omega
  have hfront := hfixes v hbits
  rw [Nat.add_sub_cancel, hoctet] at hfront
  obtain ⟨hvalid, hencode⟩ := hfront hb.1 hb.2
  refine ⟨hvalid, ?_⟩
  rw [hencode, tailOf, hoctet, UInt8.ofNat_toNat, List.append_assoc, List.singleton_append]

lemma accept_eq_some (hq : Begun front q) (h : accept q b = some (q', some c)) :
    q' = .start ∧ String.utf8EncodeChar c = front ++ [b] := by
  cases q with
  | start =>
    obtain rfl : front = [] := hq
    exact lead_eq_some h
  | inside owed low high bits =>
    simp only [accept, Option.ite_none_right_eq_some] at h
    obtain ⟨hb, h⟩ := h
    split at h
    · obtain rfl : owed = 1 := Nat.le_antisymm ‹_› hq.1
      simp only [Option.some.injEq, Prod.mk.injEq] at h
      obtain ⟨rfl, rfl⟩ := h
      obtain ⟨-, hencode⟩ := hq.next hb (Nat.div_one _)
      exact ⟨rfl, hencode.trans (List.append_nil _)⟩
    · cases h

lemma begun_accept (hq : Begun front q) (h : accept q b = some (q', none)) :
    Begun (front ++ [b]) q' := by
  cases q with
  | start =>
    obtain rfl : front = [] := hq
    exact begun_lead h
  | inside owed low high bits =>
    simp only [accept, Option.ite_none_right_eq_some] at h
    obtain ⟨hb, h⟩ := h
    split at h
    · cases h
    · obtain ⟨owed, rfl⟩ := Nat.exists_eq_add_of_le' hq.1
      cases h
      exact ⟨by omega, by decide, by decide, fun v hv _ _ => hq.next hb hv⟩

/-! Reading octets -/

lemma piecesFrom_of_accept {c : Option Char} (h : accept q b = some (q', c)) :
    piecesFrom q (b :: bs) = (c.map some).toList ++ piecesFrom q' bs := by
  cases q <;> simp only [piecesFrom, h]

lemma none_mem_piecesFrom (h : accept q b = none) : none ∈ piecesFrom q (b :: bs) := by
  cases q with
  | start => simp only [piecesFrom, h, List.mem_cons, true_or]
  | inside owed low high bits =>
    simp only [piecesFrom, h]
    split <;> simp

lemma mapM_id_eq_some_iff {ps : List (Option Char)} {cs : List Char} :
    ps.mapM id = some cs ↔ ps = cs.map some := by
  induction ps generalizing cs with
  | nil => cases cs <;> simp
  | cons p ps ih =>
    cases p with
    | none => cases cs <;> simp
    | some c => cases cs <;> simp [Option.bind_eq_some_iff, ih, and_comm]

lemma flatMap_of_piecesFrom {cs : List Char} (hq : Begun front q)
    (h : piecesFrom q bs = cs.map some) : cs.flatMap String.utf8EncodeChar = front ++ bs := by
  induction bs generalizing q front cs with
  | nil =>
    cases q with
    | start =>
      obtain rfl : front = [] := hq
      obtain rfl : cs = [] := by simpa [piecesFrom] using h.symm
      rfl
    | inside owed low high bits => cases cs <;> simp [piecesFrom] at h
  | cons b bs ih =>
    cases haccept : accept q b with
    | none =>
      have hnone : none ∈ piecesFrom q (b :: bs) := none_mem_piecesFrom haccept
      simp [h] at hnone
    | some next =>
      obtain ⟨q', c⟩ := next
      rw [piecesFrom_of_accept haccept] at h
      cases c with
      | none =>
        have hrest := ih (begun_accept hq haccept) h
        rwa [List.append_assoc] at hrest
      | some c =>
        obtain ⟨rfl, hc⟩ := accept_eq_some hq haccept
        cases cs with
        | nil => cases h
        | cons c' cs =>
          obtain ⟨rfl, hrest⟩ : c = c' ∧ piecesFrom .start bs = cs.map some := by simpa using h
          rw [List.flatMap_cons, hc, ih begun_start hrest, List.nil_append, List.append_assoc,
            List.singleton_append]

/-! Reading what was written -/

lemma accept_inside (hlow : low.toNat ≤ v / 64 ^ owed % 64 + 128)
    (hhigh : v / 64 ^ owed % 64 + 128 ≤ high.toNat) :
    accept (.inside (owed + 1) low high (v / 64 ^ (owed + 1)))
        (UInt8.ofNat (v / 64 ^ owed % 64 + 128)) =
      if owed = 0 then some (.start, some (Char.ofNat v))
      else some (.inside owed 0x80 0xbf (v / 64 ^ owed), none) := by
  generalize hb : UInt8.ofNat (v / 64 ^ owed % 64 + 128) = b
  have htoNat : b.toNat = v / 64 ^ owed % 64 + 128 := by
    rw [← hb, UInt8.toNat_ofNat']
    omega
  have hbounds : low ≤ b ∧ b ≤ high := by
    rw [UInt8.le_iff_toNat_le, UInt8.le_iff_toNat_le, htoNat]
    exact ⟨hlow, hhigh⟩
  have hbits : 64 * (v / 64 ^ (owed + 1)) + (b.toNat - 0x80) = v / 64 ^ owed := by
    rw [Nat.pow_succ, ← Nat.div_div_eq_div_mul, htoNat]
    omega
  unfold accept
  dsimp only
  rw [if_pos hbounds, hbits, Nat.add_sub_cancel]
  cases owed with
  | zero => simp
  | succ owed => simp

lemma piecesFrom_tailOf (v owed : Nat) (bs : Octets) (hlow : low.toNat ≤ v / 64 ^ owed % 64 + 128)
    (hhigh : v / 64 ^ owed % 64 + 128 ≤ high.toNat) :
    piecesFrom (.inside (owed + 1) low high (v / 64 ^ (owed + 1))) (tailOf (owed + 1) v ++ bs) =
      some (Char.ofNat v) :: piecesFrom .start bs := by
  induction owed generalizing low high with
  | zero =>
    rw [tailOf, List.cons_append, piecesFrom_of_accept (accept_inside hlow hhigh)]
    rfl
  | succ owed ih =>
    have hnext := accept_inside hlow hhigh
    rw [if_neg (Nat.succ_ne_zero owed)] at hnext
    rw [tailOf, List.cons_append, piecesFrom_of_accept hnext]
    refine ih ?_ ?_
    · exact Nat.le_add_left _ _
    · have hmod := Nat.mod_lt (v / 64 ^ owed) (show 0 < 64 by decide)
      simp only [UInt8.reduceToNat]
      omega

lemma piecesFrom_take_tailOf {n : Nat} (hn : n ≤ owed)
    (hlow : low.toNat ≤ v / 64 ^ owed % 64 + 128) (hhigh : v / 64 ^ owed % 64 + 128 ≤ high.toNat) :
    piecesFrom (.inside (owed + 1) low high (v / 64 ^ (owed + 1))) ((tailOf (owed + 1) v).take n) =
      [none] := by
  induction owed generalizing n low high with
  | zero =>
    obtain rfl := Nat.le_zero.mp hn
    rfl
  | succ owed ih =>
    cases n with
    | zero => rfl
    | succ n =>
      have hnext := accept_inside hlow hhigh
      rw [if_neg (Nat.succ_ne_zero owed)] at hnext
      have hmod := Nat.mod_lt (v / 64 ^ owed) (show 0 < 64 by decide)
      rw [tailOf, List.take_succ_cons, piecesFrom_of_accept hnext]
      refine ih (Nat.le_of_succ_le_succ hn) (Nat.le_add_left _ _) ?_
      simp only [UInt8.reduceToNat]
      omega

lemma lead_of_one (h : v ≤ 0x7f) : lead (UInt8.ofNat v) = some (.start, some (Char.ofNat v)) := by
  have htoNat : (UInt8.ofNat v).toNat = v := by
    rw [UInt8.toNat_ofNat']
    omega
  unfold lead
  simp only [UInt8.le_iff_toNat_le, UInt8.reduceToNat, htoNat]
  rw [if_pos h]

lemma lead_of_two (hlow : 0x7f < v) (hhigh : v ≤ 0x7ff) :
    lead (UInt8.ofNat (v / 64 % 32 + 192)) = some (.inside 1 0x80 0xbf (v / 64), none) := by
  generalize hb : UInt8.ofNat (v / 64 % 32 + 192) = b
  have htoNat : b.toNat = v / 64 + 192 := by
    rw [← hb, UInt8.toNat_ofNat']
    omega
  unfold lead
  simp only [UInt8.le_iff_toNat_le, UInt8.lt_iff_toNat_lt, UInt8.reduceToNat, htoNat]
  rw [if_neg (by omega), if_neg (by omega), if_pos (by omega), Nat.add_sub_cancel]

lemma lead_of_three (hlow : 0x7ff < v) (hhigh : v ≤ 0xffff) (hvalid : v.isValidChar) :
    ∃ low high, lead (UInt8.ofNat (v / 4096 % 16 + 224)) =
        some (.inside 2 low high (v / 4096), none) ∧
      low.toNat ≤ v / 64 % 64 + 128 ∧ v / 64 % 64 + 128 ≤ high.toNat := by
  generalize hb : UInt8.ofNat (v / 4096 % 16 + 224) = b
  have htoNat : b.toNat = v / 4096 + 224 := by
    rw [← hb, UInt8.toNat_ofNat']
    omega
  unfold lead
  simp only [UInt8.le_iff_toNat_le, UInt8.lt_iff_toNat_lt, ← UInt8.toNat_inj, UInt8.reduceToNat,
    htoNat]
  rw [if_neg (by omega), if_neg (by omega), if_neg (by omega), if_pos (by omega),
    Nat.add_sub_cancel]
  refine ⟨_, _, rfl, ?_, ?_⟩
  · split <;> simp only [UInt8.reduceToNat] <;> omega
  · unfold Nat.isValidChar at hvalid
    split <;> simp only [UInt8.reduceToNat] <;> omega

lemma lead_of_four (hlow : 0xffff < v) (hvalid : v.isValidChar) :
    ∃ low high, lead (UInt8.ofNat (v / 262144 % 8 + 240)) =
        some (.inside 3 low high (v / 262144), none) ∧
      low.toNat ≤ v / 4096 % 64 + 128 ∧ v / 4096 % 64 + 128 ≤ high.toNat := by
  unfold Nat.isValidChar at hvalid
  generalize hb : UInt8.ofNat (v / 262144 % 8 + 240) = b
  have htoNat : b.toNat = v / 262144 + 240 := by
    rw [← hb, UInt8.toNat_ofNat']
    omega
  unfold lead
  simp only [UInt8.le_iff_toNat_le, UInt8.lt_iff_toNat_lt, ← UInt8.toNat_inj, UInt8.reduceToNat,
    htoNat]
  rw [if_neg (by omega), if_neg (by omega), if_neg (by omega), if_neg (by omega),
    if_pos (by omega), Nat.add_sub_cancel]
  refine ⟨_, _, rfl, ?_, ?_⟩ <;> split <;> simp only [UInt8.reduceToNat] <;> omega

lemma piecesFrom_of_lead {c : Option Char} (h : lead b = some (q, c)) :
    piecesFrom .start (b :: bs) = (c.map some).toList ++ piecesFrom q bs :=
  piecesFrom_of_accept h

lemma lead_utf8EncodeChar (c : Char) :
    (∃ b, String.utf8EncodeChar c = [b] ∧ lead b = some (.start, some c)) ∨
    ∃ b owed low high, String.utf8EncodeChar c = b :: tailOf (owed + 1) c.val.toNat ∧
      lead b = some (.inside (owed + 1) low high (c.val.toNat / 64 ^ (owed + 1)), none) ∧
      low.toNat ≤ c.val.toNat / 64 ^ owed % 64 + 128 ∧
      c.val.toNat / 64 ^ owed % 64 + 128 ≤ high.toNat := by
  have hc : Char.ofNat c.val.toNat = c := Char.ofNat_toNat c
  have hvalid : c.val.toNat.isValidChar := c.valid
  unfold String.utf8EncodeChar
  generalize c.val.toNat = v at hc hvalid ⊢
  subst hc
  dsimp only
  split
  · exact Or.inl ⟨_, rfl, lead_of_one ‹_›⟩
  refine Or.inr ?_
  split
  · have hhigh : v / 64 ^ 0 % 64 + 128 ≤ (0xbf : UInt8).toNat :=
      Nat.add_le_add_right (Nat.le_of_lt_succ (Nat.mod_lt _ (by decide))) _
    exact ⟨_, 0, 0x80, 0xbf, congrArg (List.cons _) (by simp [tailOf]),
      by simpa using lead_of_two (Nat.lt_of_not_le ‹_›) ‹_›, Nat.le_add_left _ _, hhigh⟩
  split
  · obtain ⟨low, high, hlead, hlow, hhigh⟩ := lead_of_three (Nat.lt_of_not_le ‹_›) ‹_› hvalid
    exact ⟨_, 1, low, high, congrArg (List.cons _) (by simp [tailOf]), hlead, by simpa using hlow,
      by simpa using hhigh⟩
  · obtain ⟨low, high, hlead, hlow, hhigh⟩ := lead_of_four (Nat.lt_of_not_le ‹_›) hvalid
    exact ⟨_, 2, low, high, congrArg (List.cons _) (by simp [tailOf]), hlead, by simpa using hlow,
      by simpa using hhigh⟩

lemma piecesFrom_utf8EncodeChar (c : Char) (bs : Octets) :
    piecesFrom .start (String.utf8EncodeChar c ++ bs) = some c :: piecesFrom .start bs := by
  rcases lead_utf8EncodeChar c with ⟨b, hc, hlead⟩ | ⟨b, owed, low, high, hc, hlead, hlow, hhigh⟩
  · rw [hc, List.singleton_append, piecesFrom_of_lead hlead]
    rfl
  · have hchar : Char.ofNat c.val.toNat = c := Char.ofNat_toNat c
    rw [hc, List.cons_append, piecesFrom_of_lead hlead]
    exact (piecesFrom_tailOf _ owed bs hlow hhigh).trans (by rw [hchar])

lemma piecesFrom_take_utf8EncodeChar {n : Nat} (hn : 0 < n)
    (hlt : n < (String.utf8EncodeChar c).length) :
    piecesFrom .start ((String.utf8EncodeChar c).take n) = [none] := by
  obtain ⟨n, rfl⟩ := Nat.exists_eq_add_of_le' hn
  rcases lead_utf8EncodeChar c with ⟨b, hc, -⟩ | ⟨b, owed, low, high, hc, hlead, hlow, hhigh⟩
  · rw [hc, List.length_singleton] at hlt
    omega
  · rw [hc, List.length_cons, length_tailOf] at hlt
    rw [hc, List.take_succ_cons, piecesFrom_of_lead hlead]
    exact piecesFrom_take_tailOf (Nat.le_of_lt_succ (Nat.lt_of_succ_lt_succ hlt)) hlow hhigh

lemma piecesFrom_flatMap_append (cs : List Char) (bs : Octets) :
    piecesFrom .start (cs.flatMap String.utf8EncodeChar ++ bs) =
      cs.map some ++ piecesFrom .start bs := by
  induction cs with
  | nil => rfl
  | cons c cs ih =>
    rw [List.flatMap_cons, List.append_assoc, piecesFrom_utf8EncodeChar, ih, List.map_cons,
      List.cons_append]

lemma pieces_encode (s : String) : pieces (encode s) = s.toList.map some := by
  have hpieces := piecesFrom_flatMap_append s.toList []
  simpa [pieces, encode, piecesFrom] using hpieces

lemma decode?_eq_some_iff : decode? bs = some s ↔ bs = encode s := by
  unfold decode?
  simp only [Option.map_eq_some_iff, mapM_id_eq_some_iff]
  constructor
  · rintro ⟨cs, hcs, rfl⟩
    have hbs := flatMap_of_piecesFrom begun_start hcs
    simpa [encode] using hbs.symm
  · rintro rfl
    exact ⟨s.toList, pieces_encode s, String.ofList_toList⟩

end TreePipeline.Utf8
