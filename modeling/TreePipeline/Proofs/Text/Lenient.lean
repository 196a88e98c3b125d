import TreePipeline.Proofs.Text.Utf8

/-! Lenient reading. An ill-formed piece is at least one octet and is read as a character that is
written with three: a text can be longer when it is written than what it was read from. A text that
is cut inside a character is read up to there, with one replacement for what is left of it. -/

namespace TreePipeline.Utf8

variable {q : State} {front bs : Octets} {cs whole : List Char} {limit : Nat} {s : String}

@[simp] lemma encode_append (s t : String) : encode (s ++ t) = encode s ++ encode t := by
  simp [encode, String.toList_append]

@[simp] lemma encode_ofList (cs : List Char) :
    encode (String.ofList cs) = cs.flatMap String.utf8EncodeChar := by
  rw [encode, String.toList_ofList]

/-! The length of what is read -/

/-- The characters that stand among the octets as a whole. -/
def wellFormed (bs : Octets) : String := String.ofList ((pieces bs).filterMap id)

/-- How many pieces of the octets are replaced. -/
def illFormed (bs : Octets) : Nat := (pieces bs).count none

lemma length_flatMap_getD (ps : List (Option Char)) :
    ((ps.map (·.getD replacement)).flatMap String.utf8EncodeChar).length =
      ((ps.filterMap id).flatMap String.utf8EncodeChar).length + 3 * ps.count none := by
  induction ps with
  | nil => rfl
  | cons p ps ih =>
    cases p with
    | none =>
      have hthree : (String.utf8EncodeChar replacement).length = 3 := by decide
      rw [List.map_cons, Option.getD_none, List.flatMap_cons, List.length_append, hthree, ih,
        List.filterMap_cons_none rfl, List.count_cons_self]
      omega
    | some c =>
      have hsome : (some c :: ps).filterMap id = c :: ps.filterMap id := rfl
      rw [List.map_cons, Option.getD_some, List.flatMap_cons, List.length_append, ih, hsome,
        List.flatMap_cons, List.length_append, List.count_cons_of_ne (Option.some_ne_none c)]
      omega

lemma length_encode_decodeLossy (bs : Octets) :
    (encode (decodeLossy bs)).length = (encode (wellFormed bs)).length + 3 * illFormed bs := by
  rw [decodeLossy, wellFormed, encode_ofList, encode_ofList, length_flatMap_getD, illFormed]

def leastLength (ps : List (Option Char)) : Nat :=
  ((ps.filterMap id).flatMap String.utf8EncodeChar).length + ps.count none

@[simp] lemma leastLength_none (ps : List (Option Char)) :
    leastLength (none :: ps) = leastLength ps + 1 := by
  simp [leastLength, Nat.add_assoc]

@[simp] lemma leastLength_some (c : Char) (ps : List (Option Char)) :
    leastLength (some c :: ps) = (String.utf8EncodeChar c).length + leastLength ps := by
  simp [leastLength, Nat.add_assoc]

lemma piecesFrom_inside {owed : Nat} {low high b : UInt8} {bits : Nat}
    (h : accept (.inside owed low high bits) b = none) :
    piecesFrom (.inside owed low high bits) (b :: bs) = none :: piecesFrom .start (b :: bs) := by
  have hlead : accept .start b = lead b := rfl
  simp only [piecesFrom, h, hlead]
  cases lead b <;> rfl

section

variable (ih : ∀ {front q}, Begun front q → (q ≠ .start → front ≠ []) →
  leastLength (piecesFrom q bs) ≤ front.length + bs.length)
include ih

lemma leastLength_of_accept {q' : State} {b : UInt8} {c : Option Char} (hq : Begun front q)
    (h : accept q b = some (q', c)) :
    leastLength (piecesFrom q (b :: bs)) ≤ front.length + (bs.length + 1) := by
  rw [piecesFrom_of_accept h]
  cases c with
  | none =>
    have hrest := ih (begun_accept hq h) (by simp)
    simpa [Nat.add_assoc, Nat.add_comm 1] using hrest
  | some c =>
    obtain ⟨rfl, hc⟩ := accept_eq_some hq h
    have hrest := ih begun_start (by simp)
    simp only [Option.map_some, Option.toList_some, List.singleton_append, leastLength_some, hc,
      List.length_append, List.length_singleton, List.length_nil] at hrest ⊢
    omega

lemma leastLength_start (b : UInt8) :
    leastLength (piecesFrom .start (b :: bs)) ≤ bs.length + 1 := by
  cases hlead : accept .start b with
  | some next => simpa using leastLength_of_accept ih begun_start hlead
  | none =>
    have hrest := ih begun_start (by simp)
    simpa [piecesFrom, hlead] using hrest

end

lemma leastLength_piecesFrom_le (hq : Begun front q) (hfront : q ≠ .start → front ≠ []) :
    leastLength (piecesFrom q bs) ≤ front.length + bs.length := by
  -- what has been read since the end of a character is at least one octet of a piece to come
  induction bs generalizing q front with
  | nil =>
    cases q with
    | start => simp [piecesFrom, leastLength]
    | inside owed low high bits =>
      have hpos := List.length_pos_iff.mpr (hfront (by simp))
      simpa [piecesFrom, leastLength, Nat.succ_le_iff] using hpos
  | cons b bs ih =>
    cases haccept : accept q b with
    | some next => exact leastLength_of_accept ih hq haccept
    | none =>
      have hstart := leastLength_start ih b
      cases q with
      | start => exact Nat.le_trans hstart (Nat.le_add_left _ _)
      | inside owed low high bits =>
        have hpos := List.length_pos_iff.mpr (hfront (by simp))
        rw [piecesFrom_inside haccept, leastLength_none, List.length_cons]
        omega

lemma length_wellFormed_le (bs : Octets) :
    (encode (wellFormed bs)).length + illFormed bs ≤ bs.length := by
  have hpieces : leastLength (pieces bs) ≤ ([] : Octets).length + bs.length :=
    leastLength_piecesFrom_le begun_start (by simp)
  rw [wellFormed, encode_ofList, illFormed]
  simpa [leastLength] using hpieces

/-! Cutting a text -/

lemma decodeLossy_encode_append (s : String) (bs : Octets) :
    decodeLossy (encode s ++ bs) = s ++ decodeLossy bs := by
  rw [decodeLossy, pieces, encode, piecesFrom_flatMap_append, List.map_append, List.map_map,
    String.ofList_append]
  simp [Function.comp_def, decodeLossy, pieces]

lemma decodeLossy_encode (s : String) : decodeLossy (encode s) = s := by
  have happend := decodeLossy_encode_append s []
  simpa [decodeLossy, pieces, piecesFrom] using happend

lemma length_encode_le {p r : String} (h : p.toList <+: r.toList) :
    (encode p).length ≤ (encode r).length := by
  obtain ⟨t, ht⟩ := h
  rw [encode, encode, ← ht, List.flatMap_append, List.length_append]
  exact Nat.le_add_right _ _

/-- The longest beginning of the text of which all octets are within the limit. -/
structure IsFitting (limit : Nat) (s whole : String) : Prop where
  isPrefix : whole.toList <+: s.toList
  fits : (encode whole).length ≤ limit
  longest : ∀ p : String, p.toList <+: s.toList → (encode p).length ≤ limit →
    p.toList <+: whole.toList

/-- The limit is where a character of the text ends, or where the text begins. -/
def OnBoundary (limit : Nat) (s : String) : Prop :=
  ∃ p : String, p.toList <+: s.toList ∧ (encode p).length = limit

lemma IsFitting.onBoundary_iff {whole : String} (h : IsFitting limit s whole) :
    OnBoundary limit s ↔ (encode whole).length = limit := by
  refine ⟨?_, fun hlimit => ⟨whole, h.isPrefix, hlimit⟩⟩
  rintro ⟨p, hp, rfl⟩
  exact Nat.le_antisymm h.fits (length_encode_le (h.longest p hp (Nat.le_refl _)))

lemma exists_split (h : limit < (cs.flatMap String.utf8EncodeChar).length) :
    ∃ whole c rest, cs = whole ++ c :: rest ∧
      (whole.flatMap String.utf8EncodeChar).length ≤ limit ∧
      limit < ((whole ++ [c]).flatMap String.utf8EncodeChar).length := by
  induction cs generalizing limit with
  | nil => simp at h
  | cons c cs ih =>
    by_cases hc : limit < (String.utf8EncodeChar c).length
    · exact ⟨[], c, cs, rfl, Nat.zero_le _, by simpa using hc⟩
    · rw [List.flatMap_cons, List.length_append] at h
      obtain ⟨whole, d, rest, rfl, hwhole, hd⟩ := @ih (limit - (String.utf8EncodeChar c).length)
        (by omega)
      refine ⟨c :: whole, d, rest, rfl, ?_, ?_⟩
      · rw [List.flatMap_cons, List.length_append]
        omega
      · rw [List.cons_append, List.flatMap_cons, List.length_append]
        omega

lemma isFitting_of_split {c : Char} {rest : List Char}
    (hwhole : (whole.flatMap String.utf8EncodeChar).length ≤ limit)
    (hc : limit < ((whole ++ [c]).flatMap String.utf8EncodeChar).length) :
    IsFitting limit (.ofList (whole ++ c :: rest)) (.ofList whole) := by
  refine ⟨?_, by rwa [encode_ofList], fun p hp hfits => ?_⟩
  · rw [String.toList_ofList, String.toList_ofList]
    exact List.prefix_append _ _
  · rw [String.toList_ofList] at hp ⊢
    rcases Nat.lt_or_ge whole.length p.toList.length with hlt | hle
    · -- a longer beginning would have the character in it that ends beyond the limit
      have hnext : whole ++ [c] <+: p.toList := by
        have hsplit : whole ++ [c] <+: whole ++ c :: rest :=
          ⟨rest, by rw [List.append_assoc, List.singleton_append]⟩
        refine List.prefix_of_prefix_length_le hsplit hp ?_
        rw [List.length_append, List.length_singleton]
        exact hlt
      have hlength : (encode (.ofList (whole ++ [c]))).length ≤ (encode p).length :=
        length_encode_le (by rwa [String.toList_ofList])
      rw [encode_ofList] at hlength
      omega
    · exact List.prefix_of_prefix_length_le hp (List.prefix_append _ _) hle

lemma exists_decodeLossy_take (h : limit < (encode s).length) :
    ∃ whole, IsFitting limit s whole ∧
      decodeLossy ((encode s).take limit) =
        if (encode whole).length = limit then whole else whole.push replacement := by
  obtain ⟨whole, c, rest, hs, hwhole, hc⟩ := exists_split h
  obtain rfl : s = .ofList (whole ++ c :: rest) := by rw [← hs, String.ofList_toList]
  refine ⟨.ofList whole, isFitting_of_split hwhole hc, ?_⟩
  rw [List.flatMap_append, List.length_append, List.flatMap_singleton] at hc
  have htake : (encode (.ofList (whole ++ c :: rest))).take limit =
      encode (.ofList whole) ++
        (String.utf8EncodeChar c).take (limit - (encode (.ofList whole)).length) := by
    rw [encode_ofList, encode_ofList, List.flatMap_append, List.flatMap_cons, List.take_append,
      List.take_of_length_le hwhole, List.take_append_of_le_length (by omega)]
  rw [htake, decodeLossy_encode_append, encode_ofList]
  split
  · rename_i hlimit
    simp [hlimit, decodeLossy, pieces, piecesFrom]
  · rw [decodeLossy, pieces, piecesFrom_take_utf8EncodeChar (by omega) (by omega)]
    simp

lemma decodeLossy_take_of_le (h : (encode s).length ≤ limit) :
    decodeLossy ((encode s).take limit) = s := by
  rw [List.take_of_length_le h, decodeLossy_encode]

lemma length_decodeLossy_take_le (s : String) (limit : Nat) :
    (encode (decodeLossy ((encode s).take limit))).length ≤ limit + 2 := by
  rcases Nat.lt_or_ge limit (encode s).length with hlt | hle
  · obtain ⟨whole, hwhole, htext⟩ := exists_decodeLossy_take hlt
    have hfits := hwhole.fits
    rw [htext]
    split
    · omega
    · have hthree : (String.utf8EncodeChar replacement).length = 3 := by decide
      have hpush : (encode (whole.push replacement)).length = (encode whole).length + 3 := by
        simp [encode, hthree]
      omega
  · rw [decodeLossy_take_of_le hle]
    omega

end TreePipeline.Utf8
