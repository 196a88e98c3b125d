import Mathlib.Data.List.Infix
import TreePipeline.Proofs.Text.Lenient
import TreePipeline.Stage.Capture

/-! What is captured of a tool's two streams. However a stream is cut into reads, its first octets
are kept, and what is kept of both is their first octets together: dropping twice is dropping once.
The limit is one on octets that are read, not on the text that they are read as. -/

namespace TreePipeline.Capture

variable {ε : Type} {limit : Nat} {reads : List Octets} {stream out err : Octets}

/-! One stream -/

/-- The first octets of a stream, and whether there were more. -/
def Kept.ofStream (limit : Nat) (stream : Octets) : Kept :=
  ⟨stream.take limit, decide (limit < stream.length)⟩

lemma Kept.ofStream_nil (limit : Nat) : ofStream limit [] = .empty := by
  simp [ofStream, empty]

lemma Kept.add_ofStream (limit : Nat) (stream chunk : Octets) :
    (ofStream limit stream).add limit chunk = ofStream limit (stream ++ chunk) := by
  have hoctets : stream.take limit ++ chunk.take (limit - (stream.take limit).length) =
      (stream ++ chunk).take limit := by
    rw [List.take_append, List.length_take]
    congr 2
    omega
  have hcut : (decide (limit < stream.length) ||
      decide (limit - (stream.take limit).length < chunk.length)) =
      decide (limit < (stream ++ chunk).length) := by
    rw [List.length_take, List.length_append, ← Bool.decide_or, decide_eq_decide]
    omega
  exact congrArg₂ Kept.mk hoctets hcut

lemma Kept.foldl_add (limit : Nat) (stream : Octets) (reads : List Octets) :
    reads.foldl (Kept.add limit) (ofStream limit stream) =
      ofStream limit (stream ++ reads.flatten) := by
  induction reads generalizing stream with
  | nil => simp
  | cons r reads ih => rw [List.foldl_cons, add_ofStream, ih, List.flatten_cons, List.append_assoc]

lemma flatten_readsOf (n : Nat) (chunk : Octets) : (readsOf n chunk).flatten = chunk := by
  induction n generalizing chunk with
  | zero => simp [readsOf]
  | succ n ih =>
    unfold readsOf
    split
    · simp
    · rw [List.flatten_cons, ih, List.take_append_drop]

lemma readChunks_append (limit : Nat) (stream : Octets) (h : [] ∉ reads) (rest : List Octets) :
    readChunks limit (.ofStream limit stream) (reads ++ rest) =
      readChunks limit (.ofStream limit (stream ++ reads.flatten)) rest := by
  induction reads generalizing stream with
  | nil => simp
  | cons r reads ih =>
    obtain ⟨hr, hreads⟩ := not_or.mp (mt List.mem_cons.mpr h)
    have hempty : r.isEmpty = false := by simpa using Ne.symm hr
    rw [List.cons_append, readChunks, hempty, if_neg Bool.false_ne_true, Kept.foldl_add,
      flatten_readsOf, ih _ hreads, List.flatten_cons, List.append_assoc]

lemma readChunks_of_not_mem (h : [] ∉ reads) :
    readChunks limit .empty reads = (.ofStream limit reads.flatten, false) := by
  have happend := readChunks_append limit [] h []
  rw [List.append_nil, Kept.ofStream_nil, List.nil_append] at happend
  rw [happend, readChunks]

lemma readBounded_end (h : [] ∉ reads) (rest : List Octets) (after : Option ε) :
    readBounded (reads ++ [] :: rest) after limit = .ok (.ofStream limit reads.flatten) := by
  have happend := readChunks_append limit [] h ([] :: rest)
  rw [Kept.ofStream_nil, List.nil_append] at happend
  simp only [readBounded, happend, readChunks, List.isEmpty_nil, if_true]

lemma readBounded_of_not_mem (h : [] ∉ reads) (after : Option ε) :
    readBounded reads after limit =
      match after with
      | none => .ok (.ofStream limit reads.flatten)
      | some e => .error e := by
  cases after <;> simp only [readBounded, readChunks_of_not_mem h]

/-! Both streams -/

lemma take_ofStream_append (limit : Nat) (out err : Octets) :
    ((Kept.ofStream limit out).octets ++ (Kept.ofStream limit err).octets).take limit =
      (out ++ err).take limit := by
  simp only [Kept.ofStream, List.take_append, List.take_take, List.length_take, Nat.min_self]
  congr 2
  omega

/-- Both streams are read to their ends and combined; something is missing if it was dropped from
the one, from the other or from both together. An error in the first goes before one in the
second. -/
def capture (out err : List Octets × Option ε) (limit : Nat) : Except ε (String × Bool) :=
  match readBounded out.1 out.2 limit, readBounded err.1 err.2 limit with
  | .error e, _ => .error e
  | .ok _, .error e => .error e
  | .ok o, .ok e =>
    let (text, cut) := combine o.octets e.octets limit
    .ok (text, o.truncated || e.truncated || cut)

lemma combine_ofStream (limit : Nat) (out err : Octets) :
    (combine (Kept.ofStream limit out).octets (Kept.ofStream limit err).octets limit).1 =
      Utf8.decodeLossy ((out ++ err).take limit) := by
  rw [combine, take_ofStream_append]

lemma truncated_ofStream (limit : Nat) (out err : Octets) :
    ((Kept.ofStream limit out).truncated || (Kept.ofStream limit err).truncated ||
      (combine (Kept.ofStream limit out).octets (Kept.ofStream limit err).octets limit).2) =
      decide (limit < out.length + err.length) := by
  simp only [Kept.ofStream, combine, List.length_append, List.length_take, ← Bool.decide_or,
    decide_eq_decide]
  omega

/-- The reads in which a stream comes: none is empty, and none longer than one read can be. -/
structure IsReading (stream : Octets) (reads : List Octets) : Prop where
  flatten : reads.flatten = stream
  sizes : ∀ r ∈ reads, 1 ≤ r.length ∧ r.length ≤ readSize

lemma IsReading.nil_not_mem (h : IsReading stream reads) : [] ∉ reads :=
  fun hmem => absurd (h.sizes [] hmem).1 (by decide)

lemma IsReading.readBounded_eq (h : IsReading stream reads) (rest : List Octets)
    (after : Option ε) :
    readBounded (reads ++ [] :: rest) after limit = .ok (.ofStream limit stream) := by
  rw [readBounded_end h.nil_not_mem, h.flatten]

lemma capture_of_isReading {outReads errReads : List Octets} (hout : IsReading out outReads)
    (herr : IsReading err errReads) (limit : Nat) :
    capture (ε := ε) (outReads ++ [[]], none) (errReads ++ [[]], none) limit =
      .ok (Utf8.decodeLossy ((out ++ err).take limit), decide (limit < out.length + err.length)) := by
  have htext := combine_ofStream limit out err
  have hcut := truncated_ofStream limit out err
  simp only [capture, hout.readBounded_eq, herr.readBounded_eq]
  rw [htext, hcut]

/-- A stream is read to its end and no further, never with more kept than the limit, unless a read
fails, and then there is nothing but the error. What is kept of both streams together is the first
octets of one after the other, and it is known whether that is all. -/
theorem capture_eq_cut :
    (∀ (stream : Octets) (reads : List Octets) (limit : Nat), IsReading stream reads →
      (∀ (ε : Type) (rest : List Octets) (after : Option ε),
        readBounded (reads ++ [] :: rest) after limit = .ok (.ofStream limit stream)) ∧
      ∀ seen later, reads = seen ++ later →
        (readChunks limit .empty seen).2 = false ∧
        (readChunks limit .empty seen).1.octets.length ≤ limit ∧
        ∀ (ε : Type) (e : ε), readBounded seen (some e) limit = .error e) ∧
    ∀ (ε : Type) (out err : Octets) (outReads errReads : List Octets) (limit : Nat),
      IsReading out outReads → IsReading err errReads →
      ∃ o e : Kept, readBounded (outReads ++ [[]]) (none : Option ε) limit = .ok o ∧
        readBounded (errReads ++ [[]]) (none : Option ε) limit = .ok e ∧
        (o.octets ++ e.octets).take limit = (out ++ err).take limit ∧
        ((o.truncated || e.truncated || (combine o.octets e.octets limit).2) = true ↔
          limit < out.length + err.length) ∧
        capture (ε := ε) (outReads ++ [[]], none) (errReads ++ [[]], none) limit =
          .ok (Utf8.decodeLossy ((out ++ err).take limit),
            decide (limit < out.length + err.length)) := by
  refine ⟨fun stream reads limit h => ⟨fun _ => h.readBounded_eq, ?_⟩, ?_⟩
  · rintro seen later rfl
    have hseen : [] ∉ seen := fun hmem => h.nil_not_mem (List.mem_append_left _ hmem)
    rw [readChunks_of_not_mem hseen]
    exact ⟨rfl, List.length_take_le _ _, fun _ e => readBounded_of_not_mem hseen (some e)⟩
  · intro ε out err outReads errReads limit hout herr
    refine ⟨_, _, hout.readBounded_eq [] none, herr.readBounded_eq [] none,
      take_ofStream_append limit out err, ?_, capture_of_isReading hout herr limit⟩
    rw [truncated_ofStream, decide_eq_true_eq]

theorem capture_eq_cut_seam :
    capture (ε := Empty) ([[0x61, 0x62], [0x63], []], none) ([[0x64, 0x65], []], none) 4 =
      .ok ("abcd", true) := by
  obtain ⟨o, e, -, -, -, -, hcapture⟩ := capture_eq_cut.2 Empty [0x61, 0x62, 0x63] [0x64, 0x65]
    [[0x61, 0x62], [0x63]] [[0x64, 0x65]] 4 ⟨by decide, by decide⟩ ⟨by decide, by decide⟩
  exact hcapture.trans (by decide)

/-! The length of the text -/

lemma length_text_le (bs : Octets) (h : bs.length ≤ limit) :
    (Utf8.encode (Utf8.decodeLossy bs)).length ≤ 3 * limit := by
  have hwhole := Utf8.length_wellFormed_le bs
  rw [Utf8.length_encode_decodeLossy]
  omega

lemma append_eq_encode {s t : String} (hout : Utf8.decode? out = some s)
    (herr : Utf8.decode? err = some t) : out ++ err = Utf8.encode (s ++ t) := by
  rw [Utf8.encode_append, ← Utf8.decode?_eq_some_iff.mp hout, ← Utf8.decode?_eq_some_iff.mp herr]

/-- The text is written with three octets for every piece that is replaced, so that it is within the
limit just if these are, too, and always if nothing is replaced. Of streams that are texts one
character at most is replaced, and there can be two octets more than the limit. -/
theorem text_length_le {outReads errReads : List Octets} (hout : IsReading out outReads)
    (herr : IsReading err errReads) (limit : Nat) :
    ∃ text cut, capture (ε := ε) (outReads ++ [[]], none) (errReads ++ [[]], none) limit =
        .ok (text, cut) ∧
      let kept := (out ++ err).take limit
      (Utf8.encode text).length =
          (Utf8.encode (Utf8.wellFormed kept)).length + 3 * Utf8.illFormed kept ∧
        ((Utf8.encode text).length ≤ limit ↔
          (Utf8.encode (Utf8.wellFormed kept)).length + 3 * Utf8.illFormed kept ≤ limit) ∧
        (Utf8.illFormed kept = 0 → (Utf8.encode text).length ≤ limit) ∧
        (Utf8.encode text).length ≤ 3 * limit ∧
        ∀ s t, Utf8.decode? out = some s → Utf8.decode? err = some t →
          (Utf8.encode text).length ≤ limit + 2 := by
  have hkept : ((out ++ err).take limit).length ≤ limit := List.length_take_le _ _
  have hlength := Utf8.length_encode_decodeLossy ((out ++ err).take limit)
  have hwhole := Nat.le_trans (Utf8.length_wellFormed_le _) hkept
  refine ⟨_, _, capture_of_isReading hout herr limit, hlength, by rw [hlength], fun hnone => ?_,
    length_text_le _ hkept, fun s t hs ht => ?_⟩
  · rw [hlength, hnone]
    omega
  · rw [append_eq_encode hs ht]
    exact Utf8.length_decodeLossy_take_le _ _

theorem text_length_le_inside :
    ∃ text cut, capture (ε := Empty) ([[0xc3, 0xa9], []], none) ([[]], none) 1 = .ok (text, cut) ∧
      (Utf8.encode text).length ≤ 1 + 2 := by
  have hout : IsReading [0xc3, 0xa9] [[0xc3, 0xa9]] := ⟨by decide, by decide⟩
  have herr : IsReading [] [] := ⟨by decide, by decide⟩
  obtain ⟨text, cut, hcapture, -, -, -, -, hlength⟩ := text_length_le (ε := Empty) hout herr 1
  exact ⟨text, cut, hcapture, hlength "é" "" (by decide) (by decide)⟩

/-- Of a two-octet character one octet is captured, and the text is three octets long. -/
theorem text_exceeds_limit :
    IsReading [0xc3, 0xa9] [[0xc3, 0xa9]] ∧
      capture (ε := Empty) ([[0xc3, 0xa9], []], none) ([[]], none) 1 = .ok ("\ufffd", true) ∧
      1 < (Utf8.encode "\ufffd").length :=
  ⟨⟨by decide, by decide⟩, by decide, by decide⟩

lemma isReading_replicate (n : Nat) (b : UInt8) :
    IsReading (List.replicate n b) (List.replicate n [b]) := by
  refine ⟨by simp, fun r hr => ?_⟩
  obtain rfl := List.eq_of_mem_replicate hr
  rw [List.length_singleton]
  decide

lemma pieces_replicate_invalid (n : Nat) :
    Utf8.pieces (List.replicate n 0xff) = List.replicate n none := by
  unfold Utf8.pieces
  induction n with
  | zero => rfl
  | succ n ih =>
    rw [List.replicate_succ, List.replicate_succ, ← ih]
    rfl

lemma length_text_replicate (n : Nat) :
    (Utf8.encode (Utf8.decodeLossy (List.replicate n 0xff))).length = 3 * n := by
  rw [Utf8.length_encode_decodeLossy, Utf8.wellFormed, Utf8.illFormed, pieces_replicate_invalid,
    List.count_replicate_self, Utf8.encode_ofList]
  simp

lemma exists_length_eq (limit : Nat) :
    ∃ out outReads text cut, IsReading out outReads ∧
      capture (ε := ε) (outReads ++ [[]], none) ([[]], none) limit = .ok (text, cut) ∧
      (Utf8.encode text).length = 3 * limit := by
  have hcapture := capture_of_isReading (ε := ε) (isReading_replicate limit 0xff)
    (isReading_replicate 0 0) limit
  -- no text has an octet of all ones in it, so each of them is replaced on its own
  refine ⟨_, _, _, _, isReading_replicate limit 0xff, hcapture, ?_⟩
  rw [List.replicate_zero, List.append_nil, List.take_of_length_le (by simp)]
  exact length_text_replicate limit

/-! The text of texts -/

/-- Texts are captured as a whole if they fit. Otherwise the captured text is their longest
beginning that fits, and the one character that the limit falls into is replaced. -/
theorem combine_texts {s t : String} (hout : Utf8.decode? out = some s)
    (herr : Utf8.decode? err = some t) (limit : Nat) :
    (out.length + err.length ≤ limit → combine out err limit = (s ++ t, false)) ∧
    (limit < out.length + err.length → ∃ whole, Utf8.IsFitting limit (s ++ t) whole ∧
      (Utf8.OnBoundary limit (s ++ t) → combine out err limit = (whole, true)) ∧
      (¬ Utf8.OnBoundary limit (s ++ t) → combine out err limit = (whole.push '\ufffd', true))) := by
  have hboth := append_eq_encode hout herr
  have hcombine : combine out err limit =
      (Utf8.decodeLossy ((Utf8.encode (s ++ t)).take limit),
        decide (limit < (Utf8.encode (s ++ t)).length)) := by
    rw [← hboth]
    rfl
  rw [hcombine, ← List.length_append, hboth]
  constructor
  · intro hle
    rw [Utf8.decodeLossy_take_of_le hle, decide_eq_false (Nat.not_lt.mpr hle)]
  · intro hlt
    obtain ⟨whole, hwhole, htext⟩ := Utf8.exists_decodeLossy_take hlt
    rw [htext, decide_eq_true hlt]
    refine ⟨whole, hwhole, fun hon => ?_, fun hoff => ?_⟩
    · rw [if_pos (hwhole.onBoundary_iff.mp hon)]
    · rw [if_neg (mt hwhole.onBoundary_iff.mpr hoff)]
      rfl

theorem combine_texts_inside :
    ∃ whole, Utf8.IsFitting 2 ("a" ++ "é") whole ∧
      combine [0x61] [0xc3, 0xa9] 2 = (whole.push '\ufffd', true) := by
  have hout : Utf8.decode? [0x61] = some "a" := by decide
  have herr : Utf8.decode? [0xc3, 0xa9] = some "é" := by decide
  have htexts := combine_texts hout herr 2
  obtain ⟨whole, hwhole, -, hinside⟩ := htexts.2 (by decide)
  refine ⟨whole, hwhole, hinside ?_⟩
  rintro ⟨p, hp, hlength⟩
  have hinits : p.toList ∈ ['a', 'é'].inits := (List.mem_inits _ _).mpr hp
  unfold Utf8.encode at hlength
  simp only [List.inits, List.map, List.mem_cons, List.not_mem_nil, or_false] at hinits
  rcases hinits with h | h | h <;> rw [h] at hlength <;> exact absurd hlength (by decide)

end TreePipeline.Capture
