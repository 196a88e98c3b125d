import Mathlib.Data.List.DropRight
import TreePipeline.Text.Numeral

/-! Numerals with blanks around them. What is read is the value of the digits, and a text is refused
just if it is no numeral or its value is too large: since further digits only add to a value, it does not
matter at which of them that is found out. -/

namespace TreePipeline

namespace Text

variable {cs front back : List Char}

lemma trimChars_eq (cs : List Char) : trimChars cs = (cs.dropWhile isBlank).rdropWhile isBlank := rfl

lemma exists_trimChars (cs : List Char) : ∃ front back, cs = front ++ trimChars cs ++ back ∧
    (∀ c ∈ front, isBlank c = true) ∧ ∀ c ∈ back, isBlank c = true := by
  refine ⟨cs.takeWhile isBlank, (cs.dropWhile isBlank).rtakeWhile isBlank, ?_,
    fun _ => List.mem_takeWhile_imp, fun _ => List.mem_rtakeWhile_imp⟩
  rw [trimChars_eq, List.append_assoc, List.rdropWhile_append_rtakeWhile,
    List.takeWhile_append_dropWhile]

lemma dropWhile_of_solid (hcs : ∀ c ∈ cs, isBlank c = false) : cs.dropWhile isBlank = cs := by
  cases cs with
  | nil => rfl
  | cons c cs => exact List.dropWhile_cons_of_neg (by simp [hcs c List.mem_cons_self])

lemma rdropWhile_append (cs : List Char) (hback : ∀ c ∈ back, isBlank c = true) :
    (cs ++ back).rdropWhile isBlank = cs.rdropWhile isBlank := by
  have hreverse : ∀ c ∈ back.reverse, isBlank c = true := fun c hc =>
    hback c (List.mem_reverse.mp hc)
  unfold List.rdropWhile
  rw [List.reverse_append, List.dropWhile_append_of_pos hreverse]

lemma trimChars_of_solid (hfront : ∀ c ∈ front, isBlank c = true)
    (hback : ∀ c ∈ back, isBlank c = true) (hcs : ∀ c ∈ cs, isBlank c = false) :
    trimChars (front ++ cs ++ back) = cs := by
  have hreverse : ∀ c ∈ cs.reverse, isBlank c = false := fun c hc => hcs c (List.mem_reverse.mp hc)
  have hends : cs.rdropWhile isBlank = cs := by
    rw [List.rdropWhile, dropWhile_of_solid hreverse, List.reverse_reverse]
  rw [trimChars_eq, List.append_assoc, List.dropWhile_append_of_pos hfront]
  cases cs with
  | nil =>
    rw [List.nil_append, List.dropWhile_eq_nil_iff.mpr hback]
    rfl
  | cons c cs =>
    have hc : ¬ isBlank c = true := by simp [hcs c List.mem_cons_self]
    rw [List.cons_append, List.dropWhile_cons_of_neg hc, ← List.cons_append,
      rdropWhile_append _ hback, hends]

lemma trimChars_eq_nil_iff : trimChars cs = [] ↔ ∀ c ∈ cs, isBlank c = true := by
  constructor
  · intro h c hc
    obtain ⟨front, back, hcs, hfront, hback⟩ := exists_trimChars cs
    rw [hcs, h, List.append_nil] at hc
    exact (List.mem_append.mp hc).elim (hfront c) (hback c)
  · intro h
    have hnil : trimChars (cs ++ [] ++ []) = [] := trimChars_of_solid h (by simp) (by simp)
    simpa using hnil

end Text

namespace Numeral

variable {s : String} {cs ds : List Char} {c : Char} {max acc n : Nat}

def IsNumeral (cs : List Char) (n : Nat) : Prop :=
  ∃ sign ds : List Char, cs = sign ++ ds ∧ (sign = [] ∨ sign = ['+']) ∧ ds ≠ [] ∧
    (∀ d ∈ ds, d.isDigit = true) ∧ n = Nat.ofDigitChars 10 ds 0

def Denotes (s : String) (n : Nat) : Prop :=
  ∃ front numeral back : List Char, s.toList = front ++ numeral ++ back ∧
    (∀ c ∈ front, Text.isBlank c = true) ∧ (∀ c ∈ back, Text.isBlank c = true) ∧ IsNumeral numeral n

/-! Digits -/

lemma digit?_eq (c : Char) : digit? c = if c.isDigit then some (c.toNat - '0'.toNat) else none := by
  have hdigit : c.isDigit = true ↔ '0' ≤ c ∧ c ≤ '9' := by
    simp [Char.isDigit, Char.le_def]
  simp only [digit?, hdigit]
  rfl

lemma le_ofDigitChars (ds : List Char) (acc : Nat) : acc ≤ Nat.ofDigitChars 10 ds acc := by
  rw [Nat.ofDigitChars_eq_ofDigitChars_zero]
  have hpow : 0 < 10 ^ ds.length := Nat.pow_pos (by decide)
  exact (Nat.le_mul_of_pos_left acc hpow).trans (Nat.le_add_right _ _)

lemma readDigits_eq_ok_iff (hacc : acc ≤ max) : readDigits max acc ds = .ok n ↔
    (∀ d ∈ ds, d.isDigit = true) ∧ n = Nat.ofDigitChars 10 ds acc ∧ n ≤ max := by
  induction ds generalizing acc with
  | nil =>
    simp only [readDigits, Except.ok.injEq, Nat.ofDigitChars_nil, List.not_mem_nil, false_imp_iff,
      implies_true, true_and]
    constructor
    · rintro rfl
      exact ⟨rfl, hacc⟩
    · rintro ⟨rfl, -⟩
      rfl
  | cons c ds ih =>
    rw [readDigits, digit?_eq, Nat.ofDigitChars_cons, List.forall_mem_cons]
    by_cases hc : c.isDigit = true
    · simp only [hc, if_true, true_and]
      by_cases hlarge : max < 10 * acc + (c.toNat - '0'.toNat)
      · -- the digits that follow do not make the value smaller
        have hle := le_ofDigitChars ds (10 * acc + (c.toNat - '0'.toNat))
        rw [if_pos hlarge]
        refine ⟨fun h => (by cases h), ?_⟩
        rintro ⟨-, rfl, hmax⟩
        omega
      · rw [if_neg hlarge]
        exact ih (Nat.le_of_not_lt hlarge)
    · simp [hc]

/-! Numerals -/

lemma isNumeral_of_read (h : read max s = .ok n) : IsNumeral s.toList n ∧ n ≤ max := by
  unfold read at h
  split at h
  · cases h
  · rename_i c cs hs
    obtain ⟨hdigits, hn, hmax⟩ := (readDigits_eq_ok_iff (Nat.zero_le max)).mp h
    exact ⟨⟨['+'], c :: cs, hs, Or.inr rfl, List.cons_ne_nil c cs, hdigits, hn⟩, hmax⟩
  · rename_i hne _
    obtain ⟨hdigits, hn, hmax⟩ := (readDigits_eq_ok_iff (Nat.zero_le max)).mp h
    exact ⟨⟨[], s.toList, rfl, Or.inl rfl, hne, hdigits, hn⟩, hmax⟩

lemma read_of_isNumeral (h : IsNumeral s.toList n) (hmax : n ≤ max) : read max s = .ok n := by
  obtain ⟨sign, ds, hs, hsign, hne, hdigits, hn⟩ := h
  obtain ⟨d, ds, rfl⟩ := List.exists_cons_of_ne_nil hne
  have hread := (readDigits_eq_ok_iff (Nat.zero_le max)).mpr ⟨hdigits, hn, hmax⟩
  have hplus : d ≠ '+' := by
    rintro rfl
    exact absurd (hdigits '+' List.mem_cons_self) (by decide)
  unfold read
  rcases hsign with rfl | rfl
  · rw [hs, List.nil_append]
    split
    · rename_i hnil
      cases hnil
    · rename_i hcons
      exact absurd (List.cons.inj hcons).1 hplus
    · exact hread
  · rw [hs]
    exact hread

lemma isBlank_of_isDigit (h : c.isDigit = true) : Text.isBlank c = false := by
  have hlow : ∀ n < 128, (Char.ofNat n).isDigit = true → Text.isBlank (Char.ofNat n) = false := by
    decide
  have hc : c.toNat < 128 := by
    simp only [Char.isDigit, Bool.and_eq_true, decide_eq_true_eq, UInt32.le_iff_toNat_le] at h
    exact Nat.lt_of_le_of_lt h.2 (by decide)
  simpa using hlow c.toNat hc (by simpa using h)

lemma IsNumeral.solid (h : IsNumeral cs n) : ∀ c ∈ cs, Text.isBlank c = false := by
  obtain ⟨sign, ds, rfl, hsign, -, hdigits, -⟩ := h
  intro c hc
  rcases List.mem_append.mp hc with hc | hc
  · rcases hsign with rfl | rfl
    · cases hc
    · rw [List.mem_singleton.mp hc]
      decide
  · exact isBlank_of_isDigit (hdigits c hc)

lemma read_trim_eq_ok_iff : read max (Text.trim s) = .ok n ↔ Denotes s n ∧ n ≤ max := by
  have htrim : (Text.trim s).toList = Text.trimChars s.toList := String.toList_ofList ..
  constructor
  · intro h
    obtain ⟨hnumeral, hmax⟩ := isNumeral_of_read h
    obtain ⟨front, back, hs, hfront, hback⟩ := Text.exists_trimChars s.toList
    exact ⟨⟨front, _, back, hs, hfront, hback, htrim ▸ hnumeral⟩, hmax⟩
  · rintro ⟨⟨front, numeral, back, hs, hfront, hback, hnumeral⟩, hmax⟩
    refine read_of_isNumeral ?_ hmax
    rw [htrim, hs, Text.trimChars_of_solid hfront hback hnumeral.solid]
    exact hnumeral

lemma Denotes.unique {m : Nat} (hn : Denotes s n) (hm : Denotes s m) : n = m := by
  have hread := read_trim_eq_ok_iff.mpr ⟨hn, Nat.le_max_left n m⟩
  rw [read_trim_eq_ok_iff.mpr ⟨hm, Nat.le_max_right n m⟩] at hread
  exact (Except.ok.inj hread).symm

end Numeral

end TreePipeline
