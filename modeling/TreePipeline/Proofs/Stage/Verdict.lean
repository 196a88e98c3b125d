import Mathlib.Tactic.Common
import TreePipeline.Stage.Result

/-! The verdict on a wait status, bit by bit. Seven low bits tell how a tool ended and eight higher ones
with which code; all others are ignored. Time counts only for a tool that SIGKILL ended. -/

namespace TreePipeline

variable {status other : UInt32} {limit elapsed later : Duration}

namespace WaitStatus

def endBits (status : UInt32) : UInt32 := status &&& 0x7f

def codeBits (status : UInt32) : UInt32 := (status >>> 8) &&& 0xff

def readBits (status : UInt32) : UInt32 := status &&& 0xff7f

lemma toNat_endBits (status : UInt32) : (endBits status).toNat = lowBits status := by
  rw [endBits, UInt32.toNat_and]
  exact Nat.and_two_pow_sub_one_eq_mod status.toNat 7

lemma toNat_codeBits (status : UInt32) : (codeBits status).toNat = status.toNat / 256 % 256 := by
  have hshift : (status >>> 8).toNat = status.toNat / 256 := by
    rw [UInt32.toNat_shiftRight]
    exact Nat.shiftRight_eq_div_pow status.toNat 8
  rw [codeBits, UInt32.toNat_and, hshift]
  exact Nat.and_two_pow_sub_one_eq_mod _ 8

lemma endBits_readBits (status : UInt32) : endBits (readBits status) = endBits status := by
  rw [endBits, readBits, UInt32.and_assoc]
  rfl

lemma codeBits_readBits (status : UInt32) : codeBits (readBits status) = codeBits status := by
  rw [codeBits, readBits, UInt32.shiftRight_and, UInt32.and_assoc]
  rfl

lemma endBits_eq_iff {bits : UInt32} : endBits status = bits ↔ lowBits status = bits.toNat := by
  rw [← UInt32.toNat_inj, toNat_endBits]

lemma lowBits_lt (status : UInt32) : lowBits status < 128 := Nat.mod_lt _ (by decide)

end WaitStatus

open WaitStatus

lemma classify_eq (status : UInt32) (limit elapsed : Duration) :
    classify status limit elapsed =
      if endBits status = 0 then .exited (codeBits status).toNat
      else if endBits status = 24 ∨ endBits status = 9 ∧ limit.total ≤ elapsed.total then .timeoutKilled
      else if endBits status = 0x7f then .exited (-1)
      else .signaled (endBits status).toNat := by
  have hlt := lowBits_lt status
  unfold classify exitCode? signal?
  simp only [endBits_eq_iff, UInt32.reduceToNat, toNat_endBits, toNat_codeBits, Duration.le,
    decide_eq_true_eq, signalCpuLimit, signalKill]
  by_cases hexit : lowBits status = 0
  · rw [if_pos hexit, if_pos hexit]
  rw [if_neg hexit, if_neg hexit]
  by_cases hneither : lowBits status = 127
  · rw [if_neg (by omega), if_neg (by omega), if_pos hneither]
  rw [if_pos (by omega), if_neg hneither, ite_or]

lemma classify_congr (h : readBits status = readBits other) :
    classify status limit elapsed = classify other limit elapsed := by
  have hend : endBits status = endBits other := by
    rw [← endBits_readBits status, h, endBits_readBits]
  have hcode : codeBits status = codeBits other := by
    rw [← codeBits_readBits status, h, codeBits_readBits]
  rw [classify_eq, classify_eq, hend, hcode]

lemma exited_of_classify {code : Int} (h : classify status limit elapsed = .exited code) :
    code = -1 ∨ 0 ≤ code ∧ code ≤ 255 := by
  have hlt := Nat.mod_lt (status.toNat / 256) (show 0 < 256 by decide)
  rw [classify_eq, toNat_codeBits] at h
  split_ifs at h
  · obtain rfl := ExitOutcome.exited.inj h
    omega
  · exact Or.inl (ExitOutcome.exited.inj h).symm

lemma signaled_of_classify {signal : Int} (h : classify status limit elapsed = .signaled signal) :
    1 ≤ signal ∧ signal ≤ 126 ∧ signal ≠ signalCpuLimit := by
  have hlt := lowBits_lt status
  rw [classify_eq] at h
  simp only [endBits_eq_iff, UInt32.reduceToNat, toNat_endBits] at h
  split_ifs at h
  obtain rfl := ExitOutcome.signaled.inj h
  simp only [signalCpuLimit]
  omega

lemma classify_later (status : UInt32) (limit : Duration) (h : elapsed.total ≤ later.total) :
    classify status limit later = classify status limit elapsed ∨
      endBits status = 9 ∧ classify status limit elapsed = .signaled signalKill ∧
        classify status limit later = .timeoutKilled := by
  by_cases hkill : endBits status = 9
  · simp only [classify_eq, hkill]
    by_cases hlimit : limit.total ≤ elapsed.total
    · exact Or.inl (by simp [hlimit, Nat.le_trans hlimit h])
    · by_cases hlater : limit.total ≤ later.total
      · exact Or.inr (by simp [hlimit, hlater, signalKill])
      · exact Or.inl (by simp [hlimit, hlater])
  · simp [classify_eq, hkill]

namespace ExitOutcome

def letter : ExitOutcome → Char
  | .exited _ => 'e'
  | .signaled _ => 's'
  | .timeoutKilled => 't'

lemma head?_text (o : ExitOutcome) : o.text.toList.head? = some o.letter := by
  cases o <;> simp only [text, String.toList_append] <;> rfl

lemma toDigits_inj {m n : Nat} (h : Nat.toDigits 10 m = Nat.toDigits 10 n) : m = n := by
  have hread := congrArg (fun ds => Nat.ofDigitChars 10 ds 0) h
  simpa only [Nat.ofDigitChars_toDigits (by decide : 1 < 10) (by decide : 10 ≤ 10)] using hread

lemma toString_inj {a b : Int} (h : (toString a).toList = (toString b).toList) : a = b := by
  have hsign : ∀ m : Nat, '-' ∉ Nat.toDigits 10 m := fun m hm =>
    absurd (Nat.isDigit_of_mem_toDigits (by decide) (by decide) hm) (by decide)
  have hnat : ∀ m : Nat, (toString (Int.ofNat m)).toList = Nat.toDigits 10 m := fun _ => Nat.toList_repr
  have hneg : ∀ m : Nat, (toString (Int.negSucc m)).toList = '-' :: Nat.toDigits 10 (m + 1) := by
    intro m
    change ("-" ++ (m + 1).repr).toList = _
    rw [String.toList_append, Nat.toList_repr]
    rfl
  cases a with
  | ofNat m =>
    rw [hnat] at h
    cases b with
    | ofNat n => exact congrArg Int.ofNat (toDigits_inj (h.trans (hnat n)))
    | negSucc n =>
      rw [hneg] at h
      exact absurd (h ▸ List.mem_cons_self) (hsign m)
  | negSucc m =>
    rw [hneg] at h
    cases b with
    | ofNat n =>
      rw [hnat] at h
      exact absurd (h ▸ List.mem_cons_self) (hsign n)
    | negSucc n =>
      rw [hneg] at h
      exact congrArg Int.negSucc (Nat.succ.inj (toDigits_inj (List.cons.inj h).2))

lemma eq_of_append_toString (kind : String) {a b : Int}
    (h : kind ++ toString a = kind ++ toString b) : a = b := by
  have hlist := congrArg String.toList h
  rw [String.toList_append, String.toList_append] at hlist
  exact toString_inj (List.append_cancel_left hlist)

lemma text_injective : Function.Injective text := by
  intro o o' h
  have hletter : o.letter = o'.letter :=
    Option.some.inj ((head?_text o).symm.trans (h ▸ head?_text o'))
  cases o with
  | exited code =>
    cases o' with
    | exited code' => exact congrArg exited (eq_of_append_toString "exit:" h)
    | signaled | timeoutKilled => simp [letter] at hletter
  | signaled signal =>
    cases o' with
    | signaled signal' => exact congrArg signaled (eq_of_append_toString "signal:" h)
    | exited | timeoutKilled => simp [letter] at hletter
  | timeoutKilled =>
    cases o' with
    | timeoutKilled => rfl
    | exited | signaled => simp [letter] at hletter

end ExitOutcome

/-- What the verdict is for every wait status, and what follows for those who read it: other bits do not
matter, each kind keeps to its numbers, texts tell verdicts apart, and time turns a death by SIGKILL into
one by the limit and does nothing else. -/
theorem classify_verdicts :
    (∀ (status : UInt32) (limit elapsed : Duration), classify status limit elapsed =
      if status &&& 0x7f = 0 then .exited ((status >>> 8) &&& 0xff).toNat
      else if status &&& 0x7f = 24 ∨ status &&& 0x7f = 9 ∧ limit.total ≤ elapsed.total then
        .timeoutKilled
      else if status &&& 0x7f = 0x7f then .exited (-1)
      else .signaled (status &&& 0x7f).toNat) ∧
    (∀ (status other : UInt32) (limit elapsed : Duration), status &&& 0xff7f = other &&& 0xff7f →
      classify status limit elapsed = classify other limit elapsed) ∧
    (∀ status limit elapsed signal, classify status limit elapsed = .signaled signal →
      1 ≤ signal ∧ signal ≤ 126 ∧ signal ≠ signalCpuLimit) ∧
    (∀ status limit elapsed code, classify status limit elapsed = .exited code →
      code = -1 ∨ 0 ≤ code ∧ code ≤ 255) ∧
    Function.Injective ExitOutcome.text ∧
    ∀ (status : UInt32) (limit elapsed later : Duration), elapsed.total ≤ later.total →
      (classify status limit elapsed = .timeoutKilled →
        classify status limit later = .timeoutKilled) ∧
      (classify status limit elapsed ≠ classify status limit later →
        status &&& 0x7f = 9 ∧ classify status limit elapsed = .signaled signalKill ∧
          classify status limit later = .timeoutKilled) := by
  refine ⟨classify_eq, fun _ _ _ _ => classify_congr, fun _ _ _ _ => signaled_of_classify,
    fun _ _ _ _ => exited_of_classify, ExitOutcome.text_injective, ?_⟩
  intro status limit elapsed later hlater
  rcases classify_later status limit hlater with hsame | ⟨hbits, hkilled, hlimit⟩
  · exact ⟨fun h => hsame.trans h, fun h => absurd hsame.symm h⟩
  · exact ⟨fun _ => hlimit, fun _ => ⟨hbits, hkilled, hlimit⟩⟩

theorem classify_verdicts_atLimit :
    let limit : Duration := ⟨5, 1, by decide⟩
    let before : Duration := .ofSecs 5
    (0xffff0089 : UInt32) &&& 0xff7f = 9 &&& 0xff7f ∧ before.total ≤ limit.total ∧
      classify 0xffff0089 limit before = .signaled signalKill ∧
      classify 9 limit before = .signaled signalKill ∧
      classify 9 limit limit = .timeoutKilled := by
  obtain ⟨-, hbits, -, -, -, htime⟩ := classify_verdicts
  have hkilled : classify 9 ⟨5, 1, by decide⟩ (.ofSecs 5) = .signaled signalKill := by decide
  have hchange := (htime 9 ⟨5, 1, by decide⟩ (.ofSecs 5) ⟨5, 1, by decide⟩ (by decide)).2 (by decide)
  exact ⟨by decide, by decide, (hbits _ _ _ _ (by decide)).trans hkilled, hkilled, hchange.2.2⟩

end TreePipeline
