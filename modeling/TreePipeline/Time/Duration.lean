import TreePipeline.Number.Binary64

/-! Lengths of time: whole seconds below `2 ^ 64` and nanoseconds below one second. -/

namespace TreePipeline

structure Duration where
  secs : UInt64
  nanos : Nat
  nanos_lt : nanos < 1000000000 := by decide
  deriving DecidableEq

namespace Duration

def ofSecs (secs : UInt64) : Duration := { secs, nanos := 0 }

def zero : Duration := ofSecs 0

def total (d : Duration) : Nat := d.secs.toNat * 1000000000 + d.nanos

def ofNanos (n : Nat) : Duration :=
  { secs := (n / 1000000000).toUInt64, nanos := n % 1000000000,
    nanos_lt := Nat.mod_lt _ (by decide) }

def millis (d : Duration) : Nat := d.total / 1000000

def le (a b : Duration) : Bool := a.total ≤ b.total

def times? (d : Duration) (k : Nat) : Option Duration :=
  if d.total * k / 1000000000 < 0x10000000000000000 then some (ofNanos (d.total * k)) else none

def toSeconds (d : Duration) : Binary64 :=
  (Binary64.ofNat d.secs.toNat).addMagnitudes (Binary64.ofQuotient false d.nanos 1000000000)

/-! In nanoseconds -/

theorem toNat_max (a b : UInt64) : (max a b).toNat = max a.toNat b.toNat := by
  change (if a ≤ b then b else a).toNat = _
  split <;> rename_i hle <;> rw [UInt64.le_iff_toNat_le] at hle <;> omega

@[simp] theorem total_ofSecs (secs : UInt64) : (ofSecs secs).total = secs.toNat * 1000000000 :=
  Nat.add_zero _

theorem total_lt (d : Duration) : d.total < 0x10000000000000000 * 1000000000 := by
  have hsecs := d.secs.toNat_lt
  have hnanos := d.nanos_lt
  unfold total
  omega

theorem total_ofNanos {n : Nat} (h : n < 0x10000000000000000 * 1000000000) : (ofNanos n).total = n := by
  have hsecs : n / 1000000000 < 0x10000000000000000 := by omega
  simp only [total, ofNanos, Nat.toUInt64_eq, UInt64.toNat_ofNat']
  omega

theorem ofNanos_mul (n : Nat) : ofNanos (n * 1000000000) = ofSecs n.toUInt64 := by
  simp [ofNanos, ofSecs]

theorem times?_ofSecs (secs : UInt64) (k : Nat) :
    (ofSecs secs).times? k =
      if secs.toNat * k < 0x10000000000000000 then some (ofSecs (secs.toNat * k).toUInt64)
      else none := by
  have hcomm : secs.toNat * 1000000000 * k = secs.toNat * k * 1000000000 := Nat.mul_right_comm ..
  have hsecs : secs.toNat * k * 1000000000 / 1000000000 = secs.toNat * k :=
    Nat.mul_div_cancel _ (by decide)
  unfold times?
  rw [total_ofSecs, hcomm, hsecs, ofNanos_mul]

end Duration

end TreePipeline
