import Mathlib.Data.Rat.Floor
import Multiplexer.Duration

/-! Waits counted in milliseconds. The whole milliseconds of a span may need more than 64 bits, but
whether they are rounded up is decided on the low 64 bits of them. The decision is wrong for exactly
the spans of 2⁶⁴ milliseconds and more without a rest, and those saturate either way. So the number is
the span rounded up, or the largest there is. -/
namespace Multiplexer

namespace Duration

variable {s t : Duration}

/-- The fraction is below one second, so no two spans are of one length. -/
theorem toNanos_injective : Function.Injective toNanos := by
  intro s t same
  have below := s.nanos.isLt
  have below' := t.nanos.isLt
  unfold toNanos at same
  have seconds : s.seconds = t.seconds := UInt64.toNat_inj.mp (by omega)
  have nanos : s.nanos = t.nanos := Fin.ext (by omega)
  calc s = ⟨s.seconds, s.nanos⟩ := rfl
    _ = ⟨t.seconds, t.nanos⟩ := by rw [seconds, nanos]

/-- The seconds are compared first, and the fractions if the seconds are the same. -/
instance : LT Duration where
  lt s t := s.seconds < t.seconds ∨ s.seconds = t.seconds ∧ s.nanos < t.nanos

instance : LE Duration where
  le s t := s < t ∨ s = t

instance : DecidableLT Duration := fun s t =>
  inferInstanceAs (Decidable (s.seconds < t.seconds ∨ s.seconds = t.seconds ∧ s.nanos < t.nanos))

/-- That is the order of their lengths. -/
theorem toNanos_lt_iff : s.toNanos < t.toNanos ↔ s < t := by
  have below := s.nanos.isLt
  have below' := t.nanos.isLt
  change _ ↔ s.seconds < t.seconds ∨ s.seconds = t.seconds ∧ s.nanos < t.nanos
  rw [UInt64.lt_iff_toNat_lt, ← UInt64.toNat_inj, Fin.lt_def]
  unfold toNanos
  omega

theorem toNanos_le_iff : s.toNanos ≤ t.toNanos ↔ s ≤ t :=
  Nat.le_iff_lt_or_eq.trans (or_congr toNanos_lt_iff toNanos_injective.eq_iff)

theorem toNanos_eq_zero_iff : t.toNanos = 0 ↔ t = zero := toNanos_injective.eq_iff (b := zero)

/-- A count of milliseconds that fits 64 bits is the span of so many milliseconds. -/
theorem toNanos_ofMillis {n : Nat} (fits : n < 2 ^ 64) : (ofMillis n).toNanos = n * 1000000 := by
  have seconds : (UInt64.ofNat (n / 1000)).toNat = n / 1000 :=
    UInt64.toNat_ofNat_of_lt ((Nat.div_le_self n 1000).trans_lt fits)
  unfold ofMillis toNanos
  dsimp only
  rw [seconds]
  omega

def wholeMillis (t : Duration) : Nat := t.toNanos / 1000000

/-- The span that the low 64 bits of the whole milliseconds count. -/
def lowMillis (t : Duration) : Duration := ofMillis (t.wholeMillis % 2 ^ 64)

theorem toNanos_lowMillis (t : Duration) :
    t.lowMillis.toNanos = t.wholeMillis % 2 ^ 64 * 1000000 :=
  toNanos_ofMillis (Nat.mod_lt _ (by decide))

/-- The low bits fall short of a span that has a rest, and of every span that does not fit them. -/
theorem lowMillis_lt_iff (t : Duration) :
    t.lowMillis < t ↔ ¬ 1000000 ∣ t.toNanos ∨ 2 ^ 64 ≤ t.wholeMillis := by
  have whole := Nat.div_add_mod t.toNanos 1000000
  rw [← toNanos_lt_iff, toNanos_lowMillis, Nat.dvd_iff_mod_eq_zero]
  rcases Nat.lt_or_ge t.wholeMillis (2 ^ 64) with short | long
  · rw [Nat.mod_eq_of_lt short, or_iff_left short.not_ge]
    unfold wholeMillis
    omega
  · have low : t.wholeMillis % 2 ^ 64 < t.wholeMillis :=
      (Nat.mod_lt _ (by decide)).trans_le long
    refine iff_of_true ?_ (.inr long)
    unfold wholeMillis at low ⊢
    omega

end Duration

open Duration

/-- The decision that the wait is rounded by compares spans. -/
theorem timeoutMillis_eq_lowMillis (t : Duration) :
    timeoutMillis (some t) =
      (min (if t.lowMillis < t then t.wholeMillis + 1 else t.wholeMillis) maxMillis : Nat) := by
  simp only [← toNanos_lt_iff, toNanos_lowMillis]
  rfl

/-- Milliseconds round up and saturate. -/
theorem timeoutMillis_some (t : Duration) :
    timeoutMillis (some t) = (min ((t.toNanos + 999999) / 1000000) maxMillis : Nat) := by
  rw [timeoutMillis_eq_lowMillis]
  congr 1
  rcases Nat.lt_or_ge t.wholeMillis (2 ^ 64) with short | long
  · have rest : t.lowMillis < t ↔ ¬ 1000000 ∣ t.toNanos :=
      t.lowMillis_lt_iff.trans (or_iff_left short.not_ge)
    simp only [rest]
    unfold wholeMillis
    congr 1
    split <;> omega
  · -- The count is beyond the longest wait already, rounded up or not.
    have most : maxMillis ≤ t.wholeMillis := le_trans (by decide) long
    have most' : maxMillis ≤ (t.toNanos + 999999) / 1000000 :=
      most.trans (Nat.div_le_div_right (Nat.le_add_right _ _))
    rw [min_eq_right most', min_eq_right]
    split
    · exact most.trans (Nat.le_succ _)
    · exact most

theorem timeoutMillis_eq_ceil (t : Duration) :
    timeoutMillis (some t) = min ⌈(t.toNanos : ℚ) / 1000000⌉ (2 ^ 31 - 1) := by
  have ceil := Rat.ceil_natCast_div_natCast t.toNanos 1000000
  rw [Nat.cast_ofNat] at ceil
  rw [timeoutMillis_some, ceil]
  unfold maxMillis
  omega

theorem timeoutMillis_mono {s t : Duration} (shorter : s ≤ t) :
    timeoutMillis (some s) ≤ timeoutMillis (some t) := by
  have rounded : (s.toNanos + 999999) / 1000000 ≤ (t.toNanos + 999999) / 1000000 :=
    Nat.div_le_div_right (Nat.add_le_add_right (toNanos_le_iff.mpr shorter) 999999)
  rw [timeoutMillis_some, timeoutMillis_some]
  exact Int.ofNat_le.mpr (min_le_min_right maxMillis rounded)

theorem timeoutMillis_nonneg (t : Duration) : 0 ≤ timeoutMillis (some t) := by
  rw [timeoutMillis_some]
  exact Int.natCast_nonneg _

theorem timeoutMillis_eq_zero_iff {t : Duration} : timeoutMillis (some t) = 0 ↔ t = .zero := by
  rw [timeoutMillis_some, ← toNanos_eq_zero_iff]
  unfold maxMillis
  omega

/-- Though a comparison with the low 64 bits of the milliseconds decides on the rounding, and sees a
rest in every span that does not fit them, the number is the span rounded up, or else the largest.
Longer spans give no smaller numbers, no span gives the number of a wait without end, and only the
empty span gives zero. -/
theorem millis_rounded_up :
    (∀ t : Duration,
      timeoutMillis (some t) =
        (min (if t.lowMillis < t then t.wholeMillis + 1 else t.wholeMillis) maxMillis : Nat) ∧
      (t.lowMillis < t ↔ ¬ 1000000 ∣ t.toNanos ∨ 2 ^ 64 ≤ t.wholeMillis) ∧
      timeoutMillis (some t) = min ⌈(t.toNanos : ℚ) / 1000000⌉ (2 ^ 31 - 1)) ∧
    (∀ s t : Duration, s ≤ t → timeoutMillis (some s) ≤ timeoutMillis (some t)) ∧
    ∀ t : Duration, timeoutMillis (some t) ≠ -1 ∧ (timeoutMillis (some t) = 0 ↔ t = .zero) := by
  refine ⟨fun t => ⟨timeoutMillis_eq_lowMillis t, t.lowMillis_lt_iff, timeoutMillis_eq_ceil t⟩,
    fun _ _ => timeoutMillis_mono, fun t => ⟨?_, timeoutMillis_eq_zero_iff⟩⟩
  have nonneg := timeoutMillis_nonneg t
  omega

/-- 2⁶⁴ milliseconds, of which the low bits are all zero. -/
def wrappedSpan : Duration := ⟨18446744073709551, ⟨616000000, by decide⟩⟩

/-- There is no rest in it, but the comparison sees one. The wait is the longest all the same, and no
shorter than that for 50 milliseconds. -/
theorem wrapped_span_saturates :
    wrappedSpan.lowMillis = .zero ∧ 1000000 ∣ wrappedSpan.toNanos ∧
      wrappedSpan.lowMillis < wrappedSpan ∧ timeoutMillis (some wrappedSpan) = maxMillis ∧
      Duration.ofMillis 50 ≤ wrappedSpan ∧
      timeoutMillis (some (.ofMillis 50)) ≤ timeoutMillis (some wrappedSpan) := by
  obtain ⟨rounded, mono, -⟩ := millis_rounded_up
  obtain ⟨computed, decided, -⟩ := rounded wrappedSpan
  have low : wrappedSpan.lowMillis < wrappedSpan := decided.mpr (.inr (by decide))
  have longer : Duration.ofMillis 50 ≤ wrappedSpan := .inl (by decide)
  refine ⟨by decide, by decide, low, ?_, longer, mono _ _ longer⟩
  rw [computed, if_pos low]
  decide

end Multiplexer
