import Mathlib.Order.Bounds.Defs
import Mathlib.Algebra.Order.Ring.Int
import KeystrokeTally.Tally.Store

namespace KeystrokeTally.Tally

variable {ts c b : Int}

theorem bucketStart_eq_sub (hc : 0 < c) : bucketStart ts c = Word.sub ts (ts % c) := by
  unfold bucketStart
  rw [Word.remEuclid_eq_ok (by omega) (by omega)]
  rfl

theorem sub_emod_eq_mul_ediv (ts c : Int) : ts - ts % c = c * (ts / c) := by
  rw [Int.emod_def]
  omega

theorem isGreatest_mul_ediv (hc : 0 < c) (ts : Int) : IsGreatest {m | c ∣ m ∧ m ≤ ts} (c * (ts / c)) := by
  refine ⟨⟨Int.dvd_mul_right c _, Int.mul_ediv_self_le (by omega)⟩, ?_⟩
  rintro m ⟨⟨k, rfl⟩, hk⟩
  have hq : k ≤ ts / c := Int.le_ediv_of_mul_le hc (by rw [Int.mul_comm]; exact hk)
  exact Int.mul_le_mul_of_nonneg_left hq (by omega)

theorem mul_ediv_bounds (hc : 0 < c) (ts : Int) : c * (ts / c) ≤ ts ∧ ts < c * (ts / c) + c :=
  ⟨Int.mul_ediv_self_le (by omega), Int.lt_mul_ediv_self_add hc⟩

theorem bucketStart_eq_ok_iff (hc : 0 < c) :
    bucketStart ts c = .ok b ↔ Word.Fits (c * (ts / c)) ∧ b = c * (ts / c) := by
  rw [bucketStart_eq_sub hc, Word.sub, sub_emod_eq_mul_ediv]
  split
  case isTrue hfit => simp [hfit, eq_comm]
  case isFalse hfit => simp [hfit]

theorem bucketStart_eq_error_iff (hc : 0 < c) {e : Fault} :
    bucketStart ts c = .error e ↔ ¬ Word.Fits (c * (ts / c)) ∧ e = .subOverflow := by
  rw [bucketStart_eq_sub hc, Word.sub, sub_emod_eq_mul_ediv]
  split
  case isTrue hfit => simp [hfit]
  case isFalse hfit => simp [hfit, eq_comm]

theorem bucketStart_of_fits (hc : 0 < c) (hts : Word.Fits ts) :
    bucketStart ts c =
      if Word.min ≤ c * (ts / c) then .ok (c * (ts / c)) else .error .subOverflow := by
  have hle := (mul_ediv_bounds hc ts).1
  split
  case isTrue hmin =>
    exact (bucketStart_eq_ok_iff hc).mpr ⟨⟨hmin, by unfold Word.Fits at hts; omega⟩, rfl⟩
  case isFalse hmin =>
    exact (bucketStart_eq_error_iff hc).mpr ⟨fun hfit => hmin hfit.1, rfl⟩

example : bucketStart (-1) defaultClusterSize = .ok (-900) := by decide

theorem bucketStart_bounds (hc : 0 < c) (h : bucketStart ts c = .ok b) :
    b ≤ ts ∧ ts < b + c ∧ c ∣ b := by
  obtain ⟨-, rfl⟩ := (bucketStart_eq_ok_iff hc).mp h
  exact ⟨(mul_ediv_bounds hc ts).1, (mul_ediv_bounds hc ts).2, Int.dvd_mul_right c _⟩

theorem bucketStart_idem (hc : 0 < c) (h : bucketStart ts c = .ok b) : bucketStart b c = .ok b := by
  obtain ⟨hfit, rfl⟩ := (bucketStart_eq_ok_iff hc).mp h
  have hq : c * (ts / c) / c = ts / c := Int.mul_ediv_cancel_left _ (by omega)
  exact (bucketStart_eq_ok_iff hc).mpr ⟨by rwa [hq], by rw [hq]⟩

theorem bucketStart_fault_iff (hc : 0 < c) (hts : Word.Fits ts) :
    bucketStart ts c = .error .subOverflow ↔ ∀ m, c ∣ m → Word.min ≤ m → ts < m := by
  rw [bucketStart_of_fits hc hts]
  have hgreatest := isGreatest_mul_ediv hc ts
  constructor
  · intro hfault m hm hmin
    by_contra hle
    have hfloor : m ≤ c * (ts / c) := hgreatest.2 ⟨hm, by omega⟩
    rw [if_pos (le_trans hmin hfloor)] at hfault
    cases hfault
  · intro hbelow
    have hlt : c * (ts / c) < Word.min := by
      by_contra hmin
      have := hbelow _ hgreatest.1.1 (by omega)
      have := hgreatest.1.2
      omega
    rw [if_neg (by omega)]

theorem bucketStart_eq_iff_ediv (hc : 0 < c) {ts₁ ts₂ b₁ b₂ : Int}
    (h₁ : bucketStart ts₁ c = .ok b₁) (h₂ : bucketStart ts₂ c = .ok b₂) :
    b₁ = b₂ ↔ ts₁ / c = ts₂ / c := by
  obtain ⟨-, rfl⟩ := (bucketStart_eq_ok_iff hc).mp h₁
  obtain ⟨-, rfl⟩ := (bucketStart_eq_ok_iff hc).mp h₂
  exact Int.mul_eq_mul_left_iff (by omega)

theorem bucketStart_mono (hc : 0 < c) {ts₁ ts₂ b₁ b₂ : Int} (hle : ts₁ ≤ ts₂)
    (h₁ : bucketStart ts₁ c = .ok b₁) (h₂ : bucketStart ts₂ c = .ok b₂) : b₁ ≤ b₂ := by
  obtain ⟨-, rfl⟩ := (bucketStart_eq_ok_iff hc).mp h₁
  obtain ⟨-, rfl⟩ := (bucketStart_eq_ok_iff hc).mp h₂
  exact Int.mul_le_mul_of_nonneg_left (Int.ediv_le_ediv hc hle) (by omega)

/-- The laws of the bucket map of width `c`: on word timestamps it is the floor to multiples of
`c` wherever that floor is a word and the subtraction fault below the least multiple that is
one; a start lies within one width below its timestamp and is its own start; and the map is
monotone, with two timestamps sharing a bucket exactly when their quotients agree. -/
structure FloorsToMultiples (c : Int) : Prop where
  floor : ∀ ts, Word.Fits ts → IsGreatest {m | c ∣ m ∧ m ≤ ts} (c * (ts / c)) ∧
    bucketStart ts c = if Word.min ≤ c * (ts / c) then .ok (c * (ts / c)) else .error .subOverflow
  fault_iff : ∀ ts, Word.Fits ts →
    (bucketStart ts c = .error .subOverflow ↔ ∀ m, c ∣ m → Word.min ≤ m → ts < m)
  bounds : ∀ ts b, bucketStart ts c = .ok b → b ≤ ts ∧ ts < b + c ∧ c ∣ b
  idem : ∀ ts b, bucketStart ts c = .ok b → bucketStart b c = .ok b
  same_iff : ∀ ts₁ ts₂ b₁ b₂, bucketStart ts₁ c = .ok b₁ → bucketStart ts₂ c = .ok b₂ →
    (b₁ = b₂ ↔ ts₁ / c = ts₂ / c)
  mono : ∀ ts₁ ts₂ b₁ b₂, ts₁ ≤ ts₂ → bucketStart ts₁ c = .ok b₁ → bucketStart ts₂ c = .ok b₂ →
    b₁ ≤ b₂

/-- Every positive width, the only ones a store accepts, floors to its multiples. -/
theorem bucketStart_floors (c : Int) (hc : 0 < c) : FloorsToMultiples c where
  floor ts hts := ⟨isGreatest_mul_ediv hc ts, bucketStart_of_fits hc hts⟩
  fault_iff _ hts := bucketStart_fault_iff hc hts
  bounds _ _ h := bucketStart_bounds hc h
  idem _ _ h := bucketStart_idem hc h
  same_iff _ _ _ _ h₁ h₂ := bucketStart_eq_iff_ediv hc h₁ h₂
  mono _ _ _ _ hle h₁ h₂ := bucketStart_mono hc hle h₁ h₂

theorem bucketStart_floors_default : 0 < defaultClusterSize ∧ FloorsToMultiples defaultClusterSize :=
  ⟨by decide, bucketStart_floors defaultClusterSize (by decide)⟩

end KeystrokeTally.Tally
