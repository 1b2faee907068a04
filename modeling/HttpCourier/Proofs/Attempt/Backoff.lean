import HttpCourier.Attempt.Policy
import Mathlib.Algebra.Order.BigOperators.Group.Finset
import Mathlib.Order.Interval.Finset.Nat

/-!
# HttpCourier.Proofs.Attempt.Backoff

**How waits grow.** A policy takes the wait behind an attempt from the first one and a power that
has no bound, and caps it at the end. It could as well go from wait to wait and cap each of them
(`Policy.delayMsAfter_succ`): what is beyond the cap stays beyond it.

Doubling and staying are one case here. A policy has a growth (`Policy.growth`), two or one, and
the wait is capped behind so many steps of it (`Policy.delayMsAfter_eq`). Since the growth is
never less than one, waits do not get shorter, and one that has reached the cap stays there.
-/

namespace HttpCourier

namespace Policy

variable {p : Policy} {i j : Nat}

/-- By what the wait grows from one attempt to the next. -/
def growth (p : Policy) : Nat := if p.exponential then 2 else 1

theorem growth_of_exponential (h : p.exponential = true) : p.growth = 2 := if_pos h

theorem growth_of_not_exponential (h : p.exponential = false) : p.growth = 1 :=
  if_neg (Bool.eq_false_iff.1 h)

theorem one_le_growth (p : Policy) : 1 ≤ p.growth := by
  unfold growth
  split <;> decide

/-! ### One wait -/

/-- A wait is the first one, grown once for each attempt beyond the first and then capped. -/
theorem delayMsAfter_eq (p : Policy) (i : Nat) :
    p.delayMsAfter i = min (p.delayMs * p.growth ^ (i - 1)) maxDelayMs := by
  unfold delayMsAfter
  cases he : p.exponential with
  | false => simp [growth_of_not_exponential he]
  | true =>
    rw [growth_of_exponential he]
    by_cases later : 1 < i
    · simp [later]
    · -- Behind the first attempt nothing has grown yet.
      have first : i - 1 = 0 := by omega
      simp [later, first]

theorem delayMsAfter_le (p : Policy) (i : Nat) : p.delayMsAfter i ≤ maxDelayMs :=
  Nat.min_le_right _ _

/-! ### From wait to wait -/

/-- **The next wait** grows from the capped one. -/
theorem delayMsAfter_succ (p : Policy) (begun : 1 ≤ i) :
    p.delayMsAfter (i + 1) = min (p.growth * p.delayMsAfter i) maxDelayMs := by
  have steps : i + 1 - 1 = (i - 1) + 1 := by omega
  have beyond : maxDelayMs ≤ p.growth * maxDelayMs := Nat.le_mul_of_pos_left _ p.one_le_growth
  have grown : p.delayMs * p.growth ^ (i - 1 + 1) = p.growth * (p.delayMs * p.growth ^ (i - 1)) := by
    rw [Nat.pow_succ']
    exact Nat.mul_left_comm _ _ _
  calc p.delayMsAfter (i + 1)
      = min (p.growth * (p.delayMs * p.growth ^ (i - 1))) maxDelayMs := by
        rw [delayMsAfter_eq, steps, grown]
    _ = min (p.growth * (p.delayMs * p.growth ^ (i - 1)))
          (min (p.growth * maxDelayMs) maxDelayMs) := by
        rw [Nat.min_eq_right beyond]
    _ = min (p.growth * p.delayMsAfter i) maxDelayMs := by
        rw [delayMsAfter_eq, ← Nat.min_assoc, Nat.mul_min_mul_left]

/-- Waits do not get shorter. -/
theorem delayMsAfter_mono (p : Policy) : Monotone p.delayMsAfter := by
  intro i j le
  rw [delayMsAfter_eq, delayMsAfter_eq]
  have grown : p.growth ^ (i - 1) ≤ p.growth ^ (j - 1) :=
    Nat.pow_le_pow_right p.one_le_growth (Nat.sub_le_sub_right le 1)
  exact min_le_min_right _ (Nat.mul_le_mul_left _ grown)

/-- A wait that has reached the cap stays there. -/
theorem delayMsAfter_of_capped (capped : p.delayMsAfter i = maxDelayMs) (le : i ≤ j) :
    p.delayMsAfter j = maxDelayMs :=
  Nat.le_antisymm (p.delayMsAfter_le j) (capped ▸ p.delayMsAfter_mono le)

/-- Neither growing nor the cap brings a wait below the first one. -/
theorem le_delayMsAfter {least : Nat} (h : least ≤ p.delayMs) (capped : least ≤ maxDelayMs)
    (i : Nat) : least ≤ p.delayMsAfter i := by
  rw [delayMsAfter_eq]
  have grown : p.delayMs ≤ p.delayMs * p.growth ^ (i - 1) :=
    Nat.le_mul_of_pos_right _ (Nat.pow_pos p.one_le_growth)
  exact Nat.le_min.2 ⟨Nat.le_trans h grown, capped⟩

/-! ### Waits together -/

/-- The waits before the `n`th attempt: there is one less than attempts, and none is above the
cap. -/
theorem sum_delayMsAfter_le (p : Policy) (n : Nat) :
    ∑ i ∈ Finset.Ico 1 n, p.delayMsAfter i ≤ (n - 1) * maxDelayMs := by
  rw [← Nat.card_Ico 1 n]
  exact Finset.sum_le_card_nsmul _ _ _ fun i _ => p.delayMsAfter_le i

/-- **The waits of a retry plan**, whatever the host's number of attempts is. None is above a
minute. From one to the next they double up to the minute where the plan says so, and stay the
same where it does not; so each is known from the first one, none is shorter than one before it,
and the minute is not left again. All that come before the `n`th attempt make up at most `n - 1`
minutes. -/
theorem delays_follow (plan : RetryPlan) (hostAttempts : Int) :
    let delay := (ofPlan? (some plan) hostAttempts).delayMsAfter
    (∀ i, 1 ≤ i → delay i ∈ Finset.Icc 0 60000 ∧
      (plan.exponential = true → delay (i + 1) = min (2 * delay i) 60000 ∧
        delay i = min (plan.delayMs * 2 ^ (i - 1)) 60000) ∧
      (plan.exponential = false → delay (i + 1) = delay i ∧ delay i = min plan.delayMs 60000) ∧
      ∀ j, i ≤ j → delay i ≤ delay j ∧ (delay i = 60000 → delay j = 60000)) ∧
    ∀ n, ∑ i ∈ Finset.Ico 1 n, delay i ≤ (n - 1) * 60000 := by
  intro delay
  let p : Policy := ofPlan? (some plan) hostAttempts
  refine ⟨fun i begun => ⟨?_, ?_, ?_, ?_⟩, p.sum_delayMsAfter_le⟩
  · exact Finset.mem_Icc.2 ⟨Nat.zero_le _, p.delayMsAfter_le i⟩
  · intro doubles
    have growth : p.growth = 2 := growth_of_exponential doubles
    have next := p.delayMsAfter_succ begun
    have power := p.delayMsAfter_eq i
    rw [growth] at next power
    exact ⟨next, power⟩
  · intro stays
    have growth : p.growth = 1 := growth_of_not_exponential stays
    have next := p.delayMsAfter_succ begun
    have power := p.delayMsAfter_eq i
    rw [growth, Nat.one_mul, Nat.min_eq_left (p.delayMsAfter_le i)] at next
    rw [growth, Nat.one_pow, Nat.mul_one] at power
    exact ⟨next, power⟩
  · intro j le
    exact ⟨p.delayMsAfter_mono le, fun capped => delayMsAfter_of_capped capped le⟩

/-- A plan whose second wait is cut short by the cap, which its third then starts from. -/
theorem delays_follow_capped :
    let delay := (ofPlan? (some ⟨10, 40000, true, none⟩) 0).delayMsAfter
    1 ≤ 2 ∧ delay 2 = 60000 ∧ delay 3 = min (2 * delay 2) 60000 ∧ 2 ≤ 9 ∧ delay 9 = 60000 ∧
      ∑ i ∈ Finset.Ico 1 4, delay i ≤ (4 - 1) * 60000 := by
  intro delay
  obtain ⟨waits, sums⟩ := delays_follow ⟨10, 40000, true, none⟩ 0
  obtain ⟨-, doubles, -, later⟩ := waits 2 (by decide)
  have capped : delay 2 = 60000 := by decide
  exact ⟨by decide, capped, (doubles rfl).1, by decide, (later 9 (by decide)).2 capped, sums 4⟩

end Policy

end HttpCourier
