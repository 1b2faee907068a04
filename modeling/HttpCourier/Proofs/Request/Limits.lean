import HttpCourier.Proofs.Attempt.Backoff
import HttpCourier.Proofs.Call.Extent
import HttpCourier.Proofs.Computation
import HttpCourier.Proofs.Request.Agreement

/-!
# HttpCourier.Proofs.Request.Limits

**How far a checked document can go.** Only the check of a document bounds the numbers of its retry
plan, and it looks at the values that are written there. What drives a call are other numbers: those
that the reader makes of them, its defaults where there are none, the host's number of attempts
where there is no plan at all, and the doubled and capped waits of the policy. All of these stay
within the bounds (`Session.policy_moderate`), and so the attempts, the waits and the time of a
call do.
-/

namespace HttpCourier

open Json (Value Members)

/-! ### Waits within bounds -/

namespace Policy

/-- The policy keeps to the bounds of configurations. -/
structure Moderate (p : Policy) : Prop where
  attempts : p.maxAttempts ≤ 10
  delay : 100 ≤ p.delayMs

theorem Moderate.wait {p : Policy} (h : p.Moderate) (attempt : Nat) :
    100 ≤ p.delayMsAfter attempt ∧ p.delayMsAfter attempt ≤ 60000 :=
  ⟨le_delayMsAfter h.delay (by decide) attempt, p.delayMsAfter_le attempt⟩

end Policy

/-! ### Plans of checked documents -/

namespace Document

variable {members : Members} {plan : RetryPlan}

/-- A plan in a document that passes the check has a policy within the bounds. -/
theorem moderate_of_check (h : Check.retrySection members = [])
    (read : retry members = .ok (some plan)) : (Policy.ofPlan plan).Moderate := by
  unfold retry at read
  split at read
  · next entries hg =>
    have passes : Check.retry entries = [] := by
      unfold Check.retrySection at h
      rw [Members.find?_of_get? hg Value.noConfusion] at h
      exact h
    rw [Check.retry, List.append_eq_nil_iff, List.append_eq_nil_iff] at passes
    obtain ⟨⟨hattempts, hdelay⟩, -⟩ := passes
    obtain ⟨attempts, h₁, few⟩ := integer_of_bounded "retry." "max_attempts"
      hattempts RetryPlan.usualAttempts
    obtain ⟨delay, h₂, long⟩ := integer_of_bounded "retry." "delay_ms"
      hdelay RetryPlan.usualDelayMs
    have few : attempts ≤ 10 := by
      rcases few with rfl | ⟨-, few⟩
      · decide
      · exact few
    have long : 100 ≤ delay := by
      rcases long with rfl | ⟨long, -⟩
      · decide
      · exact long
    obtain ⟨_, read₁, read⟩ := ok_of_bind read
    rw [h₁] at read₁
    cases read₁
    obtain ⟨_, read₂, read⟩ := ok_of_bind read
    rw [h₂] at read₂
    cases read₂
    obtain ⟨exponential, -, read⟩ := ok_of_bind read
    have positive : ¬ delay < 0 := by omega
    rw [if_neg positive] at read
    cases read
    refine ⟨?_, ?_⟩
    · show (max 1 attempts).toNat ≤ 10
      omega
    · show 100 ≤ delay.toNat
      omega
  · cases read

end Document

namespace Session

/-- **The policy of a checked document** keeps to the bounds, whatever the host's settings are. -/
theorem policy_moderate (s : Session) {members : Members} {spec : RequestSpec}
    (passes : Document.Passes members)
    (read : RequestSpec.ofMembers members s.settings.defaults = .ok spec) (signals : Signals) :
    (s.callOf spec signals).policy.Moderate := by
  have planned := (RequestSpec.readFrom_of_ofMembers read).retry
  show (Policy.ofPlan? spec.retry s.settings.retryAttempts).Moderate
  cases hp : spec.retry with
  | some plan =>
    rw [hp] at planned
    exact Document.moderate_of_check passes.retry planned
  | none =>
    have few := s.settings.retryAttempts.2.2
    refine ⟨?_, show 100 ≤ RetryPlan.usualDelayMs by decide⟩
    show (max 1 s.settings.retryAttempts.1).toNat ≤ 10
    omega

end Session

namespace Call

variable {c : Call} {n : Nat} {s : Surroundings} {r : CallRecord}

theorem allowanceMs_le (c : Call) (n : Nat) :
    c.allowanceMs n ≤ n * 300000 + (n - 1) * 60000 := by
  have attempts : n * c.spec.timeout.seconds * 1000 ≤ n * 300000 := by
    rw [Nat.mul_assoc]
    exact Nat.mul_le_mul_left n (Nat.mul_le_mul_right 1000 c.spec.timeout.atMost)
  exact Nat.add_le_add attempts (c.policy.sum_delayMsAfter_le n)

/-- A call of at most ten attempts ends within 59 minutes. -/
theorem Extends.time_le (h : c.Extends s n r) (few : c.allowedAttempts ≤ 10) :
    r.time ≤ s.now + Nanos.ofMillis 3540000 := by
  have allowed := h.allowed
  have allowance := c.allowanceMs_le n
  rcases h.timely with timely | ⟨halts, timely⟩
  · refine Nat.le_trans timely (Nat.add_le_add_left (Nanos.ofMillis_le.2 ?_) _)
    omega
  · -- The attempt behind the wait that was interrupted would have been allowed.
    have left := halts.allowed
    have wait := c.policy.delayMsAfter_le n
    rw [Policy.maxDelayMs] at wait
    refine Nat.le_trans timely (Nat.add_le_add_left (Nanos.ofMillis_le.2 ?_) _)
    omega

end Call

/-! ### Whole calls -/

namespace Session

/-- A document that asks for two attempts, with a tenth of a second in between. -/
def twice : Value :=
  .object [("url", .string "https://h/"),
    ("retry", .object [("max_attempts", .int 2), ("delay_ms", .int 100)])]

/-- **A checked document** makes between one and ten attempts, waits between a tenth of a second and a
minute before each but the first, and its call returns within 59 minutes. Without a cancellation, a
request that can be built and logged goes out in each attempt. -/
theorem execute_checked (s : Session) {d : Value} {v : Verdict} {spec : RequestSpec}
    (caller : CancelSignal) (checked : Verdict.ofDocument d = .ok v) (valid : v.isValid = true)
    (read : RequestSpec.ofDocument d s.settings.defaults = .ok spec)
    (statuses : s.script.StatusesFrom 100) (faults : s.script.Avoids .taskCancelled) :
    let c := s.callOf spec ⟨caller, none⟩
    let w : Surroundings := ⟨s.now, s.script, s.jars c.variant⟩
    let r := (s.execute (Config.ofValue d) ⟨caller, none⟩).1
    (∃ result, r.outcome = .returned result) ∧ r.time ≤ s.now + Nanos.ofMillis 3540000 ∧
    ∃ n, 1 ≤ n ∧ n ≤ 10 ∧ r.progress.attempt = n ∧
      r.trace.sent = (List.range n).flatMap (fun k => (c.nth w (k + 1)).trace.sent) ∧
      (∀ i, 1 ≤ i → i < n → ∃ ms, 100 ≤ ms ∧ ms ≤ 60000 ∧
        (c.before 1 w i).now = (c.nth w i).time + Nanos.ofMillis ms) ∧
      ∀ o m, caller = .never → Wire.Outgoing.ofSpec spec = .ok o → o.toMessage = .ok m →
        ∀ i e, c.startEvent i o = .ok e → (c.nth w i).trace.sent ≠ [] := by
  intro c w r
  obtain ⟨members, rfl, passes⟩ := Verdict.passes_of_isValid checked valid
  have moderate : c.policy.Moderate := s.policy_moderate passes read _
  have few : c.allowedAttempts ≤ 10 := c.policy_maxAttempts ▸ moderate.attempts
  have described : (Config.ofValue (.object members)).spec? s.settings = .ok spec := by
    show Except.mapError _ (RequestSpec.ofMembers members s.settings.defaults) = _
    rw [show RequestSpec.ofMembers members s.settings.defaults = .ok spec from read]
    rfl
  have runs : c.Runs 1 w r := s.runs_record described _
  obtain ⟨n, extent⟩ := runs.extends
  refine ⟨runs.returned rfl statuses faults, extent.time_le few, n, extent.positive,
    Nat.le_trans extent.allowed few, extent.number, extent.sent, ?_, ?_⟩
  · intro i hi hn
    exact ⟨_, (moderate.wait i).1, (moderate.wait i).2, extent.waits i hi hn⟩
  · rintro o m rfl built ready i e logged
    obtain ⟨rest, sent⟩ := (Call.attempt_sends (c := c) rfl built ready logged).goesOut
    rw [Call.nth, sent]
    exact List.cons_ne_nil _ _

/-- A document that asks for two attempts, under a transport that never answers. -/
theorem execute_checked_silent :
    ∃ v spec, Verdict.ofDocument twice = .ok v ∧ v.isValid = true ∧
      RequestSpec.ofDocument twice Settings.usual.defaults = .ok spec ∧
      Script.silent.StatusesFrom 100 ∧ Script.silent.Avoids .taskCancelled ∧
      ((start .usual .silent .stopped).execute (Config.ofValue twice) ⟨.never, none⟩).1.time ≤
        0 + Nanos.ofMillis 3540000 := by
  have valid : ((Verdict.ofDocument twice).toOption.map Verdict.isValid) = some true := by
    decide +kernel
  have readable : (RequestSpec.ofDocument twice Settings.usual.defaults).toOption.isSome = true := by
    decide +kernel
  cases checked : Verdict.ofDocument twice with
  | error e =>
    rw [checked] at valid
    cases valid
  | ok v =>
    cases read : RequestSpec.ofDocument twice Settings.usual.defaults with
    | error e =>
      rw [read] at readable
      cases readable
    | ok spec =>
      rw [checked] at valid
      have valid : v.isValid = true := Option.some.inj valid
      exact ⟨v, spec, rfl, valid, rfl, Script.silent_statusesFrom, Script.silent_avoids _,
        (execute_checked (start .usual .silent .stopped) .never checked valid read
          Script.silent_statusesFrom (Script.silent_avoids _)).2.1⟩

end Session

end HttpCourier
