import HttpCourier.Attempt.Policy
import HttpCourier.Proofs.Request.Limits
import HttpCourier.Proofs.Request.Rendering
import HttpCourier.Proofs.Request.Targets

/-!
# HttpCourier.Proofs.Request.Remarks

**The remark that no status leads to a retry**, and the plans of which that is true. The check looks
at the array of status codes as it is written, and makes the remark if it is empty. The reader
passes over the elements that are no whole numbers, and what is left may be empty as well. So the
remark is never made without reason, but a plan whose status codes are all passed over goes without
it: the check tells only that some are (`Verdict.noStatusCodes_iff`).
-/

namespace HttpCourier

open Json (Value Members)

/-! ### Plans without status codes -/

namespace RetryPlan

theorem effectiveStatusCodes_eq_nil_iff {p : RetryPlan} :
    p.effectiveStatusCodes = [] ↔ p.statusCodes = some [] := by
  unfold effectiveStatusCodes
  cases p.statusCodes with
  | none => exact iff_of_false (by decide) nofun
  | some codes => exact Option.some_inj.symm

/-- **Without status codes no status leads to a retry**, however many attempts are allowed; and it is
only without them that none does. -/
theorem effectiveStatusCodes_eq_nil_iff_forall {p : RetryPlan} : p.effectiveStatusCodes = [] ↔
    ∀ allowed status attempt,
      { Policy.ofPlan p with maxAttempts := allowed }.retriesStatus status attempt = false := by
  have retries (allowed : Nat) (status : Int) (attempt : Nat) :
      { Policy.ofPlan p with maxAttempts := allowed }.retriesStatus status attempt = true ↔
        attempt < allowed ∧ status ∈ p.effectiveStatusCodes := by
    show (decide _ && p.effectiveStatusCodes.contains status) = true ↔ _
    rw [Bool.and_eq_true, decide_eq_true_iff, List.contains_iff_mem]
  constructor
  · intro none allowed status attempt
    rw [Bool.eq_false_iff, ne_eq, retries, none]
    exact fun h => List.not_mem_nil h.2
  · intro never
    rw [List.eq_nil_iff_forall_not_mem]
    intro status mem
    have retried := (retries 1 status 0).2 ⟨Nat.one_pos, mem⟩
    rw [never] at retried
    cases retried

end RetryPlan

namespace Document

variable {members plan : Members}

/-- The plan has status codes, and the reader passes over all of them. -/
def OnlyIgnored (plan : Members) : Prop :=
  ∃ codes, plan.get? "retry_status_codes" = some (.array codes) ∧ codes ≠ [] ∧
    ∀ v ∈ codes, v.wholeNumber? = none

theorem statusCodes_eq_some_nil_iff : statusCodes plan = some [] ↔
    plan.get? "retry_status_codes" = some (.array []) ∨ OnlyIgnored plan := by
  unfold statusCodes OnlyIgnored
  constructor
  · intro none
    split at none
    · next codes there =>
      have passed := List.filterMap_eq_nil_iff.1 (Option.some.inj none)
      cases codes with
      | nil => exact .inl there
      | cons v codes => exact .inr ⟨_, there, nofun, passed⟩
    · cases none
  · rintro (there | ⟨codes, there, -, passed⟩)
    · rw [there]
      rfl
    · rw [there]
      exact congrArg some (List.filterMap_eq_nil_iff.2 passed)

/-- A retry plan that is read has the status codes of its object, without those that are passed
over. -/
theorem exists_plan_of_retry {o : Option RetryPlan}
    (there : members.get? "retry" = some (.object plan)) (read : retry members = .ok o) :
    ∃ p, o = some p ∧ (p.effectiveStatusCodes = [] ↔
      plan.get? "retry_status_codes" = some (.array []) ∨ OnlyIgnored plan) := by
  unfold retry at read
  rw [there] at read
  -- Three numbers are read, of which only the sign of one matters then.
  iterate 3 obtain ⟨_, -, read⟩ := ok_of_bind read
  split at read
  · cases read
  · cases read
    refine ⟨_, rfl, ?_⟩
    rw [RetryPlan.effectiveStatusCodes_eq_nil_iff, statusCodes_eq_some_nil_iff]

theorem OnlyIgnored.get?_ne_nil (ignored : OnlyIgnored plan) :
    plan.get? "retry_status_codes" ≠ some (.array []) := by
  obtain ⟨codes, there, present, -⟩ := ignored
  intro empty
  exact present (Value.array.inj (Option.some.inj (there.symm.trans empty)))

end Document

/-! ### Remarks -/

theorem Remark.message_injective : Function.Injective Remark.message := by
  intro a b h
  cases a <;> cases b <;> simp [message, Text.ofString_inj] at h ⊢

namespace Check

variable {members plan : Members}

theorem noStatusCodes_mem_iff : Remark.noStatusCodes ∈ statusCodeRemarks o ↔
    o = some (.array []) := by
  unfold statusCodeRemarks
  split
  · exact iff_of_true List.mem_cons_self rfl
  · next codes some_ =>
    refine iff_of_false ?_ fun h => some_ (Value.array.inj (Option.some.inj h))
    split
    · exact List.not_mem_nil
    · decide
  · next other => exact iff_of_false List.not_mem_nil fun h => other [] h

theorem ignoredStatusCodes_mem (ignored : Document.OnlyIgnored plan) :
    Remark.ignoredStatusCodes ∈ statusCodeRemarks (plan.get? "retry_status_codes") := by
  obtain ⟨codes, there, present, passed⟩ := ignored
  rw [there]
  cases codes with
  | nil => exact absurd rfl present
  | cons v codes =>
    have fractional : ((v :: codes).all fun v => v.wholeNumber?.isSome) = false := by
      rw [List.all_cons, passed v List.mem_cons_self]
      rfl
    show _ ∈ if _ then _ else _
    rw [fractional]
    exact List.mem_cons_self

/-- Of the remarks on a document, those on status codes come from the retry plan. -/
theorem mem_remarks_iff (there : members.get? "retry" = some (.object plan)) {r : Remark}
    (codes : r ≠ .twoBodies) :
    r ∈ remarks members ↔ r ∈ statusCodeRemarks (plan.get? "retry_status_codes") := by
  unfold remarks
  rw [Members.find?_of_get? there nofun, List.mem_append]
  refine or_iff_left ?_
  split
  · exact fun h => codes (List.mem_singleton.1 h)
  · exact List.not_mem_nil

end Check

namespace Verdict

variable {members plan : Members} {v : Verdict} {defaults : Document.Defaults} {r : RequestSpec}

/-- The remarks on status codes are among the warnings if they are made of the retry plan. -/
theorem mem_warnings_iff (there : members.get? "retry" = some (.object plan))
    (checked : ofDocument (.object members) = .ok v) {w : Remark} (codes : w ≠ .twoBodies) :
    w.message ∈ v.warnings ↔
      w ∈ Check.statusCodeRemarks (plan.get? "retry_status_codes") := by
  obtain ⟨found, -, checked⟩ := ok_of_bind checked
  cases checked
  exact (List.mem_map_of_injective Remark.message_injective).trans (Check.mem_remarks_iff there codes)

theorem noStatusCodes_mem_warnings_iff (there : members.get? "retry" = some (.object plan))
    (checked : ofDocument (.object members) = .ok v) :
    Remark.noStatusCodes.message ∈ v.warnings ↔
      plan.get? "retry_status_codes" = some (.array []) := by
  rw [mem_warnings_iff there checked (by decide : Remark.noStatusCodes ≠ .twoBodies),
    Check.noStatusCodes_mem_iff]

/-- **The remark that no status leads to a retry.** It is made only of plans that have no status
codes in effect, which are those for which no status leads to a retry however many attempts are
allowed. Conversely such a plan has the remark if and only if its status codes are not an array of
nothing but elements that the reader passes over; on such an array there is only the remark that
elements are ignored. -/
theorem noStatusCodes_iff (there : members.get? "retry" = some (.object plan))
    (checked : ofDocument (.object members) = .ok v)
    (read : RequestSpec.ofDocument (.object members) defaults = .ok r) :
    ∃ p, r.retry = some p ∧
      (p.effectiveStatusCodes = [] ↔ ∀ allowed status attempt,
        { Policy.ofPlan p with maxAttempts := allowed }.retriesStatus status attempt = false) ∧
      (Remark.noStatusCodes.message ∈ v.warnings → p.effectiveStatusCodes = []) ∧
      ((Remark.noStatusCodes.message ∈ v.warnings ↔ p.effectiveStatusCodes = []) ↔
        ¬ Document.OnlyIgnored plan) ∧
      (Document.OnlyIgnored plan → p.effectiveStatusCodes = [] ∧
        Remark.noStatusCodes.message ∉ v.warnings ∧
        Remark.ignoredStatusCodes.message ∈ v.warnings) := by
  obtain ⟨p, planned, disabled⟩ :=
    Document.exists_plan_of_retry there (RequestSpec.readFrom_of_ofMembers read).retry
  have empty := noStatusCodes_mem_warnings_iff there checked
  have ignored := mem_warnings_iff there checked (by decide : Remark.ignoredStatusCodes ≠ .twoBodies)
  refine ⟨p, planned, RetryPlan.effectiveStatusCodes_eq_nil_iff_forall, ?_⟩
  rw [disabled, empty, ignored]
  refine ⟨.inl, ⟨?_, ?_⟩, fun h => ⟨.inr h, h.get?_ne_nil, ?_⟩⟩
  · exact fun both h => h.get?_ne_nil (both.2 (.inr h))
  · exact fun none => ⟨.inl, fun h => h.resolve_right none⟩
  · exact Check.ignoredStatusCodes_mem h

/-- A plan with a boolean, which is ignored, and a whole number with a point, which is not. -/
theorem noStatusCodes_iff_mixed :
    let plan : Members := [("retry_status_codes", .array [.bool true, .float (.ofInt 503)])]
    let d : Value := .object [("url", .string "https://h/"), ("retry", .object plan)]
    ∃ v r p, ofDocument d = .ok v ∧ RequestSpec.ofDocument d .usual = .ok r ∧ r.retry = some p ∧
      (Remark.noStatusCodes.message ∈ v.warnings ↔ p.effectiveStatusCodes = []) := by
  intro plan d
  obtain ⟨v, r, checked, -, read, -⟩ := @exists_of_passed? d "https://h/" (by decide +kernel)
  have there : Entries.get? "retry"
      ([("url", .string "https://h/"), ("retry", .object plan)] : Members) =
    some (.object plan) := rfl
  obtain ⟨p, planned, -, -, exact_, -⟩ := noStatusCodes_iff there checked read
  refine ⟨v, r, p, checked, read, planned, exact_.2 ?_⟩
  rintro ⟨_, ⟨⟩, -, passed⟩
  have whole : (Value.float (.ofInt 503)).wholeNumber?.isSome = true := by decide +kernel
  rw [passed _ (.tail _ (.head _))] at whole
  cases whole

/-- **No status leads to a retry, and the remark is not made**: the only status code is a string, which
is ignored. -/
theorem not_noStatusCodes_iff : ¬ ∀ (members plan : Members) (v : Verdict)
    (defaults : Document.Defaults) (r : RequestSpec),
    members.get? "retry" = some (.object plan) → ofDocument (.object members) = .ok v →
    v.isValid = true → RequestSpec.ofDocument (.object members) defaults = .ok r →
    ∃ p, r.retry = some p ∧
      (Remark.noStatusCodes.message ∈ v.warnings ↔ p.effectiveStatusCodes = []) := by
  intro claim
  let plan : Members := [("retry_status_codes", .array [.string "503"])]
  let members : Members := [("url", .string "https://h/"), ("retry", .object plan)]
  have ignored : Document.OnlyIgnored plan :=
    ⟨_, rfl, nofun, fun v hv => by rw [List.mem_singleton.1 hv]; rfl⟩
  have there : members.get? "retry" = some (.object plan) := rfl
  obtain ⟨v, r, checked, valid, read, -⟩ :=
    @exists_of_passed? (.object members) "https://h/" (by decide +kernel)
  obtain ⟨p, planned, exact_⟩ := claim members plan v .usual r there checked valid read
  obtain ⟨p', planned', disabled⟩ :=
    Document.exists_plan_of_retry there (RequestSpec.readFrom_of_ofMembers read).retry
  rw [planned] at planned'
  cases planned'
  have warned := exact_.2 (disabled.2 (.inr ignored))
  exact ignored.get?_ne_nil ((noStatusCodes_mem_warnings_iff there checked).1 warned)

end Verdict

end HttpCourier
