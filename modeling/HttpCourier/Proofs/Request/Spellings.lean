import HttpCourier.Proofs.Request.Nulls
import HttpCourier.Request.Check

/-!
# HttpCourier.Proofs.Request.Spellings

**How a whole number is spelled does not matter.** A document may have a number as an integer or as a
floating-point number that is whole. Both the reader and the check go by the integer that it spells,
at the timeout, at the numbers of a retry plan and at each of its status codes. So another spelling of
a number changes neither what is read nor what is found (`RequestSpec.ofDocument_respells`).

The reader has its own view of a document (`Document.ReadAlike`), and the check has another one:
it tells a null from an absent key. `Document.CheckedAlike` is that view.
-/

namespace HttpCourier

open Json (Value Members)

/-! ### Spellings -/

namespace Json.Value

variable {v w : Value} {i : Int}

/-- The value spells the integer, as one or as a floating-point number that is exactly equal to it. -/
def Spells (v : Value) (i : Int) : Prop := v = .int i ∨ ∃ x, v = .float x ∧ x.toInt? = some i

theorem spells_iff : v.Spells i ↔ v.wholeNumber? = some i := by
  constructor
  · rintro (rfl | ⟨x, rfl, whole⟩)
    · rfl
    · exact whole
  · intro whole
    cases v with
    | int j =>
      cases whole
      exact .inl rfl
    | float x => exact .inr ⟨x, rfl, whole⟩
    | _ => cases whole

theorem Spells.ne_null (h : v.Spells i) : v ≠ .null := by
  rintro rfl
  cases spells_iff.1 h

theorem Spells.wholeNumber?_eq (hv : v.Spells i) (hw : w.Spells i) :
    v.wholeNumber? = w.wholeNumber? :=
  (spells_iff.1 hv).trans (spells_iff.1 hw).symm

end Json.Value

namespace Json.Members

variable {members : Members} {name : Text} {v w : Value} {i : Int}

/-- Where a number is spelled another way, each key has the whole number that it had. -/
theorem wholeNumber?_insert (there : members.get? name = some v) (before : v.Spells i)
    (after : w.Spells i) (key : Text) :
    (members.get? key).map Value.wholeNumber? =
      ((members.insert name w).get? key).map Value.wholeNumber? := by
  by_cases h : key = name
  · subst h
    rw [there, Entries.get?_insert_self, Option.map_some, Option.map_some, before.wholeNumber?_eq after]
  · rw [Entries.get?_insert_of_ne h]

theorem wholeNumber?_find?_insert (there : members.get? name = some v) (before : v.Spells i)
    (after : w.Spells i) (key : Text) :
    (members.find? key).map Value.wholeNumber? =
      (find? key (members.insert name w)).map Value.wholeNumber? := by
  by_cases h : key = name
  · subst h
    rw [find?_of_get? there before.ne_null,
      find?_of_get? (Entries.get?_insert_self members key w) after.ne_null,
      Option.map_some, Option.map_some, before.wholeNumber?_eq after]
  · rw [find?_insert_of_ne h]

end Json.Members

/-! ### Documents that are checked alike -/

namespace Document

/-- Two retry plans of which the check sees the same. -/
structure PlansCheckedAlike (p q : Members) : Prop where
  findings : Check.retry p = Check.retry q
  remarks : Check.statusCodeRemarks (p.get? "retry_status_codes") =
    Check.statusCodeRemarks (q.get? "retry_status_codes")

/-- Two documents of which the check sees the same. -/
structure CheckedAlike (m n : Members) : Prop where
  values : ∀ key : Text, key ≠ "timeout_seconds" → key ≠ "retry" → m.get? key = n.get? key
  seconds : (m.get? "timeout_seconds").map Value.wholeNumber? =
    (n.get? "timeout_seconds").map Value.wholeNumber?
  retry : SectionsAlike PlansCheckedAlike (m.find? "retry") (n.find? "retry")

end Document

namespace Check

open Document (CheckedAlike)

variable {m n : Members}

/-- Of a number that has to be within bounds the check sees no more than the whole number. -/
theorem bounded_congr {a b : Option Value}
    (h : a.map Value.wholeNumber? = b.map Value.wholeNumber?) (bounds : Int × Int)
    (notWhole outside : Finding) :
    bounded bounds notWhole outside a = bounded bounds notWhole outside b := by
  unfold bounded
  rcases Document.wholeNumber?_cases h with ⟨rfl, rfl⟩ | ⟨v, w, rfl, rfl, same⟩
  · rfl
  · dsimp only
    rw [same]

theorem findings_congr (h : CheckedAlike m n) : findings m = findings n := by
  have value (key : Text) (hs : key ≠ "timeout_seconds") (hr : key ≠ "retry") :
      m.get? key = n.get? key := h.values key hs hr
  have onCredential : credentialSection m = credentialSection n := by
    unfold credentialSection
    rw [Members.find?_congr (value "auth" (by decide) (by decide))]
  have onRetry : retrySection m = retrySection n := by
    have alike := h.retry
    unfold retrySection
    generalize m.find? "retry" = a, n.find? "retry" = b at alike
    cases alike with
    | objects alike => exact alike.findings
    | same => rfl
  unfold findings
  rw [value "url" (by decide) (by decide), value "method" (by decide) (by decide),
    value "headers" (by decide) (by decide), value "query" (by decide) (by decide),
    bounded_congr h.seconds, onCredential, onRetry]

theorem remarks_congr (h : CheckedAlike m n) : remarks m = remarks n := by
  have value (key : Text) (hs : key ≠ "timeout_seconds") (hr : key ≠ "retry") :
      m.find? key = n.find? key := Members.find?_congr (h.values key hs hr)
  have alike := h.retry
  unfold remarks
  rw [value "body" (by decide) (by decide), value "body_raw" (by decide) (by decide)]
  generalize m.find? "retry" = a, n.find? "retry" = b at alike
  cases alike with
  | objects alike => exact congrArg (· ++ _) alike.remarks
  | same => rfl

end Check

/-- **Documents that are checked alike** are the same to the check: they have the same verdict, or
stop the check for the same reason. -/
theorem Verdict.ofDocument_congr {m n : Members} (h : Document.CheckedAlike m n) :
    ofDocument (.object m) = ofDocument (.object n) := by
  unfold ofDocument
  dsimp only
  rw [Check.findings_congr h, Check.remarks_congr h]

/-! ### Numbers that are spelled another way -/

namespace Document

/-- The second plan is the first one with a number spelled another way: the number of attempts, the
delay, or one of the status codes. -/
inductive PlanRespells : Members → Members → Prop
  | number {plan : Members} {key : String} {v w : Value} {i : Int}
      (known : key = "max_attempts" ∨ key = "delay_ms")
      (there : plan.get? (Text.ofString key) = some v) (before : v.Spells i) (after : w.Spells i) :
      PlanRespells plan (plan.insert (Text.ofString key) w)
  | code {plan : Members} {front back : List Value} {v w : Value} {i : Int}
      (there : plan.get? "retry_status_codes" = some (.array (front ++ v :: back)))
      (before : v.Spells i) (after : w.Spells i) :
      PlanRespells plan (plan.insert "retry_status_codes" (.array (front ++ w :: back)))

/-- The second document is the first one with a number spelled another way: the timeout, or a number
of the retry plan. -/
inductive Respells : Members → Members → Prop
  | timeout {members : Members} {v w : Value} {i : Int}
      (there : members.get? "timeout_seconds" = some v) (before : v.Spells i)
      (after : w.Spells i) : Respells members (members.insert "timeout_seconds" w)
  | retry {members plan plan' : Members}
      (there : members.get? "retry" = some (.object plan)) (plans : PlanRespells plan plan') :
      Respells members (members.insert "retry" (.object plan'))

variable {m n p q : Members}

/-- Of status codes the reader sees the whole numbers alone. -/
theorem filterMap_wholeNumber? {v w : Value} {i : Int} (before : v.Spells i) (after : w.Spells i)
    (front back : List Value) : (front ++ v :: back).filterMap Value.wholeNumber? =
      (front ++ w :: back).filterMap Value.wholeNumber? := by
  rw [List.filterMap_append, List.filterMap_append, List.filterMap_cons, List.filterMap_cons,
    before.wholeNumber?_eq after]

/-- Of status codes the check sees whether there are any, and whether all are whole numbers. -/
theorem statusCodeRemarks_respelled {v w : Value} {i : Int} (before : v.Spells i)
    (after : w.Spells i) (front back : List Value) :
    Check.statusCodeRemarks (some (.array (front ++ v :: back))) =
      Check.statusCodeRemarks (some (.array (front ++ w :: back))) := by
  have whole : (front ++ v :: back).all (fun v => v.wholeNumber?.isSome) =
      (front ++ w :: back).all fun v => v.wholeNumber?.isSome := by
    rw [List.all_append, List.all_append, List.all_cons, List.all_cons,
      before.wholeNumber?_eq after]
  cases front with
  | nil => exact congrArg (fun b => if b = true then _ else _) whole
  | cons u front => exact congrArg (fun b => if b = true then _ else _) whole

theorem PlanRespells.plansAlike (h : PlanRespells p q) : PlansAlike p q := by
  cases h with
  | @number key v w i known there before after =>
    have whole := Members.wholeNumber?_find?_insert there before after
    have others (other : Text) (ha : other ≠ "max_attempts") (hd : other ≠ "delay_ms") :
        Members.find? other (p.insert (Text.ofString key) w) = p.find? other := by
      refine Members.find?_insert_of_ne ?_ p w
      rcases known with rfl | rfl
      · exact ha
      · exact hd
    exact ⟨whole _, whole _, (others _ (by decide) (by decide)).symm,
      statusCodes_congr (others _ (by decide) (by decide)).symm⟩
  | @code front back v w i there before after =>
    have others (other : Text) (hc : other ≠ "retry_status_codes") :
        Members.find? other (p.insert "retry_status_codes" (.array (front ++ w :: back))) =
          p.find? other := Members.find?_insert_of_ne hc p _
    have codes : statusCodes p =
        statusCodes (p.insert "retry_status_codes" (.array (front ++ w :: back))) := by
      unfold statusCodes
      rw [there, Entries.get?_insert_self]
      exact congrArg some (filterMap_wholeNumber? before after front back)
    exact ⟨congrArg _ (others _ (by decide)).symm, congrArg _ (others _ (by decide)).symm,
      (others _ (by decide)).symm, codes⟩

theorem PlanRespells.plansCheckedAlike (h : PlanRespells p q) : PlansCheckedAlike p q := by
  cases h with
  | @number key v w i known there before after =>
    have whole := Members.wholeNumber?_insert there before after
    have codes : (p.insert (Text.ofString key) w).get? "retry_status_codes" =
        p.get? "retry_status_codes" := by
      refine Entries.get?_insert_of_ne ?_ p w
      rcases known with rfl | rfl <;> decide
    refine ⟨?_, by rw [codes]⟩
    unfold Check.retry
    rw [Check.bounded_congr (whole "max_attempts"), Check.bounded_congr (whole "delay_ms"), codes]
  | @code front back v w i there before after =>
    have others (other : Text) (hc : other ≠ "retry_status_codes") :
        (p.insert "retry_status_codes" (.array (front ++ w :: back))).get? other =
          p.get? other := Entries.get?_insert_of_ne hc p _
    refine ⟨?_, ?_⟩
    · unfold Check.retry
      rw [others "max_attempts" (by decide), others "delay_ms" (by decide), there,
        Entries.get?_insert_self]
      rfl
    · rw [there, Entries.get?_insert_self]
      exact statusCodeRemarks_respelled before after front back

theorem Respells.readAlike (h : Respells m n) : ReadAlike m n := by
  cases h with
  | @timeout v w i there before after =>
    have others (key : Text) (h : key ≠ "timeout_seconds") :
        Members.find? key (m.insert "timeout_seconds" w) = m.find? key :=
      Members.find?_insert_of_ne h m w
    refine ⟨fun key hs _ _ => (others key hs).symm,
      Members.wholeNumber?_find?_insert there before after _, ?_, ?_⟩
    · rw [others "auth" (by decide)]
      exact .same _
    · rw [others "retry" (by decide)]
      exact .same _
  | retry there plans => exact .insert_retry there plans.plansAlike

theorem Respells.checkedAlike (h : Respells m n) : CheckedAlike m n := by
  cases h with
  | @timeout v w i there before after =>
    refine ⟨fun key hs _ => (Entries.get?_insert_of_ne hs m w).symm,
      Members.wholeNumber?_insert there before after _, ?_⟩
    rw [Members.find?_insert_of_ne (by decide)]
    exact .same _
  | @retry plan plan' there plans =>
    refine ⟨fun key _ hr => (Entries.get?_insert_of_ne hr m _).symm, ?_, ?_⟩
    · rw [Entries.get?_insert_of_ne (by decide)]
    · rw [find?_insert_object_self, Members.find?_of_get? there nofun]
      exact .objects plans.plansCheckedAlike

end Document

namespace RequestSpec

/-- **How a whole number is spelled does not matter**, neither to the reader of a document nor to its
check. If the timeout, the number of attempts, the delay or a status code is written in another way
that spells the same integer, then the same description is made or the same fault found, whatever the
defaults are, and the verdict has the same errors and the same warnings. -/
theorem ofDocument_respells {m n : Members} (respells : Document.Respells m n)
    (defaults : Document.Defaults) :
    ofDocument (.object m) defaults = ofDocument (.object n) defaults ∧
      Verdict.ofDocument (.object m) = Verdict.ofDocument (.object n) :=
  ⟨ofMembers_congr respells.readAlike defaults, Verdict.ofDocument_congr respells.checkedAlike⟩

/-- A status code with a point, behind a boolean and a fraction that are no whole numbers. -/
theorem ofDocument_respells_code :
    let plan (code : Value) : Members :=
      [("retry_status_codes", .array [.bool true, .float (.ofRatio false 3 2), code])]
    let m (code : Value) : Members := [("url", .string "https://h/"), ("retry", .object (plan code))]
    Document.Respells (m (.int 503)) (m (.float (.ofInt 503))) ∧
      ((ofDocument (.object (m (.float (.ofInt 503)))) .usual).toOption.bind fun r => r.retry) =
        some ⟨3, 1000, true, some [503]⟩ := by
  intro plan m
  have respells : Document.Respells (m (.int 503)) (m (.float (.ofInt 503))) :=
    .retry rfl (@Document.PlanRespells.code (plan (.int 503)) [.bool true, .float (.ofRatio false 3 2)] []
      (.int 503) (.float (.ofInt 503)) 503 rfl (.inl rfl) (.inr ⟨_, rfl, by decide +kernel⟩))
  refine ⟨respells, ?_⟩
  rw [← (ofDocument_respells respells .usual).1]
  decide +kernel

end RequestSpec

end HttpCourier
