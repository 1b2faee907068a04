import HttpCourier.Proofs.Computation
import HttpCourier.Proofs.Request.Agreement

/-!
# HttpCourier.Proofs.Request.Nulls

**A null stands for nothing.** The reader of a document has several ways to come by a value: it
takes a text, a number or a boolean or else a default, it looks for an object and passes over what is
none, or it drops a section. In all of them a key with a null is the same as a key that is absent, in
the document as well as in its sections, and whatever is wrong with the other keys
(`RequestSpec.ofDocument_omits`).

`Document.ReadAlike` says of two documents that the reader cannot tell them apart: at most keys it
sees the same value or none, at the keys of numbers the same whole number or none. Each part of the
reader has a lemma that it depends on nothing else, and `RequestSpec.ofMembers_congr` puts them
together.
-/

namespace HttpCourier

open Json (Value Members)

/-! ### Members with a key put in or left out -/

namespace Json.Members

variable {members : Members} {name key : Text}

theorem find?_congr {m n : Members} (h : m.get? key = n.get? key) : m.find? key = n.find? key := by
  unfold find?
  rw [h]

theorem find?_insert_of_ne (h : key ≠ name) (members : Members) (v : Value) :
    find? key (members.insert name v) = members.find? key :=
  find?_congr (Entries.get?_insert_of_ne h members v)

/-- Without a key whose value is null, every key has the value that it had. -/
theorem find?_erase_of_null (null : members.get? name = some .null) (key : Text) :
    find? key (members.erase name) = members.find? key := by
  by_cases h : key = name
  · subst h
    unfold find?
    rw [Entries.get?_erase_self, null]
  · exact find?_congr (Entries.get?_erase_of_ne h members)

/-- Keys that have the same value are looked up alike, or neither is more than a null. -/
theorem get?_cases_of_find? {m n : Members} (h : m.find? key = n.find? key) :
    m.get? key = n.get? key ∨
      (m.get? key = none ∨ m.get? key = some .null) ∧
        (n.get? key = none ∨ n.get? key = some .null) := by
  cases found : m.find? key with
  | none => exact .inr ⟨Document.get?_of_find?_none found, Document.get?_of_find?_none (h ▸ found)⟩
  | some v => exact .inl ((find?_eq_some found).trans (find?_eq_some (h ▸ found)).symm)

end Json.Members

/-! ### Documents that are read alike -/

namespace Document

/-- Two retry plans of which the reader sees the same. -/
structure PlansAlike (p q : Members) : Prop where
  attempts : (p.find? "max_attempts").map Value.wholeNumber? =
    (q.find? "max_attempts").map Value.wholeNumber?
  delay : (p.find? "delay_ms").map Value.wholeNumber? = (q.find? "delay_ms").map Value.wholeNumber?
  backoff : p.find? "exponential_backoff" = q.find? "exponential_backoff"
  codes : statusCodes p = statusCodes q

/-- Two values of a section's key: objects whose members are alike, or the same value. -/
inductive SectionsAlike (alike : Members → Members → Prop) : Option Value → Option Value → Prop
  | objects {p q : Members} (members : alike p q) :
      SectionsAlike alike (some (.object p)) (some (.object q))
  | same (v : Option Value) : SectionsAlike alike v v

/-- Two documents of which the reader sees the same. -/
structure ReadAlike (m n : Members) : Prop where
  values : ∀ key : Text, key ≠ "timeout_seconds" → key ≠ "auth" → key ≠ "retry" →
    m.find? key = n.find? key
  seconds : (m.find? "timeout_seconds").map Value.wholeNumber? =
    (n.find? "timeout_seconds").map Value.wholeNumber?
  credential : SectionsAlike (fun p q => ∀ key, p.find? key = q.find? key) (m.find? "auth")
    (n.find? "auth")
  retry : SectionsAlike PlansAlike (m.find? "retry") (n.find? "retry")

variable {m n : Members}

theorem text?_congr {key : String} (h : m.find? (Text.ofString key) = n.find? (Text.ofString key))
    (place : String) : text? m place key = text? n place key := by
  unfold text?
  rw [h]

theorem boolean_congr {key : String}
    (h : m.find? (Text.ofString key) = n.find? (Text.ofString key)) (place : String)
    (default : Bool) : boolean m place key default = boolean n place key default := by
  unfold boolean
  rw [h]

/-- Two values of a number's key with the same whole number are both absent, or both there. -/
theorem wholeNumber?_cases {a b : Option Value}
    (h : a.map Value.wholeNumber? = b.map Value.wholeNumber?) :
    a = none ∧ b = none ∨ ∃ v w, a = some v ∧ b = some w ∧ v.wholeNumber? = w.wholeNumber? := by
  cases a with
  | none => exact .inl ⟨rfl, Option.map_eq_none_iff.1 h.symm⟩
  | some v =>
    obtain ⟨w, there, same⟩ := Option.map_eq_some_iff.1 h.symm
    exact .inr ⟨v, w, rfl, there, same.symm⟩

/-- Of a number's key the reader sees no more than the whole number. -/
theorem integer_congr {key : String} (h : (m.find? (Text.ofString key)).map Value.wholeNumber? =
    (n.find? (Text.ofString key)).map Value.wholeNumber?) (place : String) (default : Int) :
    integer m place key default = integer n place key default := by
  unfold integer
  rcases wholeNumber?_cases h with ⟨hm, hn⟩ | ⟨v, w, hm, hn, same⟩
  · rw [hm, hn]
  · rw [hm, hn]
    dsimp only
    rw [same]

theorem textMap_congr {key : String}
    (h : m.find? (Text.ofString key) = n.find? (Text.ofString key)) :
    textMap m key = textMap n key := by
  unfold textMap
  rcases Members.get?_cases_of_find? h with h | ⟨hm | hm, hn | hn⟩
  · rw [h]
  all_goals rw [hm, hn]

theorem method_congr (h : m.find? "method" = n.find? "method") : method m = method n := by
  unfold method
  rw [text?_congr h]

theorem url_congr (h : m.find? "url" = n.find? "url") : url m = url n := by
  unfold url
  rcases Members.get?_cases_of_find? h with h | ⟨hm | hm, hn | hn⟩
  · rw [h]
  all_goals rw [hm, hn]

theorem statusCodes_congr (h : m.find? "retry_status_codes" = n.find? "retry_status_codes") :
    statusCodes m = statusCodes n := by
  unfold statusCodes
  rcases Members.get?_cases_of_find? h with h | ⟨hm | hm, hn | hn⟩
  · rw [h]
  all_goals rw [hm, hn]

theorem credential_congr (h : SectionsAlike (fun p q => ∀ key, p.find? key = q.find? key)
    (m.find? "auth") (n.find? "auth")) : credential m = credential n := by
  generalize hm : m.find? "auth" = a, hn : n.find? "auth" = b at h
  unfold credential
  cases h with
  | @objects p q alike =>
    have word : ∀ place key, text? p place key = text? q place key :=
      fun place key => text?_congr (alike _) place
    rw [Members.find?_eq_some hm, Members.find?_eq_some hn]
    simp only [word]
  | same =>
    rcases Members.get?_cases_of_find? (hm.trans hn.symm) with h | ⟨hm | hm, hn | hn⟩
    · rw [h]
    all_goals rw [hm, hn]

theorem retry_congr (h : SectionsAlike PlansAlike (m.find? "retry") (n.find? "retry")) :
    retry m = retry n := by
  generalize hm : m.find? "retry" = a, hn : n.find? "retry" = b at h
  unfold retry
  cases h with
  | objects alike =>
    rw [Members.find?_eq_some hm, Members.find?_eq_some hn]
    dsimp only
    rw [alike.codes, integer_congr alike.attempts, integer_congr alike.delay,
      boolean_congr alike.backoff]
  | same =>
    rcases Members.get?_cases_of_find? (hm.trans hn.symm) with h | ⟨hm | hm, hn | hn⟩
    · rw [h]
    all_goals rw [hm, hn]

end Document

/-- **Documents that are read alike** are the same to the reader: they make the same description, or
are refused with the same fault. -/
theorem RequestSpec.ofMembers_congr {m n : Members} (h : Document.ReadAlike m n)
    (defaults : Document.Defaults) : ofMembers m defaults = ofMembers n defaults := by
  have value (key : Text) (hs : key ≠ "timeout_seconds") (ha : key ≠ "auth") (hr : key ≠ "retry") :
      m.find? key = n.find? key := h.values key hs ha hr
  unfold ofMembers ofParts
  rw [Document.url_congr (value "url" (by decide) (by decide) (by decide)),
    Document.method_congr (value "method" (by decide) (by decide) (by decide)),
    Document.text?_congr (value "body_raw" (by decide) (by decide) (by decide)),
    Document.text?_congr (value "content_type" (by decide) (by decide) (by decide)),
    Document.integer_congr h.seconds,
    Document.boolean_congr (value "ignore_certificate_errors" (by decide) (by decide) (by decide)),
    Document.boolean_congr (value "follow_redirects" (by decide) (by decide) (by decide)),
    Document.credential_congr h.credential, Document.retry_congr h.retry,
    Document.textMap_congr (value "headers" (by decide) (by decide) (by decide)),
    Document.textMap_congr (value "query" (by decide) (by decide) (by decide)),
    value "body" (by decide) (by decide) (by decide)]

namespace Document

theorem PlansAlike.of_find? {p q : Members} (h : ∀ key, p.find? key = q.find? key) :
    PlansAlike p q :=
  ⟨congrArg _ (h _), congrArg _ (h _), h _, statusCodes_congr (h _)⟩

theorem ReadAlike.of_find? {m n : Members} (h : ∀ key, m.find? key = n.find? key) :
    ReadAlike m n := by
  refine ⟨fun key _ _ _ => h key, congrArg _ (h _), ?_, ?_⟩
  · rw [h]
    exact .same _
  · rw [h]
    exact .same _

variable {members : Members}

theorem find?_insert_object_self (members p : Members) (name : Text) :
    Members.find? name (members.insert name (.object p)) = some (.object p) :=
  Members.find?_of_get? (Entries.get?_insert_self members name _) nofun

theorem ReadAlike.insert_credential {auth auth' : Members}
    (there : members.get? "auth" = some (.object auth))
    (alike : ∀ key, auth.find? key = auth'.find? key) :
    ReadAlike members (members.insert "auth" (.object auth')) := by
  refine ⟨fun key _ ha _ => (Members.find?_insert_of_ne ha members _).symm, ?_, ?_, ?_⟩
  · rw [Members.find?_insert_of_ne (by decide)]
  · rw [find?_insert_object_self, Members.find?_of_get? there nofun]
    exact .objects alike
  · rw [Members.find?_insert_of_ne (by decide)]
    exact .same _

theorem ReadAlike.insert_retry {plan plan' : Members}
    (there : members.get? "retry" = some (.object plan)) (alike : PlansAlike plan plan') :
    ReadAlike members (members.insert "retry" (.object plan')) := by
  refine ⟨fun key _ _ hr => (Members.find?_insert_of_ne hr members _).symm, ?_, ?_, ?_⟩
  · rw [Members.find?_insert_of_ne (by decide)]
  · rw [Members.find?_insert_of_ne (by decide)]
    exact .same _
  · rw [find?_insert_object_self, Members.find?_of_get? there nofun]
    exact .objects alike

/-! ### Nulls -/

/-- The second document is the first one without a key whose value is null. The key stands in the
document itself, or in one of its sections. -/
inductive Omits : Members → Members → Prop
  | value {members : Members} {key : Text} (null : members.get? key = some .null) :
      Omits members (members.erase key)
  | credential {members auth : Members} {key : Text}
      (there : members.get? "auth" = some (.object auth)) (null : auth.get? key = some .null) :
      Omits members (members.insert "auth" (.object (auth.erase key)))
  | retry {members plan : Members} {key : Text}
      (there : members.get? "retry" = some (.object plan)) (null : plan.get? key = some .null) :
      Omits members (members.insert "retry" (.object (plan.erase key)))

theorem Omits.readAlike {m n : Members} (h : Omits m n) : ReadAlike m n := by
  cases h with
  | value null => exact .of_find? fun key => (Members.find?_erase_of_null null key).symm
  | credential there null =>
    exact .insert_credential there fun key => (Members.find?_erase_of_null null key).symm
  | retry there null =>
    exact .insert_retry there (.of_find? fun key => (Members.find?_erase_of_null null key).symm)

end Document

namespace RequestSpec

/-- **A null stands for nothing.** A document is read like the same document without a key whose
value is null, whatever the defaults are: both make the same description, or both are refused with
the same fault. -/
theorem ofDocument_omits {m n : Members} (omits : Document.Omits m n)
    (defaults : Document.Defaults) :
    ofDocument (.object m) defaults = ofDocument (.object n) defaults :=
  ofMembers_congr omits.readAlike defaults

/-- The number of attempts is null in a plan that is refused for its delay, and the plan is refused
without it. -/
theorem ofDocument_omits_attempts :
    let plan : Members := [("max_attempts", .null), ("delay_ms", .int (-1))]
    let less : Members := [("delay_ms", .int (-1))]
    let m : Members := [("url", .string "https://h/"), ("retry", .object plan)]
    let n : Members := [("url", .string "https://h/"), ("retry", .object less)]
    Document.Omits m n ∧
      ofDocument (.object m) .usual = .error (.config (.refused "delay_ms" (.below 0))) := by
  intro plan less m n
  have omits : Document.Omits m n := @Document.Omits.retry m plan "max_attempts" rfl rfl
  exact ⟨omits, (ofDocument_omits omits .usual).trans rfl⟩

end RequestSpec

end HttpCourier
