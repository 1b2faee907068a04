import HttpCourier.Proofs.Call.Return
import HttpCourier.Proofs.Request.Reading
import HttpCourier.Request.Check

/-!
# HttpCourier.Proofs.Request.Agreement

**How far the check of a configuration and its reader agree.** The two walk over a document on
their own. What the check passes, the reader accepts key by key: the URL, the method, the
timeout, the credential, and the numbers of a retry plan. But there are keys of which the reader
asks something and the check nothing, and a document that passes may still be refused for them.

`Document.Unrefused` lists all of these. A document that passes the check is read exactly if it
satisfies the list and its header and query values can be written (`Document.ofMembers_of_passes`).
-/

namespace HttpCourier

open Json (Value Members)

/-! ### Keys with values of one type -/

/-- The value is a string. -/
def Json.Value.IsString : Value → Prop
  | .string _ => True
  | _ => False

/-- The value is a boolean. -/
def Json.Value.IsBool : Value → Prop
  | .bool _ => True
  | _ => False

/-- The value of the key satisfies `p`, if there is one; a null is none. -/
def Json.Members.Fits (members : Members) (key : String) (p : Value → Prop) : Prop :=
  ∀ v, members.find? (Text.ofString key) = some v → p v

theorem Json.Members.find?_eq_some {members : Members} {key : Text} {v : Value}
    (h : members.find? key = some v) : members.get? key = some v := by
  unfold find? at h
  split at h
  · cases h
  · exact h

/-- A value that is no null is the same in both ways of looking it up. -/
theorem Json.Members.find?_of_get? {members : Members} {key : Text} {v : Value}
    (h : members.get? key = some v) (hv : v ≠ .null) : members.find? key = some v := by
  unfold find?
  rw [h]
  cases v with
  | null => exact absurd rfl hv
  | _ => rfl

namespace Document

/-- What the reader asks of a document and the check does not. -/
structure Unrefused (members : Members) : Prop where
  url : ∀ t, members.get? "url" = some (.string t) → Text.Scalar t
  bodyRaw : members.Fits "body_raw" Value.IsString
  contentType : members.Fits "content_type" Value.IsString
  ignoreCertificateErrors : members.Fits "ignore_certificate_errors" Value.IsBool
  followRedirects : members.Fits "follow_redirects" Value.IsBool
  backoff : ∀ plan : Members, members.get? "retry" = some (.object plan) →
    plan.Fits "exponential_backoff" Value.IsBool

/-- The reading comes to a value. -/
abbrev Reads (x : Except ε α) : Prop := ∃ a, x = .ok a

variable {members : Members} {place key : String}

theorem reads_text?_iff : Reads (text? members place key) ↔ members.Fits key Value.IsString := by
  unfold text? Members.Fits
  constructor
  · intro h v hv
    obtain ⟨a, h⟩ := h
    rw [hv] at h
    cases v with
    | string t => trivial
    | _ => cases h
  · intro h
    cases hv : members.find? (Text.ofString key) with
    | none => exact ⟨none, rfl⟩
    | some v =>
      have hs := h v hv
      cases v with
      | string t => exact ⟨some t, rfl⟩
      | _ => cases hs

theorem reads_boolean_iff {default : Bool} :
    Reads (boolean members place key default) ↔ members.Fits key Value.IsBool := by
  unfold boolean Members.Fits
  constructor
  · intro h v hv
    obtain ⟨a, h⟩ := h
    rw [hv] at h
    cases v with
    | bool b => trivial
    | _ => cases h
  · intro h
    cases hv : members.find? (Text.ofString key) with
    | none => exact ⟨default, rfl⟩
    | some v =>
      have hs := h v hv
      cases v with
      | bool b => exact ⟨b, rfl⟩
      | _ => cases hs

/-! ### What the check passes -/

/-- A number that passes the check is read, and it is within the bounds unless it is the
default. -/
theorem integer_of_bounded (place key : String) {bounds : Int × Int} {notWhole outside : Finding}
    (h : Check.bounded bounds notWhole outside (members.get? (Text.ofString key)) = [])
    (default : Int) :
    ∃ i, integer members place key default = .ok i ∧
      (i = default ∨ bounds.1 ≤ i ∧ i ≤ bounds.2) := by
  unfold Check.bounded at h
  unfold integer
  cases hg : members.get? (Text.ofString key) with
  | none =>
    have hf : members.find? (Text.ofString key) = none := by
      unfold Members.find?
      rw [hg]
    rw [hf]
    exact ⟨default, rfl, .inl rfl⟩
  | some v =>
    rw [hg] at h
    dsimp only at h
    cases hw : v.wholeNumber? with
    | none =>
      rw [hw] at h
      cases h
    | some i =>
      rw [hw] at h
      dsimp only at h
      split at h
      · next hi =>
        have hv : v ≠ .null := by
          intro hv
          rw [hv] at hw
          cases hw
        rw [Members.find?_of_get? hg hv]
        dsimp only
        rw [hw]
        unfold Check.within at hi
        rw [Bool.and_eq_true, decide_eq_true_iff, decide_eq_true_iff] at hi
        exact ⟨i, rfl, .inr hi⟩
      · cases h

theorem url_of_check (h : Check.url (members.get? "url") = .ok []) :
    ∃ t : { t : Text // Text.isBlank t = false },
      members.get? "url" = some (.string t.1) ∧ url members = .ok t := by
  unfold Check.url at h
  split at h
  · next t hg =>
    split at h
    · cases h
    · next hb =>
      have hb := Bool.eq_false_iff.2 hb
      refine ⟨⟨t, hb⟩, hg, ?_⟩
      unfold url
      rw [hg]
      exact dif_pos hb
  · cases h

theorem method_of_check (h : Check.method (members.get? "method") = []) :
    Reads (method members) := by
  unfold Check.method at h
  unfold method text?
  split at h
  · next hg =>
    have hf : members.find? "method" = none := by
      unfold Members.find?
      rw [hg]
    rw [show members.find? (Text.ofString "method") = none from hf]
    exact ⟨.get, by decide⟩
  · next t hg =>
    rw [show members.find? (Text.ofString "method") = some (.string t) from
      Members.find?_of_get? hg Value.noConfusion]
    split at h
    · next hm =>
      cases t with
      | nil => exact ⟨.get, by decide⟩
      | cons x xs =>
        obtain ⟨m, hm⟩ := Option.isSome_iff_exists.1 hm
        refine ⟨m, ?_⟩
        simp only [bind, Except.bind, orDefault]
        rw [hm]
        rfl
    · cases h
  · cases h

/-- The values of a credential that passes the check are read. -/
theorem text?_of_check (auth : Members) {key : String} (h : Check.credentialValue auth key = []) :
    Reads (text? auth place key) := by
  unfold Check.credentialValue at h
  unfold text?
  cases hf : auth.find? (Text.ofString key) with
  | none => exact ⟨none, rfl⟩
  | some v =>
    rw [hf] at h
    cases v with
    | string t => exact ⟨some t, rfl⟩
    | _ => cases h

/-- The name of a scheme that the check takes has an encoding. -/
theorem scalar_of_check {kind : Text} {name : SchemeName} {title : String}
    (h : ((SchemeName.check (.string kind)).under "kind").orReject title = .ok name) :
    Text.Scalar kind := by
  unfold SchemeName.check Schema.properText at h
  dsimp only at h
  split at h
  · next hs => exact hs
  · cases h

theorem credential_of_check {auth : Members} (hg : members.get? "auth" = some (.object auth))
    (h : Check.credential auth = .ok []) : Reads (credential members) := by
  unfold Check.credential at h
  split at h
  · next kind hk =>
    split at h
    · cases h
    · next present =>
      cases hn : ((SchemeName.check (.string kind)).under "kind").orReject Credential.title with
      | error r =>
        rw [hn] at h
        cases h
      | ok name =>
        rw [hn] at h
        have empty := (List.append_eq_nil_iff.1 (Except.ok.inj h)).1
        have words : ∀ key ∈ Check.credentialKeys, Reads (text? auth "auth." key) :=
          fun key hkey => text?_of_check auth (List.flatMap_eq_nil_iff.1 empty key hkey)
        have typed : text? auth "auth." "type" = .ok (some kind) := by
          unfold text?
          rw [show auth.find? (Text.ofString "type") = some (.string kind) from
            Members.find?_of_get? hk Value.noConfusion]
        have named : orDefault [] (some kind) = kind := by
          cases kind <;> rfl
        obtain ⟨username, h₁⟩ := words "username" (by decide)
        obtain ⟨password, h₂⟩ := words "password" (by decide)
        obtain ⟨token, h₃⟩ := words "token" (by decide)
        obtain ⟨key, h₄⟩ := words "key" (by decide)
        obtain ⟨keyHeader, h₅⟩ := words "key_header" (by decide)
        obtain ⟨keyQueryParam, h₆⟩ := words "key_query_param" (by decide)
        -- The reader takes the type before the values, and tests its encoding behind them.
        unfold credential
        rw [hg]
        refine ok_bind_iff.2 ⟨_, typed, ?_⟩
        dsimp only
        rw [named, dif_pos present]
        refine ok_bind_iff.2 ⟨username, h₁, ok_bind_iff.2 ⟨password, h₂, ok_bind_iff.2 ⟨token, h₃,
          ok_bind_iff.2 ⟨key, h₄, ok_bind_iff.2 ⟨keyHeader, h₅, ok_bind_iff.2 ⟨keyQueryParam, h₆, ?_⟩⟩⟩⟩⟩⟩
        rw [dif_pos (scalar_of_check hn)]
        exact ⟨_, rfl⟩
  · cases h

/-- A key without a value is absent, or it has a null. -/
theorem get?_of_find?_none {key : Text} (h : members.find? key = none) :
    members.get? key = none ∨ members.get? key = some .null := by
  unfold Members.find? at h
  split at h
  · next hg => exact .inr hg
  · exact .inl h

theorem credential_of_section (h : Check.credentialSection members = .ok []) :
    Reads (credential members) := by
  unfold Check.credentialSection at h
  split at h
  · next hf =>
    unfold credential
    rcases get?_of_find?_none hf with hg | hg <;> rw [hg] <;> exact ⟨none, rfl⟩
  · next auth hf => exact credential_of_check (Members.find?_eq_some hf) h
  · cases h

/-- A retry plan that passes the check is read exactly if its backoff is a boolean. -/
theorem reads_plan_iff {plan : Members} (hg : members.get? "retry" = some (.object plan))
    (h : Check.retry plan = []) :
    Reads (retry members) ↔ plan.Fits "exponential_backoff" Value.IsBool := by
  rw [Check.retry, List.append_eq_nil_iff, List.append_eq_nil_iff] at h
  obtain ⟨⟨hattempts, hdelay⟩, -⟩ := h
  obtain ⟨attempts, h₁, -⟩ := integer_of_bounded "retry." "max_attempts"
    hattempts RetryPlan.usualAttempts
  obtain ⟨delay, h₂, within⟩ := integer_of_bounded "retry." "delay_ms"
    hdelay RetryPlan.usualDelayMs
  have notNegative : ¬ delay < 0 := by
    rcases within with rfl | ⟨least, -⟩
    · decide
    · exact Int.not_lt.2 (Int.le_trans (by decide) least)
  unfold retry
  rw [hg]
  constructor
  · intro hr
    obtain ⟨_, _, hr⟩ := ok_bind_iff.1 hr
    obtain ⟨_, _, hr⟩ := ok_bind_iff.1 hr
    obtain ⟨b, hb, _⟩ := ok_bind_iff.1 hr
    exact reads_boolean_iff.1 ⟨b, hb⟩
  · intro hb
    obtain ⟨b, hb⟩ : Reads (boolean plan "retry." "exponential_backoff" true) :=
      reads_boolean_iff.2 hb
    refine ok_bind_iff.2 ⟨attempts, h₁, ok_bind_iff.2 ⟨delay, h₂, ok_bind_iff.2 ⟨b, hb, ?_⟩⟩⟩
    rw [if_neg notNegative]
    exact ⟨_, rfl⟩

theorem reads_retry_iff (h : Check.retrySection members = []) :
    Reads (retry members) ↔ ∀ plan : Members, members.get? "retry" = some (.object plan) →
      plan.Fits "exponential_backoff" Value.IsBool := by
  unfold Check.retrySection at h
  split at h
  · next hf =>
    have hr : Reads (retry members) := by
      unfold retry
      rcases get?_of_find?_none hf with hg | hg <;> rw [hg] <;> exact ⟨none, rfl⟩
    refine ⟨fun _ plan hg => ?_, fun _ => hr⟩
    rcases get?_of_find?_none hf with hn | hn <;> rw [hg] at hn <;> cases hn
  · next plan hf =>
    have hg := Members.find?_eq_some hf
    rw [reads_plan_iff hg h]
    constructor
    · intro hb plan' hg'
      rw [hg] at hg'
      cases hg'
      exact hb
    · intro hb
      exact hb plan hg
  · cases h

theorem reads_timeout {seconds : Int} (h : Timeout.least ≤ seconds ∧ seconds ≤ Timeout.greatest) :
    Reads (timeout seconds) := by
  unfold timeout
  rw [dif_neg (Int.not_lt.2 h.2), dif_neg (Int.not_lt.2 h.1)]
  exact ⟨_, rfl⟩

/-! ### Whole documents -/

/-- The check has nothing to say about the members, part by part. -/
structure Passes (members : Members) : Prop where
  url : Check.url (members.get? "url") = .ok []
  method : Check.method (members.get? "method") = []
  timeout : Check.bounded (Timeout.least, Timeout.greatest) .timeoutNotInteger
    .timeoutOutOfBounds (members.get? "timeout_seconds") = []
  credential : Check.credentialSection members = .ok []
  retry : Check.retrySection members = []

theorem passes_of_findings (h : Check.findings members = .ok []) : Passes members := by
  unfold Check.findings at h
  cases hu : Check.url (members.get? "url") with
  | error e =>
    rw [hu] at h
    cases h
  | ok onUrl =>
    cases hc : Check.credentialSection members with
    | error r =>
      rw [hu, hc] at h
      cases h
    | ok onCredential =>
      rw [hu, hc] at h
      have h := Except.ok.inj h
      simp only [List.append_eq_nil_iff] at h
      obtain ⟨⟨⟨⟨⟨⟨rfl, hm⟩, ht⟩, -⟩, -⟩, rfl⟩, hr⟩ := h
      exact ⟨hu, hm, ht, hc, hr⟩

/-- **The parts behind the mappings**, in members that pass the check, are read exactly if none of
the unchecked keys is in the way. The reader goes through its keys in order, and so does the
proof. -/
theorem reads_ofParts_iff (passes : Passes members) {defaults : Defaults}
    (hd : Timeout.least ≤ defaults.timeoutSeconds ∧ defaults.timeoutSeconds ≤ Timeout.greatest)
    {target : { t : Text // Text.isBlank t = false }}
    (there : members.get? "url" = some (.string target.1)) (m : Method) (headers query : TextMap) :
    Reads (RequestSpec.ofParts members defaults target m headers query) ↔ Unrefused members := by
  obtain ⟨seconds, hseconds, within⟩ := integer_of_bounded "" "timeout_seconds"
    passes.timeout defaults.timeoutSeconds
  obtain ⟨credential, hcredential⟩ := credential_of_section passes.credential
  have retry_iff := reads_retry_iff passes.retry
  unfold RequestSpec.ofParts
  constructor
  · intro h
    obtain ⟨bodyRaw, hbody, h⟩ := ok_bind_iff.1 h
    obtain ⟨contentType, htype, h⟩ := ok_bind_iff.1 h
    obtain ⟨_, _, h⟩ := ok_bind_iff.1 h
    obtain ⟨ignore, hignore, h⟩ := ok_bind_iff.1 h
    obtain ⟨follow, hfollow, h⟩ := ok_bind_iff.1 h
    obtain ⟨_, _, h⟩ := ok_bind_iff.1 h
    obtain ⟨retry, hretry, h⟩ := ok_bind_iff.1 h
    refine ⟨?_, reads_text?_iff.1 ⟨bodyRaw, hbody⟩, reads_text?_iff.1 ⟨contentType, htype⟩,
      reads_boolean_iff.1 ⟨ignore, hignore⟩, reads_boolean_iff.1 ⟨follow, hfollow⟩,
      retry_iff.1 ⟨retry, hretry⟩⟩
    -- Only the test of the URL is left; it comes behind all keys.
    intro t ht
    cases there.symm.trans ht
    split at h
    · next scalar => exact scalar
    · obtain ⟨_, h⟩ := h
      cases h
  · intro h
    obtain ⟨bodyRaw, hbody⟩ : Reads (text? members "" "body_raw") := reads_text?_iff.2 h.bodyRaw
    obtain ⟨contentType, htype⟩ : Reads (text? members "" "content_type") :=
      reads_text?_iff.2 h.contentType
    obtain ⟨ignore, hignore⟩ : Reads (boolean members "" "ignore_certificate_errors" false) :=
      reads_boolean_iff.2 h.ignoreCertificateErrors
    obtain ⟨follow, hfollow⟩ :
        Reads (boolean members "" "follow_redirects" defaults.followRedirects) :=
      reads_boolean_iff.2 h.followRedirects
    obtain ⟨retry, hretry⟩ := retry_iff.2 h.backoff
    obtain ⟨timeout, htimeout⟩ : Reads (timeout seconds) := by
      rcases within with rfl | hb
      · exact reads_timeout hd
      · exact reads_timeout hb
    refine ok_bind_iff.2 ⟨bodyRaw, hbody, ok_bind_iff.2 ⟨contentType, htype,
      ok_bind_iff.2 ⟨seconds, hseconds, ok_bind_iff.2 ⟨ignore, hignore,
      ok_bind_iff.2 ⟨follow, hfollow, ok_bind_iff.2 ⟨credential, hcredential,
      ok_bind_iff.2 ⟨retry, hretry, ?_⟩⟩⟩⟩⟩⟩⟩
    rw [dif_pos (h.url _ there)]
    exact ok_bind_iff.2 ⟨timeout, htimeout, _, rfl⟩

/-- **Members that pass the check** are read exactly if none of the unchecked keys is in the way;
that leaves a fault of the configuration, or a header or query value that cannot be written. -/
theorem ofMembers_of_passes (passes : Passes members) {defaults : Defaults}
    (hd : Timeout.least ≤ defaults.timeoutSeconds ∧ defaults.timeoutSeconds ≤ Timeout.greatest) :
    (Reads (RequestSpec.ofMembers members defaults) ↔ Writable members ∧ Unrefused members) ∧
    ((∃ f, RequestSpec.ofMembers members defaults = .error (.config f)) ↔
      Writable members ∧ ¬ Unrefused members) ∧
    ((∃ f, RequestSpec.ofMembers members defaults = .error (.unwritable f)) ↔
      ¬ Writable members) := by
  obtain ⟨target, there, hurl⟩ := url_of_check passes.url
  obtain ⟨m, hmethod⟩ := method_of_check passes.method
  by_cases writable : Writable members
  · obtain ⟨headers, query, hh, hq⟩ := writable_iff.1 writable
    have parts := reads_ofParts_iff passes hd there m headers query
    rw [RequestSpec.ofMembers_of_parts hurl hmethod hh hq, ← parts]
    generalize RequestSpec.ofParts members defaults target m headers query = x
    cases x with
    | ok r => simp [Reads, Except.mapError, writable]
    | error f => simp [Reads, Except.mapError, writable]
  · have stops : ∃ f, RequestSpec.ofMembers members defaults = .error (.unwritable f) :=
      RequestSpec.unwritable_iff.2 ⟨⟨target, hurl⟩, ⟨m, hmethod⟩, writable⟩
    obtain ⟨f, hf⟩ := stops
    rw [hf]
    simp [writable]

end Document

namespace Verdict

/-- Only an object passes the check, and then nothing is found in it. -/
theorem passes_of_isValid {d : Value} {v : Verdict} (checked : ofDocument d = .ok v)
    (valid : v.isValid = true) : ∃ members, d = .object members ∧ Document.Passes members := by
  cases d with
  | object members =>
    refine ⟨members, rfl, Document.passes_of_findings ?_⟩
    change (Check.findings members >>= _) = _ at checked
    cases hf : Check.findings members with
    | error e =>
      rw [hf] at checked
      cases checked
    | ok errors =>
      rw [hf] at checked
      cases checked
      have none : (errors.map Finding.message).isEmpty = true := valid
      rw [List.isEmpty_iff, List.map_eq_nil_iff] at none
      rw [none]
  | _ =>
    cases checked
    cases valid

end Verdict

namespace Session

theorem defaults_within (s : Settings) : Timeout.least ≤ s.defaults.timeoutSeconds ∧
    s.defaults.timeoutSeconds ≤ Timeout.greatest :=
  ⟨Int.ofNat_le.2 s.timeout.atLeast, Int.ofNat_le.2 s.timeout.atMost⟩

/-- A document ends a call as a wrong configuration exactly if its reading ends with a fault of the
configuration. -/
theorem execute_configuration_iff (s : Session) (members : Members) (signals : Signals) :
    (∃ r, (s.execute (.document members) signals).1.outcome = .returned r ∧
      r.errorClass = some .configuration) ↔
    ∃ f, RequestSpec.ofMembers members s.settings.defaults = .error (.config f) := by
  rw [execute_record]
  cases hm : RequestSpec.ofMembers members s.settings.defaults with
  | ok spec =>
    rw [record_eq_run (Config.spec?_document hm)]
    constructor
    · rintro ⟨r, hr, hc⟩
      exact absurd hc ((Call.runs_run _ _ _).class_ne_configuration hr)
    · rintro ⟨_, ⟨⟩⟩
  | error fault =>
    cases fault with
    | config f =>
      rw [record_failure (Config.spec?_document hm)]
      exact iff_of_true ⟨_, rfl, rfl⟩ ⟨f, rfl⟩
    | overlongInteger digits => exact absurd hm (RequestSpec.ofMembers_ne_overlong digits)
    | unwritable f =>
      rw [record_escape (Config.spec?_document hm)]
      constructor
      · rintro ⟨_, ⟨⟩, -⟩
      · rintro ⟨_, ⟨⟩⟩

end Session

namespace Verdict

/-- **Documents that pass the check.** Such a document is an object. It is read exactly if none of
its unchecked keys is in the way and its header and query values can be written, whatever the
defaults are. With a key in the way, a call for it ends as one with a wrong configuration; a value
that cannot be written lets its fault through. -/
theorem valid_reads_iff {d : Value} {v : Verdict} (checked : ofDocument d = .ok v)
    (valid : v.isValid = true) :
    ∃ members, d = .object members ∧
      (∀ defaults : Document.Defaults, 1 ≤ defaults.timeoutSeconds →
        defaults.timeoutSeconds ≤ 300 →
        ((∃ r, RequestSpec.ofDocument d defaults = .ok r) ↔
          Document.Writable members ∧ Document.Unrefused members) ∧
        ((∃ f, RequestSpec.ofDocument d defaults = .error (.config f)) ↔
          Document.Writable members ∧ ¬ Document.Unrefused members) ∧
        ((∃ f, RequestSpec.ofDocument d defaults = .error (.unwritable f)) ↔
          ¬ Document.Writable members)) ∧
      ∀ (s : Session) (signals : Signals),
        ((∃ r, (s.execute (Config.ofValue d) signals).1.outcome = .returned r ∧
          r.errorClass = some .configuration) ↔
            Document.Writable members ∧ ¬ Document.Unrefused members) ∧
        (¬ Document.Writable members → ∃ f,
          (s.execute (Config.ofValue d) signals).1.outcome = .escaped (Fault.unwritable f)) := by
  obtain ⟨members, rfl, passes⟩ := passes_of_isValid checked valid
  refine ⟨members, rfl, ?_, ?_⟩
  · intro defaults least greatest
    exact Document.ofMembers_of_passes passes ⟨least, greatest⟩
  · intro s signals
    obtain ⟨-, config, unwritable⟩ :=
      Document.ofMembers_of_passes passes (Session.defaults_within s.settings)
    constructor
    · show (∃ r, (s.execute (.document members) signals).1.outcome = _ ∧ _) ↔ _
      rw [Session.execute_configuration_iff, config]
    · intro h
      obtain ⟨f, hf⟩ := unwritable.2 h
      refine ⟨f, ?_⟩
      show (s.record (.document members) signals).outcome = _
      rw [Session.record_escape (Config.spec?_document hf)]

/-- A document with nothing but a URL. -/
theorem valid_reads_iff_bare :
    ∃ v, ofDocument (.object [("url", .string "https://h/")]) = .ok v ∧
      v.isValid = true ∧ ∃ r, RequestSpec.ofDocument (.object [("url", .string "https://h/")])
        .usual = .ok r := by
  have valid : ((ofDocument (.object [("url", .string "https://h/")])).toOption.map
      isValid) = some true := by decide +kernel
  cases checked : ofDocument (.object [("url", .string "https://h/")]) with
  | error e =>
    rw [checked] at valid
    cases valid
  | ok v =>
    rw [checked] at valid
    have valid : v.isValid = true := Option.some.inj valid
    obtain ⟨members, hd, reads, -⟩ := valid_reads_iff checked valid
    cases hd
    refine ⟨v, rfl, valid, (reads .usual (by decide) (by decide)).1.2 ⟨⟨?_, ?_⟩, ?_⟩⟩
    · intro _ h
      cases h
    · intro _ h
      cases h
    · refine ⟨?_, ?_, ?_, ?_, ?_, ?_⟩
      · intro t h
        cases h
        decide
      all_goals
        intro _ h
        cases h

/-- A document passes the check, and is refused for a redirect policy that is no boolean. -/
theorem not_valid_reads :
    ¬ ∀ (d : Value) (v : Verdict) (defaults : Document.Defaults), ofDocument d = .ok v →
      v.isValid = true → 1 ≤ defaults.timeoutSeconds → defaults.timeoutSeconds ≤ 300 →
      ∃ r, RequestSpec.ofDocument d defaults = .ok r := by
  intro h
  have valid : ((ofDocument (.object [("url", .string "https://h/"),
      ("follow_redirects", .string "yes")])).toOption.map isValid) = some true := by
    decide +kernel
  have refused : (RequestSpec.ofDocument (.object [("url", .string "https://h/"),
      ("follow_redirects", .string "yes")]) .usual).toOption.isNone = true := by
    decide +kernel
  cases checked : ofDocument (.object [("url", .string "https://h/"),
      ("follow_redirects", .string "yes")]) with
  | error e =>
    rw [checked] at valid
    cases valid
  | ok v =>
    rw [checked] at valid
    obtain ⟨r, hr⟩ := h _ v .usual checked (Option.some.inj valid) (by decide) (by decide)
    rw [hr] at refused
    cases refused

end Verdict

end HttpCourier
