import HttpCourier.Proofs.Computation
import HttpCourier.Proofs.Request.Agreement
import HttpCourier.Proofs.Request.TextMap

/-!
# HttpCourier.Proofs.Request.Rendering

**The document of a request description**, and what is read from it. `RequestSpec.document` writes
every field that has a value under its key. Reading the document gives the description back, with
whatever defaults (`RequestSpec.ofDocument_document`): a value is not taken for an absent one because
it is empty, false or zero, and no key is read for another.

A description with a raw JSON body has no document, since a document has no key for one; nor has a
body that is null, or an empty content type, for these are read like absent ones.
-/

namespace HttpCourier

open Json (Value Members)

theorem Text.ofString_inj {s t : String} : ofString s = ofString t ↔ s = t := by
  unfold ofString
  rw [List.map_inj_right fun _ _ => CodePoint.ofChar_inj.1, String.toList_inj]

/-! ### Members with distinct keys -/

namespace Json.Members

/-- The members of some keys, those without a value being left out. -/
def present (fields : List (String × Option Value)) : Members :=
  fields.filterMap fun f => f.2.map (Text.ofString f.1, ·)

variable {fields : List (String × Option Value)} {key : String} {v : Option Value}

theorem get?_present_cons (f : String × Option Value) (fields : List (String × Option Value))
    (key : String) : (present (f :: fields)).get? (Text.ofString key) =
      if f.1 = key then f.2.or ((present fields).get? (Text.ofString key))
      else (present fields).get? (Text.ofString key) := by
  obtain ⟨k, none | v⟩ := f
  · split <;> rfl
  · show (if Text.ofString k = Text.ofString key then _ else _) = _
    simp only [Text.ofString_inj]
    rfl

theorem get?_present_of_notMem (missing : key ∉ fields.map Prod.fst) :
    (present fields).get? (Text.ofString key) = none := by
  induction fields with
  | nil => rfl
  | cons f fields ih =>
    obtain ⟨here, there⟩ := List.ne_and_not_mem_of_not_mem_cons missing
    rw [get?_present_cons, if_neg (Ne.symm here), ih there]

/-- Each key has its own value. -/
theorem get?_present (distinct : (fields.map Prod.fst).Nodup) (mem : (key, v) ∈ fields) :
    (present fields).get? (Text.ofString key) = v := by
  induction fields with
  | nil => cases mem
  | cons f fields ih =>
    obtain ⟨fresh, distinct⟩ := List.nodup_cons.1 distinct
    rw [get?_present_cons]
    rcases List.mem_cons.1 mem with rfl | mem
    · rw [if_pos rfl, get?_present_of_notMem fresh, Option.or_none]
    · rw [if_neg fun same => fresh (List.mem_map.2 ⟨_, mem, same.symm⟩), ih distinct mem]

end Json.Members

/-! ### Documents -/

/-- The value of a mapping. -/
def TextMap.value (m : TextMap) : Value := .object (m.entries.map fun e => (e.1, .string e.2))

/-- The fields of a credential under their keys. -/
def Credential.fields (c : Credential) : List (String × Option Value) :=
  [("type", some (.string c.kind.text)), ("username", c.username.map .string),
    ("password", c.password.map .string), ("token", c.token.map .string),
    ("key", c.key.map .string), ("key_header", c.keyHeader.map .string),
    ("key_query_param", c.keyQueryParam.map .string)]

/-- The fields of a retry plan under their keys. -/
def RetryPlan.fields (p : RetryPlan) : List (String × Option Value) :=
  [("max_attempts", some (.int p.maxAttempts)), ("delay_ms", some (.int p.delayMs)),
    ("exponential_backoff", some (.bool p.exponential)),
    ("retry_status_codes", p.statusCodes.map fun codes => .array (codes.map .int))]

/-- The value of a body that is not raw. -/
def Body.value? : Body → Option Value
  | .structured v => some v
  | .raw _ => none

namespace RequestSpec

/-- The fields of a request description under their keys. -/
def fields (r : RequestSpec) : List (String × Option Value) :=
  [("url", some (.string r.target.text)), ("method", some (.string r.method.name)),
    ("headers", some r.headers.value), ("query", some r.query.value),
    ("body", r.body.bind Body.value?), ("body_raw", r.bodyRaw.map .string),
    ("content_type", some (.string r.contentType)),
    ("timeout_seconds", some (.int r.timeout.seconds)),
    ("ignore_certificate_errors", some (.bool r.ignoreCertificateErrors)),
    ("follow_redirects", some (.bool r.followRedirects)),
    ("auth", r.credential.map fun c => .object (Members.present c.fields)),
    ("retry", r.retry.map fun p => .object (Members.present p.fields))]

/-- The document of a request description: each field that has a value, under its key. -/
def document (r : RequestSpec) : Value := .object (Members.present r.fields)

end RequestSpec

/-! ### What is read -/

namespace Document

variable {members : Members} {key : String} (place : String)

theorem text?_of_get? {o : Option Text}
    (h : members.get? (Text.ofString key) = o.map .string) : text? members place key = .ok o := by
  unfold text? Members.find?
  rw [h]
  cases o <;> rfl

theorem integer_of_get? {i : Int} (h : members.get? (Text.ofString key) = some (.int i))
    (default : Int) : integer members place key default = .ok i := by
  unfold integer Members.find?
  rw [h]
  rfl

theorem boolean_of_get? {b : Bool} (h : members.get? (Text.ofString key) = some (.bool b))
    (default : Bool) : boolean members place key default = .ok b := by
  unfold boolean Members.find?
  rw [h]

theorem textMap_of_get? {m : TextMap} (h : members.get? (Text.ofString key) = some m.value) :
    textMap members key = .ok m := by
  have strings : ∀ entries : Entries Text,
      (entries.map fun e => (e.1, Value.string e.2)).mapM
        (fun e => (mapText e.2).map (e.1, ·)) = .ok entries := by
    intro entries
    induction entries with
    | nil => rfl
    | cons e entries ih =>
      rw [List.map_cons, List.mapM_cons, ih]
      rfl
  unfold textMap
  rw [h]
  exact (congrArg (Except.map TextMap.ofPairs) (strings m.entries)).trans
    (congrArg Except.ok m.ofPairs_entries)

theorem url_of_get? {t : Target} (h : members.get? "url" = some (.string t.text)) :
    url members = .ok ⟨t.text, t.present⟩ := by
  unfold url
  rw [h]
  exact dif_pos t.present

theorem method_of_get? {m : Method} (h : members.get? "method" = some (.string m.name)) :
    method members = .ok m := by
  unfold method
  rw [text?_of_get? "" (o := some (Text.ofString m.name)) h]
  cases m <;> decide

/-- A text that is not empty stands for itself. -/
theorem orDefault_of_ne_nil {t : Text} (h : t ≠ []) (default : Text) :
    orDefault default (some t) = t := by
  cases t with
  | nil => exact absurd rfl h
  | cons c t => rfl

theorem credential_of_get? {o : Option Credential}
    (h : members.get? "auth" = o.map fun c => .object (Members.present c.fields)) :
    credential members = .ok o := by
  unfold credential
  rw [h]
  cases o with
  | none => rfl
  | some c =>
    have distinct : (c.fields.map Prod.fst).Nodup := by simp [Credential.fields]
    have word {key : String} {o : Option Text} (mem : (key, o.map Value.string) ∈ c.fields) :
        text? (Members.present c.fields) "auth." key = .ok o :=
      text?_of_get? "auth." (Members.get?_present distinct mem)
    have kind : text? (Members.present c.fields) "auth." "type" = .ok (some c.kind.text) :=
      word (o := some c.kind.text) (by simp [Credential.fields])
    refine (bind_of_ok kind _).trans ?_
    rw [orDefault_of_ne_nil c.kind.present, dif_pos c.kind.present]
    dsimp only
    rw [bind_of_ok (word (o := c.username) (by simp [Credential.fields])),
      bind_of_ok (word (o := c.password) (by simp [Credential.fields])),
      bind_of_ok (word (o := c.token) (by simp [Credential.fields])),
      bind_of_ok (word (o := c.key) (by simp [Credential.fields])),
      bind_of_ok (word (o := c.keyHeader) (by simp [Credential.fields])),
      bind_of_ok (word (o := c.keyQueryParam) (by simp [Credential.fields])),
      dif_pos c.kind.scalar]
    rfl

theorem statusCodes_of_get? {o : Option (List Int)} (h : members.get? "retry_status_codes" =
    o.map fun codes => .array (codes.map .int)) : statusCodes members = o := by
  unfold statusCodes
  rw [h]
  cases o with
  | none => rfl
  | some codes =>
    show some ((codes.map Value.int).filterMap Value.wholeNumber?) = some codes
    rw [List.filterMap_map]
    exact congrArg some List.filterMap_some

theorem retry_of_get? {o : Option RetryPlan}
    (h : members.get? "retry" = o.map fun p => .object (Members.present p.fields)) :
    retry members = .ok o := by
  unfold retry
  rw [h]
  cases o with
  | none => rfl
  | some p =>
    have distinct : (p.fields.map Prod.fst).Nodup := by simp [RetryPlan.fields]
    have value (key : String) {v : Option Value} (mem : (key, v) ∈ p.fields) :
        (Members.present p.fields).get? (Text.ofString key) = v := Members.get?_present distinct mem
    have attempts := integer_of_get? "retry." (i := p.maxAttempts)
      (value "max_attempts" (by simp [RetryPlan.fields])) RetryPlan.usualAttempts
    have delay := integer_of_get? "retry." (i := p.delayMs)
      (value "delay_ms" (by simp [RetryPlan.fields])) RetryPlan.usualDelayMs
    have backoff := boolean_of_get? "retry." (b := p.exponential)
      (value "exponential_backoff" (by simp [RetryPlan.fields])) true
    have codes := statusCodes_of_get? (o := p.statusCodes)
      (value "retry_status_codes" (by simp [RetryPlan.fields]))
    dsimp only [Option.map_some]
    rw [bind_of_ok attempts, bind_of_ok delay, bind_of_ok backoff, codes,
      if_neg (Int.not_lt.2 (Int.natCast_nonneg p.delayMs))]
    rfl

theorem timeout_seconds (t : Timeout) : timeout t.seconds = .ok t := by
  have above : ¬ Timeout.greatest < t.seconds := Int.not_lt.2 (Int.ofNat_le.2 t.atMost)
  have below : ¬ (t.seconds : Int) < Timeout.least := Int.not_lt.2 (Int.ofNat_le.2 t.atLeast)
  unfold timeout
  rw [dif_neg above, dif_neg below]
  rfl

theorem body_of_get? {o : Option Body} (h : members.get? "body" = o.bind Body.value?)
    (plain : ∀ b ∈ o, ∃ v, b = .structured v ∧ v ≠ .null) :
    (members.find? "body").map .structured = o := by
  cases o with
  | none =>
    unfold Members.find?
    rw [h]
    rfl
  | some b =>
    obtain ⟨v, rfl, present⟩ := plain b rfl
    rw [Members.find?_of_get? h present]
    rfl

end Document

namespace RequestSpec

/-- **Reading undoes rendering.** The document of a request description is read as that
description, whatever the defaults are, if the description has no raw JSON body and no null for
one, and a content type that is not empty. -/
theorem ofDocument_document (r : RequestSpec) (defaults : Document.Defaults)
    (plain : ∀ b ∈ r.body, ∃ v, b = .structured v ∧ v ≠ .null) (typed : r.contentType ≠ []) :
    ofDocument r.document defaults = .ok r := by
  have distinct : (r.fields.map Prod.fst).Nodup := by simp [fields]
  have value (key : String) {v : Option Value} (mem : (key, v) ∈ r.fields) :
      (Members.present r.fields).get? (Text.ofString key) = v := Members.get?_present distinct mem
  -- What is read at each key, whatever stands at the others.
  have url := Document.url_of_get? (t := r.target) (value "url" (by simp [fields]))
  have method := Document.method_of_get? (m := r.method)
    (value "method" (by simp [fields]))
  have bodyRaw := Document.text?_of_get? "" (o := r.bodyRaw)
    (value "body_raw" (by simp [fields]))
  have contentType := Document.text?_of_get? "" (o := some r.contentType)
    (value "content_type" (by simp [fields]))
  have seconds := Document.integer_of_get? "" (i := r.timeout.seconds)
    (value "timeout_seconds" (by simp [fields])) defaults.timeoutSeconds
  have ignore := Document.boolean_of_get? "" (b := r.ignoreCertificateErrors)
    (value "ignore_certificate_errors" (by simp [fields])) false
  have follow := Document.boolean_of_get? "" (b := r.followRedirects)
    (value "follow_redirects" (by simp [fields])) defaults.followRedirects
  have credential := Document.credential_of_get? (o := r.credential)
    (value "auth" (by simp [fields]))
  have retry := Document.retry_of_get? (o := r.retry) (value "retry" (by simp [fields]))
  have headers := Document.textMap_of_get? (m := r.headers)
    (value "headers" (by simp [fields]))
  have query := Document.textMap_of_get? (m := r.query)
    (value "query" (by simp [fields]))
  have body := Document.body_of_get? (o := r.body) (value "body" (by simp [fields])) plain
  show ofMembers (Members.present r.fields) defaults = _
  rw [ofMembers_of_parts url method headers query]
  unfold ofParts
  rw [bind_of_ok bodyRaw, bind_of_ok contentType, bind_of_ok seconds, bind_of_ok ignore,
    bind_of_ok follow, bind_of_ok credential, bind_of_ok retry, dif_pos r.target.scalar,
    bind_of_ok (Document.timeout_seconds r.timeout), body, Document.orDefault_of_ne_nil typed]
  rfl

/-- A description whose values are false, zero or empty wherever they can be. -/
def hollow : RequestSpec where
  target := ⟨"https://h/hollow", by decide, by decide⟩
  method := .head
  headers := .ofPairs [("X-Empty", "")]
  query := .empty
  body := some (.structured (.bool false))
  bodyRaw := some []
  contentType := "text/plain"
  timeout := ⟨2, by decide, by decide⟩
  ignoreCertificateErrors := false
  followRedirects := false
  credential := some ⟨⟨"basic", by decide, by decide⟩, some [], some [], none, none, none, some []⟩
  retry := some ⟨0, 0, false, some []⟩

theorem ofDocument_document_hollow :
    ofDocument hollow.document ⟨300, true⟩ = .ok hollow :=
  ofDocument_document hollow ⟨300, true⟩
    (by
      rintro _ ⟨⟩
      exact ⟨.bool false, rfl, nofun⟩)
    (by decide)

end RequestSpec

end HttpCourier
