import HttpCourier.Proofs.Request.Reading
import HttpCourier.Proofs.Wire.TextFields

/-!
# HttpCourier.Proofs.Wire.Content

**The content of a request and the fields that describe it.** The content is fixed before the
configured headers are looked at: none of them changes it. The fields that describe it start with
its type and are then a fold over the configured headers, as the other fields are
(`Outgoing.describes_of_ofSpec`).

So a structured body arrives as it was configured: read back from the content, it is the value that
the configuration has (`Outgoing.content_of_ofDocument`).
-/

namespace HttpCourier

namespace Wire

/-! ### Fields that describe content -/

namespace TextFields

/-- The fields that describe content with a configured header, unless it describes none, or gives a
type to content that has one. -/
def addContentHeader (ts : TextFields) (header : Text × Text) : TextFields :=
  if isContentHeader (Text.lower header.1) then
    if Text.lower header.1 = contentTypeKey ∧ ts.hasKey contentTypeKey then ts
    else ts.set header.1 header.2
  else ts

end TextFields

/-- The fields that give the type of content, if there is content. -/
def typeFields (content : Option (Text × Text)) : TextFields :=
  content.toList.map fun c => (contentTypeName, withCharset c.2)

namespace Fields

variable {f : Fields} {ts : TextFields}

theorem Holds.hasName_contentType (h : f.Holds ts) :
    f.hasName "content-type" = ts.hasKey contentTypeKey :=
  h.hasKey (u := contentTypeKey) (by decide)

end Fields

namespace Outgoing

variable {o o' : Outgoing} {ts : TextFields}

theorem addHeader_content {header : Text × Text} (holds : o.contentHeaders.Holds ts)
    (added : o.addHeader header = .ok o') :
    o'.contentHeaders.Holds (ts.addContentHeader header) ∧ o'.content = o.content := by
  unfold TextFields.addContentHeader
  have settled := holds.settle
  cases adds_of_addHeader added with
  | typed content type known =>
    rw [settled.hasName_contentType] at known
    rw [if_pos content, if_pos ⟨type, known⟩]
    exact ⟨settled, rfl⟩
  | type content _ unknown set =>
    rw [settled.hasName_contentType] at unknown
    rw [if_pos content, if_neg (by simp [unknown])]
    exact ⟨settled.set set, rfl⟩
  | describing content other set =>
    rw [if_pos content, if_neg (by simp [other])]
    exact ⟨holds.set set, rfl⟩
  | known other | new other =>
    rw [if_neg (by simp [other])]
    exact ⟨holds, rfl⟩

theorem addHeaders_content {headers : List (Text × Text)} (holds : o.contentHeaders.Holds ts)
    (added : headers.foldlM addHeader o = .ok o') :
    o'.contentHeaders.Holds (headers.foldl TextFields.addContentHeader ts) ∧
      o'.content = o.content := by
  induction headers generalizing o ts with
  | nil =>
    cases added
    exact ⟨holds, rfl⟩
  | cons header rest ih =>
    rw [List.foldlM_cons] at added
    obtain ⟨next, ha, added⟩ := ok_of_bind added
    obtain ⟨holds', content_eq⟩ := addHeader_content holds ha
    rw [← content_eq]
    exact ih holds' added

/-- The content of a request is a text in UTF-8, and the fields that describe it are its type and
what the configured headers add. -/
structure Describes (r : RequestSpec) (content : Option (Text × Text)) (o : Outgoing) : Prop where
  contentOf : contentOf r = .ok content
  scalar : ∀ c ∈ content, c.1.Scalar
  content_eq : o.content = content.map fun c => c.1.bytesIn .utf8
  holds : o.contentHeaders.Holds
    (r.headers.entries.foldl TextFields.addContentHeader (typeFields content))

/-- **What the content of a request is.** -/
theorem describes_of_ofSpec {r : RequestSpec} (h : ofSpec r = .ok o) :
    ∃ content, Describes r content o := by
  obtain ⟨url, -, h⟩ := ok_of_bind h
  obtain ⟨⟨headers, url'⟩, -, h⟩ := ok_of_bind h
  obtain ⟨content, hc, h⟩ := ok_of_bind h
  cases content with
  | none =>
    obtain ⟨filled, hf, h⟩ := ok_of_bind h
    cases hf
    obtain ⟨holds, content_eq⟩ := addHeaders_content Fields.holds_empty (ok_of_mapError h)
    exact ⟨none, hc, by simp, content_eq, holds⟩
  | some content =>
    obtain ⟨text, type⟩ := content
    obtain ⟨bytes, encoded, h⟩ := ok_of_bind h
    obtain ⟨described, set, h⟩ := ok_of_bind h
    obtain ⟨writes, rfl⟩ := Fields.writes_of_encode (ok_of_mapError encoded) Charset.noConfusion
    obtain ⟨holds, content_eq⟩ :=
      addHeaders_content (Fields.holds_empty.set (ok_of_mapError set)) (ok_of_mapError h)
    refine ⟨some (text, type), hc, ?_, content_eq, holds⟩
    rintro _ ⟨⟩
    exact writes.scalar

end Outgoing

end Wire

/-! ### Structured bodies -/

open Json (Value Members)

namespace Wire

/-- **A structured body arrives as it was configured.** The content that is built of a document
with a body is a text in UTF-8, and lenient reading of this text gives the body back, its members
in the order in which they were. -/
theorem Outgoing.content_of_ofDocument {members : Members} {v : Value}
    {defaults : Document.Defaults} {r : RequestSpec} {o : Outgoing} (h : v.Exact)
    (body : members.find? "body" = some v)
    (described : RequestSpec.ofDocument (.object members) defaults = .ok r)
    (built : ofSpec r = .ok o) :
    ∃ bytes t, o.content = some bytes ∧ Text.ofUtf8? bytes = some t ∧
      Json.readLenient t = .ok v := by
  obtain ⟨content, made⟩ := describes_of_ofSpec built
  have structured : r.body = some (.structured v) := by
    rw [(RequestSpec.readFrom_of_ofMembers described).body, body]
    rfl
  have written := made.contentOf
  unfold contentOf at written
  rw [structured] at written
  obtain ⟨t, text, rfl⟩ := ok_of_map written
  refine ⟨t.bytesIn .utf8, t, made.content_eq, Text.ofUtf8?_bytesIn (made.scalar _ rfl), ?_⟩
  exact Json.readLenient_of_bodyText h (ok_of_mapError text)

/-- A body that looks like a raw one, with what the lenient reader drops in its texts, and with
escapes and a text beyond ASCII. -/
def wrapped : Value :=
  .object [("text", .string "a//b"), ("value", .array [.string "/*,]", .null, .int (-120),
    .object [("é\"\\\n", .array []), ("text", .array [.bool true, .object []])]])]

theorem exact_wrapped : wrapped.Exact := by
  have pair : (Value.object [("é\"\\\n", .array []),
      ("text", .array [.bool true, .object []])]).Exact := by
    refine .object (by decide) ?_
    simp only [List.forall_mem_cons, List.not_mem_nil, false_implies, implies_true, and_true]
    exact ⟨.array (by simp), .array (by simpa using ⟨.bool true, .object (by simp) (by simp)⟩)⟩
  refine .object (by decide) ?_
  simp only [List.forall_mem_cons, List.not_mem_nil, false_implies, implies_true, and_true]
  refine ⟨.string _, .array ?_⟩
  simp only [List.forall_mem_cons, List.not_mem_nil, false_implies, implies_true, and_true]
  exact ⟨.string _, .null, .int (by decide), pair⟩

/-- A document with that body. -/
def wrapping : Members := [("url", .string "https://h/"), ("body", wrapped)]

theorem Outgoing.content_of_ofDocument_wrapping :
    ∃ r o bytes t, RequestSpec.ofDocument (.object wrapping) .usual = .ok r ∧
      ofSpec r = .ok o ∧ o.content = some bytes ∧ Text.ofUtf8? bytes = some t ∧
      Json.readLenient t = .ok wrapped := by
  have builds : ((RequestSpec.ofDocument (.object wrapping) .usual).toOption.bind
      fun r => (ofSpec r).toOption).isSome = true := by decide +kernel
  cases described : RequestSpec.ofDocument (.object wrapping) .usual with
  | error fault =>
    rw [described] at builds
    cases builds
  | ok r =>
    rw [described] at builds
    change (ofSpec r).toOption.isSome = true at builds
    cases built : ofSpec r with
    | error fault =>
      rw [built] at builds
      cases builds
    | ok o =>
      obtain ⟨bytes, t, content⟩ := content_of_ofDocument exact_wrapped rfl described built
      exact ⟨r, o, bytes, t, rfl, built, content⟩

end Wire

end HttpCourier
