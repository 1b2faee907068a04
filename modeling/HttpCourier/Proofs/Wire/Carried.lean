import HttpCourier.Proofs.Url.Parts
import HttpCourier.Proofs.Wire.Content
import HttpCourier.Proofs.Wire.Query
import HttpCourier.Wire.Message

/-!
# HttpCourier.Proofs.Wire.Carried

**A complete credential is on the wire.** A credential in the URL is its last parameter. One in a
header field is set before all others and passes three steps that could replace it: the configured
headers, which leave a field alone that is there, the fields that describe the content, which do
not, and the fields that are added where they are missing.

So a key is carried unless its field is one of those that describe the content (`Spared`). The
field of a name and a password or of a token is none of these.
-/

namespace HttpCourier

namespace Wire

/-! ### Values of a name -/

namespace TextFields

variable {ts us : TextFields} {name value k : Text}

theorem valuesOf_append (ts us : TextFields) (k : Text) :
    (ts ++ us).valuesOf k = ts.valuesOf k ++ us.valuesOf k := by
  unfold valuesOf
  rw [List.filter_append, List.map_append]

theorem valuesOf_cons (t : Text × Text) (ts : TextFields) (k : Text) :
    valuesOf (t :: ts) k = (if Text.asciiLower t.1 = k then [t.2] else []) ++ ts.valuesOf k :=
  (valuesOf_append [t] ts k).trans (by
    congr 1
    by_cases h : Text.asciiLower t.1 = k <;> simp [valuesOf, h])

theorem valuesOf_eq_nil_iff : ts.valuesOf k = [] ↔ ∀ t ∈ ts, Text.asciiLower t.1 ≠ k := by
  simp [valuesOf]

theorem valuesOf_filter {p : Text × Text → Bool} (h : ∀ t ∈ ts, Text.asciiLower t.1 = k → p t) :
    valuesOf (ts.filter p) k = ts.valuesOf k := by
  unfold valuesOf
  rw [List.filter_filter]
  congr 1
  refine List.filter_congr fun t ht => ?_
  by_cases same : Text.asciiLower t.1 = k
  · simp [same, h t ht same]
  · simp [same]

theorem valuesOf_replaceFirst (other : Text.asciiLower name ≠ k) :
    (replaceFirst name value ts).valuesOf k = ts.valuesOf k := by
  induction ts with
  | nil => rfl
  | cons t ts ih =>
    rw [replaceFirst]
    split
    · next same =>
      rw [valuesOf_cons, valuesOf_cons, same, if_neg other, if_neg other, valuesOf_filter]
      intro u _ hu
      simp [hu, other.symm]
    · rw [valuesOf_cons, valuesOf_cons, ih]

/-- Setting a field changes nothing under another name. -/
theorem valuesOf_set (other : Text.asciiLower name ≠ k) :
    (ts.set name value).valuesOf k = ts.valuesOf k := by
  unfold set
  split
  · exact valuesOf_replaceFirst other
  · rw [valuesOf_append, valuesOf_cons, if_neg other]
    exact List.append_nil _

theorem hasKey_iff : ts.hasKey k = true ↔ ts.valuesOf k ≠ [] := by
  rw [Ne, valuesOf_eq_nil_iff]
  simp [hasKey]

/-- A configured header does not displace a field that it is found by. -/
theorem valuesOf_addHeader {header : Text × Text} (there : ts.valuesOf k ≠ [])
    (found : Text.asciiLower header.1 = k → Text.lower header.1 = k) :
    (ts.addHeader header).valuesOf k = ts.valuesOf k := by
  unfold addHeader
  split
  · rfl
  · next new =>
    refine valuesOf_set fun same => new (.inr ?_)
    rw [found same]
    exact hasKey_iff.2 there

/-- What each step leaves alone, all of them do. -/
theorem valuesOf_foldl {step : TextFields → Text × Text → TextFields} {headers : List (Text × Text)}
    (kept : ∀ ts, valuesOf ts k ≠ [] → ∀ h ∈ headers, (step ts h).valuesOf k = ts.valuesOf k)
    (there : ts.valuesOf k ≠ []) : (headers.foldl step ts).valuesOf k = ts.valuesOf k := by
  induction headers generalizing ts with
  | nil => rfl
  | cons header rest ih =>
    have here := kept ts there header List.mem_cons_self
    rw [List.foldl_cons, ih (fun ts there h hh => kept ts there h (List.mem_cons_of_mem _ hh))
      (here ▸ there), here]

theorem valuesOf_addHeaders {headers : List (Text × Text)} (there : ts.valuesOf k ≠ [])
    (found : ∀ h ∈ headers, Text.asciiLower h.1 = k → Text.lower h.1 = k) :
    (headers.foldl addHeader ts).valuesOf k = ts.valuesOf k :=
  valuesOf_foldl (fun _ there h hh => valuesOf_addHeader there (found h hh)) there

/-- The fields with those of another collection, which displace fields that they are found by. -/
def update (ts us : TextFields) : TextFields :=
  (ts.filter fun t => !us.any fun u => Text.lower u.1 = Text.asciiLower t.1) ++ us

theorem valuesOf_update (h : ∀ u ∈ us, Text.asciiLower u.1 ≠ k ∧ Text.lower u.1 ≠ k) :
    (ts.update us).valuesOf k = ts.valuesOf k := by
  have none : us.valuesOf k = [] := valuesOf_eq_nil_iff.2 fun u hu => (h u hu).1
  rw [update, valuesOf_append, none, List.append_nil, valuesOf_filter]
  intro t _ same
  simpa [same] using fun n v hu => (h (n, v) hu).2

end TextFields

/-! ### Fields that are put together -/

namespace Fields

variable {f g h : Fields} {ts us : TextFields} {name k : Text}

/-- The bytes under a name are those of the texts. -/
theorem valuesOf_entries (entries : f.entries = ts.map TextFields.entry)
    (scalar : ∀ t ∈ ts, t.1.Scalar) (hn : name.Scalar) :
    f.valuesOf (key (name.bytesIn .utf8)) =
      (ts.valuesOf (Text.asciiLower name)).map (Text.bytesIn .utf8) := by
  unfold valuesOf TextFields.valuesOf
  rw [entries, List.filter_map, List.map_map, List.map_map]
  have kept : ts.filter ((fun e : Bytes × Bytes => decide (key e.1 = key (name.bytesIn .utf8))) ∘
      TextFields.entry) = ts.filter fun t => Text.asciiLower t.1 = Text.asciiLower name := by
    refine List.filter_congr fun t ht => ?_
    show decide _ = decide _
    rw [decide_eq_decide]
    exact key_eq_key (scalar t ht) hn
  rw [kept]
  rfl

/-- The keys that are looked up for fields are the texts in lower case. -/
theorem mapM_keyOf (holds : f.Holds ts) {names : List Text} {keys : List Bytes}
    (looked : names.mapM f.keyOf = .ok keys) :
    (∀ n ∈ names, (Text.lower n).Scalar) ∧
      keys = names.map fun n => (Text.lower n).bytesIn .utf8 := by
  induction names generalizing keys with
  | nil =>
    cases looked
    exact ⟨fun _ h => absurd h List.not_mem_nil, rfl⟩
  | cons n names ih =>
    rw [List.mapM_cons] at looked
    obtain ⟨k, hk, looked⟩ := ok_of_bind looked
    obtain ⟨ks, hks, looked⟩ := ok_of_bind looked
    cases looked
    obtain ⟨writes, rfl⟩ := writes_of_encode hk holds.lookup.notLatin1
    obtain ⟨scalar, rfl⟩ := ih hks
    exact ⟨List.forall_mem_cons.2 ⟨writes.scalar, scalar⟩, rfl⟩

theorem entries_update (hf : f.Holds ts) (hg : g.Holds us) (updated : f.update g = .ok h) :
    h.entries = (ts.update us).map TextFields.entry := by
  obtain ⟨keys, looked, updated⟩ := ok_of_bind updated
  cases updated
  have suits : Suits (fittingCharset g.entries) us := by
    rw [hg.entries]
    exact suits_fittingCharset hg.scalar
  rw [hg.decode_keys suits] at looked
  obtain ⟨scalar, rfl⟩ := mapM_keyOf hf.settle looked
  -- A field stays if none of the keys is its own; both sides say so of the texts.
  show (f.settle.entries.filter _) ++ g.entries = _
  rw [hf.settle.entries, hg.entries, TextFields.update, List.map_append, List.filter_map]
  congr 2
  refine List.filter_congr fun t ht => ?_
  show (!List.contains _ (key (t.1.bytesIn .utf8))) = _
  congr 1
  rw [Bool.eq_iff_iff, List.contains_iff_mem, List.map_map, List.mem_map, List.any_eq_true]
  refine exists_congr fun u => and_congr_right fun hu => ?_
  have here := scalar _ (List.mem_map_of_mem hu)
  rw [Text.lower_asciiLower] at here
  show (Text.lower (Text.asciiLower u.1)).bytesIn .utf8 = _ ↔ decide _ = true
  rw [Text.lower_asciiLower, decide_eq_true_iff, eq_comm, key_inj (hf.scalar t ht).1 here]
  exact eq_comm

/-! ### Fields that were missing -/

variable {wanted : Bytes}

theorem valuesOf_append (front back : List (Bytes × Bytes)) (charset : Option Charset) :
    valuesOf ⟨front ++ back, charset⟩ wanted =
      valuesOf ⟨front, none⟩ wanted ++ valuesOf ⟨back, none⟩ wanted := by
  simp [valuesOf]

theorem valuesOf_eq_nil_of_ne {entries : List (Bytes × Bytes)} {charset : Option Charset}
    (other : ∀ e ∈ entries, key e.1 ≠ wanted) : valuesOf ⟨entries, charset⟩ wanted = [] := by
  unfold valuesOf
  rw [List.map_eq_nil_iff, List.filter_eq_nil_iff]
  exact fun e he => by simpa using other e he

/-- A name without a field is not one that has fields. -/
theorem ne_of_hasKey {missing : Bytes} (none : f.hasKey missing = false)
    (there : f.valuesOf wanted ≠ []) : missing ≠ wanted := by
  rintro rfl
  refine there (valuesOf_eq_nil_of_ne fun e he same => ?_)
  rw [hasKey, List.any_eq_false] at none
  exact none e he (decide_eq_true same)

theorem valuesOf_withLength (there : f.valuesOf wanted ≠ []) (content : Bytes) :
    (withLength f content).valuesOf wanted = f.valuesOf wanted := by
  unfold withLength
  split
  · rfl
  · next missing =>
    rw [not_or] at missing
    have other := ne_of_hasKey (Bool.eq_false_iff.2 missing.2) there
    have length : valuesOf ⟨[(contentLengthName, asciiBytes (Text.ofNat content.length))], none⟩
        wanted = [] := valuesOf_eq_nil_of_ne (List.forall_mem_singleton.2 other)
    rw [valuesOf_append, length, List.append_nil]
    rfl

theorem valuesOf_leadingFields (there : f.valuesOf wanted ≠ []) (method : Text)
    (url : Url.Locator) :
    valuesOf ⟨leadingFields method url f, none⟩ wanted = [] := by
  refine valuesOf_eq_nil_of_ne fun e he => ?_
  rcases List.mem_append.1 he with he | he
  · split at he
    · next missing =>
      simp only [Bool.and_eq_true, Bool.not_eq_true'] at missing
      rw [List.mem_singleton.1 he]
      exact ne_of_hasKey missing.1 there
    · cases he
  · split at he
    · next missing =>
      simp only [Bool.and_eq_true, Bool.not_eq_true'] at missing
      rw [List.mem_singleton.1 he]
      exact ne_of_hasKey missing.1.1 there
    · cases he

end Fields

/-- **What is there is left alone** when the missing fields are added. -/
theorem Message.valuesOf_complete {method : Text} {url : Url.Locator} {f : Fields}
    {content wanted : Bytes} (there : f.valuesOf wanted ≠ []) :
    (complete method url f content).fields.valuesOf wanted = f.valuesOf wanted := by
  have kept := Fields.valuesOf_withLength there content
  rw [← kept] at there
  unfold complete
  dsimp only
  rw [Fields.valuesOf_append, Fields.valuesOf_leadingFields there, List.nil_append, ← kept]
  rfl

/-! ### Fields of a credential -/

theorem TextFields.mem_addContentHeaders {headers : List (Text × Text)} {ts : TextFields}
    {t : Text × Text} (h : t ∈ headers.foldl addContentHeader ts) :
    t ∈ ts ∨ t ∈ headers ∧ isContentHeader (Text.lower t.1) = true := by
  induction headers generalizing ts with
  | nil => exact .inl h
  | cons header rest ih =>
    rcases ih h with here | ⟨later, content⟩
    · unfold addContentHeader at here
      split at here
      · next content =>
        split at here
        · exact .inl here
        · rcases mem_set here with here | rfl
          · exact .inl here
          · exact .inr ⟨List.mem_cons_self, content⟩
      · exact .inl here
    · exact .inr ⟨List.mem_cons_of_mem _ later, content⟩

/-- The names of the headers that describe content are in lower case. -/
theorem lower_of_isContentHeader {k : Text} (h : isContentHeader k = true) : Text.lower k = k := by
  have all : ∀ n ∈ contentHeaderNames.map Text.ofString, Text.lower n = n := by decide +kernel
  exact all k (List.contains_iff_mem.1 h)

/-- A field of the name is neither displaced by one that describes the content nor overlooked when
a configured header is compared with it. -/
structure Spared (r : RequestSpec) (name : Text) : Prop where
  /-- The name is not the one of the content's type, nor that of a configured header that describes
  the content. -/
  content : ∀ c, contentOf r = .ok (some c) → Text.lower name ≠ contentTypeKey ∧
    ∀ h ∈ r.headers.entries, isContentHeader (Text.lower h.1) = true →
      Text.lower h.1 ≠ Text.lower name
  /-- The name is found in lower case, or no configured header has it. -/
  found : Text.lower name = Text.asciiLower name ∨
    ∀ h ∈ r.headers.entries, Text.asciiLower h.1 ≠ Text.asciiLower name

theorem isContentHeader_authorization :
    isContentHeader (Text.lower Credential.authorizationName) = false := by decide +kernel

theorem spared_authorization (r : RequestSpec) : Spared r Credential.authorizationName := by
  refine ⟨fun c _ => ⟨by decide +kernel, fun h _ content same => ?_⟩, .inl (by decide +kernel)⟩
  rw [same, isContentHeader_authorization] at content
  cases content

theorem Fields.Holds.reopened {f : Fields} {ts : TextFields} (h : f.Holds ts) :
    f.reopened.Holds ts :=
  ⟨h.entries, h.scalar, fun _ hc => absurd hc (Option.some_ne_none _).symm⟩

/-- A name is a text if a field has it. -/
theorem Fields.Holds.scalar_of_valuesOf {f : Fields} {ts : TextFields} {name : Text}
    (h : f.Holds ts) (there : ts.valuesOf (Text.asciiLower name) ≠ []) : name.Scalar := by
  obtain ⟨t, ht, same⟩ : ∃ t ∈ ts, Text.asciiLower t.1 = Text.asciiLower name := by
    by_contra none
    push Not at none
    exact there (TextFields.valuesOf_eq_nil_iff.2 none)
  have writes := writes_asciiLower.2 (writes_utf8.2 (h.scalar t ht).1)
  rw [same] at writes
  exact writes_utf8.1 (writes_asciiLower.1 writes)

namespace Outgoing

variable {r : RequestSpec} {o : Outgoing} {m : Message} {name value : Text}

/-- A field that describes content displaces none that is spared. -/
theorem Describes.other_of_spared {content : Text × Text} (h : Describes r (some content) o)
    (spared : Spared r name) :
    ∀ u ∈ r.headers.entries.foldl TextFields.addContentHeader (typeFields (some content)),
      Text.asciiLower u.1 ≠ Text.asciiLower name ∧ Text.lower u.1 ≠ Text.asciiLower name := by
  obtain ⟨type, others⟩ := spared.content content h.contentOf
  intro u hu
  -- The names that describe content are known in lower case, so that one comparison does for both.
  have describing : isContentHeader (Text.lower u.1) = true ∧
      Text.lower u.1 ≠ Text.lower name := by
    rcases TextFields.mem_addContentHeaders hu with hu | ⟨hu, content⟩
    · have here : u.1 = contentTypeName := by
        rw [List.mem_singleton.1 hu]
      have key : Text.lower contentTypeName = contentTypeKey := by decide +kernel
      rw [here, key]
      exact ⟨by decide, type.symm⟩
    · exact ⟨content, others u hu content⟩
  obtain ⟨content, other⟩ := describing
  constructor
  · exact fun same => other (Text.lower_congr same)
  · intro same
    apply other
    rw [← lower_of_isContentHeader content, same, Text.lower_asciiLower]

/-- The configured headers leave the field of a credential alone. -/
theorem valuesOf_placedFields (value : Text) (spared : Spared r name) :
    (r.headers.entries.foldl TextFields.addHeader [(name, value)]).valuesOf
      (Text.asciiLower name) = [value] := by
  have alone : TextFields.valuesOf [(name, value)] (Text.asciiLower name) = [value] := by
    simp [TextFields.valuesOf]
  rw [TextFields.valuesOf_addHeaders, alone]
  · simp [alone]
  · intro h hh same
    rcases spared.found with found | other
    · rw [Text.lower_congr same, found]
    · exact absurd same (other h hh)

/-- The fields of a request that is sent, before those are added that are missing. -/
def sentFields (r : RequestSpec) (place : Credential.Placement)
    (content : Option (Text × Text)) : TextFields :=
  let placed := r.headers.entries.foldl TextFields.addHeader (placedFields place)
  if content = none then placed
  else placed.update (r.headers.entries.foldl TextFields.addContentHeader (typeFields content))

/-- **A request that is sent** has the configured fields as they were put together, and those that
were missing. -/
theorem complete_of_toMessage {place : Credential.Placement} {content : Option (Text × Text)}
    (request : Built r place o) (described : Describes r content o)
    (sent : o.toMessage = .ok m) :
    ∃ url fields, Url.Locator.ofText o.url = .ok url ∧
      m = Message.complete o.method.name url fields (o.content.getD []) ∧
      fields.entries = (sentFields r place content).map TextFields.entry ∧
      ∀ t ∈ sentFields r place content, t.1.Scalar := by
  have holds := request.holds.reopened
  obtain ⟨fields, put, sent⟩ := ok_of_bind sent
  obtain ⟨url, located, sent⟩ := ok_of_bind sent
  cases sent
  refine ⟨url, fields, ok_of_mapError located, rfl, ?_⟩
  have put := ok_of_mapError put
  unfold allFields at put
  rw [described.content_eq] at put
  cases content with
  | none =>
    cases put
    exact ⟨holds.entries, fun t ht => (holds.scalar t ht).1⟩
  | some content =>
    refine ⟨Fields.entries_update holds described.holds put, fun t ht => ?_⟩
    rcases List.mem_append.1 ht with ht | ht
    · exact (holds.scalar t (List.mem_filter.1 ht).1).1
    · exact (described.holds.scalar t ht).1

/-- **A credential in a spared field is on the wire**, and is all that is there under the name. -/
theorem valuesOf_of_placement (built : ofSpec r = .ok o) (sent : o.toMessage = .ok m)
    (placed : placement? r.credential = .ok (.header name value)) (spared : Spared r name) :
    m.fields.valuesOf (Fields.key (name.bytesIn .utf8)) = [value.bytesIn .utf8] := by
  obtain ⟨place, request⟩ := built_of_ofSpec built
  obtain ⟨content, described⟩ := describes_of_ofSpec built
  cases request.placed.symm.trans placed
  have there := valuesOf_placedFields value spared
  have scalar : name.Scalar :=
    request.holds.scalar_of_valuesOf (by simp [placedFields, there])
  obtain ⟨url, fields, -, rfl, entries, texts⟩ := complete_of_toMessage request described sent
  have kept : (sentFields r (.header name value) content).valuesOf (Text.asciiLower name) =
      [value] := by
    cases content with
    | none => exact there
    | some content =>
      exact (TextFields.valuesOf_update (described.other_of_spared spared)).trans there
  have carried : fields.valuesOf (Fields.key (name.bytesIn .utf8)) = [value.bytesIn .utf8] := by
    rw [Fields.valuesOf_entries entries texts scalar, kept]
    rfl
  rw [Message.valuesOf_complete (by simp [carried]), carried]

end Outgoing

end Wire

/-! ### Complete credentials -/

namespace Credential

/-- A complete credential has a place, and only that of a key is configured. -/
theorem placement_of_complete {c : Credential} {place : Placement} (complete : c.gaps = [])
    (h : c.placement = .ok place) :
    (∃ name value, place = .header name value ∧
      (c.scheme? = some .apiKey ∨ name = authorizationName)) ∨
    ∃ name value, place = .parameter name value := by
  unfold placement at h
  unfold gaps at complete
  split at h
  · next scheme =>
    rw [scheme] at complete
    split at h
    · obtain ⟨value, -, rfl⟩ := ok_of_map h
      exact .inl ⟨_, _, rfl, .inr rfl⟩
    · next missing => simp [missing] at complete
  · next scheme =>
    rw [scheme] at complete
    split at h
    · cases h
      exact .inl ⟨_, _, rfl, .inr rfl⟩
    · next missing => simp [missing] at complete
  · next scheme =>
    rw [scheme] at complete
    split at h
    · cases h
      unfold keyPlacement
      split
      · exact .inl ⟨_, _, rfl, .inl scheme⟩
      · exact .inr ⟨_, _, rfl⟩
      · next header parameter => simp [header, parameter] at complete
    · next missing => simp [missing] at complete
  · next scheme =>
    rw [scheme] at complete
    cases complete

end Credential

namespace Wire

namespace Outgoing

variable {r : RequestSpec} {o : Outgoing} {m : Message} {name value : Text}

/-- **A credential in a parameter is on the wire**, as the last one of its query. -/
theorem getLast?_formPairs_of_placement (built : ofSpec r = .ok o) (sent : o.toMessage = .ok m)
    (absent : CodePoint.ofChar '#' ∉ r.target.text)
    (placed : placement? r.credential = .ok (.parameter name value)) :
    (Url.formPairs (m.url.query.getD [])).getLast? = some (name, value) := by
  obtain ⟨place, request⟩ := built_of_ofSpec built
  cases request.placed.symm.trans placed
  obtain ⟨url, configured, appended⟩ := request.url
  obtain ⟨fields, -, sent⟩ := ok_of_bind sent
  obtain ⟨located, taken, sent⟩ := ok_of_bind sent
  cases sent
  exact Url.getLast?_formPairs_of_appendParameter
    (Url.extends_appendParameters absent configured).noFragment appended (ok_of_mapError taken)

/-- **A complete credential is on the wire**: in its header field, which is the only one of its
name, or in the last parameter of the query. A key is sure of its field only if that is spared. -/
theorem carries_credential {c : Credential} (given : r.credential = some c)
    (complete : c.gaps = []) (absent : CodePoint.ofChar '#' ∉ r.target.text)
    (built : ofSpec r = .ok o) (sent : o.toMessage = .ok m) :
    ∃ place, c.placement = .ok place ∧
      match place with
      | .nowhere => False
      | .header name value => (c.scheme? = some .apiKey → Spared r name) →
        m.fields.valuesOf (Fields.key (name.bytesIn .utf8)) = [value.bytesIn .utf8]
      | .parameter name value =>
        (Url.formPairs (m.url.query.getD [])).getLast? = some (name, value) := by
  obtain ⟨place, request⟩ := built_of_ofSpec built
  have placed := request.placed
  rw [given] at placed
  refine ⟨place, placed, ?_⟩
  rcases Credential.placement_of_complete complete placed with
    ⟨name, value, rfl, kind⟩ | ⟨name, value, rfl⟩
  · intro spared
    refine valuesOf_of_placement built sent request.placed ?_
    rcases kind with key | rfl
    · exact spared key
    · exact spared_authorization r
  · exact getLast?_formPairs_of_placement built sent absent request.placed

/-- A request with a key in a header, a raw body, and a configured header that has to do with
either. -/
def keyed (header configured : Text) : RequestSpec where
  target := ⟨"https://h/keys", by decide, by decide⟩
  method := .get
  headers := ⟨[(configured, "en")], by simp⟩
  query := .empty
  body := none
  bodyRaw := some "x"
  contentType := usualContentType
  timeout := .usual
  ignoreCertificateErrors := false
  followRedirects := true
  credential := some ⟨⟨Scheme.apiKey.name, by decide, by decide⟩, none, none, none, some "k",
    some header, none⟩
  retry := none

theorem exists_message
    (h : ((ofSpec r).toOption.bind fun o => o.toMessage.toOption).isSome = true) :
    ∃ o m, ofSpec r = .ok o ∧ o.toMessage = .ok m := by
  cases built : ofSpec r with
  | error fault =>
    rw [built] at h
    cases h
  | ok o =>
    rw [built] at h
    change o.toMessage.toOption.isSome = true at h
    cases sent : o.toMessage with
    | error fault =>
      rw [sent] at h
      cases h
    | ok m => exact ⟨o, m, rfl, sent⟩

/-- What can be computed of a request that is sent holds of it. -/
theorem exists_message_of {p : Outgoing → Message → Bool}
    (h : ((ofSpec r).toOption.bind fun o => o.toMessage.toOption.map (p o)) = some true) :
    ∃ o m, ofSpec r = .ok o ∧ o.toMessage = .ok m ∧ p o m = true := by
  obtain ⟨o, m, built, sent⟩ := exists_message (r := r) (by
    obtain ⟨o, built, h⟩ := Option.bind_eq_some_iff.1 h
    obtain ⟨m, sent, -⟩ := Option.map_eq_some_iff.1 h
    rw [built, Option.bind_some, sent]
    rfl)
  refine ⟨o, m, built, sent, ?_⟩
  rw [built] at h
  change o.toMessage.toOption.map (p o) = some true at h
  rw [sent] at h
  exact Option.some.inj h

theorem carries_credential_keyed :
    ∃ o m, ofSpec (keyed "X-Key" "x-kEY") = .ok o ∧ o.toMessage = .ok m ∧
      m.fields.valuesOf (Fields.asciiName "x-key") = [Fields.asciiName "k"] := by
  obtain ⟨o, m, built, sent⟩ := exists_message (r := keyed "X-Key" "x-kEY") (by decide +kernel)
  have spared : Spared (keyed "X-Key" "x-kEY") "X-Key" :=
    ⟨fun _ _ => ⟨by decide +kernel, by decide +kernel⟩, .inl (by decide +kernel)⟩
  obtain ⟨place, placed, carried⟩ :=
    carries_credential rfl (by decide +kernel) (by decide) built sent
  cases placed
  exact ⟨o, m, built, sent, carried fun _ => spared⟩

/-- **A key is displaced by a header that describes the content**, if that has its name. -/
theorem not_carries_credential : ¬ ∀ (r : RequestSpec) (c : Credential) (o : Outgoing)
    (m : Message), r.credential = some c → c.gaps = [] → CodePoint.ofChar '#' ∉ r.target.text →
    ofSpec r = .ok o → o.toMessage = .ok m → ∀ name value,
      c.placement = .ok (.header name value) →
        m.fields.valuesOf (Fields.key (name.bytesIn .utf8)) = [value.bytesIn .utf8] := by
  intro claim
  have displaced : ((ofSpec (keyed "Content-Language" "Content-Language")).toOption.bind
      fun o => o.toMessage.toOption.map
        fun m => m.fields.valuesOf (Fields.asciiName "content-language")) =
      some [Fields.asciiName "en"] := by decide +kernel
  obtain ⟨o, m, built, sent⟩ :=
    exists_message (r := keyed "Content-Language" "Content-Language") (by decide +kernel)
  have carried : m.fields.valuesOf (Fields.asciiName "content-language") =
      [Fields.asciiName "k"] :=
    claim _ _ o m rfl (by decide +kernel) (by decide) built sent "Content-Language" "k" rfl
  rw [built] at displaced
  change o.toMessage.toOption.map _ = _ at displaced
  rw [sent] at displaced
  exact absurd (carried.symm.trans (Option.some.inj displaced)) (by decide)

end Outgoing

end Wire

end HttpCourier
