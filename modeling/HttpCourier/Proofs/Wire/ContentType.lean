import HttpCourier.Proofs.Wire.Carried
import HttpCourier.Proofs.Wire.MediaType

/-!
# HttpCourier.Proofs.Wire.ContentType

**Content and its type on the wire.** A body goes out as JSON, without one a raw body as it is, and
without either there is no content and no field that would describe it. The type of the content is
the one field of its name: it is set before the configured headers, and none of them displaces it
(`Outgoing.carries_content`).

The content is always written in UTF-8. The type says so in a parameter, unless it had a charset as
it was configured: that one is kept, and may be another (`Outgoing.declares_charset`).
-/

namespace HttpCourier

namespace Wire

open MediaType (MentionsCharset NamesUtf8 charset? Place)

theorem withCharset_eq (t : Text) :
    withCharset t = if MentionsCharset t then t else t ++ Text.ofString "; charset=utf-8" :=
  if_congr MediaType.hasBlock_charset_iff rfl rfl

/-! ### The field of the type -/

namespace TextFields

variable {ts us : TextFields} {k : Text}

theorem lower_contentTypeKey : Text.lower contentTypeKey = contentTypeKey := by decide +kernel

/-- The type of the content is left alone by the configured headers. -/
theorem valuesOf_addContentHeader {header : Text × Text}
    (there : ts.valuesOf contentTypeKey ≠ []) :
    (ts.addContentHeader header).valuesOf contentTypeKey = ts.valuesOf contentTypeKey := by
  unfold addContentHeader
  split
  · split
    · rfl
    · next other =>
      exact valuesOf_set fun same =>
        other ⟨Text.lower_of_asciiLower same lower_contentTypeKey, hasKey_iff.2 there⟩
  · rfl

/-- What the other collection has under a name that it is found by is all that is there. -/
theorem valuesOf_update_of_found {u : Text × Text} (hu : u ∈ us) (found : Text.lower u.1 = k) :
    (ts.update us).valuesOf k = us.valuesOf k := by
  rw [update, valuesOf_append, valuesOf_eq_nil_iff.2, List.nil_append]
  intro t ht same
  rw [List.mem_filter, Bool.not_eq_true', List.any_eq_false] at ht
  exact ht.2 u hu (decide_eq_true (found.trans same.symm))

/-- The configured headers that describe content are not among the others. -/
theorem mem_addHeaders {headers : List (Text × Text)} {t : Text × Text}
    (h : t ∈ headers.foldl addHeader ts) :
    t ∈ ts ∨ t ∈ headers ∧ isContentHeader (Text.lower t.1) = false := by
  induction headers generalizing ts with
  | nil => exact .inl h
  | cons header rest ih =>
    rcases ih h with here | ⟨later, other⟩
    · unfold addHeader at here
      split at here
      · exact .inl here
      · next new =>
        rcases mem_set here with here | rfl
        · exact .inl here
        · rw [not_or] at new
          exact .inr ⟨List.mem_cons_self, Bool.eq_false_iff.2 new.1⟩
    · exact .inr ⟨List.mem_cons_of_mem _ later, other⟩

end TextFields

/-- Content has one type, whatever headers are added to those that describe it. -/
theorem valuesOf_typeFields (content : Text × Text) (headers : List (Text × Text)) :
    (headers.foldl TextFields.addContentHeader (typeFields (some content))).valuesOf
      contentTypeKey = [withCharset content.2] := by
  have here : (typeFields (some content)).valuesOf contentTypeKey = [withCharset content.2] := by
    simp [typeFields, TextFields.valuesOf, show Text.asciiLower contentTypeName = contentTypeKey
      by decide]
  rw [TextFields.valuesOf_foldl
    (fun _ there _ _ => TextFields.valuesOf_addContentHeader there) (by simp [here]), here]

/-- What a description takes for its content: a body, or without one a raw body that is not empty. -/
inductive Chooses (r : RequestSpec) : Option (Text × Text) → Prop
  | body {body : Body} {text : Text} (given : r.body = some body)
      (printed : bodyText body = .ok text) : Chooses r (some (text, jsonContentType))
  | raw {text : Text} (absent : r.body = none) (given : r.bodyRaw = some text)
      (nonempty : text ≠ []) : Chooses r (some (text, r.contentType))
  | nothing (absent : r.body = none) (empty : r.bodyRaw = none ∨ r.bodyRaw = some []) :
      Chooses r none

theorem chooses_of_contentOf {r : RequestSpec} {content : Option (Text × Text)}
    (h : contentOf r = .ok content) : Chooses r content := by
  unfold contentOf at h
  cases body : r.body with
  | some value =>
    rw [body] at h
    obtain ⟨text, printed, rfl⟩ := ok_of_map h
    exact .body body (ok_of_mapError printed)
  | none =>
    rw [body] at h
    cases raw : r.bodyRaw with
    | none =>
      rw [raw] at h
      cases h
      exact .nothing body (.inl raw)
    | some text =>
      rw [raw] at h
      cases text <;> cases h
      · exact .nothing body (.inr raw)
      · exact .raw body raw (List.cons_ne_nil _ _)

theorem not_given_of_empty {t : Option Text} {u : Text} (empty : t = none ∨ t = some [])
    (nonempty : u ≠ []) : t ≠ some u := by
  rintro rfl
  rcases empty with empty | empty <;> cases empty
  exact nonempty rfl

/-- The bytes under which the type of the content is found. -/
theorem asciiName_contentType :
    Fields.asciiName "content-type" = Fields.key (contentTypeName.bytesIn .utf8) := by decide

namespace Outgoing

variable {r : RequestSpec} {o : Outgoing} {m : Message} {text type : Text}

/-- **Content and its type** are what goes out, whatever the configured headers are. -/
theorem sent_of_describes (described : Describes r (some (text, type)) o)
    (built : ofSpec r = .ok o) (sent : o.toMessage = .ok m) :
    o.content = some m.content ∧ text.encode .utf8 = .ok m.content ∧
      m.fields.valuesOf (Fields.asciiName "content-type") = [(withCharset type).bytesIn .utf8] := by
  obtain ⟨place, request⟩ := built_of_ofSpec built
  obtain ⟨url, fields, -, rfl, entries, texts⟩ := complete_of_toMessage request described sent
  have content_eq := described.content_eq
  have scalar : text.Scalar := described.scalar _ rfl
  rw [content_eq]
  refine ⟨rfl, (Fields.writes_utf8.2 scalar).encode, ?_⟩
  have typed := valuesOf_typeFields (text, type) r.headers.entries
  -- The fields that describe content displace the others of their names: a type among those goes.
  have kept : (sentFields r place (some (text, type))).valuesOf contentTypeKey =
      [withCharset type] := by
    obtain ⟨u, hu, same⟩ : ∃ u ∈ r.headers.entries.foldl TextFields.addContentHeader
        (typeFields (some (text, type))), Text.asciiLower u.1 = contentTypeKey := by
      by_contra none
      push Not at none
      rw [TextFields.valuesOf_eq_nil_iff.2 none] at typed
      cases typed
    exact (TextFields.valuesOf_update_of_found hu
      (Text.lower_of_asciiLower same TextFields.lower_contentTypeKey)).trans typed
  have carried : fields.valuesOf (Fields.asciiName "content-type") =
      [(withCharset type).bytesIn .utf8] := by
    rw [asciiName_contentType, Fields.valuesOf_entries entries texts (by decide),
      show Text.asciiLower contentTypeName = contentTypeKey by decide, kept]
    rfl
  rw [Message.valuesOf_complete (by simp [carried]), carried]

end Outgoing

/-! ### No content -/

theorem ofString_of_contentHeader : ∀ n ∈ contentHeaderNames,
    isContentHeader (Text.ofString n) = true ∧ (Text.ofString n).Scalar ∧
      Fields.asciiName n = Fields.key ((Text.ofString n).bytesIn .utf8) ∧
      Text.asciiLower (Text.ofString n) = Text.ofString n ∧
      Fields.key hostName ≠ Fields.asciiName n ∧
      (Fields.key contentLengthName = Fields.asciiName n → n = "content-length") := by
  decide +kernel

/-- Of the fields that go in front only the host is not a length. -/
theorem Fields.valuesOf_leadingFields_of_ne {method : Text} {url : Url.Locator} {f : Fields}
    {wanted : Bytes} (host : key hostName ≠ wanted) :
    valuesOf ⟨leadingFields method url f, none⟩ wanted =
      valuesOf ⟨if !f.hasName "content-length" && !f.hasName "transfer-encoding" &&
        usuallyCarriesContent method then [(contentLengthName, asciiName "0")] else [], none⟩
          wanted := by
  have front : valuesOf ⟨if !f.hasName "host" && url.host != [] then
      [(hostName, asciiBytes url.hostAndPort)] else [], none⟩ wanted = [] := by
    refine valuesOf_eq_nil_of_ne fun e he => ?_
    split at he
    · rwa [List.mem_singleton.1 he]
    · cases he
  rw [leadingFields, valuesOf_append, front, List.nil_append]

/-- Fields without one that describes content get none, but that of an empty content's length. -/
theorem Message.valuesOf_complete_nil {method : Text} {url : Url.Locator} {f : Fields} {n : String}
    (hn : n ∈ contentHeaderNames) (none : f.valuesOf (Fields.asciiName n) = []) :
    (complete method url f []).fields.valuesOf (Fields.asciiName n) = [] ∨
      n = "content-length" ∧ usuallyCarriesContent method = true ∧
        (complete method url f []).fields.valuesOf (Fields.asciiName n) =
          [Fields.asciiName "0"] := by
  obtain ⟨-, -, -, -, host, length⟩ := ofString_of_contentHeader n hn
  have whole : (complete method url f []).fields =
      ⟨leadingFields method url f ++ f.entries, Option.none⟩ := by
    unfold complete withLength
    rw [if_pos (.inl rfl)]
  have behind : Fields.valuesOf ⟨f.entries, Option.none⟩ (Fields.asciiName n) = [] := none
  rw [whole, Fields.valuesOf_append, behind, List.append_nil,
    Fields.valuesOf_leadingFields_of_ne host]
  split
  · next missing =>
    by_cases same : Fields.key contentLengthName = Fields.asciiName n
    · refine .inr ⟨length same, (Bool.and_eq_true_iff.1 missing).2, ?_⟩
      simp [Fields.valuesOf, same]
    · exact .inl (Fields.valuesOf_eq_nil_of_ne (List.forall_mem_singleton.2 same))
  · exact .inl rfl

end Wire

namespace Credential

/-- The field of a credential has the one name that all but a key share, or that of the key. -/
theorem name_of_placement {c : Credential} {name value : Text}
    (h : c.placement = .ok (.header name value)) :
    name = authorizationName ∨ c.keyHeader = some name := by
  rcases placement_cases h with nowhere | ⟨_, header⟩ | ⟨key, -, place⟩
  · cases nowhere
  · cases header
    exact .inl rfl
  · unfold keyPlacement at place
    split at place
    · next given =>
      cases place
      exact .inr (eq_of_given? given)
    · cases place
    · cases place

end Credential

namespace Wire

open MediaType (MentionsCharset NamesUtf8 charset? Place)

namespace Outgoing

variable {r : RequestSpec} {o : Outgoing} {m : Message}

/-- **A request without content** has no field that describes it. -/
theorem sent_of_no_content (contentOf_eq : contentOf r = .ok none) (built : ofSpec r = .ok o)
    (sent : o.toMessage = .ok m) :
    o.content = none ∧ m.content = [] ∧
      ((∀ c ∈ r.credential, ∀ name ∈ c.keyHeader, isContentHeader (Text.lower name) = false) →
        ∀ n ∈ contentHeaderNames,
          m.fields.valuesOf (Fields.asciiName n) = [] ∨
            n = "content-length" ∧ usuallyCarriesContent m.method = true ∧
              m.fields.valuesOf (Fields.asciiName n) = [Fields.asciiName "0"]) := by
  obtain ⟨place, request⟩ := built_of_ofSpec built
  obtain ⟨content, described⟩ := describes_of_ofSpec built
  cases described.contentOf.symm.trans contentOf_eq
  obtain ⟨url, fields, -, rfl, entries, texts⟩ := complete_of_toMessage request described sent
  have content_eq : o.content = none := described.content_eq
  rw [content_eq]
  refine ⟨rfl, rfl, fun plain n hn => Message.valuesOf_complete_nil hn ?_⟩
  obtain ⟨content, scalar, name_eq, lower_eq, -⟩ := ofString_of_contentHeader n hn
  rw [name_eq, Fields.valuesOf_entries entries texts scalar, lower_eq,
    TextFields.valuesOf_eq_nil_iff.2]
  · rfl
  -- Only a credential could have set such a field: configured headers of the name went elsewhere.
  intro t ht same
  have describing : isContentHeader (Text.lower t.1) = true := by
    rwa [Text.lower_of_asciiLower same (lower_of_isContentHeader content)]
  rcases TextFields.mem_addHeaders ht with placed | ⟨-, other⟩
  · cases place with
    | nowhere | parameter => cases placed
    | header name value =>
      rw [List.mem_singleton.1 placed] at describing
      cases given : r.credential with
      | none =>
        have placed := request.placed
        rw [given] at placed
        cases placed
      | some c =>
        have placed := request.placed
        rw [given] at placed
        rcases Credential.name_of_placement placed with rfl | header
        · rw [isContentHeader_authorization] at describing
          cases describing
        · rw [plain c given name header] at describing
          cases describing
  · rw [other] at describing
    cases describing

/-! ### What is sent -/

/-- **What a request carries.** A body goes out as JSON, without one a raw body as it is, whatever
headers are configured; without either nothing describes the content. -/
theorem carries_content (built : ofSpec r = .ok o) (sent : o.toMessage = .ok m) :
    (∀ body, r.body = some body →
      ∃ text, bodyText body = .ok text ∧ text.encode .utf8 = .ok m.content ∧
        o.content = some m.content ∧
        m.fields.valuesOf (Fields.asciiName "content-type") =
          [Fields.asciiName "application/json; charset=utf-8"]) ∧
    (∀ text, r.body = none → r.bodyRaw = some text → text ≠ [] →
      text.encode .utf8 = .ok m.content ∧ o.content = some m.content ∧
        m.fields.valuesOf (Fields.asciiName "content-type") =
          [Text.bytesIn .utf8 (if MentionsCharset r.contentType then r.contentType
            else r.contentType ++ Text.ofString "; charset=utf-8")]) ∧
    (r.body = none → r.bodyRaw = none ∨ r.bodyRaw = some [] →
      o.content = none ∧ m.content = [] ∧
        ((∀ c ∈ r.credential, ∀ name ∈ c.keyHeader, isContentHeader (Text.lower name) = false) →
          ∀ n ∈ contentHeaderNames,
            m.fields.valuesOf (Fields.asciiName n) = [] ∨
              n = "content-length" ∧
                (m.method = "POST" ∨ m.method = "PUT" ∨ m.method = "PATCH") ∧
                m.fields.valuesOf (Fields.asciiName n) = [Fields.asciiName "0"])) := by
  obtain ⟨content, described⟩ := describes_of_ofSpec built
  have chosen := chooses_of_contentOf described.contentOf
  refine ⟨fun body given => ?_, fun text absent given nonempty => ?_, fun absent empty => ?_⟩
  · cases chosen with
    | body here printed =>
      cases given.symm.trans here
      obtain ⟨same, encoded, typed⟩ := sent_of_describes described built sent
      exact ⟨_, printed, encoded, same, typed.trans (by decide +kernel)⟩
    | raw absent | nothing absent => cases given.symm.trans absent
  · cases chosen with
    | body here => cases absent.symm.trans here
    | raw _ here =>
      cases given.symm.trans here
      obtain ⟨same, encoded, typed⟩ := sent_of_describes described built sent
      rw [withCharset_eq] at typed
      exact ⟨encoded, same, typed⟩
    | nothing _ empty => exact absurd given (not_given_of_empty empty nonempty)
  · cases chosen with
    | body here => cases absent.symm.trans here
    | raw _ here nonempty => exact absurd here (not_given_of_empty empty nonempty)
    | nothing =>
      obtain ⟨same, empty, others⟩ := sent_of_no_content described.contentOf built sent
      refine ⟨same, empty, fun plain n hn => (others plain n hn).imp_right ?_⟩
      rintro ⟨length, carries, zero⟩
      simp only [usuallyCarriesContent, Bool.or_eq_true, decide_eq_true_eq, or_assoc] at carries
      exact ⟨length, carries, zero⟩

/-- A request with content or without, and with a configured header for its type. -/
def sending (body : Option Body) (bodyRaw : Option Text) (contentType : Text) : RequestSpec where
  target := ⟨"https://h/content", by decide, by decide⟩
  method := .put
  headers := ⟨[("content-TYPE", "text/html")], by simp⟩
  query := .empty
  body := body
  bodyRaw := bodyRaw
  contentType := contentType
  timeout := .usual
  ignoreCertificateErrors := false
  followRedirects := true
  credential := none
  retry := none

/-- An empty body goes out as JSON and an empty raw body not at all; a raw body has its type. -/
theorem carries_content_sending :
    (∃ o m, ofSpec (sending (some (.structured (.object []))) (some "x") "text/plain") = .ok o ∧
      o.toMessage = .ok m ∧ m.content = Fields.asciiName "\x7b\x7d" ∧
      m.fields.valuesOf (Fields.asciiName "content-type") =
        [Fields.asciiName "application/json; charset=utf-8"]) ∧
    (∃ o m, ofSpec (sending none (some "x") "text/plain") = .ok o ∧ o.toMessage = .ok m ∧
      m.content = Fields.asciiName "x" ∧
      m.fields.valuesOf (Fields.asciiName "content-type") =
        [Fields.asciiName "text/plain; charset=utf-8"]) ∧
    ∃ o m, ofSpec (sending none (some []) "text/plain") = .ok o ∧ o.toMessage = .ok m ∧
      m.content = [] ∧ m.fields.valuesOf (Fields.asciiName "content-type") = [] := by
  refine ⟨?_, ?_, ?_⟩
  · obtain ⟨o, m, built, sent⟩ := exists_message
      (r := sending (some (.structured (.object []))) (some "x") "text/plain") (by decide +kernel)
    obtain ⟨text, printed, encoded, -, typed⟩ := (carries_content built sent).1 _ rfl
    cases printed
    have content_eq : m.content = Fields.asciiName "\x7b\x7d" :=
      Except.ok.inj (encoded.symm.trans (by decide +kernel))
    exact ⟨o, m, built, sent, content_eq, typed⟩
  · obtain ⟨o, m, built, sent⟩ := exists_message
      (r := sending none (some "x") "text/plain") (by decide +kernel)
    obtain ⟨encoded, -, typed⟩ := (carries_content built sent).2.1 "x" rfl rfl (by decide)
    have content_eq : m.content = Fields.asciiName "x" :=
      Except.ok.inj (encoded.symm.trans (by decide +kernel))
    exact ⟨o, m, built, sent, content_eq, typed.trans (by decide +kernel)⟩
  · obtain ⟨o, m, built, sent⟩ := exists_message
      (r := sending none (some []) "text/plain") (by decide +kernel)
    obtain ⟨-, empty, plain⟩ := (carries_content built sent).2.2 rfl (.inr rfl)
    have absent := plain (by simp [sending]) "content-type" (by decide)
    exact ⟨o, m, built, sent, empty, absent.resolve_right fun h => absurd h.1 (by decide)⟩

/-- **What the type says of the content.** The content is always in UTF-8, and is read back so. The
type says as much for a body, and for a raw body if no charset is mentioned in its type. A charset
that the type of a raw body has is kept, whichever it is. -/
theorem declares_charset {bytes : Bytes} (built : ofSpec r = .ok o) (sent : o.toMessage = .ok m)
    (given : o.content = some bytes) :
    ∃ text declared : Text,
      (match r.body with
        | some body => bodyText body = .ok text
        | none => r.bodyRaw = some text) ∧
      m.content = bytes ∧ Text.ofUtf8? bytes = some text ∧
      m.fields.valuesOf (Fields.asciiName "content-type") = [declared.bytesIn .utf8] ∧
      (r.body ≠ none ∨
        ¬ MentionsCharset r.contentType ∧ Place.outside.after r.contentType = .outside →
          NamesUtf8 declared) ∧
      ∀ name, r.body = none → charset? r.contentType = some name → charset? declared = some name := by
  obtain ⟨content, described⟩ := describes_of_ofSpec built
  obtain ⟨text, type, rfl⟩ : ∃ text type, content = some (text, type) := by
    have content_eq := described.content_eq
    rw [given] at content_eq
    obtain ⟨⟨text, type⟩, here, -⟩ := Option.map_eq_some_iff.1 content_eq.symm
    exact ⟨text, type, here⟩
  obtain ⟨same, -, typed⟩ := sent_of_describes described built sent
  have content_eq := described.content_eq
  rw [given] at same content_eq
  cases content_eq
  have readBack := Text.ofUtf8?_bytesIn (described.scalar _ rfl)
  refine ⟨text, withCharset type, ?_⟩
  cases chooses_of_contentOf described.contentOf with
  | body here printed =>
    rw [here]
    refine ⟨printed, (Option.some.inj same).symm, readBack, typed, fun _ => ?_, ?_⟩
    · exact ⟨Text.ofString "utf-8", by decide +kernel, by decide⟩
    · rintro _ ⟨⟩
  | raw absent here =>
    rw [absent]
    refine ⟨here, (Option.some.inj same).symm, readBack, typed, ?_, fun name _ named => ?_⟩
    · rintro (present | ⟨unnamed, closed⟩)
      · exact absurd rfl present
      · rw [withCharset_eq, if_neg unnamed]
        exact ⟨_, MediaType.charset?_append unnamed closed, by decide⟩
    · rwa [withCharset_eq, if_pos (MediaType.mentionsCharset_of_charset? named)]

/-- A type without a charset gets one, and one with a charset keeps it. -/
theorem declares_charset_sending :
    (∃ o m declared, ofSpec (sending none (some "é") "text/plain; x=\";\"") = .ok o ∧
      o.toMessage = .ok m ∧ Text.ofUtf8? m.content = some (Text.ofString "é") ∧
      m.fields.valuesOf (Fields.asciiName "content-type") = [Text.bytesIn .utf8 declared] ∧
      NamesUtf8 declared) ∧
    ∃ o m declared, ofSpec (sending none (some "é") "text/plain; Charset=\"UTF-8\"") = .ok o ∧
      o.toMessage = .ok m ∧ Text.ofUtf8? m.content = some (Text.ofString "é") ∧
      m.fields.valuesOf (Fields.asciiName "content-type") = [Text.bytesIn .utf8 declared] ∧
      charset? declared = some (Text.ofString "UTF-8") := by
  have given {type : Text} {o : Outgoing} (built : ofSpec (sending none (some "é") type) = .ok o) :
      ∃ bytes, o.content = some bytes := by
    obtain ⟨content, described⟩ := describes_of_ofSpec built
    cases described.contentOf
    exact ⟨_, described.content_eq⟩
  constructor
  · obtain ⟨o, m, built, sent⟩ := exists_message
      (r := sending none (some "é") "text/plain; x=\";\"") (by decide +kernel)
    obtain ⟨bytes, here⟩ := given built
    obtain ⟨text, declared, text_eq, rfl, back, typed, utf8, -⟩ :=
      declares_charset built sent here
    cases text_eq
    exact ⟨o, m, declared, built, sent, back, typed, utf8 (.inr (by decide +kernel))⟩
  · obtain ⟨o, m, built, sent⟩ := exists_message
      (r := sending none (some "é") "text/plain; Charset=\"UTF-8\"") (by decide +kernel)
    obtain ⟨bytes, here⟩ := given built
    obtain ⟨text, declared, text_eq, rfl, back, typed, -, kept⟩ :=
      declares_charset built sent here
    cases text_eq
    exact ⟨o, m, declared, built, sent, back, typed, kept _ rfl (by decide +kernel)⟩

/-- **Content in UTF-8 goes out under another charset**, if that is the one of the type. -/
theorem not_declares_charset : ¬ ∀ (r : RequestSpec) (o : Outgoing) (m : Message),
    ofSpec r = .ok o → o.toMessage = .ok m → o.content ≠ none →
    (m.content.all fun b => b.toNat < 128) = false →
    ∃ declared : Text, m.fields.valuesOf (Fields.asciiName "content-type") =
      [declared.bytesIn .utf8] ∧ NamesUtf8 declared := by
  intro claim
  let latin : Text := "text/plain; charset=latin-1"
  have kept : ((ofSpec (sending none (some "é") latin)).toOption.bind fun o =>
      o.toMessage.toOption.map fun m => (o.content.isSome, m.content.all fun b => b.toNat < 128,
        m.fields.valuesOf (Fields.asciiName "content-type"))) =
      some (true, false, [latin.bytesIn .utf8]) := by decide +kernel
  obtain ⟨o, m, built, sent⟩ := exists_message (r := sending none (some "é") latin) (by decide +kernel)
  rw [built] at kept
  change o.toMessage.toOption.map _ = _ at kept
  rw [sent] at kept
  simp only [Except.toOption, Option.map_some, Option.some.injEq, Prod.mk.injEq] at kept
  obtain ⟨given, large, typed⟩ := kept
  obtain ⟨declared, same, name, named, utf8⟩ :=
    claim _ o m built sent (Option.isSome_iff_ne_none.1 given) large
  -- The bytes of the field are in ASCII, so that they are those of no other text.
  have declared_eq : declared = latin := by
    have bytes_eq := (List.cons.inj (same.symm.trans typed)).1
    refine (Text.bytesIn_inj (Text.scalar_of_isAscii (Fields.isAscii_of_bytes ?_)) (by decide)).1
      bytes_eq
    rw [bytes_eq]
    decide +kernel
  have own : charset? latin = some (Text.ofString "latin-1") := by decide +kernel
  rw [declared_eq, own] at named
  cases named
  exact absurd utf8 (by decide)

end Outgoing

end Wire

end HttpCourier
