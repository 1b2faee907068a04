import HttpCourier.Proofs.Wire.Admission

/-!
# HttpCourier.Proofs.Wire.Framing

**The length that a request states.** Only three things put a `Content-Length` on the wire: a
configured header, which is sent with content only, a key whose header has the name, and the step
that adds the fields that are missing. What the last one writes is the number of bytes that are
sent. The other two are taken as they were configured, and the last step leaves them alone.

So the length is right unless the description states one itself (`statedLength?`), and then it is
that one, right or not (`Outgoing.valuesOf_contentLength`).
-/

namespace HttpCourier

namespace Wire

/-- The name of the length of the content, in lower case. -/
def contentLengthKey : Text := "content-length"

/-- The value of the last header whose name is the given one in lower case. -/
def lastValue? (key : Text) : List (Text × Text) → Option Text
  | [] => none
  | header :: rest =>
    (lastValue? key rest).or (if Text.lower header.1 = key then some header.2 else none)

/-- The value that a credential has in the field of a name. -/
def placedValue? (key : Text) : Credential.Placement → Option Text
  | .header name value => if Text.asciiLower name = key then some value else none
  | .nowhere | .parameter _ _ => none

/-- The length that a description states: in a configured header, if there is content that it
describes, or else in the header of its credential. -/
def statedLength? (r : RequestSpec) (place : Credential.Placement) (hasContent : Bool) :
    Option Text :=
  (if hasContent then lastValue? contentLengthKey r.headers.entries else none).or
    (placedValue? contentLengthKey place)

/-! ### Fields that describe content -/

namespace TextFields

variable {ts us : TextFields} {name value k : Text} {headers : List (Text × Text)}

/-- A field that is set is the only one of its name. -/
theorem valuesOf_set_self : (ts.set name value).valuesOf (Text.asciiLower name) = [value] := by
  have values : ((ts.set name value).valuesOf (Text.asciiLower name)).Perm _ :=
    ((set_perm ts name value).filter _).map Prod.snd
  have others : valuesOf (ts.filter fun t => Text.asciiLower t.1 ≠ Text.asciiLower name)
      (Text.asciiLower name) = [] := valuesOf_eq_nil_iff.2 (by simp)
  change List.Perm _ (valuesOf (_ :: ts.filter _) _) at values
  rw [valuesOf_cons, if_pos rfl, others] at values
  exact List.perm_singleton.1 values

theorem asciiLower_of_isContentHeader (content : isContentHeader (Text.lower name) = true) :
    Text.asciiLower name = Text.lower name :=
  (Text.lower_of_isAscii (isAscii_of_isContentHeader content)).symm

/-- A configured header that describes content replaces what is there under its name, unless it is
a type. -/
theorem valuesOf_addContentHeader_of_ne (describing : isContentHeader k = true)
    (untyped : k ≠ contentTypeKey) (header : Text × Text) :
    (ts.addContentHeader header).valuesOf k =
      if Text.lower header.1 = k then [header.2] else ts.valuesOf k := by
  unfold addContentHeader
  by_cases same : Text.lower header.1 = k
  · subst same
    rw [if_pos describing, if_neg (by simp [untyped]), if_pos rfl,
      ← asciiLower_of_isContentHeader describing]
    exact valuesOf_set_self
  · rw [if_neg same]
    split
    · next content =>
      split
      · rfl
      · exact valuesOf_set (by rwa [asciiLower_of_isContentHeader content])
    · rfl

/-- **The last configured header** of a name that describes content is what is there. -/
theorem valuesOf_addContentHeaders (describing : isContentHeader k = true)
    (untyped : k ≠ contentTypeKey) :
    (headers.foldl addContentHeader ts).valuesOf k =
      (lastValue? k headers).elim (ts.valuesOf k) fun value => [value] := by
  induction headers generalizing ts with
  | nil => rfl
  | cons header rest ih =>
    rw [List.foldl_cons, ih, valuesOf_addContentHeader_of_ne describing untyped, lastValue?]
    cases lastValue? k rest with
    | some value => rfl
    | none =>
      rw [Option.none_or]
      split <;> rfl

/-- No configured header goes to the other fields under a name that describes content. -/
theorem valuesOf_addHeaders_of_isContentHeader (describing : isContentHeader k = true) :
    (headers.foldl addHeader ts).valuesOf k = ts.valuesOf k := by
  induction headers generalizing ts with
  | nil => rfl
  | cons header rest ih =>
    rw [List.foldl_cons, ih]
    unfold addHeader
    split
    · rfl
    · next other =>
      refine valuesOf_set fun same => other (.inl ?_)
      rwa [Text.lower_of_asciiLower same (lower_of_isContentHeader describing)]

theorem valuesOf_placedFields (place : Credential.Placement) :
    (placedFields place).valuesOf k = (placedValue? k place).toList := by
  cases place with
  | nowhere | parameter => rfl
  | header name value =>
    rw [placedFields, valuesOf_cons, placedValue?]
    split <;> rfl

theorem valuesOf_update_of_nil (found : ∀ u ∈ us, Text.lower u.1 = Text.asciiLower u.1)
    (none : us.valuesOf k = []) : (ts.update us).valuesOf k = ts.valuesOf k := by
  refine valuesOf_update fun u hu => ?_
  have other := valuesOf_eq_nil_iff.1 none u hu
  exact ⟨other, found u hu ▸ other⟩

/-- The fields that describe content are found by their names. -/
theorem lower_eq_asciiLower_of_mem {content : Option (Text × Text)} {u : Text × Text}
    (hu : u ∈ headers.foldl addContentHeader (typeFields content)) :
    Text.lower u.1 = Text.asciiLower u.1 := by
  rcases mem_addContentHeaders hu with hu | ⟨-, describing⟩
  · obtain ⟨c, -, rfl⟩ := List.mem_map.1 hu
    exact Text.lower_of_isAscii (show contentTypeName.isAscii = true by decide)
  · exact (asciiLower_of_isContentHeader describing).symm

end TextFields

theorem isContentHeader_contentLength : isContentHeader contentLengthKey = true := by decide

theorem contentLengthKey_ne : contentLengthKey ≠ contentTypeKey := by decide

namespace Outgoing

/-- **The length among the configured fields** is the one that the description states. -/
theorem valuesOf_sentFields (r : RequestSpec) (place : Credential.Placement)
    (content : Option (Text × Text)) :
    (sentFields r place content).valuesOf contentLengthKey =
      (statedLength? r place content.isSome).toList := by
  have general : (r.headers.entries.foldl TextFields.addHeader (placedFields place)).valuesOf
      contentLengthKey = (placedValue? contentLengthKey place).toList := by
    rw [TextFields.valuesOf_addHeaders_of_isContentHeader isContentHeader_contentLength,
      TextFields.valuesOf_placedFields]
  unfold sentFields statedLength?
  cases content with
  | none => exact general
  | some content =>
    have describing : (r.headers.entries.foldl TextFields.addContentHeader
        (typeFields (some content))).valuesOf contentLengthKey = _ :=
      TextFields.valuesOf_addContentHeaders isContentHeader_contentLength contentLengthKey_ne
    have type : (typeFields (some content)).valuesOf contentLengthKey = [] :=
      TextFields.valuesOf_eq_nil_iff.2 (List.forall_mem_singleton.2
        (show Text.asciiLower contentTypeName ≠ contentLengthKey by decide))
    rw [type] at describing
    dsimp only
    rw [if_neg (Option.some_ne_none content), if_pos Option.isSome_some]
    cases stated : lastValue? contentLengthKey r.headers.entries with
    | none =>
      rw [stated] at describing
      rw [TextFields.valuesOf_update_of_nil
        (fun u hu => TextFields.lower_eq_asciiLower_of_mem hu) describing, general]
      rfl
    | some value =>
      rw [stated] at describing
      -- The configured length is there, and displaces that of a key.
      obtain ⟨u, hu, same⟩ : ∃ u ∈ r.headers.entries.foldl TextFields.addContentHeader
          (typeFields (some content)), Text.asciiLower u.1 = contentLengthKey := by
        by_contra none
        push Not at none
        rw [TextFields.valuesOf_eq_nil_iff.2 none] at describing
        cases describing
      exact (TextFields.valuesOf_update_of_found hu
        ((TextFields.lower_eq_asciiLower_of_mem hu).trans same)).trans describing

end Outgoing

/-! ### Fields that were missing -/

namespace Fields

variable {f : Fields} {k : Bytes}

theorem hasKey_iff : f.hasKey k = true ↔ f.valuesOf k ≠ [] := by
  simp [hasKey, valuesOf]

theorem hasKey_eq_false_iff : f.hasKey k = false ↔ f.valuesOf k = [] := by
  rw [← Bool.not_eq_true, hasKey_iff, not_not]

theorem hasKey_append (front back : List (Bytes × Bytes)) (charset : Option Charset) :
    hasKey ⟨front ++ back, charset⟩ k = (hasKey ⟨front, none⟩ k || hasKey ⟨back, none⟩ k) :=
  List.any_append

/-- Only the host and the length are put in front. -/
theorem hasKey_leadingFields (method : Text) (url : Url.Locator) (host : key hostName ≠ k)
    (length : key contentLengthName ≠ k) :
    hasKey ⟨leadingFields method url f, none⟩ k = false := by
  rw [hasKey_eq_false_iff]
  refine valuesOf_eq_nil_of_ne fun e he => ?_
  rcases List.mem_append.1 he with he | he
  · split at he
    · rwa [List.mem_singleton.1 he]
    · cases he
  · split at he
    · rwa [List.mem_singleton.1 he]
    · cases he

end Fields

/-- The bytes under which the length of the content is found. -/
theorem asciiName_contentLength :
    Fields.asciiName "content-length" = Fields.key (contentLengthKey.bytesIn .utf8) := by decide

namespace Message

variable {method : Text} {url : Url.Locator} {f : Fields} {content : Bytes}

theorem hasName_complete_transferEncoding :
    (complete method url f content).fields.hasName "transfer-encoding" =
      f.hasName "transfer-encoding" := by
  have front := Fields.hasKey_leadingFields (k := Fields.asciiName "transfer-encoding")
    (f := withLength f content) method url (by decide) (by decide)
  have back : (withLength f content).hasName "transfer-encoding" =
      f.hasName "transfer-encoding" := by
    unfold withLength
    split
    · rfl
    · refine (Fields.hasKey_append _ _ _).trans ?_
      rw [Fields.hasKey_eq_false_iff.2 (Fields.valuesOf_eq_nil_of_ne
        (List.forall_mem_singleton.2 (show Fields.key contentLengthName ≠
          Fields.asciiName "transfer-encoding" by decide))), Bool.or_false]
      rfl
  refine (Fields.hasKey_append _ _ _).trans ?_
  rw [front, Bool.false_or]
  exact back

/-- **A length that is missing** is put in, if there is content or the method usually has some, and
is the number of bytes. -/
theorem valuesOf_complete_contentLength
    (missing : f.valuesOf (Fields.asciiName "content-length") = []) :
    (complete method url f content).fields.valuesOf (Fields.asciiName "content-length") =
      if content ≠ [] ∨ usuallyCarriesContent method = true ∧
          (complete method url f content).fields.hasName "transfer-encoding" = false
        then [asciiBytes (Text.ofNat content.length)] else [] := by
  have host : Fields.key hostName ≠ Fields.asciiName "content-length" := by decide
  have length : Fields.key contentLengthName = Fields.asciiName "content-length" := by decide
  have unknown : f.hasName "content-length" = false := Fields.hasKey_eq_false_iff.2 missing
  rw [hasName_complete_transferEncoding]
  unfold complete
  dsimp only
  rw [Fields.valuesOf_append]
  by_cases empty : content = []
  · subst empty
    have same : withLength f [] = f := if_pos (.inl rfl)
    have behind : Fields.valuesOf ⟨f.entries, none⟩ (Fields.asciiName "content-length") = [] :=
      missing
    rw [same, behind, List.append_nil, Fields.valuesOf_leadingFields_of_ne host, unknown]
    have zero : Fields.asciiName "0" = asciiBytes (Text.ofNat 0) := by decide
    cases f.hasName "transfer-encoding" <;> cases usuallyCarriesContent method <;>
      simp [Fields.valuesOf, length, zero]
  · have written : withLength f content =
        ⟨f.entries ++ [(contentLengthName, asciiBytes (Text.ofNat content.length))], f.charset⟩ :=
      if_neg (by simp [empty, unknown])
    have here : (withLength f content).valuesOf (Fields.asciiName "content-length") =
        [asciiBytes (Text.ofNat content.length)] := by
      have behind : Fields.valuesOf ⟨f.entries, none⟩ (Fields.asciiName "content-length") = [] :=
        missing
      rw [written, Fields.valuesOf_append, behind]
      simp [Fields.valuesOf, length]
    rw [Fields.valuesOf_leadingFields (by simp [here]), if_pos (.inl empty)]
    exact here

end Message

namespace Outgoing

variable {r : RequestSpec} {o : Outgoing} {m : Message}

/-- **The length on the wire.** A length that the description states is sent as it is. Without one
the length is the number of bytes that are sent. It is there if there are any, or if the method
usually has some and no transfer coding is named. -/
theorem valuesOf_contentLength (built : ofSpec r = .ok o) (sent : o.toMessage = .ok m) :
    ∃ place, placement? r.credential = .ok place ∧
      m.fields.valuesOf (Fields.asciiName "content-length") =
        match statedLength? r place o.content.isSome with
        | some value => [value.bytesIn .utf8]
        | none =>
          if m.content ≠ [] ∨ usuallyCarriesContent m.method = true ∧
              m.fields.hasName "transfer-encoding" = false
            then [asciiBytes (Text.ofNat m.content.length)] else [] := by
  obtain ⟨place, request⟩ := built_of_ofSpec built
  obtain ⟨content, described⟩ := describes_of_ofSpec built
  refine ⟨place, request.placed, ?_⟩
  obtain ⟨url, fields, -, rfl, entries, texts⟩ := complete_of_toMessage request described sent
  have given : o.content.isSome = content.isSome := by
    rw [described.content_eq, Option.isSome_map]
  have configured : fields.valuesOf (Fields.asciiName "content-length") =
      (statedLength? r place content.isSome).toList.map (Text.bytesIn .utf8) := by
    rw [asciiName_contentLength, Fields.valuesOf_entries entries texts (by decide),
      show Text.asciiLower contentLengthKey = contentLengthKey by decide, valuesOf_sentFields]
  rw [given]
  cases stated : statedLength? r place content.isSome with
  | some value =>
    rw [stated] at configured
    rw [Message.valuesOf_complete (by simp [configured])]
    exact configured
  | none =>
    rw [stated] at configured
    exact Message.valuesOf_complete_contentLength configured

/-- A request with content of two bytes, and with a configured length. -/
def stating (length : Text) : RequestSpec :=
  { sending none (some "é") "text/plain" with
    headers := ⟨[("content-LENGTH", length)], by simp⟩ }

theorem valuesOf_contentLength_stating :
    (∃ o m, ofSpec (sending none (some "é") "text/plain") = .ok o ∧ o.toMessage = .ok m ∧
      m.fields.valuesOf (Fields.asciiName "content-length") = [Fields.asciiName "2"]) ∧
    ∃ o m, ofSpec (stating "1") = .ok o ∧ o.toMessage = .ok m ∧
      m.fields.valuesOf (Fields.asciiName "content-length") = [Fields.asciiName "1"] := by
  constructor
  · obtain ⟨o, m, built, sent, same⟩ := exists_message_of
      (r := sending none (some "é") "text/plain")
      (p := fun _ m => m.content = Text.bytesIn .utf8 "é") (by decide +kernel)
    obtain ⟨place, placed, values⟩ := valuesOf_contentLength built sent
    cases placed
    have unstated : ∀ hasContent, statedLength? (sending none (some "é") "text/plain") .nowhere
        hasContent = none := by decide +kernel
    rw [unstated, of_decide_eq_true same] at values
    dsimp only at values
    rw [if_pos (.inl (by decide +kernel))] at values
    exact ⟨o, m, built, sent, values.trans (by decide +kernel)⟩
  · obtain ⟨o, m, built, sent, given⟩ := exists_message_of (r := stating "1")
      (p := fun o _ => o.content.isSome) (by decide +kernel)
    obtain ⟨place, placed, values⟩ := valuesOf_contentLength built sent
    cases placed
    have stated : statedLength? (stating "1") .nowhere true = some (Text.ofString "1") := by
      decide +kernel
    rw [given, stated] at values
    dsimp only at values
    exact ⟨o, m, built, sent, values.trans (by decide +kernel)⟩

/-- **A length that is stated wrongly** is sent with the content. -/
theorem not_valuesOf_contentLength : ¬ ∀ (r : RequestSpec) (o : Outgoing) (m : Message),
    ofSpec r = .ok o → o.toMessage = .ok m →
      ∀ value ∈ m.fields.valuesOf (Fields.asciiName "content-length"),
        value = asciiBytes (Text.ofNat m.content.length) := by
  intro claim
  obtain ⟨o, m, built, sent, same⟩ := exists_message_of (r := stating "1")
    (p := fun _ m => Fields.asciiName "1" ∈ m.fields.valuesOf (Fields.asciiName "content-length") ∧
      m.content.length = 2) (by decide +kernel)
  obtain ⟨there, length⟩ := of_decide_eq_true same
  have wrong := claim _ o m built sent _ there
  rw [length] at wrong
  exact absurd wrong (by decide +kernel)

end Outgoing

end Wire

end HttpCourier
