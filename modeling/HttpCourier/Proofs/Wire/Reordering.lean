import HttpCourier.Proofs.Wire.Admission

/-!
# HttpCourier.Proofs.Wire.Reordering

**When the order of configured headers matters.** What goes out is the same in every order, if
anything does: whether it does depends on the headers being taken. That depends on their order in
one case only. A configured `Content-Type` fixes the encoding of the fields that describe content,
to ASCII if there is nothing else yet: then another one beyond ASCII is refused behind it, and taken
in front of it (`Outgoing.agrees_iff`).
-/

namespace HttpCourier

namespace Wire

/-- The descriptions are the same but for the order of the configured headers. -/
def Reordered (r r' : RequestSpec) : Prop :=
  ∃ headers : TextMap, headers.entries.Perm r.headers.entries ∧ r' = { r with headers }

theorem Reordered.refl (r : RequestSpec) : Reordered r r := ⟨r.headers, .refl _, rfl⟩

theorem Reordered.symm {r r' : RequestSpec} (h : Reordered r r') : Reordered r' r := by
  obtain ⟨headers, order, rfl⟩ := h
  exact ⟨r.headers, order.symm, rfl⟩

/-- The headers of a description can be brought into any order. -/
theorem exists_reordered (r : RequestSpec) {headers : List (Text × Text)}
    (order : headers.Perm r.headers.entries) :
    ∃ r', Reordered r r' ∧ r'.headers.entries = headers :=
  ⟨{ r with headers := ⟨headers, (order.map Prod.fst).nodup_iff.2 r.headers.distinct⟩ },
    ⟨_, order, rfl⟩, rfl⟩

namespace Outgoing

/-- The description gives a message on the wire. -/
def Sends (r : RequestSpec) (m : Message) : Prop := ∃ o, ofSpec r = .ok o ∧ o.toMessage = .ok m

/-- Either both descriptions give messages, which are the same but for the order of their fields, or
neither does. -/
structure Agree (r r' : RequestSpec) : Prop where
  sends : (∃ m, Sends r m) ↔ ∃ m, Sends r' m
  same : ∀ m m', Sends r m → Sends r' m' → m.SameUpToOrder m'

/-- No configured header that describes content depends on where a configured `Content-Type`
stands. -/
def SteadySpec (r : RequestSpec) : Prop :=
  ∀ content, contentOf r = .ok content → Steady content r.headers.entries

/-! ### The request before its headers -/

/-- The request that a description asks for, without the configured headers. -/
def filled (r : RequestSpec) : Except BuildFault Outgoing := do
  let url ← (Url.appendParameters r.target.text r.query).mapError .unencodable
  let (headers, url) ← (placeCredential r.credential .empty url).mapError .unencodable
  let bare : Outgoing := ⟨r.method, url, r.timeout.seconds, headers, .empty, none⟩
  match ← contentOf r with
  | none => pure bare
  | some (text, contentType) => do
    let content ← (text.encode .utf8).mapError .unencodable
    let contentHeaders ←
      (Fields.empty.set contentTypeName (withCharset contentType)).mapError .unencodable
    pure { bare with content := some content, contentHeaders }

theorem ofSpec_eq (r : RequestSpec) : ofSpec r = filled r >>= fun o =>
    (r.headers.entries.foldlM addHeader o).mapError .unencodable := by
  unfold ofSpec filled
  simp only [bind_assoc]
  refine bind_congr fun url => bind_congr fun placed => bind_congr fun content => ?_
  cases content with
  | none => rfl
  | some content => simp only [bind_assoc]

/-- The request has the fields that the credential and the content give it. -/
structure IsFilled (r : RequestSpec) (content : Option (Text × Text)) (o : Outgoing) : Prop where
  contentOf : contentOf r = .ok content
  method : o.method = r.method
  headers : ∃ ts, o.headers.Holds ts
  contentHeaders : o.contentHeaders.Holds (typeFields content)
  still : o.contentHeaders.charset = none

theorem isFilled_of_filled {r : RequestSpec} {o : Outgoing} (h : filled r = .ok o) :
    ∃ content, IsFilled r content o := by
  obtain ⟨url, -, h⟩ := ok_of_bind h
  obtain ⟨⟨headers, url'⟩, placed, h⟩ := ok_of_bind h
  obtain ⟨place, -, holds, -⟩ := placeCredential_ok (ok_of_mapError placed)
  obtain ⟨content, given, h⟩ := ok_of_bind h
  cases content with
  | none =>
    cases h
    exact ⟨none, given, rfl, ⟨_, holds⟩, Fields.holds_empty, rfl⟩
  | some content =>
    obtain ⟨bytes, -, h⟩ := ok_of_bind h
    obtain ⟨described, set, h⟩ := ok_of_bind h
    cases h
    have set := ok_of_mapError set
    exact ⟨some content, given, rfl, ⟨_, holds⟩, Fields.holds_empty.set set,
      Fields.charset_set set⟩

variable {r r' : RequestSpec} {o o' : Outgoing} {m m' : Message}

/-- The configured headers change neither the method nor the URL. -/
theorem frame_of_addHeaders {headers : List (Text × Text)}
    (added : headers.foldlM addHeader o = .ok o') : o'.method = o.method ∧ o'.url = o.url := by
  induction headers generalizing o with
  | nil =>
    cases added
    exact ⟨rfl, rfl⟩
  | cons header rest ih =>
    rw [List.foldlM_cons] at added
    obtain ⟨next, here, added⟩ := ok_of_bind added
    have same : next.method = o.method ∧ next.url = o.url := by
      cases adds_of_addHeader here <;> exact ⟨rfl, rfl⟩
    rw [← same.1, ← same.2]
    exact ih added

theorem exists_filled_of_ofSpec (built : ofSpec r = .ok o) :
    ∃ start, filled r = .ok start ∧ r.headers.entries.foldlM addHeader start = .ok o := by
  rw [ofSpec_eq] at built
  obtain ⟨start, here, built⟩ := ok_of_bind built
  exact ⟨start, here, ok_of_mapError built⟩

/-! ### What is sent in another order -/

theorem sentFields_perm {place : Credential.Placement} {content : Option (Text × Text)}
    {headers : TextMap} (distinct : TextFields.Distinct r.headers.entries)
    (order : headers.entries.Perm r.headers.entries) :
    (sentFields { r with headers } place content).Perm (sentFields r place content) := by
  have distinct' : TextFields.Distinct headers.entries :=
    (order.pairwise_iff fun h => h.symm).2 distinct
  unfold sentFields
  rw [TextFields.addHeader_eq_offer, TextFields.addContentHeader_eq_offer]
  split
  · exact TextFields.foldl_offer_perm order distinct' (.refl _)
  · exact TextFields.update_perm (TextFields.foldl_offer_perm order distinct' (.refl _))
      (TextFields.foldl_offer_perm order distinct' (.refl _))

/-- **What is sent is the same in every order**, if anything is. -/
theorem sameUpToOrder_of_reordered (distinct : TextFields.Distinct r.headers.entries)
    (order : Reordered r r') (sends : Sends r m) (sends' : Sends r' m') : m.SameUpToOrder m' := by
  obtain ⟨headers, order, rfl⟩ := order
  obtain ⟨o, built, sent⟩ := sends
  obtain ⟨o', built', sent'⟩ := sends'
  obtain ⟨place, request⟩ := built_of_ofSpec built
  obtain ⟨place', request'⟩ := built_of_ofSpec built'
  obtain ⟨content, described⟩ := describes_of_ofSpec built
  obtain ⟨content', described'⟩ := describes_of_ofSpec built'
  -- All but the headers is determined by what the two descriptions have in common.
  cases request.placed.symm.trans request'.placed
  cases described.contentOf.symm.trans described'.contentOf
  obtain ⟨start, filled_eq, added⟩ := exists_filled_of_ofSpec built
  obtain ⟨start', filled_eq', added'⟩ := exists_filled_of_ofSpec built'
  cases filled_eq.symm.trans filled_eq'
  obtain ⟨method, url_eq⟩ := frame_of_addHeaders added
  obtain ⟨method', url_eq'⟩ := frame_of_addHeaders added'
  obtain ⟨url, fields, located, rfl, entries, -⟩ := complete_of_toMessage request described sent
  obtain ⟨url', fields', located', rfl, entries', -⟩ :=
    complete_of_toMessage request' described' sent'
  rw [url_eq] at located
  rw [url_eq'] at located'
  cases located.symm.trans located'
  rw [method, method', described.content_eq, described'.content_eq]
  refine Message.sameUpToOrder_complete ?_
  rw [entries, entries']
  exact (sentFields_perm distinct order).map _

/-! ### Whether anything is sent -/

/-- Fields that describe content can be put to the others, for their names are in ASCII. -/
theorem exists_allFields {content : Option (Text × Text)} {place : Credential.Placement}
    (request : Built r place o) (described : Describes r content o) :
    ∃ fields, o.allFields = .ok fields := by
  unfold allFields
  rw [described.content_eq]
  cases content with
  | none => exact ⟨_, rfl⟩
  | some content =>
    refine Fields.exists_update request.holds.reopened described.holds fun u hu => ?_
    rcases TextFields.mem_addContentHeaders hu with hu | ⟨-, content⟩
    · rw [List.mem_singleton.1 hu]
      show contentTypeName.isAscii = true
      decide
    · exact isAscii_of_isContentHeader content

/-- **Whether anything is sent** depends on the configured headers only in that they are taken. -/
theorem exists_sends_iff {start : Outgoing} (h : filled r = .ok start) :
    (∃ m, Sends r m) ↔
      (∃ url, Url.Locator.ofText start.url = .ok url) ∧
      (∃ f, (r.headers.entries.filter fun h => !isContentHeader (Text.lower h.1)).foldlM
        Fields.addGeneral start.headers = .ok f) ∧
      ∃ f, (r.headers.entries.filter fun h => isContentHeader (Text.lower h.1)).foldlM
        Fields.addDescribing start.contentHeaders = .ok f := by
  rw [← addHeaders_ok_iff]
  constructor
  · rintro ⟨m, o, built, sent⟩
    obtain ⟨start', filled_eq, added⟩ := exists_filled_of_ofSpec built
    cases h.symm.trans filled_eq
    obtain ⟨fields, -, sent⟩ := ok_of_bind sent
    obtain ⟨url, located, -⟩ := ok_of_bind sent
    rw [(frame_of_addHeaders added).2] at located
    exact ⟨⟨url, ok_of_mapError located⟩, o, added⟩
  · rintro ⟨⟨url, located⟩, o, added⟩
    have built : ofSpec r = .ok o := by
      rw [ofSpec_eq, h]
      exact congrArg (Except.mapError _) added
    obtain ⟨place, request⟩ := built_of_ofSpec built
    obtain ⟨content, described⟩ := describes_of_ofSpec built
    obtain ⟨fields, put⟩ := exists_allFields request described
    rw [← (frame_of_addHeaders added).2] at located
    refine ⟨Message.complete o.method.name url fields (o.content.getD []), o, built, ?_⟩
    unfold toMessage
    rw [put, located]
    rfl

/-- **Where their order does not matter**, the configured headers are taken or not in any order. -/
theorem exists_sends_iff_of_reordered (distinct : TextFields.Distinct r.headers.entries)
    (steady : SteadySpec r) (order : Reordered r r') : (∃ m, Sends r m) ↔ ∃ m, Sends r' m := by
  obtain ⟨headers, order, rfl⟩ := order
  have distinct' : TextFields.Distinct headers.entries :=
    (order.pairwise_iff fun h => h.symm).2 distinct
  cases h : filled r with
  | error fault =>
    have never {r : RequestSpec} (h : filled r = .error fault) : ¬ ∃ m, Sends r m := by
      rintro ⟨m, o, built, -⟩
      obtain ⟨start, filled_eq, -⟩ := exists_filled_of_ofSpec built
      cases h.symm.trans filled_eq
    exact iff_of_false (never h) (never h)
  | ok start =>
    obtain ⟨content, isFilled⟩ := isFilled_of_filled h
    obtain ⟨ts, general⟩ := isFilled.headers
    have steady := steady content isFilled.contentOf
    rw [exists_sends_iff h, exists_sends_iff (r := { r with headers }) h]
    refine and_congr_right fun _ => and_congr ?_ ?_
    · rw [Fields.addGenerals_ok_iff general (distinct.filter _) (by simp),
        Fields.addGenerals_ok_iff general (distinct'.filter _) (by simp)]
      exact forall_congr' fun h => imp_congr_left ((order.filter _).mem_iff.symm)
    · rw [addDescribings_ok_iff_of_steady isFilled.contentHeaders isFilled.still
          (distinct.filter _) (by simp) (steady.filter _),
        addDescribings_ok_iff_of_steady isFilled.contentHeaders isFilled.still
          (distinct'.filter _) (by simp) ((steady.of_perm order).filter _)]
      exact forall_congr' fun h => imp_congr_left ((order.filter _).mem_iff.symm)

/-- Nothing is sent with a type in front, if a header beyond ASCII stands behind it and the content
has no type of its own beyond ASCII. -/
theorem not_sends_of_type_first {type h : Text × Text} {rest : List (Text × Text)}
    (distinct : TextFields.Distinct (type :: rest)) (first : r.headers.entries = type :: rest)
    (isType : Text.lower type.1 = contentTypeKey)
    (own : ∀ c, contentOf r = .ok (some c) → c.2.isAscii = true) (hh : h ∈ rest)
    (describing : isContentHeader (Text.lower h.1) = true) (beyond : h.2.isAscii = false) :
    ¬ ∃ m, Sends r m := by
  rintro ⟨m, o, built, sent⟩
  obtain ⟨start, filled_eq, -⟩ := exists_filled_of_ofSpec built
  obtain ⟨content, isFilled⟩ := isFilled_of_filled filled_eq
  obtain ⟨-, -, taken⟩ := (exists_sends_iff filled_eq).1 ⟨m, o, built, sent⟩
  have typeIsDescribing : isContentHeader (Text.lower type.1) = true := by
    rw [isType]
    decide
  rw [first, List.filter_cons, if_pos typeIsDescribing] at taken
  refine not_addDescribings_of_type_first isFilled.contentHeaders isFilled.still isType
    (fun g hg => ?_) (fun c hc => own c (hc ▸ isFilled.contentOf))
    (List.mem_filter.2 ⟨hh, describing⟩) beyond taken
  -- No other header gives a type, for none has the same name.
  obtain ⟨mem, describing⟩ := List.mem_filter.1 hg
  rw [← isType]
  exact ⟨describing, ((List.pairwise_cons.1 distinct).1 g mem).symm⟩

/-- **Where the order matters**, there is one in which nothing is sent. -/
theorem exists_reordered_not_sends (distinct : TextFields.Distinct r.headers.entries)
    (unsteady : ¬ SteadySpec r) : ∃ r', Reordered r r' ∧ ¬ ∃ m, Sends r' m := by
  unfold SteadySpec Steady at unsteady
  push Not at unsteady
  obtain ⟨content, given, ⟨type, mem, isType⟩, ⟨h, hh, describing, other, beyond⟩, own⟩ := unsteady
  obtain ⟨pre, post, eq⟩ := List.append_of_mem mem
  have order : (type :: (pre ++ post)).Perm r.headers.entries := by
    rw [eq]
    exact List.perm_middle.symm
  have behind : h ∈ pre ++ post := by
    refine (List.mem_cons.1 (order.mem_iff.2 hh)).resolve_left ?_
    rintro rfl
    exact other isType
  obtain ⟨r', reordered, first⟩ := exists_reordered r order
  refine ⟨r', reordered, not_sends_of_type_first ((order.pairwise_iff fun h => h.symm).2 distinct)
    first isType (fun c hc => ?_) behind describing (Bool.eq_false_iff.2 beyond)⟩
  obtain ⟨headers, -, rfl⟩ := reordered
  cases given.symm.trans hc
  exact (Bool.not_eq_false _).mp (own c rfl)

/-- **When the order of configured headers does not matter.** Every order gives the same, if none of
those that describe content depends on where a `Content-Type` stands, or if no order gives anything;
and only then. -/
theorem agrees_iff (distinct : TextFields.Distinct r.headers.entries) :
    (∀ r', Reordered r r' → Agree r r') ↔
      SteadySpec r ∨ ∀ r' m, Reordered r r' → ¬ Sends r' m := by
  constructor
  · intro agree
    refine or_iff_not_imp_left.2 fun unsteady r' m reordered sends => ?_
    obtain ⟨never, order, fails⟩ := exists_reordered_not_sends distinct unsteady
    have sends := (agree r' reordered).sends.2 ⟨m, sends⟩
    exact fails ((agree never order).sends.1 sends)
  · rintro (steady | never) r' reordered
    · exact ⟨exists_sends_iff_of_reordered distinct steady reordered,
        fun m m' => sameUpToOrder_of_reordered distinct reordered⟩
    · exact ⟨iff_of_false (fun ⟨m, sends⟩ => never r m (.refl r) sends)
        fun ⟨m, sends⟩ => never r' m reordered sends,
        fun m m' sends => absurd sends (never r m (.refl r))⟩

/-- A request without content, with configured headers. -/
def labelled (headers : TextMap) : RequestSpec where
  target := ⟨"https://h/labels", by decide, by decide⟩
  method := .get
  headers := headers
  query := .empty
  body := none
  bodyRaw := none
  contentType := usualContentType
  timeout := .usual
  ignoreCertificateErrors := false
  followRedirects := true
  credential := none
  retry := none

/-- Headers of either kind, some of them beyond ASCII, in an order that does not matter. -/
def steadyHeaders : TextMap :=
  ⟨[("Content-Language", "é"), ("X-Label", "a"), ("CONTENT-md5", "ü")], by decide⟩

theorem agrees_iff_labelled :
    (∃ m, Sends (labelled steadyHeaders) m) ∧
      ∀ r', Reordered (labelled steadyHeaders) r' → Agree (labelled steadyHeaders) r' := by
  constructor
  · obtain ⟨o, m, built, sent⟩ := exists_message (r := labelled steadyHeaders) (by decide +kernel)
    exact ⟨m, o, built, sent⟩
  · have distinct : TextFields.Distinct (labelled steadyHeaders).headers.entries := by
      decide +kernel
    have steady : SteadySpec (labelled steadyHeaders) :=
      fun content _ => .inl (by decide +kernel)
    exact (agrees_iff distinct).2 (.inl steady)

/-- **Whether a request is sent depends on the order of its headers**: a language beyond ASCII is
taken in front of a type, and refused behind it. -/
theorem not_agrees : ¬ ∀ r r' : RequestSpec, TextFields.Distinct r.headers.entries →
    Reordered r r' → Agree r r' := by
  intro claim
  let taken : TextMap := ⟨[("Content-Language", "é"), ("Content-Type", "text/plain")], by decide⟩
  let refused : TextMap := ⟨[("Content-Type", "text/plain"), ("Content-Language", "é")], by decide⟩
  have reordered : Reordered (labelled taken) (labelled refused) :=
    ⟨refused, .swap _ _ _, rfl⟩
  obtain ⟨o, m, built, sent⟩ := exists_message (r := labelled taken) (by decide +kernel)
  obtain ⟨m', o', built', -⟩ :=
    (claim _ _ (by decide +kernel) reordered).sends.1 ⟨m, o, built, sent⟩
  have fails : (ofSpec (labelled refused)).toOption.isNone = true := by decide +kernel
  rw [built'] at fails
  cases fails

end Outgoing

end Wire

end HttpCourier
