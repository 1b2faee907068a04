import HttpCourier.Proofs.Call.Shape
import HttpCourier.Proofs.Credential.Mapping

/-!
# HttpCourier.Proofs.Call.Headers

**The header fields of a result** are those of the response that the last attempt has received.
None of them is lost and none comes up twice: a field stands under its name in lower case, among the
fields that describe the content or among the others, and the values of a name are in the order in
which they came. Looking up a name in any letter case gives all of its values
(`Session.execute_headers`).

Fields become a header map one by one, and so the facts about header maps are about one value more
(`Result.addValue`), and by induction from the end about all (`Result.headerMap`).
-/

namespace HttpCourier

/-- The fields of a header map, each value with its name. -/
def HeaderMap.pairs (m : HeaderMap) : List (Text × Text) := m.flatMap fun e => e.2.map (e.1, ·)

/-- The fields of a name in a header map without a name twice. -/
theorem HeaderMap.filter_pairs {m : HeaderMap} (distinct : (m.map Prod.fst).Nodup) (name : Text) :
    (m.pairs.filter fun p => p.1 = name) = ((m.lookup name).getD []).map (name, ·) := by
  induction m with
  | nil => rfl
  | cons e m ih =>
    obtain ⟨n, vs⟩ := e
    obtain ⟨fresh, distinct⟩ := List.nodup_cons.1 distinct
    have split : pairs ((n, vs) :: m) = vs.map (n, ·) ++ pairs m := List.flatMap_cons
    rw [split, List.filter_append, ih distinct, List.lookup_cons]
    by_cases same : name = n
    · have missing : m.lookup name = none := by
        refine List.lookup_eq_none_iff.2 fun p hp => ?_
        rw [bne_iff_ne, same]
        exact fun h => fresh (List.mem_map.2 ⟨p, hp, h.symm⟩)
      rw [missing, same, beq_self_eq_true, List.filter_eq_self.2 (by simp)]
      exact List.append_nil _
    · rw [beq_false_of_ne same, List.filter_eq_nil_iff.2 (by simpa using fun _ _ => Ne.symm same)]
      rfl

/-- The header map holds the fields, grouped by their names. -/
structure HeaderMap.Groups (m : HeaderMap) (fields : List (Text × Text)) : Prop where
  /-- Each name stands once, in the order in which the names first came. -/
  names : m.map Prod.fst = (fields.map Prod.fst).eraseDups
  /-- The fields of one name keep their order. -/
  ordered : ∀ name : Text,
    (m.pairs.filter fun p => p.1 = name) = fields.filter fun f => f.1 = name
  /-- Each field is there as often as it came. -/
  whole : m.pairs.Perm fields

namespace Result

variable {m : HeaderMap} {fields : List (Text × Text)} {name other value : Text}

/-! ### One value more -/

theorem names_addValue (name value : Text) (m : HeaderMap) :
    (addValue name value m).map Prod.fst =
      if name ∈ m.map Prod.fst then m.map Prod.fst else m.map Prod.fst ++ [name] := by
  induction m with
  | nil => rfl
  | cons e m ih =>
    obtain ⟨n, vs⟩ := e
    unfold addValue
    by_cases same : n = name
    · rw [if_pos same, if_pos (by simp [same])]
      rfl
    · rw [if_neg same, List.map_cons, List.map_cons, ih]
      by_cases there : name ∈ m.map Prod.fst
      · rw [if_pos there, if_pos (List.mem_cons_of_mem _ there)]
      · rw [if_neg there, if_neg (List.not_mem_cons_of_ne_of_not_mem (Ne.symm same) there)]
        rfl

theorem lookup_addValue_self (name value : Text) (m : HeaderMap) :
    (addValue name value m).lookup name = some ((m.lookup name).getD [] ++ [value]) := by
  induction m with
  | nil => simp [addValue]
  | cons e m ih =>
    obtain ⟨n, vs⟩ := e
    unfold addValue
    by_cases same : n = name
    · rw [if_pos same, same]
      simp
    · rw [if_neg same, List.lookup_cons, List.lookup_cons, beq_false_of_ne (Ne.symm same)]
      exact ih

theorem lookup_addValue_of_ne (different : other ≠ name) (value : Text) (m : HeaderMap) :
    (addValue name value m).lookup other = m.lookup other := by
  induction m with
  | nil => simp [addValue, different]
  | cons e m ih =>
    obtain ⟨n, vs⟩ := e
    unfold addValue
    by_cases same : n = name
    · rw [if_pos same, same, List.lookup_cons, List.lookup_cons, beq_false_of_ne different]
    · rw [if_neg same, List.lookup_cons, List.lookup_cons, ih]

/-! ### Header maps of fields -/

theorem headerMap_concat (fields : List (Text × Text)) (name value : Text) :
    headerMap (fields ++ [(name, value)]) = addValue name value (headerMap fields) :=
  List.foldl_concat ..

/-- The names of a header map are those of the fields, in the order in which they first came. -/
theorem names_headerMap (fields : List (Text × Text)) :
    (headerMap fields).map Prod.fst = (fields.map Prod.fst).eraseDups := by
  induction fields using List.reverseRecOn with
  | nil => rfl
  | append_singleton fields f ih =>
    rw [headerMap_concat, names_addValue, ih, List.map_append, List.eraseDups_append]
    simp only [List.mem_eraseDups, List.map_cons, List.map_nil]
    by_cases known : f.1 ∈ fields.map Prod.fst
    · rw [if_pos known, show [f.1].removeAll (fields.map Prod.fst) = [] by
        simpa [List.removeAll] using known]
      exact (List.append_nil _).symm
    · rw [if_neg known, show [f.1].removeAll (fields.map Prod.fst) = [f.1] by
        simpa [List.removeAll] using known]
      rfl

theorem nodup_names_headerMap (fields : List (Text × Text)) :
    ((headerMap fields).map Prod.fst).Nodup := by
  induction fields using List.reverseRecOn with
  | nil => exact List.nodup_nil
  | append_singleton fields f ih =>
    rw [headerMap_concat, names_addValue]
    split
    · exact ih
    · next fresh =>
      refine List.nodup_append.2 ⟨ih, List.nodup_singleton _, fun a ha b hb same => fresh ?_⟩
      rw [← List.mem_singleton.1 hb, ← same]
      exact ha

/-- The values of a name are all its values, in order. -/
theorem lookup_headerMap (fields : List (Text × Text)) (name : Text) :
    ((headerMap fields).lookup name).getD [] =
      (fields.filter fun f => f.1 = name).map Prod.snd := by
  induction fields using List.reverseRecOn with
  | nil => rfl
  | append_singleton fields f ih =>
    rw [headerMap_concat, List.filter_append, List.map_append, ← ih]
    by_cases same : f.1 = name
    · rw [← same, lookup_addValue_self]
      simp
    · rw [lookup_addValue_of_ne (Ne.symm same), List.filter_cons_of_neg (by simpa using same)]
      simp

/-- **A header map groups the fields that it is made of.** -/
theorem groups_headerMap (fields : List (Text × Text)) : (headerMap fields).Groups fields := by
  have ordered (name : Text) : ((headerMap fields).pairs.filter fun p => p.1 = name) =
      fields.filter fun f => f.1 = name := by
    rw [HeaderMap.filter_pairs (nodup_names_headerMap fields), lookup_headerMap, List.map_map]
    refine (List.map_congr_left fun f hf => ?_).trans (List.map_id _)
    rw [← of_decide_eq_true (List.mem_filter.1 hf).2]
    rfl
  refine ⟨names_headerMap fields, ordered, List.perm_iff_count.2 fun p => ?_⟩
  have own (l : List (Text × Text)) : (l.filter fun q => q.1 = p.1).count p = l.count p :=
    List.count_filter (decide_eq_true rfl)
  rw [← own, ordered, own]

theorem valuesOf?_headerMap (fields : List (Text × Text)) (name : Text) :
    valuesOf? (headerMap fields) name =
      match (fields.filter fun f => f.1 = name).map Prod.snd with
      | [] => none
      | vs => some vs := by
  rw [← lookup_headerMap]
  unfold valuesOf?
  cases (headerMap fields).lookup name with
  | none => rfl
  | some vs => cases vs <;> rfl

end Result

/-! ### The fields of a response -/

namespace Wire.TextFields

/-- The fields with their names in lower case. -/
def lowered (ts : TextFields) : List (Text × Text) := ts.map fun t => (Text.asciiLower t.1, t.2)

/-- The values of a name in any letter case, joined, if there are any. -/
def joined? (ts : TextFields) (name : Text) : Option Text :=
  match ts.valuesOf (Text.asciiLower name) with
  | [] => none
  | vs => some (Text.join ", " vs)

theorem filter_lowered (ts : TextFields) (name : Text) :
    (ts.lowered.filter fun t => t.1 = name).map Prod.snd = ts.valuesOf name := by
  unfold lowered valuesOf
  rw [List.filter_map, List.map_map]
  rfl

end Wire.TextFields

namespace Reply

/-- The names of the fields are in ASCII. -/
def AsciiNames (r : Reply) : Prop := ∀ e ∈ r.fields.entries, (Text.ofLatin1 e.1).isAscii = true

instance (r : Reply) : Decidable r.AsciiNames := List.decidableBAll _ r.fields.entries

/-- The fields of a response whose names are in ASCII, as texts: the names as they came, and the
values in the encoding that fits all fields. -/
def fieldTexts (r : Reply) : Wire.TextFields :=
  r.fields.entries.map fun e =>
    (Text.ofLatin1 e.1, Wire.Fields.decode (Wire.Fields.fittingCharset r.fields.entries) e.2)

/-- Bytes in ASCII are the same text in every encoding. -/
theorem encode_ofLatin1 {b : Bytes} (ascii : (Text.ofLatin1 b).isAscii = true) (charset : Charset) :
    (Text.ofLatin1 b).encode charset = .ok b := by
  have holds := Text.isAscii_iff_holds.1 ascii
  have bytes : (Text.ofLatin1 b).bytesIn .ascii = b := by
    unfold Text.bytesIn Text.ofLatin1
    rw [List.flatMap_map]
    show b.flatMap (fun x => [UInt8.ofNat (CodePoint.ofNat x.toNat).val]) = b
    rw [← List.map_eq_flatMap]
    refine (List.map_congr_left fun x _ => ?_).trans (List.map_id _)
    rw [CodePoint.ofNat, dif_pos (Nat.lt_trans x.toNat_lt (by decide))]
    exact UInt8.ofNat_toNat
  refine Text.encode_ok_iff.2 ⟨fun c hc => ?_, ?_⟩
  · have small := Charset.ascii_holds.1 (holds c hc)
    cases charset with
    | ascii => exact holds c hc
    | latin1 => exact decide_eq_true (Nat.lt_trans small (by decide))
    | utf8 => exact Text.scalar_iff_holds.1 (Text.scalar_of_isAscii ascii) c hc
  · cases charset with
    | utf8 => rw [← Text.bytesIn_of_isAscii ascii, bytes]
    | _ => exact bytes.symm

/-- The fields of a response, as a result takes them, are those with their names in lower case. -/
theorem textFields_eq {r : Reply} (ascii : r.AsciiNames) : r.textFields = r.fieldTexts.lowered := by
  unfold textFields fieldTexts Wire.TextFields.lowered
  rw [List.map_map]
  refine List.map_congr_left fun e he => ?_
  have name := Wire.Fields.decode_of_encode
    (Wire.Fields.encode_asciiLower
      (encode_ofLatin1 (ascii e he) (Wire.Fields.fittingCharset r.fields.entries)))
  dsimp only [Function.comp]
  rw [name, Text.lower_asciiLower, Text.lower_of_isAscii (ascii e he)]

end Reply

namespace Result

/-- The header fields of the result are the given ones. -/
structure HoldsFields (r : Result) (fields : Wire.TextFields) : Prop where
  /-- A name that is looked up in any letter case has all its values. -/
  found : ∀ name : Text, name.isAscii = true → r.header? name = fields.joined? name
  /-- The fields that describe the content stand apart from the others. -/
  described : r.contentHeaders.Groups (fields.lowered.filter fun f => Wire.isContentHeader f.1)
  others : r.headers.Groups (fields.lowered.filter fun f => !Wire.isContentHeader f.1)

/-- The fields of a name are all in one of two parts, if the names decide on the part. -/
theorem filter_filter_name (p : Text → Bool) (fields : List (Text × Text)) (name : Text) :
    ((fields.filter fun f => p f.1).filter fun f => f.1 = name) =
      if p name then fields.filter fun f => f.1 = name else [] := by
  rw [List.filter_filter]
  split
  · next inside =>
    refine List.filter_congr fun f _ => ?_
    by_cases same : f.1 = name
    · rw [same, inside, Bool.and_true]
    · rw [decide_eq_false same, Bool.false_and]
  · next outside =>
    refine List.filter_eq_nil_iff.2 fun f _ both => ?_
    obtain ⟨same, inside⟩ := Bool.and_eq_true_iff.1 both
    exact outside (of_decide_eq_true same ▸ inside)

/-- The values of a name in the part of the fields in which the names satisfy `p`. -/
theorem valuesOf?_headerMap_filter (p : Text → Bool) (fields : Wire.TextFields) (name : Text) :
    valuesOf? (headerMap (fields.lowered.filter fun f => p f.1)) name =
      if p name then
        match fields.valuesOf name with
        | [] => none
        | vs => some vs
      else none := by
  rw [valuesOf?_headerMap, filter_filter_name, ← Wire.TextFields.filter_lowered]
  cases p name <;> rfl

/-- **A result of a response** has all header fields of the response. -/
theorem holdsFields_ofReceived (r : Received) (elapsed : Binary64) (retries : Nat)
    (ascii : r.reply.AsciiNames) :
    (ofReceived r elapsed retries).HoldsFields r.reply.fieldTexts := by
  have described : (ofReceived r elapsed retries).contentHeaders =
      headerMap (r.reply.fieldTexts.lowered.filter fun f => Wire.isContentHeader f.1) := by
    unfold ofReceived splitFields
    rw [Reply.textFields_eq ascii, List.partition_eq_filter_filter]
  have others : (ofReceived r elapsed retries).headers =
      headerMap (r.reply.fieldTexts.lowered.filter fun f => !Wire.isContentHeader f.1) := by
    unfold ofReceived splitFields
    rw [Reply.textFields_eq ascii, List.partition_eq_filter_filter]
    rfl
  refine ⟨fun name plain => ?_, described ▸ groups_headerMap _, others ▸ groups_headerMap _⟩
  unfold header? Wire.TextFields.joined?
  dsimp only
  rw [Text.lower_of_isAscii plain, others, described,
    valuesOf?_headerMap_filter (fun n => !Wire.isContentHeader n),
    valuesOf?_headerMap_filter Wire.isContentHeader]
  -- One of the two parts has nothing of the name, and the other one has all of it.
  cases Wire.isContentHeader (Text.asciiLower name) <;>
    cases r.reply.fieldTexts.valuesOf (Text.asciiLower name) <;> rfl

end Result

/-! ### Whole calls -/

namespace Call

variable {c : Call} {s : Surroundings} {record : CallRecord} {result : Result}

theorem canAnswer_of_before {i k : Nat} {r : Reply} (h : (c.before i s k).script.CanAnswer r) :
    s.script.CanAnswer r := by
  induction k generalizing i s with
  | zero => exact h
  | succ k ih => exact (ih h).of_after

/-- What the last attempt has received is an answer of the transport. -/
theorem canAnswer_nth {i : Nat} {received : Received} (h : (c.nth s i).value = .ok received) :
    s.script.CanAnswer received.reply :=
  canAnswer_of_before ((c.attempt_keeps _ _).value received h)

theorem exists_received_of_class_none {i : Nat} {now : Nanos} {e : AttemptEnd}
    (h : (c.resultOf i now e).errorClass = none) : ∃ received, e = .ok received := by
  cases e with
  | ok received => exact ⟨received, rfl⟩
  | error f => cases h

end Call

namespace Session

/-- **No header field of a response is lost.** A call whose last attempt has received a response,
and whose caller does not cancel it, has a result that holds the fields of that response, if their
names are in ASCII: each of them once for each time it came, among the fields that describe the
content exactly if its name is one of theirs, and found under its name in any letter case. -/
theorem execute_headers (s : Session) {config : Config} {spec : RequestSpec} (signals : Signals)
    (described : config.spec? s.settings = .ok spec) :
    let c := s.callOf spec signals
    let w : Surroundings := ⟨s.now, s.script, s.jars c.variant⟩
    let outcome := (s.execute config signals).1.outcome
    (signals.task = none → s.script.StatusesFrom 100 → s.script.Avoids .taskCancelled →
      ∃ result, outcome = .returned result) ∧
    ∀ result, outcome = .returned result →
      (result.errorClass = none →
        ∃ received, (c.nth w (result.retryAttempts + 1)).value = .ok received) ∧
      ∀ received, (c.nth w (result.retryAttempts + 1)).value = .ok received →
        (signals.caller.time? = none ∨ result.errorClass ≠ some .cancelled) →
        s.script.CanAnswer received.reply ∧ result.TellsOf received.reply ∧
        (received.reply.AsciiNames → result.HoldsFields received.reply.fieldTexts) := by
  intro c w outcome
  have runs : c.Runs 1 w (s.record config signals) := s.runs_record described signals
  refine ⟨fun quiet statuses faults => ?_, fun result returned => ?_⟩
  · refine runs.returned ?_ statuses faults
    show Option.map _ signals.task = none
    rw [quiet]
    rfl
  · obtain ⟨-, now, told⟩ := runs.result_eq returned
    refine ⟨fun answered => ?_, fun received last uncancelled => ?_⟩
    · rcases told with told | ⟨-, told⟩
      · exact Call.exists_received_of_class_none (told ▸ answered)
      · obtain ⟨_, ⟨⟩⟩ := Call.exists_received_of_class_none (told ▸ answered)
    · refine ⟨Call.canAnswer_nth last, ?_⟩
      rcases told with told | ⟨held, told⟩
      · rw [last] at told
        rw [told]
        exact ⟨Result.tellsOf_ofReceived _ _ _, Result.holdsFields_ofReceived _ _ _⟩
      · rcases uncancelled with never | other
        · exact absurd (CancelSignal.time?_startingAt_eq_none_iff.2 never) held
        · exact absurd (told ▸ rfl) other

/-- A response that spells the name of one field in three ways, once without a value. -/
def respelling : Reply :=
  .ofWhole 200 none
    ⟨[("X-Part", "1"), ("content-TYPE", "text/plain"), ("x-part", ""), ("X-PART", "2")].map
      fun f => (Wire.Fields.asciiName f.1, Wire.Fields.asciiName f.2), none⟩ []

/-- A transport with this answer to everything. -/
def respelled : Script := ⟨[], ⟨0, .reply respelling⟩⟩

theorem respelled_statusesFrom : respelled.StatusesFrom 100 := by
  rintro r ⟨x, hx | rfl, hr⟩
  · cases hx
  · cases hr
    decide

theorem respelled_avoids : respelled.Avoids .taskCancelled := by
  intro x f hx hf
  rcases hx with hx | rfl
  · cases hx
  · exact absurd hf Exchange.not_reports_ofWhole

/-- The three values of the field are found under a fourth spelling of its name. -/
theorem execute_headers_respelling :
    ∃ result, ((start .usual respelled .stopped).execute (.spec .home) .none).1.outcome =
        .returned result ∧
      result.header? "x-PART" = some "1, , 2" ∧
      result.header? "Content-Type" = some "text/plain" ∧ result.header? "X-Other" = none := by
  let c : Call := (start .usual respelled .stopped).callOf .home .none
  let w : Surroundings := ⟨0, respelled, []⟩
  have described : (Config.spec .home).spec? Settings.usual = .ok .home := rfl
  obtain ⟨returns, tells⟩ := execute_headers (start .usual respelled .stopped) .none described
  obtain ⟨result, returned⟩ := returns rfl respelled_statusesFrom respelled_avoids
  obtain ⟨answers, holds⟩ := tells result returned
  have inside : Call.through? (c.attempt 1 w).value = none := by decide +kernel
  have last : AttemptEnd.retries c.policy (c.attempt 1 w).value 1 = false := by decide +kernel
  have ran : _ = ((start .usual respelled .stopped).execute (.spec .home) .none).1 :=
    (Call.Runs.concludes inside last).eq_run
  have answered : result.errorClass = none := by
    rw [← ran] at returned
    dsimp only [CallRecord.after] at returned
    rw [Call.conclude_returned returned]
    decide +kernel
  obtain ⟨received, last⟩ := answers answered
  obtain ⟨⟨x, meets, answer⟩, -, held⟩ := holds received last (.inl rfl)
  have only : received.reply = respelling := by
    rcases meets with meets | rfl
    · cases meets
    · exact (Answer.reply.inj answer).symm
  rw [only] at held
  have found := (held (by decide)).found
  refine ⟨result, returned, ?_, ?_, ?_⟩
  · exact (found "x-PART" (by decide)).trans (by decide)
  · exact (found "Content-Type" (by decide)).trans (by decide)
  · exact (found "X-Other" (by decide)).trans (by decide)

end Session

end HttpCourier
