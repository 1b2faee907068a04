import HttpCourier.Proofs.Computation
import HttpCourier.Proofs.Request.Agreement

/-!
# HttpCourier.Proofs.Request.Blame

**Which key a fault of a document names.** The dotted path that a fault names leads through the
document to the value that was refused, with two exceptions. A negative delay of a retry plan and a
credential scheme without an encoding are not refused where they are read, but once their sections
are complete; these faults name the field in the section, and the section not at all
(`RequestSpec.ofDocument_names_iff`).

`Document.Found` has one case for each place where a fault can be found. That a fault is found in one
of them is read off the reader, part by part; what the fault names follows from the case.
-/

namespace HttpCourier

open Json (Value Members)

/-! ### Paths -/

/-- The value that a path of keys leads to. -/
def Json.Value.at? : List Text → Value → Option Value
  | [], v => some v
  | key :: path, .object members => (Entries.get? key members).bind (at? path)
  | _ :: _, _ => none

/-- The value that a dotted path leads to. -/
def Json.Value.follow (v : Value) (path : Text) : Option Value := v.at? (Text.splitOn '.' path)

namespace Document

/-- The keys of a document whose values the reader can refuse, the URL and the sections aside. -/
def keys : List String :=
  ["method", "body_raw", "content_type", "timeout_seconds", "ignore_certificate_errors",
    "follow_redirects"]

/-- The sections of a document, and the keys in them whose values the reader can refuse. -/
def sections : List (String × List String) :=
  [("auth", "type" :: Check.credentialKeys),
    ("retry", ["max_attempts", "delay_ms", "exponential_backoff"])]

/-- The dotted paths to all of these. -/
def paths : List Text :=
  keys.map Text.ofString ++
    sections.flatMap fun s => s.2.map fun key => Text.ofString (s.1 ++ "." ++ key)

end Document

namespace ConfigFault

/-- The value deserves the fault. -/
def Refuses : ConfigFault → Value → Prop
  | unknownMethod name, v => ∃ t, v = .string t ∧ Text.upper t = name ∧ Method.ofName? name = none
  | notAString _, v => v ≠ .null ∧ ¬ v.IsString
  | notAnInteger _, v => v ≠ .null ∧ v.wholeNumber? = none
  | notABoolean _, v => v ≠ .null ∧ ¬ v.IsBool
  | refused _ (.below least), v => ∃ i, v.wholeNumber? = some i ∧ i < least
  | refused _ (.above greatest), v => ∃ i, v.wholeNumber? = some i ∧ greatest < i
  | refused _ .notEncodable, v => ∃ t, v = .string t ∧ ¬ Text.Scalar t
  | _, _ => False

/-- The fault names a path through the document that leads to a value which deserves it. -/
def Names (f : ConfigFault) (d : Value) (path : Text) : Prop :=
  f.key? = some path ∧ path ∈ Document.paths ∧ ∃ v, d.follow path = some v ∧ f.Refuses v

end ConfigFault

namespace Document

variable {members : Members} {place key : String} {f : ConfigFault}

/-! ### Single keys -/

/-- The fault is about the value of a key, which it names behind the place of the key. -/
structure Blames (members : Members) (place key : String) (f : ConfigFault) : Prop where
  named : f.key? = some (Text.ofString (place ++ key))
  refused : ∃ v, members.get? (Text.ofString key) = some v ∧ f.Refuses v

theorem find?_ne_null {v : Value} (h : members.find? (Text.ofString key) = some v) : v ≠ .null := by
  rintro rfl
  unfold Members.find? at h
  split at h
  · cases h
  · next absent => exact absent h

theorem blames_of_text? (h : text? members place key = .error f) : Blames members place key f := by
  unfold text? at h
  split at h
  · cases h
  · cases h
  · next v other found =>
    cases h
    refine ⟨rfl, v, Members.find?_eq_some found, find?_ne_null found, fun string => ?_⟩
    cases v with
    | string t => exact other t rfl
    | _ => exact string

theorem blames_of_boolean {default : Bool} (h : boolean members place key default = .error f) :
    Blames members place key f := by
  unfold boolean at h
  split at h
  · cases h
  · cases h
  · next v other found =>
    cases h
    refine ⟨rfl, v, Members.find?_eq_some found, find?_ne_null found, fun bool => ?_⟩
    cases v with
    | bool b => exact other b rfl
    | _ => exact bool

theorem blames_of_integer {default : Int} (h : integer members place key default = .error f) :
    Blames members place key f := by
  unfold integer at h
  split at h
  · cases h
  · next v found =>
    split at h
    · cases h
    · next fractional =>
      cases h
      exact ⟨rfl, v, Members.find?_eq_some found, find?_ne_null found, fractional⟩

/-- A number that is read is the default, or that of the key's value. -/
theorem integer_cases {default i : Int} (h : integer members place key default = .ok i) :
    i = default ∨ ∃ v, members.get? (Text.ofString key) = some v ∧ v.wholeNumber? = some i := by
  unfold integer at h
  split at h
  · cases h
    exact .inl rfl
  · next v found =>
    split at h
    · next whole =>
      cases h
      exact .inr ⟨v, Members.find?_eq_some found, whole⟩
    · cases h

/-- A text that is read is that of the key's value. -/
theorem get?_of_text? {t : Text} (h : text? members place key = .ok (some t)) :
    members.get? (Text.ofString key) = some (.string t) := by
  unfold text? at h
  split at h
  · cases h
  · next found =>
    cases h
    exact Members.find?_eq_some found
  · cases h

theorem blames_of_method (h : method members = .error f) : Blames members "" "method" f := by
  rcases error_of_bind h with h | ⟨o, read, h⟩
  · exact blames_of_text? h
  · dsimp only at h
    split at h
    · cases h
    · next unknown =>
      cases h
      -- An absent method and an empty one stand for the usual one, which is known.
      rcases o with _ | _ | ⟨c, t⟩
      · exact absurd unknown (by decide)
      · exact absurd unknown (by decide)
      · exact ⟨rfl, _, get?_of_text? read, _, rfl, rfl, unknown⟩

theorem blames_of_timeout {default seconds : Int}
    (within : Timeout.least ≤ default ∧ default ≤ Timeout.greatest)
    (read : integer members "" "timeout_seconds" default = .ok seconds)
    (h : timeout seconds = .error f) : Blames members "" "timeout_seconds" f := by
  rcases integer_cases read with rfl | ⟨v, found, whole⟩
  · unfold timeout at h
    rw [dif_neg (Int.not_lt.2 within.2), dif_neg (Int.not_lt.2 within.1)] at h
    cases h
  · unfold timeout at h
    split at h
    · next above =>
      cases h
      exact ⟨rfl, v, found, seconds, whole, above⟩
    · split at h
      · next below =>
        cases h
        exact ⟨rfl, v, found, seconds, whole, below⟩
      · cases h

/-! ### Sections and whole documents -/

/-- Where the fault of a document is found. -/
inductive Found (members : Members) (f : ConfigFault) : Prop
  | url (named : f.key? = some "url")
  | key {key : String} (known : key ∈ keys) (blames : Blames members "" key f)
  | nested {s : String × List String} {section_ : Members} {key : String} (known : s ∈ sections)
      (there : members.get? (Text.ofString s.1) = some (.object section_)) (key_mem : key ∈ s.2)
      (blames : Blames section_ (s.1 ++ ".") key f)
  /-- The delay of a retry plan is negative. -/
  | delay {plan : Members} {v : Value} (fault : f = .refused "delay_ms" (.below 0))
      (there : members.get? "retry" = some (.object plan))
      (value : plan.get? "delay_ms" = some v) (refused : f.Refuses v)
  /-- A credential scheme has no encoding. -/
  | scheme {auth : Members} {v : Value} (fault : f = .refused "kind" .notEncodable)
      (there : members.get? "auth" = some (.object auth))
      (value : auth.get? "type" = some v) (refused : f.Refuses v)

theorem found_of_url (h : url members = .error f) : f = .noUrl := by
  unfold url at h
  split at h
  · split at h
    · cases h
    · cases h
      rfl
  · cases h
    rfl

theorem found_of_credential (h : credential members = .error f) : Found members f := by
  unfold credential at h
  split at h
  · next auth there =>
    have known : ("auth", "type" :: Check.credentialKeys) ∈ sections := by decide
    have word {key : String} (mem : key ∈ "type" :: Check.credentialKeys)
        (h : text? auth "auth." key = .error f) : Found members f :=
      .nested known there mem (blames_of_text? h)
    rcases error_of_bind h with h | ⟨kind, read, h⟩
    · exact word (by decide) h
    dsimp only at h
    split at h
    · next present =>
      iterate 6
        rcases error_of_bind h with h | ⟨_, -, h⟩
        · exact word (by decide) h
      split at h
      · cases h
      · next lone =>
        cases h
        -- Only a text that is there can be without an encoding.
        rcases kind with _ | _ | ⟨c, t⟩
        · exact absurd rfl present
        · exact absurd rfl present
        · exact .scheme rfl there (get?_of_text? read) ⟨_, rfl, lone⟩
    · cases h
  · cases h

theorem found_of_retry (h : retry members = .error f) : Found members f := by
  unfold retry at h
  split at h
  · next plan there =>
    have known : ("retry", ["max_attempts", "delay_ms", "exponential_backoff"]) ∈ sections := by
      decide
    have value {key : String} (mem : key ∈ ["max_attempts", "delay_ms", "exponential_backoff"])
        (blames : Blames plan "retry." key f) : Found members f := .nested known there mem blames
    dsimp only at h
    rcases error_of_bind h with h | ⟨_, -, h⟩
    · exact value (by decide) (blames_of_integer h)
    rcases error_of_bind h with h | ⟨delay, read, h⟩
    · exact value (by decide) (blames_of_integer h)
    rcases error_of_bind h with h | ⟨_, -, h⟩
    · exact value (by decide) (blames_of_boolean h)
    split at h
    · next negative =>
      cases h
      rcases integer_cases read with rfl | ⟨v, found, whole⟩
      · exact absurd negative (by decide)
      · exact .delay rfl there found ⟨delay, whole, negative⟩
    · cases h
  · cases h

/-- **Where the fault of a document is found.** -/
theorem found_of_error {defaults : Defaults}
    (within : Timeout.least ≤ defaults.timeoutSeconds ∧ defaults.timeoutSeconds ≤ Timeout.greatest)
    (h : RequestSpec.ofMembers members defaults = .error (.config f)) : Found members f := by
  rcases error_of_bind h with h | ⟨target, -, h⟩
  · obtain ⟨_, h, ⟨⟩⟩ := error_of_mapError h
    rw [found_of_url h]
    exact .url rfl
  rcases error_of_bind h with h | ⟨_, -, h⟩
  · obtain ⟨_, h, ⟨⟩⟩ := error_of_mapError h
    exact .key (by decide) (blames_of_method h)
  iterate 2
    rcases error_of_bind h with h | ⟨_, -, h⟩
    · obtain ⟨_, -, ⟨⟩⟩ := error_of_mapError h
  obtain ⟨_, h, ⟨⟩⟩ := error_of_mapError h
  rcases error_of_bind h with h | ⟨_, -, h⟩
  · exact .key (by decide) (blames_of_text? h)
  rcases error_of_bind h with h | ⟨_, -, h⟩
  · exact .key (by decide) (blames_of_text? h)
  rcases error_of_bind h with h | ⟨seconds, read, h⟩
  · exact .key (by decide) (blames_of_integer h)
  rcases error_of_bind h with h | ⟨_, -, h⟩
  · exact .key (by decide) (blames_of_boolean h)
  rcases error_of_bind h with h | ⟨_, -, h⟩
  · exact .key (by decide) (blames_of_boolean h)
  rcases error_of_bind h with h | ⟨_, -, h⟩
  · exact found_of_credential h
  rcases error_of_bind h with h | ⟨_, -, h⟩
  · exact found_of_retry h
  split at h
  · rcases error_of_bind h with h | ⟨_, -, h⟩
    · exact .key (by decide) (blames_of_timeout within read h)
    · cases h
  · cases h
    exact .url rfl

/-! ### What a fault names -/

/-- The path to a key, through the section that it stands in. -/
theorem follow_of_mem (key : String) {s : String × List String} (known : s ∈ sections) (mem : key ∈ s.2)
    {section_ : Members} (there : members.get? (Text.ofString s.1) = some (.object section_)) :
    (Value.object members).follow (Text.ofString (s.1 ++ "." ++ key)) =
      section_.get? (Text.ofString key) := by
  have all : ∀ s ∈ sections, ∀ key ∈ s.2,
      Text.splitOn (CodePoint.ofChar '.') (Text.ofString (s.1 ++ "." ++ key)) =
        [Text.ofString s.1, Text.ofString key] := by decide +kernel
  unfold Value.follow
  rw [all s known key mem]
  show (members.get? (Text.ofString s.1)).bind _ = _
  rw [there]
  show (section_.get? (Text.ofString key)).bind _ = _
  exact Option.bind_fun_some _

/-- The path to a key that stands in no section. -/
theorem follow_of_mem_keys (known : key ∈ keys) :
    (Value.object members).follow (Text.ofString key) = members.get? (Text.ofString key) := by
  have all : ∀ key ∈ keys, Text.splitOn (CodePoint.ofChar '.') (Text.ofString key) =
      [Text.ofString key] := by decide +kernel
  unfold Value.follow
  rw [all key known]
  show (members.get? (Text.ofString key)).bind _ = _
  exact Option.bind_fun_some _

/-- The two names that lead nowhere. -/
theorem ne_of_mem_paths : ∀ path ∈ paths,
    path ≠ Text.ofString "delay_ms" ∧ path ≠ Text.ofString "kind" := by decide +kernel

/-- A fault that is found at a key names the path to its value. -/
theorem names_of_blames (known : key ∈ keys) (blames : Blames members "" key f) :
    f.Names (.object members) (Text.ofString key) := by
  obtain ⟨named, v, value, refused⟩ := blames
  rw [String.empty_append] at named
  refine ⟨named, List.mem_append_left _ (List.mem_map_of_mem known), v, ?_, refused⟩
  rw [follow_of_mem_keys known, value]

theorem names_of_blames_nested {s : String × List String} {section_ : Members}
    (known : s ∈ sections) (there : members.get? (Text.ofString s.1) = some (.object section_))
    (mem : key ∈ s.2) (blames : Blames section_ (s.1 ++ ".") key f) :
    f.Names (.object members) (Text.ofString (s.1 ++ "." ++ key)) := by
  obtain ⟨named, v, value, refused⟩ := blames
  refine ⟨named, List.mem_append_right _ (List.mem_flatMap.2 ⟨s, known, List.mem_map_of_mem mem⟩),
    v, ?_, refused⟩
  rw [follow_of_mem key known mem there, value]

/-- What a fault names, by where it is found. -/
theorem Found.named_cases {path : Text} (found : Found members f) (named : f.key? = some path) :
    path = "url" ∨ f.Names (.object members) path ∨
    (f = .refused "delay_ms" (.below 0) ∧
      ∃ v, (Value.object members).follow "retry.delay_ms" = some v ∧ f.Refuses v) ∨
    f = .refused "kind" .notEncodable ∧
      ∃ v, (Value.object members).follow "auth.type" = some v ∧ f.Refuses v := by
  cases found with
  | url url => exact .inl (Option.some.inj (named.symm.trans url))
  | key known blames =>
    have names := names_of_blames known blames
    cases named.symm.trans names.1
    exact .inr (.inl names)
  | nested known there mem blames =>
    have names := names_of_blames_nested known there mem blames
    cases named.symm.trans names.1
    exact .inr (.inl names)
  | delay fault there value refused =>
    have follow := follow_of_mem "delay_ms" (.tail _ (.head _)) (by decide) there
    exact .inr (.inr (.inl ⟨fault, _, follow.trans value, refused⟩))
  | scheme fault there value refused =>
    have follow := follow_of_mem "type" (.head _) (by decide) there
    exact .inr (.inr (.inr ⟨fault, _, follow.trans value, refused⟩))

end Document

namespace RequestSpec

open Document

/-- **What the fault of a document names.** The path that it names is that of the URL, or it leads
to the value that is refused, a key in a section being named with the section in front; unless the
value is a negative delay of a retry plan, or a credential scheme without an encoding. Then the
fault names a path that no document has, and not that of the value. -/
theorem ofDocument_names_iff {d : Value} {defaults : Defaults} {f : ConfigFault} {path : Text}
    (least : 1 ≤ defaults.timeoutSeconds) (greatest : defaults.timeoutSeconds ≤ 300)
    (refused : ofDocument d defaults = .error (.config f)) (named : f.key? = some path) :
    ((path = "url" ∨ f.Names d path) ↔ path ≠ "delay_ms" ∧ path ≠ "kind") ∧
    (path = "delay_ms" → f = .refused "delay_ms" (.below 0) ∧
      ∃ v, d.follow "retry.delay_ms" = some v ∧ f.Refuses v) ∧
    (path = "kind" → f = .refused "kind" .notEncodable ∧
      ∃ v, d.follow "auth.type" = some v ∧ f.Refuses v) := by
  cases d with
  | object members =>
    -- A path through the document is neither of the two names that lead nowhere.
    have apart (names : f.Names (.object members) path) := ne_of_mem_paths path names.2.1
    rcases (found_of_error ⟨least, greatest⟩ refused).named_cases named with
      rfl | names | ⟨rfl, value⟩ | ⟨rfl, value⟩
    · exact ⟨iff_of_true (.inl rfl) (by decide), fun h => absurd h (by decide),
        fun h => absurd h (by decide)⟩
    · exact ⟨iff_of_true (.inr names) (apart names), fun h => absurd h (apart names).1,
        fun h => absurd h (apart names).2⟩
    · cases named
      refine ⟨iff_of_false ?_ fun h => h.1 rfl, fun _ => ⟨rfl, value⟩,
        fun h => absurd h (by decide)⟩
      rintro (url | names)
      · exact absurd url (by decide)
      · exact (apart names).1 rfl
    · cases named
      refine ⟨iff_of_false ?_ fun h => h.2 rfl, fun h => absurd h (by decide),
        fun _ => ⟨rfl, value⟩⟩
      rintro (url | names)
      · exact absurd url (by decide)
      · exact (apart names).2 rfl
  | _ =>
    cases refused
    cases named

/-- A text where a section wants a number is named with its section. -/
theorem ofDocument_names_iff_attempts :
    let d : Value := .object [("url", .string "https://h/"),
      ("retry", .object [("max_attempts", .string "3")])]
    ofDocument d .usual = .error (.config (.notAnInteger "retry.max_attempts")) ∧
      (ConfigFault.notAnInteger "retry.max_attempts").Names d "retry.max_attempts" := by
  intro d
  have refused : ofDocument d .usual = .error (.config (.notAnInteger "retry.max_attempts")) := by
    rfl
  obtain ⟨names, -, -⟩ := ofDocument_names_iff (by decide) (by decide) refused rfl
  exact ⟨refused, (names.2 (by decide)).resolve_left (by decide)⟩

/-- The fault of a negative delay names the key without its section. -/
theorem not_ofDocument_names :
    ¬ ∀ (d : Value) (defaults : Defaults) (f : ConfigFault) (path : Text),
      1 ≤ defaults.timeoutSeconds → defaults.timeoutSeconds ≤ 300 →
      ofDocument d defaults = .error (.config f) → f.key? = some path →
      path = "url" ∨ ∃ v, d.follow path = some v ∧ f.Refuses v := by
  intro h
  have refused : ofDocument (.object [("url", .string "https://h/"),
      ("retry", .object [("delay_ms", .int (-1))])]) .usual =
        .error (.config (.refused "delay_ms" (.below 0))) := by rfl
  rcases h _ .usual _ _ (by decide) (by decide) refused rfl with url | ⟨v, found, -⟩
  · exact absurd url (by decide)
  · cases found

end RequestSpec

end HttpCourier
