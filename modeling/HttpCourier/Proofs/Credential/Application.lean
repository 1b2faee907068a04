import HttpCourier.Credential.Application
import HttpCourier.Proofs.Credential.Mapping
import HttpCourier.Proofs.Text.Base64

/-!
# HttpCourier.Proofs.Credential.Application

**A credential is applied if it is complete.** What a credential lacks (`gaps`) and where it goes
(`placement`) are told by case analyses of their own over the scheme and what is given. They agree:
a credential that lacks something goes nowhere (`placement_of_gaps`), and one that lacks nothing
goes to one place (`goes_of_complete`).

So headers and URL are left alone by the one, and by the other exactly one of them is changed, in
one field or by one parameter (`applyTo_spec`), unless the headers refuse the field.
-/

namespace HttpCourier.Credential

variable {c : Credential} {H : Type}

/-- What is given in a credential is free of lone surrogates. -/
def Scalar (c : Credential) : Prop :=
  ∀ field ∈ [c.username, c.password, c.token, c.key, c.keyHeader, c.keyQueryParam],
    ∀ t ∈ field, Text.Scalar t

instance (c : Credential) : Decidable c.Scalar := by
  unfold Scalar Text.Scalar
  infer_instance

theorem given?_eq_none_iff {t : Option Text} : given? t = none ↔ t = none ∨ t = some [] := by
  unfold given?
  split <;> simp_all

theorem given?_eq_some_iff {t : Option Text} {u : Text} :
    given? t = some u ↔ t = some u ∧ u ≠ [] := by
  constructor
  · intro h
    have given := eq_of_given? h
    refine ⟨given, ?_⟩
    rintro rfl
    rw [given] at h
    cases h
  · rintro ⟨rfl, nonempty⟩
    unfold given?
    split
    · next empty => exact absurd (Option.some.inj empty) nonempty
    · rfl

/-! ### Places -/

/-- **A credential that lacks something** goes nowhere. -/
theorem placement_of_gaps (incomplete : c.gaps ≠ []) : c.placement = .ok .nowhere := by
  unfold gaps at incomplete
  unfold placement
  cases scheme : c.scheme? with
  | none => rfl
  | some s =>
    rw [scheme] at incomplete
    cases s with
    | basic =>
      cases given : given? c.username with
      | none => rfl
      | some username => simp [given] at incomplete
    | bearer =>
      cases given : given? c.token with
      | none => rfl
      | some token => simp [given] at incomplete
    | apiKey =>
      cases given : given? c.key with
      | none => rfl
      | some key =>
        unfold keyPlacement
        cases header : given? c.keyHeader with
        | some name => simp [given, header] at incomplete
        | none =>
          cases parameter : given? c.keyQueryParam with
          | some name => simp [given, header, parameter] at incomplete
          | none => rfl

/-- Where a complete credential goes: all but a key to the field that they share, and a key to the
header that it names, or else to the parameter. -/
inductive Goes (c : Credential) : Placement → Prop
  | authorization {value : Text} (other : c.scheme? ≠ some .apiKey) :
    Goes c (.header authorizationName value)
  | header {name key : Text} (scheme : c.scheme? = some .apiKey) (given : c.key = some key)
    (named : c.keyHeader = some name) (nonempty : name ≠ []) : Goes c (.header name key)
  | parameter {name key : Text} (scheme : c.scheme? = some .apiKey) (given : c.key = some key)
    (unnamed : c.keyHeader = none ∨ c.keyHeader = some [])
    (named : c.keyQueryParam = some name) : Goes c (.parameter name key)

/-- The texts of a place are free of lone surrogates. -/
def Placement.Scalar : Placement → Prop
  | .nowhere => True
  | .header name value | .parameter name value => Text.Scalar name ∧ Text.Scalar value

theorem scalar_append {t u : Text} (ht : t.Scalar) (hu : u.Scalar) : Text.Scalar (t ++ u) := by
  intro c hc
  exact (List.mem_append.1 hc).elim (ht c) (hu c)

theorem scalar_getD {t : Option Text} (h : ∀ u ∈ t, u.Scalar) : (t.getD []).Scalar := by
  cases t with
  | none => exact fun _ hc => absurd hc List.not_mem_nil
  | some u => exact h u rfl

/-- The text that a name and a password are encoded as. -/
def joined (username password : Text) : Text :=
  username ++ [CodePoint.ofChar ':'] ++ password

theorem scalar_joined {username password : Text} (hu : username.Scalar) (hp : password.Scalar) :
    (joined username password).Scalar :=
  scalar_append (scalar_append hu (by decide)) hp

/-- **The value for a name and a password** is there for any texts without lone surrogates. -/
theorem basicValue_ok {username password : Text} (hu : username.Scalar) (hp : password.Scalar) :
    basicValue username password =
      .ok ("Basic " ++ Base64.encode ((joined username password).bytesIn .utf8)) := by
  unfold basicValue
  change (Text.encode .utf8 (joined username password)).map _ = _
  rw [(Wire.Fields.writes_utf8.2 (scalar_joined hu hp)).encode]
  rfl

/-- **A complete credential goes to one place**, with texts that can be written there. -/
theorem goes_of_complete (scalar : c.Scalar) (complete : c.gaps = []) :
    ∃ place, c.placement = .ok place ∧ Goes c place ∧ place.Scalar := by
  simp only [Scalar, List.forall_mem_cons, List.not_mem_nil, false_implies, implies_true,
    and_true] at scalar
  obtain ⟨username, password, token, key, keyHeader, keyQueryParam⟩ := scalar
  unfold gaps at complete
  unfold placement
  cases scheme : c.scheme? with
  | none =>
    rw [scheme] at complete
    cases complete
  | some s =>
    rw [scheme] at complete
    cases s with
    | basic =>
      cases given : given? c.username with
      | none => simp [given] at complete
      | some name =>
        have value := basicValue_ok (username name (eq_of_given? given)) (scalar_getD password)
        refine ⟨_, congrArg (Except.map _) value, .authorization (by simp [scheme]), by decide, ?_⟩
        exact scalar_append (by decide) (Text.scalar_of_isAscii (Base64.isAscii_encode _))
    | bearer =>
      cases given : given? c.token with
      | none => simp [given] at complete
      | some t =>
        refine ⟨_, rfl, .authorization (by simp [scheme]), by decide, ?_⟩
        exact scalar_append (by decide) (token t (eq_of_given? given))
    | apiKey =>
      cases given : given? c.key with
      | none => simp [given] at complete
      | some k =>
        have here := eq_of_given? given
        refine ⟨_, rfl, ?_⟩
        unfold keyPlacement
        cases header : given? c.keyHeader with
        | some name =>
          obtain ⟨named, nonempty⟩ := given?_eq_some_iff.1 header
          exact ⟨.header scheme here named nonempty, keyHeader name named, key k here⟩
        | none =>
          cases parameter : given? c.keyQueryParam with
          | some name =>
            have named := eq_of_given? parameter
            exact ⟨.parameter scheme here (given?_eq_none_iff.1 header) named,
              keyQueryParam name named, key k here⟩
          | none => simp [header, parameter] at complete

/-! ### Headers and URL -/

/-- The URL with a parameter is there for any texts without lone surrogates. -/
theorem exists_appendParameter (url : Text) {name value : Text} (hn : name.Scalar)
    (hv : value.Scalar) :
    ∃ url', Url.appendParameter url name value = .ok url' := by
  unfold Url.appendParameter Url.formPair Url.formEncode
  rw [(Wire.Fields.writes_utf8.2 hn).encode, (Wire.Fields.writes_utf8.2 hv).encode]
  exact ⟨_, rfl⟩

/-- The field that the credential goes to, if it goes to one: the one that all but a key share, or
the one that is named for the key. -/
def GoesToField (c : Credential) (name value : Text) : Prop :=
  c.scheme? ≠ some .apiKey ∧ name = authorizationName ∨
    c.scheme? = some .apiKey ∧ c.keyHeader = some name ∧ name ≠ [] ∧ c.key = some value

/-- The credential sets its field. All other fields and the URL stay as they are. -/
def SetsField (M : HeaderMapping H) (c : Credential) (headers : H) (url : Text) : Prop :=
  ∃ name value headers', c.GoesToField name value ∧ M.set headers name value = .ok headers' ∧
    c.applyTo M.set headers url = .ok (headers', url) ∧ M.values headers' name = [value] ∧
    ∀ other, ¬ M.Same other name → M.values headers' other = M.values headers other

/-- The headers, which do not take every text, refuse the credential's field, and so the credential
is not applied. -/
def Refused (M : HeaderMapping H) (c : Credential) (headers : H) (url : Text) : Prop :=
  ¬ M.Open headers ∧ ∃ name value e, c.GoesToField name value ∧
    M.set headers name value = .error e ∧ c.applyTo M.set headers url = .error e

/-- The credential is a key that no header is named for, and goes to the end of the URL. The
headers stay as they are. -/
def AddsParameter (M : HeaderMapping H) (c : Credential) (headers : H) (url : Text) : Prop :=
  c.scheme? = some .apiKey ∧ (c.keyHeader = none ∨ c.keyHeader = some []) ∧
    ∃ name key url', c.keyQueryParam = some name ∧ c.key = some key ∧
      Url.appendParameter url name key = .ok url' ∧
      c.applyTo M.set headers url = .ok (headers, url')

variable {M : HeaderMapping H}

theorem GoesToField.not_addsParameter {headers : H} {url name value : Text}
    (goes : c.GoesToField name value) : ¬ AddsParameter M c headers url := by
  rintro ⟨scheme, unnamed, -⟩
  rcases goes with ⟨other, -⟩ | ⟨-, named, nonempty, -⟩
  · exact other scheme
  · rcases unnamed with unnamed | unnamed <;> rw [named] at unnamed <;> cases unnamed
    exact nonempty rfl

theorem Refused.not_setsField {headers : H} {url : Text} (refused : Refused M c headers url) :
    ¬ SetsField M c headers url := by
  obtain ⟨-, _, _, _, -, -, refuses⟩ := refused
  rintro ⟨_, _, _, -, -, applied, -⟩
  rw [refuses] at applied
  cases applied

theorem applyTo_header {name value : Text} (placed : c.placement = .ok (.header name value))
    (headers : H) (url : Text) :
    c.applyTo M.set headers url = (M.set headers name value).map (·, url) := by
  unfold applyTo
  rw [placed]
  show (M.set headers name value >>= fun headers' => .ok (headers', url)) = _
  cases M.set headers name value <;> rfl

/-- A credential with a field of its own is set there, or it is refused there. -/
theorem setsField_or_refused {name value : Text} (placed : c.placement = .ok (.header name value))
    (scalar : name.Scalar ∧ value.Scalar) (goes : c.GoesToField name value) (headers : H)
    (url : Text) : SetsField M c headers url ∨ Refused M c headers url := by
  have applied := applyTo_header (M := M) placed headers url
  cases set : M.set headers name value with
  | ok headers' =>
    rw [set] at applied
    exact .inl ⟨name, value, headers', goes, set, applied, M.values_set set,
      fun _ => M.values_set_of_not_same set⟩
  | error e =>
    rw [set] at applied
    refine .inr ⟨fun takes => ?_, name, value, e, goes, set, applied⟩
    obtain ⟨headers', taken⟩ := M.set_ok takes scalar.1 scalar.2
    rw [set] at taken
    cases taken

/-- **What is reported of a credential agrees with what is done.** One that lacks something changes
nothing. One that lacks nothing sets one field or adds one parameter, and never both; only where
the headers do not take every text, its field may be refused, and then it does neither. -/
theorem applyTo_spec (M : HeaderMapping H) (scalar : c.Scalar) (headers : H) (url : Text) :
    (c.gaps ≠ [] → c.applyTo M.set headers url = .ok (headers, url)) ∧
    (c.gaps = [] → Xor (SetsField M c headers url) (AddsParameter M c headers url) ∨
      Refused M c headers url ∧ ¬ SetsField M c headers url ∧ ¬ AddsParameter M c headers url) := by
  constructor
  · intro incomplete
    unfold applyTo
    rw [placement_of_gaps incomplete]
    rfl
  · intro complete
    obtain ⟨place, placed, goes, texts⟩ := goes_of_complete scalar complete
    have field {name value : Text} (placed : c.placement = .ok (.header name value))
        (texts : name.Scalar ∧ value.Scalar) (goes : c.GoesToField name value) :
        Xor (SetsField M c headers url) (AddsParameter M c headers url) ∨
          Refused M c headers url ∧ ¬ SetsField M c headers url ∧
            ¬ AddsParameter M c headers url :=
      (setsField_or_refused placed texts goes headers url).imp
        (fun sets => .inl ⟨sets, goes.not_addsParameter⟩)
        (fun refused => ⟨refused, refused.not_setsField, goes.not_addsParameter⟩)
    cases goes with
    | authorization other => exact field placed texts (.inl ⟨other, rfl⟩)
    | header scheme given named nonempty =>
      exact field placed texts (.inr ⟨scheme, named, nonempty, given⟩)
    | @parameter name key scheme given unnamed named =>
      obtain ⟨url', added⟩ := exists_appendParameter url texts.1 texts.2
      have adds : AddsParameter M c headers url := by
        refine ⟨scheme, unnamed, name, key, url', named, given, added, ?_⟩
        unfold applyTo
        rw [placed]
        show (Url.appendParameter url name key).map _ = _
        rw [added]
        rfl
      exact .inl (.inr ⟨adds, fun ⟨_, _, _, goes, _⟩ => goes.not_addsParameter adds⟩)

/-- A key, and what is named for it. -/
def keyFor (header parameter : Option Text) : Credential :=
  ⟨⟨"Api_KEY", by decide, by decide⟩, none, none, none, some "k", header, parameter⟩

theorem applyTo_spec_keyFor :
    (keyFor none none).applyTo TextMap.mapping.set .empty "https://h/" =
      .ok (.empty, "https://h/") ∧
    SetsField TextMap.mapping (keyFor (some "X-Key") (some "k")) .empty "https://h/" ∧
    AddsParameter Wire.Fields.mapping (keyFor (some []) (some "k")) .empty "https://h/" := by
  refine ⟨?_, ?_, ?_⟩
  · exact (applyTo_spec TextMap.mapping (by decide) .empty "https://h/").1 (by decide +kernel)
  · have one := (applyTo_spec TextMap.mapping (c := keyFor (some "X-Key") (some "k")) (by decide)
      .empty "https://h/").2 (by decide +kernel)
    rcases one with (⟨sets, -⟩ | ⟨adds, -⟩) | ⟨refused, -⟩
    · exact sets
    · exact absurd adds.2.1 (by decide)
    · exact absurd trivial refused.1
  · have one := (applyTo_spec Wire.Fields.mapping (c := keyFor (some []) (some "k")) (by decide)
      .empty "https://h/").2 (by decide +kernel)
    have unnamed {name value : Text} :
        ¬ (keyFor (some []) (some "k")).GoesToField name value := by
      rintro (⟨other, -⟩ | ⟨-, named, nonempty, -⟩)
      · exact absurd (by decide +kernel) other
      · cases named
        exact nonempty rfl
    rcases one with (⟨⟨_, _, _, goes, -⟩, -⟩ | ⟨adds, -⟩) | ⟨⟨-, _, _, _, goes, -⟩, -⟩
    · exact absurd goes unnamed
    · exact adds
    · exact absurd goes unnamed

end HttpCourier.Credential
