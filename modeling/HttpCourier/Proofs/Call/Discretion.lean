import HttpCourier.Proofs.Call.Starts
import HttpCourier.Proofs.Wire.Variation

/-!
# HttpCourier.Proofs.Call.Discretion

**What the log tells of a credential.** Take two requests that differ only in their secrets. Their
credentials go to the same place (`Credential.SameButSecrets.site_eq`), so that the requests differ
in one value at most. What is logged of them is then the same, but for a key that is sent in a
header whose name is not sensitive, or in a parameter of the URL: the log shows that as it is
(`Session.execute_discreet`, and `Session.not_execute_discreet` for an example).
-/

namespace HttpCourier

open Redaction (isSensitive usualPatterns)

/-! ### Places of secrets -/

namespace Credential

/-- The place of a credential in a request, whatever is put there. -/
inductive Site where
  | nowhere
  | header (name : Text)
  | parameter (name : Text)
  deriving DecidableEq

def Placement.site : Placement → Site
  | .nowhere => .nowhere
  | .header name _ => .header name
  | .parameter name _ => .parameter name

/-- The place of a credential, which depends on its secrets only in that they are given. -/
def site (c : Credential) : Site :=
  match c.scheme? with
  | some .basic => if (given? c.username).isSome then .header authorizationName else .nowhere
  | some .bearer => if (given? c.token).isSome then .header authorizationName else .nowhere
  | some .apiKey => if (given? c.key).isSome then (c.keyPlacement []).site else .nowhere
  | none => .nowhere

variable {a b : Credential} {place : Placement}

theorem keyPlacement_site (a : Credential) (key : Text) :
    (a.keyPlacement key).site = (a.keyPlacement []).site := by
  unfold keyPlacement
  split <;> rfl

theorem placement_site (h : a.placement = .ok place) : place.site = a.site := by
  unfold placement at h
  unfold site
  generalize a.scheme? = scheme, given? a.username = username, given? a.token = token,
    given? a.key = key at *
  cases scheme with
  | none =>
    cases h
    rfl
  | some scheme =>
    cases scheme with
    | basic =>
      cases username with
      | none =>
        cases h
        rfl
      | some username =>
        obtain ⟨value, -, rfl⟩ := ok_of_map h
        rfl
    | bearer => cases token <;> cases h <;> rfl
    | apiKey =>
      cases key with
      | none =>
        cases h
        rfl
      | some key =>
        cases h
        exact a.keyPlacement_site key

/-- What is put into a parameter is the key. -/
theorem key_of_parameter {name value : Text} (h : a.placement = .ok (.parameter name value)) :
    a.key = some value := by
  rcases placement_cases h with nowhere | ⟨_, header⟩ | ⟨key, given, place⟩
  · cases nowhere
  · cases header
  · unfold keyPlacement at place
    split at place <;> cases place
    exact given

/-- The credentials differ only in their secrets, and a token or a key is given in both of them or
in neither. -/
structure SameButSecrets (a b : Credential) : Prop where
  kind : b.kind = a.kind
  username : b.username = a.username
  keyHeader : b.keyHeader = a.keyHeader
  keyQueryParam : b.keyQueryParam = a.keyQueryParam
  token : (given? b.token).isSome = (given? a.token).isSome
  key : (given? b.key).isSome = (given? a.key).isSome

/-- **A secret does not decide on its place.** -/
theorem SameButSecrets.site_eq (h : a.SameButSecrets b) : b.site = a.site := by
  unfold site scheme? keyPlacement
  rw [h.kind, h.username, h.keyHeader, h.keyQueryParam, h.token, h.key]

/-- Nothing of what is put at the place is logged. -/
def Site.Hidden : Site → Prop
  | nowhere => True
  | header name => isSensitive usualPatterns name = true
  | parameter _ => False

/-- **User names, passwords and tokens are hidden**: only keys may not be. -/
theorem hidden_of_ne_apiKey (h : a.scheme? ≠ some .apiKey) : a.site.Hidden := by
  have authorization : isSensitive usualPatterns authorizationName = true := by decide +kernel
  unfold site
  split
  · split
    · exact authorization
    · trivial
  · split
    · exact authorization
    · trivial
  · next key => exact absurd key h
  · trivial

end Credential

/-! ### What is logged of a request -/

/-- What the log tells of a request, besides what is configured. -/
structure Logged where
  url : Text
  headers : List (Text × Text)
  deriving DecidableEq

/-- What the log tells of a request, unless its header fields cannot be listed. -/
def Wire.Outgoing.logged (patterns : List Text) (o : Wire.Outgoing) : Except Text Logged :=
  o.headers.items.map fun items => ⟨Redaction.url o.url, Redaction.headers patterns items⟩

/-- What may be logged of two requests that differ only in the secrets of their credentials. -/
inductive Logged.Alike (a b : Credential) : Logged → Logged → Prop
  /-- The secret is hidden. -/
  | hidden (hidden : a.site.Hidden) (l : Logged) : Alike a b l l
  /-- A key is shown as the value of a header. -/
  | header {name : Text} (site : a.site = .header name)
      (plain : isSensitive usualPatterns name = false) (url : Text)
      {headers headers' : List (Text × Text)}
      (agree : List.Forall₂ (AgreeBut (Text.asciiLower name)) headers headers') :
      Alike a b ⟨url, headers⟩ ⟨url, headers'⟩
  /-- A key is shown, form-encoded, at the end of the URL. -/
  | parameter {name key key' shown shown' : Text} (site : a.site = .parameter name)
      (given : a.key = some key) (given' : b.key = some key')
      (encoded : Url.formEncode key = .ok shown) (encoded' : Url.formEncode key' = .ok shown')
      (url : Text) (headers : List (Text × Text)) :
      Alike a b ⟨url ++ shown, headers⟩ ⟨url ++ shown', headers⟩

/-- What is logged does not depend on a secret that is hidden. -/
theorem Logged.Alike.eq_of_hidden {a b : Credential} {l l' : Logged} (h : Alike a b l l')
    (hidden : a.site.Hidden) : l' = l := by
  cases h with
  | hidden _ l => rfl
  | header site plain _ _ =>
    rw [site] at hidden
    rw [show isSensitive usualPatterns _ = true from hidden] at plain
    cases plain
  | parameter site _ _ _ _ _ _ =>
    rw [site] at hidden
    exact hidden.elim

/-- The request with a credential. -/
def RequestSpec.bearing (r : RequestSpec) (a : Credential) : RequestSpec :=
  { r with credential := some a }

namespace Wire.Outgoing

variable {a b : Credential} {r : RequestSpec} {o o' : Outgoing}

/-- **Secrets at the same place** do not show, but for a key in an open place. -/
theorem logged_alike (same : a.SameButSecrets b) (built : ofSpec (r.bearing a) = .ok o)
    (built' : ofSpec (r.bearing b) = .ok o') :
    InStep (Logged.Alike a b) (o.logged usualPatterns) (o'.logged usualPatterns) := by
  obtain ⟨place, placed, ⟨url, hu, put⟩, holds⟩ := built_of_ofSpec built
  obtain ⟨place', placed', ⟨url', hu', put'⟩, holds'⟩ := built_of_ofSpec built'
  have site : place.site = a.site := Credential.placement_site placed
  have site' : place'.site = place.site :=
    ((Credential.placement_site placed').trans same.site_eq).trans site.symm
  have url_eq : url' = url := Except.ok.inj (hu'.symm.trans hu)
  subst url_eq
  unfold logged
  rw [holds.items, holds'.items]
  cases place with
  | nowhere =>
    cases place' <;> cases site'
    rw [← Except.ok.inj put, ← Except.ok.inj put']
    have hidden : a.site.Hidden := site ▸ trivial
    exact (InStep.refl (fun _ => rfl) _).map fun l _ equal => equal ▸ .hidden hidden _
  | header name value =>
    cases place' <;> cases site'
    next value' =>
      rw [← Except.ok.inj put, ← Except.ok.inj put']
      have placed : TextFields.Varies name [(name, value)] [(name, value')] :=
        .first (fun _ h => absurd h List.not_mem_nil) value value'
      have agree := (placed.addHeaders r.headers.entries).items
      by_cases sensitive : isSensitive usualPatterns name = true
      · have hidden : a.site.Hidden := site ▸ sensitive
        refine agree.map fun items items' agree => ?_
        rw [Redaction.headers_eq_of_sensitive
          ((Redaction.isSensitive_asciiLower _ name).trans sensitive) agree]
        exact .hidden hidden _
      · exact agree.map fun _ _ agree =>
          .header site.symm (Bool.eq_false_iff.2 sensitive) _ (Redaction.headers_agreeBut _ agree)
  | parameter name value =>
    cases place' <;> cases site'
    obtain ⟨n, shown, hn, encoded, shows⟩ := Redaction.url_appendParameter put
    obtain ⟨n', shown', hn', encoded', shows'⟩ := Redaction.url_appendParameter put'
    cases hn.symm.trans hn'
    rw [shows, shows']
    exact (InStep.refl (fun _ => rfl) _).map fun l _ equal => equal ▸
      .parameter site.symm (Credential.key_of_parameter placed)
        (Credential.key_of_parameter placed') encoded encoded' _ _

end Wire.Outgoing

/-! ### Whole calls -/

namespace Call

/-- The event of a request that is about to be sent, with what is logged of it. -/
def startWith (c : Call) (i : Nat) (l : Logged) : Log.Event :=
  c.event i .debug "http_request_start"
    [("request_url", .string l.url),
      ("headers", .object (l.headers.map fun (n, v) => (n, .string v)))]

variable {c : Call} {o : Wire.Outgoing} {s : Surroundings} {r : CallRecord}

/-- Where requests are logged, an event tells what is logged of its request. -/
theorem startEvent_eq (logs : c.settings.logsRequests = true) (o : Wire.Outgoing) (i : Nat) :
    c.startEvent i o = (o.logged c.settings.sensitivePatterns).map (c.startWith i) := by
  unfold startEvent Wire.Outgoing.logged
  rw [if_pos logs]
  cases o.headers.items <;> rfl

/-- **The starts of a run** tell what is logged of its request, once for each attempt. -/
theorem Runs.starts_logged {patterns : List Text} (h : c.Runs 1 s r)
    (logs : c.settings.logsRequests = true) (listed : c.settings.sensitivePatterns = patterns)
    (built : Wire.Outgoing.ofSpec c.spec = .ok o) :
    r.trace.starts = match o.logged patterns with
      | .error _ => []
      | .ok l => (List.range r.progress.attempt).map fun k => c.startWith (k + 1) l := by
  subst listed
  have starting (i : Nat) : c.starting? i =
      (o.logged c.settings.sensitivePatterns).toOption.map (c.startWith i) := by
    unfold starting?
    rw [built]
    show (c.startEvent i o).toOption = _
    rw [startEvent_eq logs]
    cases o.logged c.settings.sensitivePatterns <;> rfl
  rw [h.starts_eq]
  simp only [starting]
  cases o.logged c.settings.sensitivePatterns with
  | error name => exact List.filterMap_eq_nil_iff.2 fun _ _ => rfl
  | ok l => exact congrFun List.filterMap_eq_map' _

/-- The first start of a run, if there is one. -/
theorem Runs.first_start {patterns : List Text} {l : Logged} (h : c.Runs 1 s r)
    (logs : c.settings.logsRequests = true) (listed : c.settings.sensitivePatterns = patterns)
    (built : Wire.Outgoing.ofSpec c.spec = .ok o) (told : o.logged patterns = .ok l) :
    r.trace.starts[0]? = some (c.startWith 1 l) := by
  obtain ⟨n, extent⟩ := h.extends
  have positive : 0 < r.progress.attempt := extent.number ▸ extent.positive
  rw [h.starts_logged logs listed built, told, List.getElem?_map, List.getElem?_range positive]
  rfl

/-- An event shows all that is logged of its request. -/
theorem startWith_inj {i : Nat} {l l' : Logged} (h : c.startWith i l = c.startWith i l') :
    l = l' := by
  have fields := List.append_cancel_left (congrArg Log.Event.fields h)
  obtain ⟨url, rest⟩ := List.cons_eq_cons.1 fields
  have headers := Json.Value.object.inj (congrArg Prod.snd (List.cons_eq_cons.1 rest).1)
  have entries : l.headers = l'.headers := by
    refine List.map_injective_iff.2 ?_ headers
    rintro ⟨n, v⟩ ⟨m, w⟩ same
    change (n, Json.Value.string v) = (m, Json.Value.string w) at same
    cases same
    rfl
  cases l
  cases l'
  cases Json.Value.string.inj (congrArg Prod.snd url)
  cases entries
  rfl

end Call

namespace Session

/-- **What the log tells of a credential.** Two requests that differ only in their secrets log the
same as they start, attempt by attempt, in any two sessions with the same settings; but a key that
is not hidden may show in the one header that it is sent in, or at the end of the URL. If the header
fields of the one cannot be listed, then neither can those of the other, and no start is logged. -/
theorem execute_discreet (s s' : Session) (settings : s'.settings = s.settings)
    (logs : s.settings.logsRequests = true)
    (usual : s.settings.sensitivePatterns = usualPatterns) (spec : RequestSpec)
    {a b : Credential} (same : a.SameButSecrets b) {o o' : Wire.Outgoing}
    (built : Wire.Outgoing.ofSpec (spec.bearing a) = .ok o)
    (built' : Wire.Outgoing.ofSpec (spec.bearing b) = .ok o') (signals signals' : Signals) :
    let c := s.callOf (spec.bearing a) signals
    let r := (s.execute (.spec (spec.bearing a)) signals).1
    let r' := (s'.execute (.spec (spec.bearing b)) signals').1
    (a.scheme? ≠ some .apiKey → a.site.Hidden) ∧
    ((∃ name, o.logged usualPatterns = .error name ∧ o'.logged usualPatterns = .error name) ∧
        r.trace.starts = [] ∧ r'.trace.starts = [] ∨
      ∃ l l', Logged.Alike a b l l' ∧ (a.site.Hidden → l' = l) ∧
        r.trace.starts = (List.range r.progress.attempt).map (fun k => c.startWith (k + 1) l) ∧
        r'.trace.starts =
          (List.range r'.progress.attempt).map fun k => c.startWith (k + 1) l') := by
  intro c r r'
  refine ⟨Credential.hidden_of_ne_apiKey, ?_⟩
  -- The two sessions may be in different states, but their settings are the same.
  obtain ⟨host, clock', now', script', jars', tally'⟩ := s'
  obtain rfl : host = s.settings := settings
  have starts := (s.runs_execute (spec.bearing a) signals).starts_logged logs usual built
  have starts' := (runs_execute ⟨s.settings, clock', now', script', jars', tally'⟩ (spec.bearing b)
    signals').starts_logged logs usual built'
  have alike := Wire.Outgoing.logged_alike same built built'
  generalize o.logged usualPatterns = x, o'.logged usualPatterns = y at *
  cases alike with
  | error name => exact .inl ⟨⟨name, rfl, rfl⟩, starts, starts'⟩
  | ok related => exact .inr ⟨_, _, related, related.eq_of_hidden, starts, starts'⟩

/-- A host that logs requests. -/
def talkative : Settings := { Settings.usual with logsRequests := true }

/-- A bearer token. -/
def bearer (token : Text) : Credential :=
  ⟨⟨"bearer", by decide, by decide⟩, none, none, some token, none, none, none⟩

/-- What is logged of the plain request with a credential. -/
def loggedAtHome (a : Credential) : Option Logged :=
  (Wire.Outgoing.ofSpec (RequestSpec.home.bearing a)).toOption.bind fun o =>
    (o.logged usualPatterns).toOption

theorem loggedAtHome_eq_some {a : Credential} {l : Logged} (h : loggedAtHome a = some l) :
    ∃ o, Wire.Outgoing.ofSpec (RequestSpec.home.bearing a) = .ok o ∧
      o.logged usualPatterns = .ok l := by
  unfold loggedAtHome at h
  cases built : Wire.Outgoing.ofSpec (RequestSpec.home.bearing a) with
  | error f =>
    rw [built] at h
    cases h
  | ok o =>
    rw [built] at h
    refine ⟨o, rfl, ?_⟩
    change (o.logged usualPatterns).toOption = some l at h
    cases told : o.logged usualPatterns with
    | error name =>
      rw [told] at h
      cases h
    | ok l' =>
      rw [told] at h
      cases h
      rfl

/-- Two tokens, of which nothing is told. -/
theorem execute_discreet_bearer :
    let s := start talkative .silent .stopped
    let r := (s.execute (.spec (RequestSpec.home.bearing (bearer "one"))) .none).1
    let r' := (s.execute (.spec (RequestSpec.home.bearing (bearer "two"))) .none).1
    s.settings.logsRequests = true ∧ s.settings.sensitivePatterns = usualPatterns ∧
      (bearer "one").SameButSecrets (bearer "two") ∧
      (∃ o, Wire.Outgoing.ofSpec (RequestSpec.home.bearing (bearer "one")) = .ok o) ∧
      (∃ o, Wire.Outgoing.ofSpec (RequestSpec.home.bearing (bearer "two")) = .ok o) ∧
      (r.progress.attempt = r'.progress.attempt → r'.trace.starts = r.trace.starts) := by
  intro s r r'
  have told : loggedAtHome (bearer "one") =
      some ⟨"https://h/", [("authorization", "[REDACTED]")]⟩ := by decide +kernel
  have told' : loggedAtHome (bearer "two") =
      some ⟨"https://h/", [("authorization", "[REDACTED]")]⟩ := by decide +kernel
  obtain ⟨o, built, -⟩ := loggedAtHome_eq_some told
  obtain ⟨o', built', -⟩ := loggedAtHome_eq_some told'
  have same : (bearer "one").SameButSecrets (bearer "two") := ⟨rfl, rfl, rfl, rfl, rfl, rfl⟩
  refine ⟨rfl, rfl, same, ⟨o, built⟩, ⟨o', built'⟩, fun long => ?_⟩
  obtain ⟨hidden, starts⟩ := execute_discreet s s rfl rfl rfl .home same built built' .none .none
  rcases starts with ⟨-, none, none'⟩ | ⟨l, l', -, equal, starts, starts'⟩
  · exact none'.trans none.symm
  · rw [starts, starts', equal (hidden (by decide)), long]

/-- No two requests that differ in the secrets of these credentials can be told apart by what is
logged as they start, in any two sessions with the same settings. -/
def Untold (a b : Credential) : Prop :=
  ∀ (s s' : Session) (spec : RequestSpec) (signals signals' : Signals),
    s'.settings = s.settings → s.settings.logsRequests = true →
    s.settings.sensitivePatterns = usualPatterns → a.SameButSecrets b →
    (∃ o, Wire.Outgoing.ofSpec (spec.bearing a) = .ok o) →
    (∃ o, Wire.Outgoing.ofSpec (spec.bearing b) = .ok o) →
    ∀ (i : Nat) (e e' : Log.Event),
      (s.execute (.spec (spec.bearing a)) signals).1.trace.starts[i]? = some e →
      (s'.execute (.spec (spec.bearing b)) signals').1.trace.starts[i]? = some e' → e' = e

theorem not_untold {a b : Credential} {l l' : Logged} (same : a.SameButSecrets b)
    (told : loggedAtHome a = some l) (told' : loggedAtHome b = some l') (differ : l' ≠ l) :
    ¬ Untold a b := by
  intro h
  obtain ⟨o, built, shown⟩ := loggedAtHome_eq_some told
  obtain ⟨o', built', shown'⟩ := loggedAtHome_eq_some told'
  let s := start talkative .silent .stopped
  have first := (s.runs_execute (RequestSpec.home.bearing a) .none).first_start rfl rfl built shown
  have first' := (s.runs_execute (RequestSpec.home.bearing b) .none).first_start rfl rfl built'
    shown'
  exact differ (Call.startWith_inj
    (h s s .home .none .none rfl rfl rfl same ⟨o, built⟩ ⟨o', built'⟩ 0 _ _ first first'))

/-- A key in a header or in a parameter. -/
def keyed (key : Text) (header parameter : Option Text) : Credential :=
  ⟨⟨"api_key", by decide, by decide⟩, none, none, none, some key, header, parameter⟩

/-- A key may be told, in a header as well as in a parameter. -/
theorem not_execute_discreet :
    (¬ ∀ a b : Credential, (∃ name, a.site = .header name) → Untold a b) ∧
      ¬ ∀ a b : Credential, (∃ name, a.site = .parameter name) → Untold a b := by
  constructor
  · intro h
    have told : loggedAtHome (keyed "one" (some "X-Custom") none) =
        some ⟨"https://h/", [("x-custom", "one")]⟩ := by decide +kernel
    have told' : loggedAtHome (keyed "two" (some "X-Custom") none) =
        some ⟨"https://h/", [("x-custom", "two")]⟩ := by decide +kernel
    have same : (keyed "one" (some "X-Custom") none).SameButSecrets
        (keyed "two" (some "X-Custom") none) := ⟨rfl, rfl, rfl, rfl, rfl, rfl⟩
    exact not_untold same told told' (by decide) (h _ _ ⟨"X-Custom", by decide⟩)
  · intro h
    have told : loggedAtHome (keyed "one" none (some "k")) =
        some ⟨"https://h/?k=one", []⟩ := by decide +kernel
    have told' : loggedAtHome (keyed "two" none (some "k")) =
        some ⟨"https://h/?k=two", []⟩ := by decide +kernel
    have same : (keyed "one" none (some "k")).SameButSecrets (keyed "two" none (some "k")) :=
      ⟨rfl, rfl, rfl, rfl, rfl, rfl⟩
    exact not_untold same told told' (by decide) (h _ _ ⟨"k", by decide⟩)

end Session

end HttpCourier
