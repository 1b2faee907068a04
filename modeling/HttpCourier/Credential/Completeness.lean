import HttpCourier.Request.Spec

/-!
# HttpCourier.Credential.Completeness

**Whether a credential can be used.** Each scheme needs values of its own, and an empty text
counts as no value. What is missing is listed; a credential is complete if nothing is.
-/

namespace HttpCourier.Credential

/-- Something that a credential lacks. -/
inductive Gap where
  | username
  | token
  | key
  /-- Neither a header nor a query parameter is named for the key. -/
  | placement
  | unknownScheme (name : Text)
  deriving DecidableEq, Repr

/-- The wording of a gap. -/
def Gap.message : Gap → Text
  | username => "Basic auth requires 'username'"
  | token => "Bearer auth requires 'token'"
  | key => "API key auth requires 'key'"
  | placement => "API key auth requires either 'key_header' or 'key_query_param'"
  | unknownScheme name =>
    "Unknown auth type: '" ++ name ++ "'. Valid types are: " ++
      Text.ofString (", ".intercalate (Scheme.all.map Scheme.name))

/-- The value, where it is not empty. -/
def given? : Option Text → Option Text
  | some [] => none
  | t => t

/-- What the credential lacks. -/
def gaps (c : Credential) : List Gap :=
  match c.scheme? with
  | some .basic => if (given? c.username).isNone then [.username] else []
  | some .bearer => if (given? c.token).isNone then [.token] else []
  | some .apiKey =>
    (if (given? c.key).isNone then [.key] else []) ++
      (if (given? c.keyHeader).isNone && (given? c.keyQueryParam).isNone then [.placement] else [])
  | none => [.unknownScheme c.kind.text]

end HttpCourier.Credential
