import HttpCourier.Credential.Completeness
import HttpCourier.Text.Base64

/-!
# HttpCourier.Credential.Placement

**Where a credential goes.** A complete credential becomes either a header field or a query
parameter; an incomplete one goes nowhere. A key that names both a header and a parameter goes
to the header.
-/

namespace HttpCourier.Credential

/-- The place of a credential in a request. -/
inductive Placement where
  | nowhere
  | header (name value : Text)
  | parameter (name value : Text)
  deriving DecidableEq, Repr

/-- The field that carries a basic or bearer credential. -/
def authorizationName : Text := "Authorization"

/-- The value of the field for a user name and a password. -/
def basicValue (username password : Text) : Except EncodeError Text :=
  (Text.encode .utf8 (username ++ [CodePoint.ofChar ':'] ++ password)).map fun bytes =>
    "Basic " ++ Base64.encode bytes

/-- The value of the field for a token. -/
def bearerValue (token : Text) : Text := "Bearer " ++ token

/-- The place of a key. -/
def keyPlacement (c : Credential) (key : Text) : Placement :=
  match given? c.keyHeader, given? c.keyQueryParam with
  | some name, _ => .header name key
  | none, some name => .parameter name key
  | none, none => .nowhere

/-- The place of a credential. -/
def placement (c : Credential) : Except EncodeError Placement :=
  match c.scheme? with
  | some .basic =>
    match given? c.username with
    | some username =>
      (basicValue username (c.password.getD [])).map (.header authorizationName)
    | none => .ok .nowhere
  | some .bearer =>
    match given? c.token with
    | some token => .ok (.header authorizationName (bearerValue token))
    | none => .ok .nowhere
  | some .apiKey =>
    match given? c.key with
    | some key => .ok (c.keyPlacement key)
    | none => .ok .nowhere
  | none => .ok .nowhere

end HttpCourier.Credential
