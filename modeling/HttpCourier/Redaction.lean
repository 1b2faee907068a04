import HttpCourier.Request.TextMap
import HttpCourier.Text.Case

/-!
# HttpCourier.Redaction

**Secrets taken out of what is logged.** The value of a header is replaced if the header's name
contains one of a list of words, in any letter case. In a text, a user name and a password that
stand in front of the host of a URL are replaced.
-/

namespace HttpCourier.Redaction

/-- What stands in the place of a secret. -/
def mark : Text := "[REDACTED]"

/-- The words that mark a header as sensitive where none are configured. -/
def usualPatterns : List Text := ["Authorization", "API-Key", "Token", "Secret", "Password"]

/-- Whether the name of a header contains one of the words. -/
def isSensitive (patterns : List Text) (name : Text) : Bool :=
  patterns.any fun p => Text.hasBlock (Text.lower name) (Text.lower p)

/-- The value of a header, replaced if its name is sensitive. -/
def value (patterns : List Text) (name value : Text) : Text :=
  if isSensitive patterns name then mark else value

/-- Headers with the values of sensitive ones replaced. -/
def headers (patterns : List Text) (entries : List (Text × Text)) : List (Text × Text) :=
  entries.map fun (n, v) => (n, value patterns n v)

/-! ### Credentials in URLs -/

/-- The scheme and the slashes with which a URL at the start of the text begins. -/
def schemeAtStart? (t : Text) : Option Text :=
  if Text.startsWith t "https://" then some "https://"
  else if Text.startsWith t "http://" then some "http://"
  else none

/-- Whether a user name can hold the code point. -/
def inUser (c : CodePoint) : Bool := c != ':' && c != '/' && c != '@'

/-- Whether a password can hold the code point. -/
def inPassword (c : CodePoint) : Bool := c != '@' && c != '/'

/-- The scheme of a URL with credentials at the start of the text, and how many code points the
scheme and the credentials take, the `@` included. -/
def credentialsAtStart? (t : Text) : Option (Text × Nat) :=
  match schemeAtStart? t with
  | none => none
  | some scheme =>
    let rest := t.drop scheme.length
    let user := rest.takeWhile inUser
    let rest := rest.drop user.length
    let password := (rest.drop 1).takeWhile inPassword
    let rest' := rest.drop (1 + password.length)
    if user ≠ [] ∧ rest.head? = some (CodePoint.ofChar ':') ∧ password ≠ [] ∧
        rest'.head? = some (CodePoint.ofChar '@') then
      some (scheme, scheme.length + user.length + password.length + 2)
    else none

/-- What stands in the place of credentials. -/
def credentialsMark : Text := mark ++ [CodePoint.ofChar ':'] ++ mark ++ [CodePoint.ofChar '@']

/-- The rest of a text with credentials replaced, after `skip` code points that belong to
credentials replaced already. -/
def urlFrom (skip : Nat) : Text → Text
  | [] => []
  | c :: rest =>
    match skip with
    | skip + 1 => urlFrom skip rest
    | 0 =>
      match credentialsAtStart? (c :: rest) with
      | some (scheme, length) => scheme ++ credentialsMark ++ urlFrom (length - 1) rest
      | none => c :: urlFrom 0 rest

/-- The text with the credentials of its URLs replaced. -/
def url (t : Text) : Text := urlFrom 0 t

end HttpCourier.Redaction
