import HttpCourier.Credential.Placement
import HttpCourier.Url.Form

/-!
# HttpCourier.Credential.Application

**A credential in its place.** Headers are of any kind that a field can be set in: those of a
request, or a plain mapping.
-/

namespace HttpCourier.Credential

/-- The headers and the URL with the credential in its place. -/
def applyTo (set : H → Text → Text → Except EncodeError H) (c : Credential) (headers : H)
    (url : Text) : Except EncodeError (H × Text) := do
  match ← c.placement with
  | .nowhere => return (headers, url)
  | .header name value => return (← set headers name value, url)
  | .parameter name value => return (headers, ← Url.appendParameter url name value)

end HttpCourier.Credential
