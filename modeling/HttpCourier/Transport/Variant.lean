/-!
# HttpCourier.Transport.Variant

**The four clients.** A request is sent by the client that has its certificate and redirect
policy; there is one for each combination. Clients are made once and shared by all calls.
-/

namespace HttpCourier

/-- The policy of a client. -/
structure Variant where
  ignoreCertificateErrors : Bool
  followRedirects : Bool
  deriving DecidableEq, Repr

namespace Variant

/-- The policies, in the order in which their clients are made. -/
def all : List Variant := [⟨false, true⟩, ⟨false, false⟩, ⟨true, true⟩, ⟨true, false⟩]

/-- The name of a client in events. -/
def name (v : Variant) : String :=
  "http_executor" ++ (if v.ignoreCertificateErrors then ".ignore_certs" else "") ++
    (if v.followRedirects then "" else ".no_redirect")

/-- The place of a policy among all. -/
def index (v : Variant) : Nat := all.idxOf v

end Variant

end HttpCourier
