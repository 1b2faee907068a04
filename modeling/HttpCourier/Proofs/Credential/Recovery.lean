import HttpCourier.Proofs.Credential.Application
import HttpCourier.Proofs.Url.Form

/-!
# HttpCourier.Proofs.Credential.Recovery

**A name and a password can be read back** from the field that they are sent in. The three steps by
which they are written are undone one after the other: Base64, UTF-8, and the colon, which is the
first one because the name has none. So different credentials have different fields, except that no
password is the same as an empty one (`basic_recovered`).
-/

namespace HttpCourier.Credential

variable {c c' : Credential} {username username' value value' : Text}

/-- A credential of a name, which has no colon, and perhaps a password. -/
structure IsBasic (c : Credential) (username : Text) : Prop where
  scheme : c.scheme? = some .basic
  given : c.username = some username
  nonempty : username ≠ []
  undivided : CodePoint.ofChar ':' ∉ username
  scalar : username.Scalar
  password : ∀ t ∈ c.password, Text.Scalar t

/-- In headers of any kind the credential sets the field that all but a key share to the value, and
leaves the URL as it is. -/
def Authorizes (c : Credential) (value : Text) : Prop :=
  ∀ (H : Type) (set : H → Text → Text → Except EncodeError H) (headers : H) (url : Text),
    c.applyTo set headers url = (set headers authorizationName value).map (·, url)

theorem Authorizes.unique (h : c.Authorizes value) (h' : c.Authorizes value') : value = value' := by
  -- A kind of headers that keeps nothing but the last value tells two values apart.
  have same := (h Text (fun _ _ value => .ok value) [] []).symm.trans
    (h' Text (fun _ _ value => .ok value) [] [])
  exact congrArg Prod.fst (Except.ok.inj same)

/-- The value of a name and a password. -/
def basicText (username password : Text) : Text :=
  "Basic " ++ Base64.encode ((joined username password).bytesIn .utf8)

theorem IsBasic.authorizes (basic : c.IsBasic username) :
    c.Authorizes (basicText username (c.password.getD [])) := by
  have placed : c.placement =
      .ok (.header authorizationName (basicText username (c.password.getD []))) := by
    unfold placement
    rw [basic.scheme, basic.given]
    dsimp only
    rw [given?_eq_some_iff.2 ⟨rfl, basic.nonempty⟩]
    dsimp only
    rw [basicValue_ok basic.scalar (scalar_getD basic.password)]
    rfl
  intro H set headers url
  unfold applyTo
  rw [placed]
  show (set headers authorizationName _ >>= fun headers' => .ok (headers', url)) = _
  cases set headers authorizationName (basicText username (c.password.getD [])) <;> rfl

/-- The colon between the name and the password is the first one. -/
theorem splitFirst?_joined {password : Text} (undivided : CodePoint.ofChar ':' ∉ username) :
    Text.splitFirst? ':' (joined username password) = some (username, password) := by
  unfold joined
  rw [List.append_assoc]
  exact Text.splitFirst?_append undivided password

/-- Equal values are those of equal names and passwords. -/
theorem basicText_inj {password password' : Text} (hu : username.Scalar) (hp : password.Scalar)
    (undivided : CodePoint.ofChar ':' ∉ username) (hu' : username'.Scalar)
    (hp' : password'.Scalar) (undivided' : CodePoint.ofChar ':' ∉ username') :
    basicText username' password' = basicText username password ↔
      username' = username ∧ password' = password := by
  constructor
  · intro same
    have encoded := List.append_cancel_left same
    have bytes := congrArg Base64.decode? encoded
    rw [Base64.decode?_encode, Base64.decode?_encode] at bytes
    have text := (Text.bytesIn_inj (scalar_joined hu' hp') (scalar_joined hu hp)).1
      (Option.some.inj bytes)
    have parts := congrArg (Text.splitFirst? ':') text
    rw [splitFirst?_joined undivided', splitFirst?_joined undivided] at parts
    exact Prod.mk.inj (Option.some.inj parts)
  · rintro ⟨rfl, rfl⟩
    rfl

/-- **A name and a password can be read back.** Behind the scheme stands padded Base64 of a text in
UTF-8, whose first colon stands between the name and the password; without a password that is
empty. So two such credentials have the same field only if they are the same up to this. -/
theorem basic_recovered (basic : c.IsBasic username) :
    ∃ value, c.Authorizes value ∧
      (∃ encoded bytes text, value = "Basic " ++ encoded ∧
        encoded.length = 4 * ((bytes.length + 2) / 3) ∧ Base64.decode? encoded = some bytes ∧
        Text.ofUtf8? bytes = some text ∧
        Text.splitFirst? ':' text = some (username, c.password.getD [])) ∧
      ∀ c' username', IsBasic c' username' → (c'.Authorizes value ↔
        username' = username ∧ c'.password.getD [] = c.password.getD []) := by
  have hp := scalar_getD basic.password
  refine ⟨_, basic.authorizes, ⟨_, _, _, rfl, Base64.length_encode _, Base64.decode?_encode _,
    Text.ofUtf8?_bytesIn (scalar_joined basic.scalar hp), splitFirst?_joined basic.undivided⟩, ?_⟩
  intro c' username' basic'
  have inj := basicText_inj basic.scalar hp basic.undivided basic'.scalar
    (scalar_getD basic'.password) basic'.undivided
  refine ⟨fun same => inj.1 (basic'.authorizes.unique same), fun equal => ?_⟩
  rw [← inj.2 equal]
  exact basic'.authorizes

/-- A name beyond ASCII and a password with colons, under a scheme in capital letters. -/
def divided : Credential :=
  ⟨⟨"BASIC", by decide, by decide⟩, some "é", some ":p:", none, none, none, none⟩

theorem basic_recovered_divided :
    ∃ encoded bytes text, divided.Authorizes ("Basic " ++ encoded) ∧
      encoded = Text.ofString "w6k6OnA6" ∧ Base64.decode? encoded = some bytes ∧
      Text.ofUtf8? bytes = some text ∧
      Text.splitFirst? ':' text = some (Text.ofString "é", Text.ofString ":p:") := by
  have basic : divided.IsBasic "é" :=
    ⟨by decide +kernel, rfl, by decide, by decide, by decide, by decide⟩
  obtain ⟨value, authorizes, ⟨encoded, bytes, text, rfl, -, decoded, read, parts⟩, -⟩ :=
    basic_recovered basic
  have same : ("Basic " : Text) ++ encoded = basicText "é" ":p:" :=
    authorizes.unique basic.authorizes
  have encoded_eq : encoded = Text.ofString "w6k6OnA6" :=
    List.append_cancel_left (same.trans (show basicText "é" ":p:" =
      ("Basic " : Text) ++ Text.ofString "w6k6OnA6" by decide +kernel))
  exact ⟨encoded, bytes, text, authorizes, encoded_eq, decoded, read, parts⟩

end HttpCourier.Credential
