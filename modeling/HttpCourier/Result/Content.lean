import HttpCourier.Json.Reader
import HttpCourier.Request.Model
import HttpCourier.Result.Basic
import HttpCourier.Text.Unicode

/-!
# HttpCourier.Result.Content

**The content of a response as a JSON value**, in two ways. The tolerant way tells the encoding
from the first bytes; two things that stop the reader go through to whoever asked. The strict
way wants UTF-8 without lone surrogates and without deep nesting, and fits the value to what is
asked for; whatever goes wrong, there is no value then.
-/

namespace HttpCourier.Result

open Json (Value Token)
open Schema (Checked)

/-- What goes through to whoever asks for the content. -/
inductive ContentStop where
  | overlongInteger (digits : Nat)
  | tooDeep
  deriving DecidableEq, Repr

/-- The content as a JSON value, if it is one. -/
def contentJson (r : Result) : Except ContentStop (Option Value) :=
  match Text.ofDetected? r.content with
  | none => .ok none
  | some t =>
    match Json.read t with
    | .ok v => .ok (some v)
    | .error (.malformed ..) => .ok none
    | .error (.overlongInteger digits) => .error (.overlongInteger digits)
    | .error .tooDeep => .error .tooDeep

/-! ### The strict way -/

/-- How many containers may be open at once. -/
def strictDepth : Nat := 200

/-- Whether a token opens a container. -/
def opens : Token → Bool
  | .beginArray | .beginObject => true
  | _ => false

/-- Whether a token closes a container. -/
def closes : Token → Bool
  | .endArray | .endObject => true
  | _ => false

/-- Whether no more than `left` containers are opened within those that stand open. -/
def isShallow (left : Nat) : List (Nat × Token) → Bool
  | [] => true
  | (_, token) :: rest =>
    if opens token then
      match left with
      | 0 => false
      | left + 1 => isShallow left rest
    else if closes token then isShallow (left + 1) rest
    else isShallow left rest

/-- Whether a token is a string with a lone surrogate. -/
def isBroken : Token → Bool
  | .string t => t.any CodePoint.isSurrogate
  | _ => false

/-- The value of a JSON text in UTF-8. -/
def strictJson? (bytes : Bytes) : Option Value :=
  (Text.ofUtf8? bytes).bind fun t =>
    let tokens := Token.scan t
    if isShallow strictDepth tokens && !tokens.any fun token => isBroken token.2 then
      (Json.read t).toOption
    else none

/-- The content, fitted to what is asked for. -/
def contentAs (check : Value → Checked α) (r : Result) : Option α :=
  (strictJson? r.content).bind fun v =>
    match check v with
    | .fits a => some a
    | .rejects _ => none

/-! ### What can be asked for -/

/-- Any value. -/
def anyValue (v : Value) : Checked Value := .fits v

/-- A model that is made of the members of an object. -/
def model (name : String) (make : Json.Members → Except Schema.Rejection α) : Value → Checked α
  | .object members =>
    match make members with
    | .ok a => .fits a
    | .error r => .rejects r.complaints
  | _ => .fault (.notAModel name)

/-- A request description. It has no field for a raw JSON body. -/
def request : Value → Checked RequestSpec :=
  model RequestSpec.title fun members =>
    if members.has "raw_json_body" then
      .error ⟨RequestSpec.title, [⟨["raw_json_body"], .unknownField⟩]⟩
    else RequestSpec.ofFields members

/-- A retry plan. -/
def retryPlan : Value → Checked RetryPlan := model RetryPlan.title RetryPlan.ofFields

/-- A credential. -/
def credential : Value → Checked Credential := model Credential.title Credential.ofFields

end HttpCourier.Result
