import HttpCourier.Json.Token

/-!
# HttpCourier.Json.Reader

**Values from tokens.** The reader goes through the tokens once. It keeps the containers that
stand open around it as a stack, and what the next token may be as a phase. An error is found
at the first token that does not fit its phase.

* `Reader.step` is one token.
* `Reader.run` goes through the tokens up to the end of the text.
* `read` is the reader of a whole text.
-/

namespace HttpCourier.Json

/-- A container around the place of reading, which waits for a value. -/
inductive Frame where
  /-- An array, with the elements before, in reverse order. -/
  | array (before : List Value)
  /-- An object, with the members before, and the name whose value is awaited. -/
  | object (before : Members) (name : Text)

/-- What the next token may be. -/
inductive Phase where
  /-- A value that stands in no container. -/
  | top
  /-- An element of an array, or its end where it is still empty and no comma has been read. -/
  | element (before : List Value) (mayEnd : Bool)
  /-- A comma or the end of an array. -/
  | afterElement (before : List Value)
  /-- A member's name, or the end of an object where it may end. -/
  | name (before : Members) (mayEnd : Bool)
  /-- The colon after a name. -/
  | colon (before : Members) (name : Text)
  /-- The value after a colon. -/
  | member (before : Members) (name : Text)
  /-- A comma or the end of an object. -/
  | afterMember (before : Members)
  /-- Nothing: the value is complete. -/
  | done (v : Value)

/-- The state of reading: the open containers, the innermost first, and the phase. -/
structure Reader where
  stack : List Frame
  phase : Phase

namespace Reader

/-- A value is complete where the given containers wait for it. -/
def complete (v : Value) : List Frame → Reader
  | [] => ⟨[], .done v⟩
  | .array before :: stack => ⟨stack, .afterElement (v :: before)⟩
  | .object before name :: stack => ⟨stack, .afterMember (before.insert name v)⟩

/-- A fault at an offset. -/
abbrev Fault := Reason × Nat

/-- Why reading stops: at a fault, or for one of the two limits. -/
inductive Stop where
  | fault (reason : Reason) (offset : Nat)
  | overlongInteger (digits : Nat)
  | tooDeep

/-- A container opens where the given ones stand around it. -/
def open_ (stack : List Frame) (phase : Phase) : Except Stop Reader :=
  if maxDepth ≤ stack.length then .error .tooDeep else .ok ⟨stack, phase⟩

/-- A token where a value is due, in the given containers. -/
def startValue (offset : Nat) (stack : List Frame) : Token → Except Stop Reader
  | .beginArray => open_ stack (.element [] true)
  | .beginObject => open_ stack (.name [] true)
  | .word v => .ok (complete v stack)
  | .string t => .ok (complete (.string t) stack)
  | .number n =>
    match n.value with
    | .ok v => .ok (complete v stack)
    | .error digits => .error (.overlongInteger digits)
  | .brokenString reason place => .error (.fault reason place)
  | _ => .error (.fault .expectingValue offset)

/-- One token. -/
def step (r : Reader) (offset : Nat) (token : Token) : Except Stop Reader :=
  match r.phase with
  | .top => startValue offset r.stack token
  | .element before mayEnd =>
    match token, mayEnd with
    | .endArray, true => .ok (complete (.array before.reverse) r.stack)
    | _, _ => startValue offset (.array before :: r.stack) token
  | .afterElement before =>
    match token with
    | .comma => .ok ⟨r.stack, .element before false⟩
    | .endArray => .ok (complete (.array before.reverse) r.stack)
    | _ => .error (.fault .expectingComma offset)
  | .name before mayEnd =>
    match token, mayEnd with
    | .endObject, true => .ok (complete (.object before) r.stack)
    | .string t, _ => .ok ⟨r.stack, .colon before t⟩
    | .brokenString reason place, _ => .error (.fault reason place)
    | _, _ => .error (.fault .expectingName offset)
  | .colon before name =>
    match token with
    | .colon => .ok ⟨r.stack, .member before name⟩
    | _ => .error (.fault .expectingColon offset)
  | .member before name => startValue offset (.object before name :: r.stack) token
  | .afterMember before =>
    match token with
    | .comma => .ok ⟨r.stack, .name before false⟩
    | .endObject => .ok (complete (.object before) r.stack)
    | _ => .error (.fault .expectingComma offset)
  | .done _ => .error (.fault .extraData offset)

/-- The tokens up to the end of the text. -/
def run (r : Reader) : List (Nat × Token) → Except Stop Value
  | [] => .error (.fault .expectingValue 0)
  | (offset, token) :: rest =>
    match r.phase, token with
    | .done v, .finish => .ok v
    | _, _ =>
      match r.step offset token with
      | .ok r' => run r' rest
      | .error stop => .error stop

/-- The state before the first token. -/
def start : Reader := ⟨[], .top⟩

end Reader

/-- The value of a JSON text. -/
def read (t : Text) : Except Failure Value :=
  if t.head? = some (CodePoint.ofNat 0xFEFF) then
    .error (.malformed .byteOrderMark (Place.of t 0))
  else
    match Reader.start.run (Token.scan t) with
    | .ok v => .ok v
    | .error (.fault reason offset) => .error (.malformed reason (Place.of t offset))
    | .error (.overlongInteger digits) => .error (.overlongInteger digits)
    | .error .tooDeep => .error .tooDeep

end HttpCourier.Json
