import HttpCourier.Proofs.Json.Digits
import HttpCourier.Proofs.Json.Pared
import HttpCourier.Proofs.Text.Utf8
import HttpCourier.Result.Content

/-!
# HttpCourier.Proofs.Result.Content

**What goes through to whoever asks for the content as JSON.** Content that is no text, or a
malformed one, has no value, and nobody is told why. But the reader may come to a token that is
too much, an integer with too many digits or one container more than may be open
(`Json.Exceeds`), and that goes through. How many containers are open is counted by the brackets
in front; that a value is awaited there is seen from some way to go on with one.

The invariant of a run is `Reader.level`: what a token adds to it is the containers that it opens
less those that it closes.
-/

namespace HttpCourier

open Json

/-- A stop as the reader reports it. -/
def Result.ContentStop.inReader : ContentStop → Reader.Stop
  | overlongInteger digits => .overlongInteger digits
  | tooDeep => .tooDeep

/-- A stop as the failure of a text. -/
def Result.ContentStop.failure : ContentStop → Failure
  | overlongInteger digits => .overlongInteger digits
  | tooDeep => .tooDeep

namespace Json

open Result (ContentStop opens closes)

/-! ### Texts that are too much -/

/-- How many containers are open behind tokens. -/
def depth (tokens : List (Nat × Token)) : Nat :=
  tokens.countP (fun token => opens token.2) - tokens.countP (fun token => closes token.2)

/-- A value may stand behind the tokens: with `null` there, some tokens complete the text. -/
def AwaitsValue (before : List (Nat × Token)) : Prop :=
  ∃ after v, Reader.start.run (before ++ (0, .word .null) :: after) = .ok v

/-- What is too much within so many open containers, and what it stops. -/
inductive Excess (depth : Nat) : Token → ContentStop → Prop
  | integer {negative whole} (long : maxDigits < whole.length) :
      Excess depth (.number ⟨negative, whole, none, none⟩) (.overlongInteger whole.length)
  | container {token} (opening : opens token = true) (deep : maxDepth ≤ depth) :
      Excess depth token .tooDeep

/-- A token of the text is too much: all is in order in front of it, and a value is awaited. -/
def Exceeds (t : Text) (stop : ContentStop) : Prop :=
  ∃ before offset token after, Token.scan t = before ++ (offset, token) :: after ∧
    AwaitsValue before ∧ Excess (depth before) token stop

variable {r r' r'' : Reader} {token : Token} {offset o n : Nat} {stop : ContentStop} {t : Text}
  {tokens before after : List (Nat × Token)} {frames stack : List Frame} {v : Value}

theorem Excess.ne_finish (h : Excess n token stop) : token ≠ .finish := by
  rintro rfl
  cases h with
  | container opening => cases opening

theorem Excess.ne_endArray (h : Excess n token stop) : token ≠ .endArray := by
  rintro rfl
  cases h with
  | container opening => cases opening

namespace Reader

/-! ### One token -/

theorem startValue_stops_iff :
    startValue offset stack token = .error stop.inReader ↔ Excess stack.length token stop := by
  constructor
  · intro h
    cases token with
    | beginArray | beginObject =>
      simp only [startValue, open_] at h
      split at h
      · next deep =>
        cases stop <;> cases h
        exact .container rfl deep
      · cases h
    | number m =>
      simp only [startValue] at h
      split at h
      · cases h
      · next digits overlong =>
        cases stop <;> cases h
        obtain ⟨negative, whole, _, _⟩ := m
        obtain ⟨rfl, rfl, long, rfl⟩ := Numeral.value_error_iff.1 overlong
        exact .integer long
    | _ => cases stop <;> cases h
  · intro excess
    cases excess with
    | @integer negative whole long =>
      have overlong : Numeral.value ⟨negative, whole, none, none⟩ = .error whole.length :=
        Numeral.value_error_iff.2 ⟨rfl, rfl, long, rfl⟩
      simp only [startValue, overlong]
      rfl
    | container opening deep => cases token <;> cases opening <;> exact if_pos deep

/-- A token is too much only where it starts a value: everywhere else what does not fit is a
fault. -/
theorem step_stops_iff :
    r.step offset token = .error stop.inReader ↔
      ∃ frames, Awaits r frames ∧ Excess frames.length token stop := by
  obtain ⟨stack, phase⟩ := r
  constructor
  · intro h
    cases phase with
    | top => exact ⟨stack, .top, startValue_stops_iff.1 h⟩
    | element before mayEnd =>
      unfold step at h
      dsimp only at h
      split at h
      · cases h
      · exact ⟨_, .element, startValue_stops_iff.1 h⟩
    | member before name => exact ⟨_, .member, startValue_stops_iff.1 h⟩
    | name before mayEnd => cases token <;> cases mayEnd <;> cases stop <;> cases h
    | _ => cases token <;> cases stop <;> cases h
  · rintro ⟨frames, due, excess⟩
    cases due with
    | element =>
      unfold step
      dsimp only
      split
      · exact absurd rfl excess.ne_endArray
      · exact startValue_stops_iff.2 excess
    | _ => exact startValue_stops_iff.2 excess

/-- How many containers are open, the one that is being read included. -/
def level (r : Reader) : Nat :=
  match r.phase with
  | .top | .done _ => r.stack.length
  | _ => r.stack.length + 1

theorem level_complete (v : Value) (stack : List Frame) :
    (complete v stack).level = stack.length := by
  cases stack with
  | nil => rfl
  | cons frame stack => cases frame <;> rfl

theorem Awaits.level (h : Awaits r frames) : r.level = frames.length := by
  cases h <;> rfl

/-- A token opens one container, closes one or does neither. -/
theorem Moves.level (h : Moves r token r') :
    r'.level + (if closes token then 1 else 0) = r.level + if opens token then 1 else 0 := by
  cases h with
  | value due started =>
    rw [due.level]
    cases token with
    | beginArray | beginObject =>
      rw [eq_of_open_ started]
      rfl
    | word | string =>
      cases started
      rw [level_complete]
      rfl
    | number m =>
      simp only [startValue] at started
      split at started
      · cases started
        rw [level_complete]
        rfl
      · cases started
    | _ => cases started
  | noElements | lastElement | noMembers | lastMember =>
    rw [level_complete]
    rfl
  | _ => rfl

/-! ### A run -/

/-- The reader moves over tokens. -/
inductive Leads : Reader → List (Nat × Token) → Reader → Prop
  | nil {r : Reader} : Leads r [] r
  | cons {r r' r'' : Reader} {offset token rest} (moves : Moves r token r')
      (more : Leads r' rest r'') : Leads r ((offset, token) :: rest) r''

theorem Leads.run (h : Leads r before r') (after : List (Nat × Token)) :
    r.run (before ++ after) = r'.run after := by
  induction h with
  | nil => rfl
  | cons moves _ ih => exact (run_of_moves moves).trans ih

theorem Leads.level (h : Leads r before r') :
    r'.level + before.countP (fun token => closes token.2) =
      r.level + before.countP (fun token => opens token.2) := by
  induction h with
  | nil => rfl
  | @cons r r' r'' offset token rest moves more ih =>
    have step := moves.level
    rw [List.countP_cons, List.countP_cons]
    dsimp only
    omega

theorem Leads.depth (h : Leads start before r) (due : Awaits r frames) :
    frames.length = depth before := by
  have counted := h.level
  rw [due.level] at counted
  have empty : start.level = 0 := rfl
  unfold Json.depth
  omega

/-- A run that comes to a value has moved over each token. -/
theorem exists_leads_of_run (h : r.run (before ++ (o, token) :: after) = .ok v)
    (unfinished : ∀ x ∈ before ++ [(o, token)], x.2 ≠ .finish) :
    ∃ r' r'', Leads r before r' ∧ Moves r' token r'' := by
  induction before generalizing r with
  | nil =>
    obtain ⟨r', moves, -⟩ := moves_of_run (unfinished _ List.mem_cons_self) h
    exact ⟨r, r', .nil, moves⟩
  | cons x before ih =>
    obtain ⟨o', token'⟩ := x
    obtain ⟨r', moves, ran⟩ := moves_of_run (unfinished _ List.mem_cons_self) h
    obtain ⟨s, s', leads, last⟩ := ih ran fun y hy => unfinished y (List.mem_cons_of_mem _ hy)
    exact ⟨s, s', .cons moves leads, last⟩

/-- A run that is stopped has moved over the tokens in front. -/
theorem exists_leads_of_stop (h : r.run tokens = .error stop.inReader) :
    ∃ before offset token after r', tokens = before ++ (offset, token) :: after ∧
      Leads r before r' ∧ r'.step offset token = .error stop.inReader := by
  induction tokens generalizing r with
  | nil => cases stop <;> cases h
  | cons x rest ih =>
    obtain ⟨offset, token⟩ := x
    unfold run at h
    split at h
    · cases h
    · split at h
      · next r' stepped =>
        obtain ⟨before, _, _, after, r'', rfl, leads, stops⟩ := ih h
        exact ⟨_ :: before, _, _, after, r'', rfl, .cons (moves_of_step stepped) leads, stops⟩
      · next stopped =>
        cases h
        exact ⟨[], _, _, rest, r, rfl, .nil, stopped⟩

/-- Whatever is open can be closed. -/
theorem exists_run_complete (v : Value) (frames : List Frame) :
    ∃ after v', (complete v frames).run after = .ok v' := by
  induction frames generalizing v with
  | nil => exact ⟨[(0, .finish)], v, rfl⟩
  | cons frame frames ih =>
    cases frame with
    | array before =>
      obtain ⟨after, v', ran⟩ := ih (.array (v :: before).reverse)
      exact ⟨(0, .endArray) :: after, v', (run_of_moves .lastElement).trans ran⟩
    | object before name =>
      obtain ⟨after, v', ran⟩ := ih (.object (before.insert name v))
      exact ⟨(0, .endObject) :: after, v', (run_of_moves .lastMember).trans ran⟩

theorem awaitsValue_iff (unfinished : ∀ x ∈ before, x.2 ≠ .finish) :
    AwaitsValue before ↔ ∃ r frames, Leads start before r ∧ Awaits r frames := by
  constructor
  · rintro ⟨after, v, ran⟩
    obtain ⟨r, r', leads, moves⟩ := exists_leads_of_run ran fun x hx => by
      rcases List.mem_append.1 hx with hx | hx
      · exact unfinished x hx
      · rw [List.mem_singleton.1 hx]
        exact Token.noConfusion
    cases moves with
    | value due => exact ⟨r, _, leads, due⟩
  · rintro ⟨r, frames, leads, due⟩
    obtain ⟨after, v, ran⟩ := exists_run_complete .null frames
    exact ⟨after, v, (leads.run _).trans ((run_of_moves (.value due rfl)).trans ran)⟩

end Reader

/-! ### A text -/

/-- The end of the text is the last token. -/
theorem Token.ne_finish_of_scanFrom {skip at_ : Nat}
    (h : scanFrom skip at_ t = before ++ (offset, token) :: after) :
    ∀ x ∈ before, x.2 ≠ .finish := by
  induction t generalizing skip at_ before with
  | nil =>
    cases before with
    | nil => simp
    | cons x before => simp [scanFrom] at h
  | cons c t ih =>
    cases skip with
    | succ skip => exact ih h
    | zero =>
      unfold scanFrom at h
      dsimp only at h
      split at h
      · exact ih h
      · cases before with
        | nil => simp
        | cons x before =>
          obtain ⟨rfl, rest⟩ := List.cons.inj h
          refine List.forall_mem_cons.2 ⟨first_ne_finish at_ c t, ?_⟩
          split at rest
          · simp at rest
          · exact ih rest

theorem run_scan_stops_iff :
    Reader.start.run (Token.scan t) = .error stop.inReader ↔ Exceeds t stop := by
  constructor
  · intro h
    obtain ⟨before, offset, token, after, r, split, leads, stops⟩ := Reader.exists_leads_of_stop h
    obtain ⟨frames, due, excess⟩ := Reader.step_stops_iff.1 stops
    have awaited := (Reader.awaitsValue_iff (Token.ne_finish_of_scanFrom split)).2 ⟨r, _, leads, due⟩
    exact ⟨before, offset, token, after, split, awaited, leads.depth due ▸ excess⟩
  · rintro ⟨before, offset, token, after, split, awaited, excess⟩
    obtain ⟨r, frames, leads, due⟩ :=
      (Reader.awaitsValue_iff (Token.ne_finish_of_scanFrom split)).1 awaited
    rw [← leads.depth due] at excess
    have stops : r.step offset token = .error stop.inReader :=
      Reader.step_stops_iff.2 ⟨frames, due, excess⟩
    rw [split, leads.run, Reader.run.eq_def]
    dsimp only
    -- A run ends with a value only at the end of the text, which is never too much.
    split
    · exact absurd rfl excess.ne_finish
    · rw [stops]

/-- A byte order mark that is part of the text is no token. -/
theorem not_exceeds_of_mark (h : t.head? = some (CodePoint.ofNat 0xFEFF)) : ¬ Exceeds t stop := by
  rintro ⟨before, offset, token, after, split, -, excess⟩
  obtain ⟨rest, rfl⟩ : ∃ rest, t = CodePoint.ofNat 0xFEFF :: rest := by
    cases t with
    | nil => cases h
    | cons c rest => exact ⟨rest, by rw [Option.some.inj h]⟩
  have stray : Token.scan (CodePoint.ofNat 0xFEFF :: rest) = [(0, .stray)] := rfl
  rw [stray] at split
  cases before with
  | nil =>
    cases split
    cases excess with
    | container opening => cases opening
  | cons => simp at split

theorem read_stops_iff : Json.read t = .error stop.failure ↔ Exceeds t stop := by
  unfold Json.read
  split
  · next mark => cases stop <;> simp [ContentStop.failure, not_exceeds_of_mark mark]
  · rw [← run_scan_stops_iff]
    cases Reader.start.run (Token.scan t) with
    | ok v => simp
    | error stopped =>
      cases stopped <;> cases stop <;> simp [ContentStop.failure, ContentStop.inReader]

end Json

/-! ### ASCII content -/

namespace Text

variable {t : Text}

/-- The bytes of an ASCII text without NUL. -/
theorem mem_bytesIn (ascii : ∀ c ∈ t, 0 < c.val ∧ c.val < 0x80) {b : UInt8}
    (hb : b ∈ bytesIn .utf8 t) : 0 < b.toNat ∧ b.toNat < 0x80 := by
  obtain ⟨c, hc, hb⟩ := List.mem_flatMap.1 hb
  obtain ⟨low, high⟩ := ascii c hc
  have one : Charset.utf8.bytesOf c = [UInt8.ofNat c.val] := Charset.utf8Bytes_of_lt high
  rw [one, List.mem_singleton] at hb
  rw [hb, toNat_ofNat_of_lt (Nat.lt_trans high (by decide))]
  exact ⟨low, high⟩

/-- No surrogate is cut out of ASCII bytes. -/
theorem surrogateCuts_of_small {bytes : Bytes} (small : ∀ b ∈ bytes, b.toNat < 0x80)
    (before : Bytes) : surrogateCuts 0 before bytes = [(before.reverse ++ bytes, none)] := by
  induction bytes generalizing before with
  | nil => simp [surrogateCuts]
  | cons b bytes ih =>
    obtain ⟨here, rest⟩ := List.forall_mem_cons.1 small
    have whole : surrogateAtStart? (b :: bytes) = none := by
      unfold surrogateAtStart?
      split
      · next heq =>
        cases heq
        refine if_neg ?_
        rintro ⟨rfl, -⟩
        exact absurd here (by decide)
      · rfl
    unfold surrogateCuts
    dsimp only
    rw [whole]
    dsimp only
    rw [ih rest, List.reverse_cons, List.append_assoc]
    rfl

theorem detect_of_small {bytes : Bytes} (small : ∀ b ∈ bytes, 0 < b.toNat ∧ b.toNat < 0x80) :
    UnicodeForm.detect bytes = (.utf8, bytes) := by
  have nonzero {b : UInt8} (hb : b ∈ bytes) : b ≠ 0 := by
    rintro rfl
    exact absurd (small 0 hb).1 (by decide)
  have unmarked : (UnicodeForm.marks.find? fun m => m.1.isPrefixOf bytes) = none := by
    have heads : ∀ m ∈ UnicodeForm.marks, ∃ b ∈ m.1, ¬ (0 < b.toNat ∧ b.toNat < 0x80) := by decide
    refine List.find?_eq_none.2 fun m hm isPrefix => ?_
    obtain ⟨b, hb, large⟩ := heads m hm
    exact large (small b ((List.isPrefixOf_iff_prefix.1 isPrefix).subset hb))
  have plain : UnicodeForm.ofZeros bytes = .utf8 := by
    unfold UnicodeForm.ofZeros
    split
    · rw [if_neg (nonzero (by simp)), if_neg (nonzero (by simp))]
    · rw [if_neg (nonzero (by simp)), if_neg (nonzero (by simp))]
    · rfl
  unfold UnicodeForm.detect
  rw [unmarked, plain]

/-- An ASCII text without NUL is told from its bytes. -/
theorem ofDetected?_bytesIn (ascii : ∀ c ∈ t, 0 < c.val ∧ c.val < 0x80) :
    ofDetected? (bytesIn .utf8 t) = some t := by
  have small (b : UInt8) (hb : b ∈ bytesIn .utf8 t) := mem_bytesIn ascii hb
  have scalar : t.Scalar :=
    scalar_of_isAscii (isAscii_iff_holds.2 fun c hc => Charset.ascii_holds.2 (ascii c hc).2)
  unfold ofDetected? ofUnicode? ofUtf8WithSurrogates?
  rw [detect_of_small small]
  dsimp only
  rw [surrogateCuts_of_small (fun b hb => (small b hb).2), List.reverse_nil, List.nil_append]
  simp [ofUtf8?_bytesIn scalar]

end Text

namespace Result

variable {r : Result} {stop : ContentStop}

/-! ### The content as JSON -/

theorem contentJson_stops_iff :
    r.contentJson = .error stop ↔ ∃ t, Text.ofDetected? r.content = some t ∧ Exceeds t stop := by
  unfold contentJson
  cases detected : Text.ofDetected? r.content with
  | none => simp
  | some t =>
    simp only [Option.some.injEq, exists_eq_left', ← read_stops_iff]
    cases Json.read t with
    | ok v => simp
    | error failure => cases failure <;> cases stop <;> simp [ContentStop.failure]

/-- **When the content is returned as JSON, and as what.** A value comes exactly when the bytes
are a text that the reader has a value for. Where they are no text, or a malformed one, none
comes; but a text with a token that is too much stops whoever asks for the content, and nothing
else does. -/
theorem contentJson_returns_iff (r : Result) :
    ((∃ found, r.contentJson = .ok found) ↔
      ∀ t, Text.ofDetected? r.content = some t → ∀ stop, ¬ Exceeds t stop) ∧
    (∀ stop, r.contentJson = .error stop ↔
      ∃ t, Text.ofDetected? r.content = some t ∧ Exceeds t stop) ∧
    ∀ v, r.contentJson = .ok (some v) ↔
      ∃ t, Text.ofDetected? r.content = some t ∧ Json.read t = .ok v := by
  refine ⟨?_, fun stop => contentJson_stops_iff, fun v => ?_⟩
  · constructor
    · rintro ⟨found, returned⟩ t detected stop exceeds
      rw [contentJson_stops_iff.2 ⟨t, detected, exceeds⟩] at returned
      cases returned
    · intro fits
      cases h : r.contentJson with
      | ok found => exact ⟨found, rfl⟩
      | error stop =>
        obtain ⟨t, detected, exceeds⟩ := contentJson_stops_iff.1 h
        exact absurd exceeds (fits t detected stop)
  · unfold contentJson
    cases detected : Text.ofDetected? r.content with
    | none => simp
    | some t =>
      simp only [Option.some.injEq, exists_eq_left']
      cases reading : Json.read t with
      | ok v' => simp
      | error failure => cases failure <;> simp

/-- A response whose content is an integer literal of so many digits. -/
def ofDigits (digits : Nat) : Result where
  isSuccess := true
  status := 200
  reason := none
  headers := []
  contentHeaders := []
  content := Text.bytesIn .utf8 (List.replicate digits (CodePoint.ofChar '1'))
  elapsedMs := .zero false
  retryAttempts := 0
  errorMessage := none
  errorClass := none
  fault := none

theorem contentJson_ofDigits {digits : Nat} (long : maxDigits < digits) :
    (ofDigits digits).contentJson = .error (.overlongInteger digits) := by
  have ones : ∀ c ∈ List.replicate digits (CodePoint.ofChar '1'), c = CodePoint.ofChar '1' :=
    fun c hc => List.eq_of_mem_replicate hc
  have detected := Text.ofDetected?_bytesIn fun c hc => ones c hc ▸ (by decide)
  refine contentJson_stops_iff.2 ⟨_, detected, ?_⟩
  obtain ⟨digits, rfl⟩ : ∃ rest, digits = rest + 1 := ⟨digits - 1, by omega⟩
  rw [List.replicate_succ] at ones ⊢
  obtain ⟨more, scanned⟩ := tokens_of_digits (fun c hc => ones c hc ▸ rfl) (by decide)
  have length_eq : (CodePoint.ofChar '1' :: List.replicate digits (CodePoint.ofChar '1')).length =
      digits + 1 := by simp
  refine ⟨[], 0, _, more, scanned, ⟨[(0, .finish)], .null, rfl⟩, ?_⟩
  rw [← length_eq] at long ⊢
  exact .integer long

/-- **Content can stop whoever asks for it.** -/
theorem not_contentJson_returns : ¬ ∀ r : Result, ∃ found, r.contentJson = .ok found := by
  intro returns
  obtain ⟨found, returned⟩ := returns (ofDigits 4301)
  rw [contentJson_ofDigits (by decide)] at returned
  cases returned

end Result

end HttpCourier
