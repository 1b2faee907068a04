import HttpCourier.Proofs.Json.Cleaning

/-!
# HttpCourier.Proofs.Json.Pared

**A text that is read leniently is strict JSON but for its comments and for commas in front of
closing brackets.** `Pared room false t tokens s` says that `s` is left of `t` when its comments
and some of these commas are taken out, at most one in front of a bracket; `tokens` are those of
`t`. Behind which tokens a comma may be taken out is the parameter `room`: behind values it may,
and behind an opening bracket too, for the cleaning pass looks only at what follows a comma.

The text is taken apart from the front, where what both passes left of it is nothing, a blank, a
dropped comma or a token. That a dropped comma is behind a token with room for it is seen from the
reader, which has come to a closing bracket: it expects none at the start, behind a colon or
behind another comma (`Reader.Unclosable`).
-/

namespace HttpCourier.Json

open Lenient Reader

/-! ### Pared texts -/

/-- Whether a token opens a container. -/
def Token.opens : Token → Bool
  | .beginArray | .beginObject => true
  | _ => false

/-- Whether a trailing comma may stand behind a token. -/
def Token.leavesRoom (token : Token) : Bool := token.endsValue || token.opens

/-- `Pared room ended t tokens s`: the text `s` is left of `t` when its comments are taken out,
and some of the commas in front of a closing bracket. `tokens` are those of `t`. `ended` says that
the token before is one with `room` for such a comma and that none has been taken out behind it. -/
inductive Pared (room : Token → Bool) : Bool → Text → List Token → Text → Prop
  | nil {ended} : Pared room ended [] [] []
  /-- The last comment may be ended by the end of the text. -/
  | openLine {ended} {body : Text} (oneLine : CodePoint.ofChar '\n' ∉ body) :
      Pared room ended (CodePoint.ofChar '/' :: CodePoint.ofChar '/' :: body) [] []
  | blank {ended} {c : CodePoint} {t tokens s} (hc : c.isJsonBlank = true)
      (rest : Pared room ended t tokens s) : Pared room ended (c :: t) tokens (c :: s)
  /-- The line feed is no part of the comment that it ends. -/
  | line {ended} {body t : Text} {tokens s} (oneLine : CodePoint.ofChar '\n' ∉ body)
      (rest : Pared room ended (CodePoint.ofChar '\n' :: t) tokens s) :
      Pared room ended
        (CodePoint.ofChar '/' :: CodePoint.ofChar '/' :: (body ++ CodePoint.ofChar '\n' :: t))
        tokens s
  | block {ended} {body t : Text} {tokens s} (closed : Text.hasBlock body "*/" = false)
      (rest : Pared room ended t tokens s) :
      Pared room ended (CodePoint.ofChar '/' :: CodePoint.ofChar '*' ::
        (body ++ CodePoint.ofChar '*' :: CodePoint.ofChar '/' :: t)) tokens s
  | comma {t tokens s} (closes : Closes s) (rest : Pared room false t tokens s) :
      Pared room true (CodePoint.ofChar ',' :: t) (.comma :: tokens) s
  | token {ended token lexeme} {t tokens s} (spelled : Lexeme token lexeme)
      (stops : token.StopsAt s) (rest : Pared room (room token) t tokens s) :
      Pared room ended (lexeme ++ t) (token :: tokens) (lexeme ++ s)

variable {r r' : Reader} {token : Token} {tokens : List Token} {lexeme t s u : Text}
  {c : CodePoint} {v : Value} {room : Token → Bool} {ended : Bool} {at_ : Nat}

/-! ### What is read leniently -/

namespace Reader

theorem unclosable_start : start.Unclosable := by
  rintro token r' ⟨_, started⟩
  exact ne_closing_of_startValue started

/-- A closing bracket is expected behind values and opening brackets only. -/
theorem Moves.unclosable (h : Moves r token r') (noRoom : token.leavesRoom = false) :
    r'.Unclosable := by
  intro token' r'' second
  cases h with
  | value _ started =>
    cases token <;>
      simp [Token.leavesRoom, Token.endsValue, Token.opens, startValue] at noRoom started
  | nextElement => exact Moves.unclosable_of_comma .nextElement _ _ second
  | nextMember => exact Moves.unclosable_of_comma .nextMember _ _ second
  | colon =>
    cases second with
    | value due started => exact ne_closing_of_startValue started
  | _ => cases noRoom

end Reader

/-- A comma that the pass has dropped is behind a token with room for it. -/
theorem Pared.dropped (settled : ended = false → r.Unclosable)
    (ran : r.run (Token.scanFrom 0 at_ s) = .ok v) (closes : Closes s)
    (rest : Pared room false t tokens s) :
    Pared room ended (CodePoint.ofChar ',' :: t) (.comma :: tokens) s := by
  cases ended with
  | true => exact .comma closes rest
  | false => exact absurd closes ((settled rfl).not_closes ran)

/-- What is taken out does not go on with a number literal. -/
theorem Pared.stopsAt (h : Pared room ended t tokens s) (stops : token.StopsAt s) :
    token.StopsAt t := by
  rintro n rfl c hc
  cases h with
  | nil => cases hc
  | openLine | line | block | comma =>
    cases hc
    decide
  | blank => exact stops n rfl c hc
  | token spelled =>
    obtain ⟨d, tail, rfl, -⟩ := spelled.exists_cons
    exact stops n rfl c hc

/-- What is read and is neither a blank nor dropped is a token of the text as given. -/
theorem Reader.exists_lexeme_of_leaves (left : Leaves .code t (c :: u))
    (ran : r.run (Token.scanFrom 0 at_ (dropTrailingCommas 0 (c :: u))) = .ok v)
    (blank : ¬ c.isJsonBlank = true)
    (kept : ¬ (c = CodePoint.ofChar ',' ∧ closesNext u = true)) :
    ∃ token lexeme t' u' r' at', t = lexeme ++ t' ∧ c :: u = lexeme ++ u' ∧ Lexeme token lexeme ∧
      Leaves .code t' u' ∧ Moves r token r' ∧
      r'.run (Token.scanFrom 0 at' (dropTrailingCommas 0 u')) = .ok v := by
  have copied := dropTrailingCommas_kept kept
  rw [copied] at ran
  obtain ⟨token, lexeme, _, r', split, spelled, moves, ran'⟩ := lexeme_of_run blank ran
  rw [split] at copied
  have noComma : ∀ u', c :: u = CodePoint.ofChar ',' :: u' → ¬ closesNext u' = true := by
    rintro u' ⟨⟩ closing
    exact kept ⟨rfl, closing⟩
  obtain ⟨u', same, rfl⟩ := spelled.of_dropTrailingCommas noComma copied
  rw [same] at left
  obtain ⟨t', rfl, left'⟩ := spelled.of_leaves left
  exact ⟨token, lexeme, t', u', r', _, rfl, same, spelled, left', moves, ran'⟩

/-- Where there is no room for a comma, none is dropped: either the reader expects no bracket, or
the bracket itself is next. -/
theorem exists_pared_of_leaves (left : Leaves .code t u)
    (ran : r.run (Token.scanFrom 0 at_ (dropTrailingCommas 0 u)) = .ok v)
    (settled : ended = false → r.Unclosable ∨ closesNext u = true) :
    ∃ tokens s, Pared Token.leavesRoom ended t tokens s ∧
      (∀ at', r.run (Token.scanFrom 0 at' s) = .ok v) ∧ (closesNext u = true → Closes s) := by
  -- By length: the line feed behind a line comment is met again as a blank.
  induction hn : t.length using Nat.strong_induction_on generalizing t u r at_ ended with
  | _ n ih =>
    subst hn
    cases u with
    | nil =>
      cases left.met with
      | nil => exact ⟨[], [], .nil, run_finish ran, fun h => nomatch h⟩
      | openLine oneLine => exact ⟨[], [], .openLine oneLine, run_finish ran, fun h => nomatch h⟩
    | cons c u =>
      by_cases blank : c.isJsonBlank = true
      · cases left.met with
        | line oneLine rest =>
          obtain ⟨tokens, s, pared, reads, closes⟩ := ih _ (by simp; omega) rest ran settled rfl
          exact ⟨tokens, s, .line oneLine pared, reads, closes⟩
        | block closed rest =>
          rw [dropTrailingCommas_blank blank, Token.scanFrom_blank blank] at ran
          rw [closesNext_blank blank] at settled ⊢
          obtain ⟨tokens, s, pared, reads, closes⟩ := ih _ (by simp; omega) rest ran settled rfl
          exact ⟨tokens, s, .block closed pared, reads, closes⟩
        | quote => exact absurd blank (by decide)
        | plain _ rest =>
          rw [dropTrailingCommas_blank blank, Token.scanFrom_blank blank] at ran
          rw [closesNext_blank blank] at settled ⊢
          obtain ⟨tokens, s, pared, reads, closes⟩ := ih _ (by simp) rest ran settled rfl
          refine ⟨tokens, c :: s, .blank blank pared, fun at' => ?_,
            fun closing => .blank blank (closes closing)⟩
          rw [Token.scanFrom_blank blank]
          exact reads _
      by_cases dropped : c = CodePoint.ofChar ',' ∧ closesNext u = true
      · obtain ⟨rfl, closing⟩ := dropped
        cases left.met with
        | plain _ rest =>
          rw [dropTrailingCommas_comma closing] at ran
          -- The rest closes, so that there is no second comma in front of the same bracket.
          obtain ⟨tokens, s, pared, reads, closes⟩ :=
            ih _ (by simp) rest ran (fun _ => .inr closing) rfl
          have unclosable (he : ended = false) : r.Unclosable :=
            (settled he).resolve_right Bool.false_ne_true
          exact ⟨_, s, .dropped unclosable (reads 0) (closes closing) pared, reads,
            fun _ => closes closing⟩
      · obtain ⟨token, lexeme, t', u', r', at', rfl, same, spelled, left', moves, ran'⟩ :=
          exists_lexeme_of_leaves left ran blank dropped
        have shorter : t'.length < (lexeme ++ t').length := by
          obtain ⟨d, tail, rfl, -⟩ := spelled.exists_cons
          rw [List.length_append, List.length_cons]
          omega
        obtain ⟨tokens, s, pared, reads, -⟩ :=
          ih _ shorter left' ran' (fun noRoom => .inl (moves.unclosable noRoom)) rfl
        have stops := stopsAt_of_run moves (reads 0)
        refine ⟨token :: tokens, lexeme ++ s, .token spelled stops pared, fun at'' => ?_, ?_⟩
        · rw [Token.scanFrom_lexeme spelled stops, run_of_moves moves]
          exact reads _
        · rw [same]
          exact (closesNext_lexeme_iff spelled s u').1

/-! ### Commas that are refused -/

namespace Reader

/-- A reader moves over the tokens, and may pass over a comma in front of a closing bracket. -/
inductive Takes : Reader → List Token → Prop
  | nil {r : Reader} : Takes r []
  | passed {r : Reader} {closing} {tokens : List Token}
      (bracket : closing = .endArray ∨ closing = .endObject) (rest : Takes r (closing :: tokens)) :
      Takes r (.comma :: closing :: tokens)
  | token {r r' : Reader} {token} {tokens : List Token} (moves : Moves r token r')
      (rest : Takes r' tokens) : Takes r (token :: tokens)

/-- A comma that a reader does not move over is in front of a bracket that it moves over. -/
theorem Takes.exists_closing (h : Takes r (.comma :: tokens)) (stuck : ∀ r', ¬ Moves r .comma r') :
    ∃ closing rest r', tokens = closing :: rest ∧ Moves r closing r' ∧
      (closing = .endArray ∨ closing = .endObject) := by
  cases h with
  | token moves => exact absurd moves (stuck _)
  | @passed _ closing rest bracket taken =>
    cases taken with
    | passed => simp at bracket
    | token moves => exact ⟨closing, rest, _, rfl, moves, bracket⟩

theorem Moves.not_comma {r'' : Reader} (first : Moves r .comma r') : ¬ Moves r' .comma r'' := by
  intro second
  cases first with
  | value _ started => cases started
  | nextElement | nextMember => cases second with | value _ started => cases started

/-- No two commas stand side by side. -/
theorem Takes.not_doubled (h : Takes r tokens) : ¬ [.comma, .comma] <:+: tokens := by
  induction h with
  | nil => simp
  | passed bracket _ ih =>
    intro doubled
    rcases List.infix_cons_iff.1 doubled with ⟨_, split⟩ | doubled
    · cases split
      simp at bracket
    · exact ih doubled
  | token moves rest ih =>
    intro doubled
    rcases List.infix_cons_iff.1 doubled with ⟨_, split⟩ | doubled
    · cases split
      obtain ⟨closing, _, _, -, second, bracket⟩ := rest.exists_closing fun _ => moves.not_comma
      have refused := moves.unclosable_of_comma _ _ second
      exact bracket.elim refused.1 refused.2
    · exact ih doubled

/-- Behind an opening bracket there is no comma, except in front of the closing bracket. -/
theorem Takes.emptied {opening next : Token} (h : Takes r tokens)
    (stuck : ∀ r r' r'', Moves r opening r' → ¬ Moves r' .comma r'')
    (there : [opening, .comma, next] <:+: tokens) :
    ∃ r r' r'', Moves r opening r' ∧ Moves r' next r'' ∧
      (next = .endArray ∨ next = .endObject) := by
  induction h with
  | nil => simp at there
  | passed bracket _ ih =>
    rcases List.infix_cons_iff.1 there with ⟨_, split⟩ | there
    · cases split
      simp at bracket
    · exact ih there
  | token moves rest ih =>
    rcases List.infix_cons_iff.1 there with ⟨_, split⟩ | there
    · cases split
      obtain ⟨_, _, r'', same, second, bracket⟩ :=
        rest.exists_closing fun r'' => stuck _ _ r'' moves
      cases same
      exact ⟨_, _, r'', moves, second, bracket⟩
    · exact ih there

theorem eq_of_open_ {stack : List Frame} {phase : Phase} (h : open_ stack phase = .ok r') :
    r' = ⟨stack, phase⟩ := by
  unfold open_ at h
  split at h <;> cases h
  rfl

theorem Moves.exists_of_beginArray (h : Moves r .beginArray r') :
    ∃ stack, r' = ⟨stack, .element [] true⟩ := by
  cases h with
  | @value _ frames _ _ _ started => exact ⟨frames, eq_of_open_ started⟩

theorem Moves.exists_of_beginObject (h : Moves r .beginObject r') :
    ∃ stack, r' = ⟨stack, .name [] true⟩ := by
  cases h with
  | @value _ frames _ _ _ started => exact ⟨frames, eq_of_open_ started⟩

end Reader

theorem Pared.exists_closing (h : Pared room false t tokens s)
    (closes : Closes s) :
    ∃ closing rest, tokens = closing :: rest ∧ (closing = .endArray ∨ closing = .endObject) := by
  generalize he : false = ended at h
  induction h with
  | nil | openLine => cases closes
  | blank hc _ ih => exact ih ((closes_blank_iff hc).1 closes) he
  | line _ _ ih | block _ _ ih => exact ih closes he
  | comma => cases he
  | @token _ token lexeme _ tokens _ spelled =>
    obtain ⟨c, tail, rfl, visible⟩ := spelled.exists_cons
    cases closes with
    | bracket =>
      exact ⟨token, tokens, rfl, .inl (spelled.eq_of_mark (by simp [marks])).1⟩
    | brace => exact ⟨token, tokens, rfl, .inr (spelled.eq_of_mark (by simp [marks])).1⟩
    | blank hc =>
      rw [CodePoint.isBlank_of_isJsonBlank hc] at visible
      cases visible

/-- The reader of what is left takes the tokens of the whole text. -/
theorem Pared.takes (h : Pared room ended t tokens s)
    (ran : r.run (Token.scanFrom 0 at_ s) = .ok v) : r.Takes tokens := by
  induction h generalizing r at_ with
  | nil | openLine => exact .nil
  | blank hc _ ih =>
    rw [Token.scanFrom_blank hc] at ran
    exact ih ran
  | line _ _ ih | block _ _ ih => exact ih ran
  | comma closes rest ih =>
    obtain ⟨closing, tokens, rfl, bracket⟩ := rest.exists_closing closes
    exact .passed bracket (ih ran)
  | token spelled stops _ ih =>
    rw [Token.scanFrom_lexeme spelled stops] at ran
    obtain ⟨r', moves, ran'⟩ := moves_of_run (Token.ne_finish_of_lexeme spelled) ran
    exact .token moves (ih ran')

/-- In an array without elements a comma is in front of the closing bracket. -/
theorem Reader.Takes.emptyArray {next : Token} (h : r.Takes tokens)
    (there : [.beginArray, .comma, next] <:+: tokens) : next = .endArray := by
  have stuck (r r' r'' : Reader) (opened : Moves r .beginArray r') : ¬ Moves r' .comma r'' := by
    obtain ⟨stack, rfl⟩ := opened.exists_of_beginArray
    rintro (⟨⟨⟩, started⟩ | _)
    cases started
  obtain ⟨_, _, _, opened, second, rfl | rfl⟩ := h.emptied stuck there
  · rfl
  · obtain ⟨stack, rfl⟩ := opened.exists_of_beginArray
    cases second with
    | value _ started => cases started

/-- In an object without members a comma is in front of the closing bracket. -/
theorem Reader.Takes.emptyObject {next : Token} (h : r.Takes tokens)
    (there : [.beginObject, .comma, next] <:+: tokens) : next = .endObject := by
  have stuck (r r' r'' : Reader) (opened : Moves r .beginObject r') : ¬ Moves r' .comma r'' := by
    obtain ⟨stack, rfl⟩ := opened.exists_of_beginObject
    rintro ⟨⟨⟩, started⟩
  obtain ⟨_, _, _, opened, second, rfl | rfl⟩ := h.emptied stuck there
  · obtain ⟨stack, rfl⟩ := opened.exists_of_beginObject
    cases second with
    | value due _ => cases due
  · rfl

/-! ### Reading leniently -/

/-- **A text that is read leniently is strict JSON of the same value, but for its comments and for
commas in front of closing brackets**, at most one in front of each. Such a comma is behind an
element, a member or the opening bracket. No comma is doubled, and in front of the first element
or member there is none. -/
theorem exists_pared_of_readLenient (h : readLenient t = .ok v) :
    ∃ tokens s, Pared Token.leavesRoom false t tokens s ∧ read s = .ok v ∧
      ¬ [.comma, .comma] <:+: tokens ∧
      (∀ next, [.beginArray, .comma, next] <:+: tokens → next = .endArray) ∧
      ∀ next, [.beginObject, .comma, next] <:+: tokens → next = .endObject := by
  unfold readLenient stripComments at h
  cases left : dropComments .code 0 0 t with
  | error opened =>
    rw [left] at h
    cases h
  | ok u =>
    rw [left] at h
    obtain ⟨-, ran⟩ := read_ok_iff.1 h
    obtain ⟨tokens, s, pared, reads, -⟩ :=
      exists_pared_of_leaves ⟨0, left⟩ ran fun (_ : false = false) => .inl unclosable_start
    have takes := pared.takes (reads 0)
    exact ⟨tokens, s, pared, read_of_run (reads 0), takes.not_doubled,
      fun _ => takes.emptyArray, fun _ => takes.emptyObject⟩

theorem exists_pared_of_readLenient_emptied :
    readLenient "[[,], 1/*,*/,]// ]" = .ok (.array [.array [], .int 1]) ∧
      ∃ tokens s, Pared Token.leavesRoom false "[[,], 1/*,*/,]// ]" tokens s ∧
        read s = .ok (.array [.array [], .int 1]) ∧ ¬ [.comma, .comma] <:+: tokens ∧
        (∀ next, [.beginArray, .comma, next] <:+: tokens → next = .endArray) ∧
        ∀ next, [.beginObject, .comma, next] <:+: tokens → next = .endObject := by
  have read_ : readLenient "[[,], 1/*,*/,]// ]" = .ok (.array [.array [], .int 1]) := by cbv
  exact ⟨read_, exists_pared_of_readLenient read_⟩

/-- A token of a single code point is not taken out unless it is a comma. -/
theorem Pared.mark {m : Token} (h : Pared room false (c :: t) tokens s)
    (one : (c, m) ∈ marks) :
    ∃ tokens' s', tokens = m :: tokens' ∧ s = c :: s' ∧ Pared room (room m) t tokens' s' := by
  have visible : ∀ m ∈ marks, m.1.isJsonBlank = false ∧ m.1 ≠ CodePoint.ofChar '/' := by decide
  obtain ⟨blank, slash⟩ := visible _ one
  generalize ht : c :: t = w at h
  cases h with
  | nil => cases ht
  | openLine | line | block =>
    cases ht
    exact absurd rfl slash
  | blank hc =>
    cases ht
    rw [hc] at blank
    cases blank
  | token spelled _ rest =>
    obtain ⟨d, tail, rfl, -⟩ := spelled.exists_cons
    cases ht
    obtain ⟨rfl, rfl⟩ := spelled.eq_of_mark one
    exact ⟨_, _, rfl, rfl, rest⟩

theorem Pared.eq_nil (h : Pared room ended [] tokens s) : s = [] := by
  generalize ht : [] = t at h
  cases h with
  | nil => rfl
  | token spelled =>
    obtain ⟨c, tail, rfl, -⟩ := spelled.exists_cons
    cases ht
  | _ => cases ht

/-- **A comma is taken for a trailing one where no element is in front of it.** Were commas taken
out behind values only, nothing could be taken out of this text, and it is no strict JSON. -/
theorem not_exists_pared_behind_values :
    readLenient "[,]" = .ok (.array []) ∧
      ¬ ∃ tokens s, Pared Token.endsValue false "[,]" tokens s ∧ read s = .ok (.array []) := by
  refine ⟨by cbv, ?_⟩
  rintro ⟨tokens, s, pared, strict⟩
  have spelled : Text.ofString "[,]" =
      [CodePoint.ofChar '[', CodePoint.ofChar ',', CodePoint.ofChar ']'] := by decide
  rw [spelled] at pared
  obtain ⟨_, _, rfl, rfl, opened⟩ := pared.mark (m := .beginArray) (by simp [marks])
  obtain ⟨_, _, rfl, rfl, behind⟩ := opened.mark (m := .comma) (by simp [marks])
  obtain ⟨_, s, rfl, rfl, closed⟩ := behind.mark (m := .endArray) (by simp [marks])
  rw [closed.eq_nil, ← spelled] at strict
  have refused : (read "[,]").toOption.isSome = false := by cbv
  rw [strict] at refused
  cases refused

end HttpCourier.Json
