import HttpCourier.Json.Reader
import HttpCourier.Proofs.Json.Lexemes
import Mathlib.Data.List.Permutation

/-!
# HttpCourier.Proofs.Json.Relaxed

**A relaxed text has the value of the strict text that it was made from.** `Relaxes false s t`
says how it is made: between the tokens of `s`, before the first and after the last, stand further
blanks and comments, and a comma may follow the last element or member of a container.

The proof is one induction on how the text was made. Dropping the comments leaves a text `u` of
which `Cleans` holds: without its trailing commas it is read as `s` is, and where the next token
of `s` is a closing bracket is seen in `u` as well, which is how the pass over commas tells a
trailing comma from any other. That a strict text has no trailing comma of its own is seen from
its being read (`Reader.Unclosable.not_closes`).
-/

namespace HttpCourier.Json

/-! ### Steps of the reader -/

namespace Reader

/-- A value is due in the given containers. -/
inductive Awaits : Reader → List Frame → Prop
  | top {stack} : Awaits ⟨stack, .top⟩ stack
  | element {stack before mayEnd} :
      Awaits ⟨stack, .element before mayEnd⟩ (.array before :: stack)
  | member {stack before name} :
      Awaits ⟨stack, .member before name⟩ (.object before name :: stack)

/-- What a token does to the state of a reader that it fits. -/
inductive Moves : Reader → Token → Reader → Prop
  | value {r frames token r'} (due : Awaits r frames)
      (started : startValue 0 frames token = .ok r') : Moves r token r'
  | noElements {stack before} :
      Moves ⟨stack, .element before true⟩ .endArray (complete (.array before.reverse) stack)
  | nextElement {stack before} :
      Moves ⟨stack, .afterElement before⟩ .comma ⟨stack, .element before false⟩
  | lastElement {stack before} :
      Moves ⟨stack, .afterElement before⟩ .endArray (complete (.array before.reverse) stack)
  | noMembers {stack before} :
      Moves ⟨stack, .name before true⟩ .endObject (complete (.object before) stack)
  | name {stack before mayEnd t} :
      Moves ⟨stack, .name before mayEnd⟩ (.string t) ⟨stack, .colon before t⟩
  | colon {stack before name} :
      Moves ⟨stack, .colon before name⟩ .colon ⟨stack, .member before name⟩
  | nextMember {stack before} :
      Moves ⟨stack, .afterMember before⟩ .comma ⟨stack, .name before false⟩
  | lastMember {stack before} :
      Moves ⟨stack, .afterMember before⟩ .endObject (complete (.object before) stack)

variable {r r' : Reader} {o : Nat} {token : Token} {rest : List (Nat × Token)} {v : Value}

/-- The offset of a token matters to complaints only. -/
theorem startValue_offset {stack : List Frame} (h : startValue o stack token = .ok r')
    (o' : Nat) : startValue o' stack token = .ok r' := by
  cases token <;> first | exact h | cases h

theorem moves_of_step (h : r.step o token = .ok r') : Moves r token r' := by
  obtain ⟨stack, phase⟩ := r
  cases phase with
  | top => exact .value .top (startValue_offset h 0)
  | element before mayEnd =>
    unfold step at h
    dsimp only at h
    split at h
    · cases h
      exact .noElements
    · exact .value .element (startValue_offset h 0)
  | afterElement before =>
    cases token <;> cases h
    · exact .lastElement
    · exact .nextElement
  | name before mayEnd =>
    cases token <;> cases mayEnd <;> cases h
    · exact .noMembers
    · exact .name
    · exact .name
  | colon before name =>
    cases token <;> cases h
    exact .colon
  | member before name => exact .value .member (startValue_offset h 0)
  | afterMember before =>
    cases token <;> cases h
    · exact .lastMember
    · exact .nextMember
  | done v => cases h

theorem Moves.step (h : Moves r token r') (o : Nat) : r.step o token = .ok r' := by
  cases h with
  | value due started =>
    have started := startValue_offset started o
    cases due with
    | element =>
      unfold Reader.step
      dsimp only
      split
      · cases started
      · exact started
    | _ => exact started
  | @name stack before mayEnd t => cases mayEnd <;> rfl
  | _ => rfl

theorem run_of_moves (h : Moves r token r') : r.run ((o, token) :: rest) = r'.run rest := by
  have stepped := h.step o
  rw [run.eq_def]
  dsimp only
  split
  · next phase =>
    unfold Reader.step at stepped
    rw [phase] at stepped
    cases stepped
  · rw [stepped]

theorem moves_of_run (ht : token ≠ .finish) (h : r.run ((o, token) :: rest) = .ok v) :
    ∃ r', Moves r token r' ∧ r'.run rest = .ok v := by
  unfold run at h
  split at h
  · exact absurd rfl ht
  · split at h
    · next r' stepped => exact ⟨r', moves_of_step stepped, h⟩
    · cases h

theorem run_finish (h : r.run [(o, .finish)] = .ok v) (o' : Nat) :
    r.run [(o', .finish)] = .ok v := by
  obtain ⟨stack, phase⟩ := r
  cases phase with
  | done => exact h
  | element before mayEnd => cases mayEnd <;> cases h
  | name before mayEnd => cases mayEnd <;> cases h
  | _ => cases h

theorem Moves.isFault (h : Moves r token r') : token.isFault = false := by
  cases h with
  | value _ started => cases token <;> first | rfl | cases started
  | _ => rfl

/-- Neither closing bracket is expected. -/
def Unclosable (r : Reader) : Prop :=
  ∀ token r', Moves r token r' → token ≠ .endArray ∧ token ≠ .endObject

theorem ne_closing_of_startValue {stack : List Frame} (h : startValue o stack token = .ok r') :
    token ≠ .endArray ∧ token ≠ .endObject := by
  constructor
  all_goals
    rintro rfl
    cases h

/-- A closing bracket does not follow a comma. -/
theorem Moves.unclosable_of_comma (h : Moves r .comma r') : r'.Unclosable := by
  intro token r'' second
  cases h with
  | value _ started => cases started
  | nextElement | nextMember =>
    cases second with
    | value _ started => exact ne_closing_of_startValue started
    | _ => exact ⟨Token.noConfusion, Token.noConfusion⟩

/-- A comma or a closing bracket follows a value in a container. -/
theorem Moves.after_complete {stack : List Frame} (h : Moves (complete v stack) token r') :
    token = .comma ∨ token = .endArray ∨ token = .endObject := by
  cases stack with
  | nil => cases h with | value due _ => cases due
  | cons frame stack =>
    cases frame with
    | array before =>
      cases h with
      | value due _ => cases due
      | nextElement => exact .inl rfl
      | lastElement => exact .inr (.inl rfl)
    | object before name =>
      cases h with
      | value due _ => cases due
      | nextMember => exact .inl rfl
      | lastMember => exact .inr (.inr rfl)

theorem Moves.number {n : Numeral} (h : Moves r (.number n) r') :
    ∃ v stack, r' = complete v stack := by
  cases h with
  | @value _ frames _ _ _ started =>
    unfold startValue at started
    dsimp only at started
    split at started
    · next v _ =>
      cases started
      exact ⟨v, frames, rfl⟩
    · cases started

end Reader

/-! ### The tokens of a text -/

namespace Token

variable {token : Token} {lexeme : Text}

theorem scanFrom_blank {c : CodePoint} (hc : c.isJsonBlank = true) (at_ : Nat) (s : Text) :
    scanFrom 0 at_ (c :: s) = scanFrom 0 (at_ + 1) s := by
  rw [scanFrom.eq_def]
  exact if_pos hc

theorem scanFrom_length (taken : Text) (at_ : Nat) (s : Text) :
    scanFrom taken.length at_ (taken ++ s) = scanFrom 0 (at_ + taken.length) s := by
  induction taken generalizing at_ with
  | nil => rfl
  | cons c taken ih =>
    have shift : at_ + (c :: taken).length = at_ + 1 + taken.length := by simp; omega
    rw [shift, ← ih]
    rfl

theorem isFault_of_lexeme (h : Lexeme token lexeme) : token.isFault = false := by
  cases h with
  | mark one =>
    simp only [marks, List.mem_cons, Prod.mk.injEq, List.not_mem_nil, or_false] at one
    rcases one with ⟨-, rfl⟩ | ⟨-, rfl⟩ | ⟨-, rfl⟩ | ⟨-, rfl⟩ | ⟨-, rfl⟩ | ⟨-, rfl⟩ <;> rfl
  | _ => rfl

theorem ne_finish_of_lexeme (h : Lexeme token lexeme) : token ≠ .finish := by
  rintro rfl
  cases h with
  | mark one => simp [marks] at one

theorem first_ne_finish (at_ : Nat) (c : CodePoint) (rest : Text) :
    (first at_ c rest).1 ≠ .finish := by
  by_cases mark : ∃ m, (c, m) ∈ marks
  · obtain ⟨m, one⟩ := mark
    rw [first_mark one]
    exact ne_finish_of_lexeme (.mark one)
  rw [first_of_not_mark (not_exists.1 mark)]
  split
  · split <;> simp
  · split
    · simp
    · split <;> simp

theorem scanFrom_lexeme {s : Text} (h : Lexeme token lexeme) (stops : token.StopsAt s)
    (at_ : Nat) :
    scanFrom 0 at_ (lexeme ++ s) = (at_, token) :: scanFrom 0 (at_ + lexeme.length) s := by
  obtain ⟨c, tail, rfl, visible⟩ := h.exists_cons
  have blank : ¬ c.isJsonBlank = true := by
    intro hc
    rw [CodePoint.isBlank_of_isJsonBlank hc] at visible
    cases visible
  have shift : at_ + (c :: tail).length = at_ + 1 + tail.length := by simp; omega
  rw [List.cons_append, scanFrom.eq_def]
  dsimp only
  rw [if_neg blank, first_lexeme h stops, isFault_of_lexeme h, shift, ← scanFrom_length]
  rfl

end Token

/-- The next token is a closing bracket. -/
inductive Closes : Text → Prop
  | bracket {s} : Closes (CodePoint.ofChar ']' :: s)
  | brace {s} : Closes (CodePoint.ofChar '}' :: s)
  | blank {c s} (hc : c.isJsonBlank = true) (next : Closes s) : Closes (c :: s)

theorem Closes.scanFrom {s : Text} (h : Closes s) (at_ : Nat) :
    ∃ o token rest, Token.scanFrom 0 at_ s = (o, token) :: rest ∧
      (token = .endArray ∨ token = .endObject) := by
  induction h generalizing at_ with
  | bracket => exact ⟨at_, _, _, rfl, .inl rfl⟩
  | brace => exact ⟨at_, _, _, rfl, .inr rfl⟩
  | blank hc _ ih =>
    rw [Token.scanFrom_blank hc]
    exact ih _

theorem Reader.Unclosable.not_closes {r : Reader} (h : r.Unclosable) {s : Text} {at_ : Nat}
    {v : Value} (ran : r.run (Token.scanFrom 0 at_ s) = .ok v) : ¬ Closes s := by
  intro closes
  obtain ⟨o, token, rest, scanned, closing⟩ := closes.scanFrom at_
  rw [scanned] at ran
  have some_ : token ≠ .finish := by rcases closing with rfl | rfl <;> exact Token.noConfusion
  obtain ⟨r', moves, -⟩ := moves_of_run some_ ran
  exact closing.elim (h _ _ moves).1 (h _ _ moves).2

theorem closes_blank_iff {c : CodePoint} (hc : c.isJsonBlank = true) {s : Text} :
    Closes (c :: s) ↔ Closes s := by
  refine ⟨fun h => ?_, .blank hc⟩
  cases h with
  | blank _ next => exact next
  | _ => exact absurd hc (by decide)

/-- Whether a text closes is a matter of its next token, and is seen by the cleaning pass. -/
theorem closesNext_lexeme_iff {token : Token} {lexeme : Text} (h : Lexeme token lexeme)
    (s u : Text) : Lenient.closesNext (lexeme ++ u) = true ↔ Closes (lexeme ++ s) := by
  obtain ⟨c, tail, rfl, visible⟩ := h.exists_cons
  have seen : Lenient.closesNext (c :: tail ++ u) =
      (c = CodePoint.ofChar '}' || c = CodePoint.ofChar ']') := by
    unfold Lenient.closesNext
    rw [List.cons_append, List.dropWhile_cons_of_neg (by simp [visible])]
  rw [seen, Bool.or_eq_true, decide_eq_true_iff, decide_eq_true_iff]
  constructor
  · rintro (rfl | rfl)
    · exact .brace
    · exact .bracket
  · intro closes
    cases closes with
    | bracket => exact .inr rfl
    | brace => exact .inl rfl
    | blank hc _ =>
      rw [CodePoint.isBlank_of_isJsonBlank hc] at visible
      cases visible

theorem closesNext_blank {c : CodePoint} (hc : c.isJsonBlank = true) (u : Text) :
    Lenient.closesNext (c :: u) = Lenient.closesNext u := by
  unfold Lenient.closesNext
  rw [List.dropWhile_cons_of_pos (CodePoint.isBlank_of_isJsonBlank hc)]

/-! ### Relaxed texts -/

/-- Whether a token is the last of a value. A name ends none, but is never followed by a closing
bracket either. -/
def Token.endsValue : Token → Bool
  | .endArray | .endObject | .word _ | .number _ | .string _ => true
  | _ => false

/-- What may be put between tokens: a blank, a line comment with its line feed, or a block
comment, whatever is written in it. -/
inductive Filler : Text → Prop
  | blank {c} (hc : c.isJsonBlank = true) : Filler [c]
  | line {body} (oneLine : CodePoint.ofChar '\n' ∉ body) :
      Filler (CodePoint.ofChar '/' :: CodePoint.ofChar '/' :: (body ++ [CodePoint.ofChar '\n']))
  | block {body} (closed : Text.hasBlock body "*/" = false) :
      Filler (CodePoint.ofChar '/' :: CodePoint.ofChar '*' ::
        (body ++ [CodePoint.ofChar '*', CodePoint.ofChar '/']))

/-- The second text is the first one with fillers between its tokens and commas behind the last
elements and members. `ended` says that the token before, blanks and fillers aside, ends a value
and that no comma has been put behind it. -/
inductive Relaxes : Bool → Text → Text → Prop
  | nil {ended} : Relaxes ended [] []
  /-- The last comment may be ended by the end of the text. -/
  | openLine {ended body} (oneLine : CodePoint.ofChar '\n' ∉ body) :
      Relaxes ended [] (CodePoint.ofChar '/' :: CodePoint.ofChar '/' :: body)
  | blank {ended c s t} (hc : c.isJsonBlank = true) (rest : Relaxes ended s t) :
      Relaxes ended (c :: s) (c :: t)
  | filler {ended f s t} (put : Filler f) (rest : Relaxes ended s t) : Relaxes ended s (f ++ t)
  | comma {s t} (closes : Closes s) (rest : Relaxes false s t) :
      Relaxes true s (CodePoint.ofChar ',' :: t)
  | token {ended token lexeme s t} (spelled : Lexeme token lexeme) (stops : token.StopsAt s)
      (rest : Relaxes token.endsValue s t) : Relaxes ended (lexeme ++ s) (lexeme ++ t)

/-! ### Comments leave blanks -/

/-- A blank is no part of a token, nor of a comment's mark. -/
theorem plain_of_isJsonBlank {c : CodePoint} (hc : c.isJsonBlank = true) :
    c ≠ CodePoint.ofChar '"' ∧ c ≠ CodePoint.ofChar '/' ∧ c ≠ CodePoint.ofChar ',' ∧
      Numeral.inSpelling c = false := by
  refine ⟨?_, ?_, ?_, ?_⟩
  case refine_4 =>
    by_contra made
    rw [Bool.not_eq_false] at made
    have visible := Numeral.isBlank_of_inSpelling made
    rw [CodePoint.isBlank_of_isJsonBlank hc] at visible
    cases visible
  all_goals
    rintro rfl
    exact absurd hc (by decide)

namespace Lenient

theorem dropComments_line {body : Text} (oneLine : CodePoint.ofChar '\n' ∉ body) (at_ : Nat)
    (t : Text) :
    dropComments .lineComment 0 at_ (body ++ CodePoint.ofChar '\n' :: t) =
      (dropComments .code 0 (at_ + body.length + 1) t).map (CodePoint.ofChar '\n' :: ·) := by
  induction body generalizing at_ with
  | nil => rfl
  | cons c body ih =>
    have shift : at_ + (c :: body).length + 1 = at_ + 1 + body.length + 1 := by simp; omega
    rw [List.mem_cons, not_or] at oneLine
    rw [List.cons_append, dropComments.eq_def]
    dsimp only
    rw [if_neg (Ne.symm oneLine.1), ih oneLine.2, shift]

theorem dropComments_openLine {body : Text} (oneLine : CodePoint.ofChar '\n' ∉ body) (at_ : Nat) :
    dropComments .lineComment 0 at_ body = .ok [] := by
  induction body generalizing at_ with
  | nil => rfl
  | cons c body ih =>
    rw [List.mem_cons, not_or] at oneLine
    rw [dropComments.eq_def]
    dsimp only
    rw [if_neg (Ne.symm oneLine.1), ih oneLine.2]

theorem dropComments_block {body : Text} (closed : Text.hasBlock body "*/" = false)
    (opened at_ : Nat) (t : Text) :
    dropComments (.blockComment opened) 0 at_
        (body ++ CodePoint.ofChar '*' :: CodePoint.ofChar '/' :: t) =
      (dropComments .code 0 (at_ + body.length + 2) t).map (CodePoint.ofChar ' ' :: ·) := by
  induction body generalizing at_ with
  | nil => rfl
  | cons c body ih =>
    rw [Text.hasBlock, Bool.or_eq_false_iff] at closed
    have shift : at_ + (c :: body).length + 2 = at_ + 1 + body.length + 2 := by simp; omega
    have goesOn : ¬ (c = CodePoint.ofChar '*' ∧
        (body ++ CodePoint.ofChar '*' :: CodePoint.ofChar '/' :: t).head? =
          some (CodePoint.ofChar '/')) := by
      rintro ⟨rfl, next⟩
      cases body with
      | nil => exact absurd (Option.some.inj next) (by decide)
      | cons d body =>
        cases next
        exact absurd closed.1 (by simp [Text.startsWith, Text.ofString])
    rw [List.cons_append, dropComments.eq_def]
    dsimp only
    rw [if_neg goesOn, ih closed.2, shift]

theorem dropComments_blank {c : CodePoint} (hc : c.isJsonBlank = true) (at_ : Nat) (t : Text) :
    dropComments .code 0 at_ (c :: t) = (dropComments .code 0 (at_ + 1) t).map (c :: ·) := by
  obtain ⟨quote, slash, -⟩ := plain_of_isJsonBlank hc
  exact dropComments_plain_append (t := [c]) at_ (List.forall_mem_singleton.2 ⟨quote, slash⟩) t

theorem dropTrailingCommas_blank {c : CodePoint} (hc : c.isJsonBlank = true) (u : Text) :
    dropTrailingCommas 0 (c :: u) = c :: dropTrailingCommas 0 u := by
  obtain ⟨quote, -, comma, -⟩ := plain_of_isJsonBlank hc
  exact dropTrailingCommas_plain_append (t := [c]) (List.forall_mem_singleton.2 ⟨quote, comma⟩) u

/-- A trailing comma is dropped. -/
theorem dropTrailingCommas_comma {u : Text} (h : closesNext u = true) :
    dropTrailingCommas 0 (CodePoint.ofChar ',' :: u) = dropTrailingCommas 0 u := by
  rw [dropTrailingCommas.eq_def]
  dsimp only
  rw [if_neg (by decide), if_pos ⟨rfl, h⟩]

theorem dropComments_comma (at_ : Nat) (t : Text) :
    dropComments .code 0 at_ (CodePoint.ofChar ',' :: t) =
      (dropComments .code 0 (at_ + 1) t).map (CodePoint.ofChar ',' :: ·) :=
  dropComments_plain_append (t := [CodePoint.ofChar ',']) at_ (by decide) t

/-- A filler leaves one blank. -/
theorem dropComments_filler {f : Text} (put : Filler f) (at_ : Nat) (t : Text) :
    ∃ c at', c.isJsonBlank = true ∧
      dropComments .code 0 at_ (f ++ t) = (dropComments .code 0 at' t).map (c :: ·) := by
  cases put with
  | @blank c hc => exact ⟨c, at_ + 1, hc, dropComments_blank hc at_ t⟩
  | @line body oneLine =>
    refine ⟨CodePoint.ofChar '\n', at_ + 2 + body.length + 1, by decide, ?_⟩
    rw [← dropComments_line oneLine, List.cons_append, List.cons_append, List.append_assoc]
    rfl
  | @block body closed =>
    refine ⟨CodePoint.ofChar ' ', at_ + 2 + body.length + 2, by decide, ?_⟩
    rw [← dropComments_block closed at_, List.cons_append, List.cons_append, List.append_assoc]
    rfl

end Lenient

/-! ### What cleaning leaves -/

/-- A relaxed text of `s` without its comments is `u`: without its trailing commas too, it is read
as `s` is. -/
structure Cleans (ended : Bool) (s u : Text) : Prop where
  reads : ∀ {r : Reader} {at_ v}, r.run (Token.scanFrom 0 at_ s) = .ok v →
    ∀ at', r.run (Token.scanFrom 0 at' (Lenient.dropTrailingCommas 0 u)) = .ok v
  /-- Nothing but blanks is new at the front. -/
  head : ∀ c ∈ (Lenient.dropTrailingCommas 0 u).head?, c.isJsonBlank = true ∨ s.head? = some c
  closes : ended = false → Closes s → Lenient.closesNext u = true
  closing : Lenient.closesNext u = true → Closes s

namespace Cleans

variable {ended : Bool} {s u : Text}

theorem nil : Cleans ended [] [] := by
  refine ⟨fun ran at' => Reader.run_finish ran at', ?_, ?_, ?_⟩
  · intro c hc
    cases hc
  · intro _ h
    cases h
  · intro h
    cases h

/-- A blank more. -/
theorem inserted {c : CodePoint} (hc : c.isJsonBlank = true) (h : Cleans ended s u) :
    Cleans ended s (c :: u) where
  reads ran at' := by
    rw [Lenient.dropTrailingCommas_blank hc, Token.scanFrom_blank hc]
    exact h.reads ran _
  head d hd := by
    rw [Lenient.dropTrailingCommas_blank hc] at hd
    cases hd
    exact .inl hc
  closes he hs := by
    rw [closesNext_blank hc]
    exact h.closes he hs
  closing hu := h.closing (closesNext_blank hc u ▸ hu)

/-- A blank of the strict text. -/
theorem blank {c : CodePoint} (hc : c.isJsonBlank = true) (h : Cleans ended s u) :
    Cleans ended (c :: s) (c :: u) where
  reads ran := by
    rw [Token.scanFrom_blank hc] at ran
    exact (h.inserted hc).reads ran
  head d hd := by
    rw [Lenient.dropTrailingCommas_blank hc] at hd
    cases hd
    exact .inl hc
  closes he hs := (h.inserted hc).closes he ((closes_blank_iff hc).1 hs)
  closing hu := .blank hc ((h.inserted hc).closing hu)

theorem comma (closes : Closes s) (h : Cleans false s u) :
    Cleans true s (CodePoint.ofChar ',' :: u) := by
  have dropped := Lenient.dropTrailingCommas_comma (h.closes rfl closes)
  refine ⟨?_, ?_, ?_, fun _ => closes⟩
  · rw [dropped]
    exact h.reads
  · rw [dropped]
    exact h.head
  · intro h
    cases h

theorem stopsAt {token : Token} (stops : token.StopsAt s) (h : Cleans ended s u) :
    token.StopsAt (Lenient.dropTrailingCommas 0 u) := by
  intro n hn c hc
  rcases h.head c hc with blank | front
  · exact Numeral.stops_of_not_inSpelling (plain_of_isJsonBlank blank).2.2.2
  · exact stops n hn c front

theorem token {token : Token} {lexeme : Text} (spelled : Lexeme token lexeme)
    (stops : token.StopsAt s) (strict : token = .comma → ¬ Closes s)
    (h : Cleans token.endsValue s u) : Cleans ended (lexeme ++ s) (lexeme ++ u) := by
  have kept : Lenient.dropTrailingCommas 0 (lexeme ++ u) =
      lexeme ++ Lenient.dropTrailingCommas 0 u :=
    spelled.dropTrailingCommas fun ht => Bool.eq_false_iff.2 fun hu => strict ht (h.closing hu)
  have closes_iff := closesNext_lexeme_iff spelled s u
  refine ⟨fun {r at_ v} ran at' => ?_, fun c hc => ?_, fun _ => closes_iff.2, closes_iff.1⟩
  · rw [Token.scanFrom_lexeme spelled stops] at ran
    obtain ⟨r', moves, ran'⟩ := Reader.moves_of_run (Token.ne_finish_of_lexeme spelled) ran
    rw [kept, Token.scanFrom_lexeme spelled (h.stopsAt stops), Reader.run_of_moves moves]
    exact h.reads ran' _
  · obtain ⟨d, tail, rfl, -⟩ := spelled.exists_cons
    rw [kept] at hc
    exact .inr hc

end Cleans

/-- Dropping the comments of a relaxed text leaves one that is cleaned of its commas as it should
be, provided the strict text is read. -/
theorem Relaxes.cleans {ended : Bool} {s t : Text} (h : Relaxes ended s t) {r : Reader}
    {at_ : Nat} {v : Value} (ran : r.run (Token.scanFrom 0 at_ s) = .ok v) (at' : Nat) :
    ∃ u, Lenient.dropComments .code 0 at' t = .ok u ∧ Cleans ended s u := by
  induction h generalizing r at_ at' with
  | nil => exact ⟨[], rfl, .nil⟩
  | openLine oneLine => exact ⟨[], Lenient.dropComments_openLine oneLine (at' + 2), .nil⟩
  | @blank ended c s t hc _ ih =>
    rw [Token.scanFrom_blank hc] at ran
    obtain ⟨u, cleaned, cleans⟩ := ih ran (at' + 1)
    refine ⟨c :: u, ?_, cleans.blank hc⟩
    rw [Lenient.dropComments_blank hc, cleaned]
    rfl
  | filler put _ ih =>
    obtain ⟨c, at'', hc, left⟩ := Lenient.dropComments_filler put at' _
    obtain ⟨u, cleaned, cleans⟩ := ih ran at''
    refine ⟨c :: u, ?_, cleans.inserted hc⟩
    rw [left, cleaned]
    rfl
  | comma closes _ ih =>
    obtain ⟨u, cleaned, cleans⟩ := ih ran (at' + 1)
    refine ⟨CodePoint.ofChar ',' :: u, ?_, cleans.comma closes⟩
    rw [Lenient.dropComments_comma, cleaned]
    rfl
  | @token ended token lexeme s t spelled stops _ ih =>
    rw [Token.scanFrom_lexeme spelled stops] at ran
    obtain ⟨r', moves, ran'⟩ := Reader.moves_of_run (Token.ne_finish_of_lexeme spelled) ran
    obtain ⟨u, cleaned, cleans⟩ := ih ran' (at' + lexeme.length)
    refine ⟨lexeme ++ u, ?_, cleans.token spelled stops fun ht => ?_⟩
    · rw [spelled.dropComments, cleaned]
      rfl
    · subst ht
      exact moves.unclosable_of_comma.not_closes ran'

/-! ### The strict text itself -/

/-- What is read and does not start with a blank starts with a token. -/
theorem Reader.lexeme_of_run {r : Reader} {at_ : Nat} {c : CodePoint} {rest : Text} {v : Value}
    (blank : ¬ c.isJsonBlank = true) (ran : r.run (Token.scanFrom 0 at_ (c :: rest)) = .ok v) :
    ∃ token lexeme rest' r', c :: rest = lexeme ++ rest' ∧ Lexeme token lexeme ∧
      Moves r token r' ∧ r'.run (Token.scanFrom 0 (at_ + lexeme.length) rest') = .ok v := by
  rw [Token.scanFrom.eq_def] at ran
  dsimp only at ran
  rw [if_neg blank] at ran
  have some_ := Token.first_ne_finish at_ c rest
  obtain ⟨⟨token, n⟩, scanned⟩ : ∃ p, Token.first at_ c rest = p := ⟨_, rfl⟩
  rw [scanned] at ran some_
  obtain ⟨r', moves, ran'⟩ := moves_of_run some_ ran
  obtain ⟨lexeme, rest', split, rfl, spelled⟩ := Token.exists_lexeme scanned moves.isFault
  refine ⟨token, lexeme, rest', r', split, spelled, moves, ?_⟩
  obtain ⟨d, tail, rfl, -⟩ := spelled.exists_cons
  cases split
  rw [moves.isFault] at ran'
  have shift : at_ + (c :: tail).length = at_ + 1 + tail.length := by simp; omega
  rw [shift, ← Token.scanFrom_length]
  exact ran'

/-- A number literal that is read on is at its end. -/
theorem Reader.stopsAt_of_run {r r' : Reader} {token : Token} (h : Moves r token r') {s : Text}
    {at_ : Nat} {v : Value} (ran : r'.run (Token.scanFrom 0 at_ s) = .ok v) :
    token.StopsAt s := by
  rintro n rfl c hc
  obtain ⟨rest, rfl⟩ := List.head?_eq_some_iff.1 hc
  by_cases blank : c.isJsonBlank = true
  · exact Numeral.stops_of_not_inSpelling (plain_of_isJsonBlank blank).2.2.2
  obtain ⟨_, stack, rfl⟩ := h.number
  obtain ⟨token, lexeme, rest', _, split, spelled, moves, -⟩ := lexeme_of_run blank ran
  rcases moves.after_complete with rfl | rfl | rfl
  · rw [spelled.eq_singleton (c := CodePoint.ofChar ',') (by simp [marks])] at split
    cases split
    decide
  · rw [spelled.eq_singleton (c := CodePoint.ofChar ']') (by simp [marks])] at split
    cases split
    decide
  · rw [spelled.eq_singleton (c := CodePoint.ofChar '}') (by simp [marks])] at split
    cases split
    decide

/-- A text that is read is a relaxed text of its own. -/
theorem Relaxes.refl {s : Text} {r : Reader} {at_ : Nat} {v : Value}
    (ran : r.run (Token.scanFrom 0 at_ s) = .ok v) (ended : Bool) : Relaxes ended s s := by
  induction hn : s.length using Nat.strong_induction_on generalizing s r at_ ended with
  | _ n ih =>
    cases s with
    | nil => exact .nil
    | cons c rest =>
      by_cases blank : c.isJsonBlank = true
      · rw [Token.scanFrom_blank blank] at ran
        exact .blank blank (ih rest.length (by simp [← hn]) ran ended rfl)
      obtain ⟨token, lexeme, rest', r', split, spelled, moves, ran'⟩ :=
        Reader.lexeme_of_run blank ran
      have shorter : rest'.length < n := by
        obtain ⟨d, tail, rfl, -⟩ := spelled.exists_cons
        rw [← hn, split, List.length_append, List.length_cons]
        omega
      rw [split]
      exact .token spelled (Reader.stopsAt_of_run moves ran') (ih _ shorter ran' _ rfl)

/-! ### Reading relaxed texts -/

theorem read_ok_iff {s : Text} {v : Value} :
    read s = .ok v ↔ s.head? ≠ some (CodePoint.ofNat 0xFEFF) ∧
      Reader.start.run (Token.scanFrom 0 0 s) = .ok v := by
  unfold read Token.scan
  split
  · next mark => simp [mark]
  · next mark => cases h : Reader.start.run (Token.scanFrom 0 0 s) with
    | ok w => simp [mark]
    | error stop => cases stop <;> simp

theorem Lexeme.head?_ne_byteOrderMark {token : Token} {lexeme : Text} (h : Lexeme token lexeme) :
    lexeme.head? ≠ some (CodePoint.ofNat 0xFEFF) := by
  cases h with
  | mark one =>
    have other : ∀ m ∈ marks, m.1 ≠ CodePoint.ofNat 0xFEFF := by decide
    exact fun h => other _ one (Option.some.inj h)
  | word one =>
    have other : ∀ w ∈ words, w.1.head? ≠ some (CodePoint.ofNat 0xFEFF) := by decide
    exact other _ one
  | number spelled =>
    intro h
    exact absurd (spelled.inSpelling _ (List.mem_of_mem_head? h)) (by decide)
  | string => exact fun h => absurd (Option.some.inj h) (by decide)

/-- No token starts with a byte order mark, so that it need not be looked for. -/
theorem read_of_run {s : Text} {v : Value}
    (ran : Reader.start.run (Token.scanFrom 0 0 s) = .ok v) : read s = .ok v := by
  refine read_ok_iff.2 ⟨fun mark => ?_, ran⟩
  obtain ⟨rest, rfl⟩ := List.head?_eq_some_iff.1 mark
  obtain ⟨token, lexeme, rest', _, split, spelled, -⟩ := Reader.lexeme_of_run (by decide) ran
  obtain ⟨c, tail, rfl, -⟩ := spelled.exists_cons
  cases split
  exact spelled.head?_ne_byteOrderMark rfl

theorem Relaxes.readLenient {s t : Text} {v : Value} (made : Relaxes false s t)
    (h : read s = .ok v) : readLenient t = .ok v := by
  obtain ⟨mark, ran⟩ := read_ok_iff.1 h
  obtain ⟨u, cleaned, cleans⟩ := made.cleans ran 0
  have unmarked : (stripTrailingCommas u).head? ≠ some (CodePoint.ofNat 0xFEFF) := by
    intro front
    rcases cleans.head _ front with blank | first
    · exact absurd blank (by decide)
    · exact mark first
  have stripped : stripComments t = .ok u := by
    unfold stripComments
    rw [cleaned]
  unfold Json.readLenient
  rw [stripped]
  exact read_ok_iff.2 ⟨unmarked, cleans.reads ran 0⟩

theorem readLenient_of_read {s : Text} {v : Value} (h : read s = .ok v) : readLenient s = .ok v :=
  (Relaxes.refl (read_ok_iff.1 h).2 false).readLenient h

/-- **A relaxed text has the value of the strict text**, and so has the strict text itself. -/
theorem readLenient_of_relaxes {s : Text} {v : Value} (h : read s = .ok v) :
    readLenient s = .ok v ∧ ∀ t, Relaxes false s t → readLenient t = .ok v :=
  ⟨readLenient_of_read h, fun _ made => made.readLenient h⟩

/-- A comment with a quote and a closing bracket in it, a string with a comment's mark in it, and
a trailing comma with a comment behind it. -/
theorem readLenient_of_relaxes_commented :
    read "[1,\"/*\"]" = .ok (.array [.int 1, .string "/*"]) ∧
      Relaxes false "[1,\"/*\"]" "[/* \"], */1,\"/*\",// ]\n]//" ∧
      readLenient "[1,\"/*\"]" = .ok (.array [.int 1, .string "/*"]) ∧
      readLenient "[/* \"], */1,\"/*\",// ]\n]//" = .ok (.array [.int 1, .string "/*"]) := by
  have strict : read "[1,\"/*\"]" = .ok (.array [.int 1, .string "/*"]) := by cbv
  have one : Lexeme (.number ⟨false, "1", none, none⟩) "1" :=
    .number (.mk (.digits (by decide) (by decide)) .none .none)
  have string : Lexeme (.string "/*") "\"/*\"" :=
    .string (.plain (by decide) (by decide) (by decide)
      (.plain (by decide) (by decide) (by decide) .close))
  have opening : Lexeme .beginArray "[" :=
    .mark (show (CodePoint.ofChar '[', Token.beginArray) ∈ marks by simp [marks])
  have comma : Lexeme .comma "," :=
    .mark (show (CodePoint.ofChar ',', Token.comma) ∈ marks by simp [marks])
  have closing : Lexeme .endArray "]" :=
    .mark (show (CodePoint.ofChar ']', Token.endArray) ∈ marks by simp [marks])
  have block : Filler "/* \"], */" := by
    have closed : Text.hasBlock " \"], " "*/" = false := by decide
    exact .block closed
  have line : Filler "// ]\n" := by
    have oneLine : CodePoint.ofChar '\n' ∉ Text.ofString " ]" := by decide
    exact .line oneLine
  have stops : (Token.number ⟨false, "1", none, none⟩).StopsAt
      (Text.ofString "," ++ (Text.ofString "\"/*\"" ++ (Text.ofString "]" ++ []))) := by
    rintro n - c ⟨⟩
    decide
  have relaxes : Relaxes false (Text.ofString "[" ++ (Text.ofString "1" ++ (Text.ofString "," ++
      (Text.ofString "\"/*\"" ++ (Text.ofString "]" ++ [])))))
      (Text.ofString "[" ++ (Text.ofString "/* \"], */" ++ (Text.ofString "1" ++
        (Text.ofString "," ++ (Text.ofString "\"/*\"" ++ (CodePoint.ofChar ',' ::
          (Text.ofString "// ]\n" ++ (Text.ofString "]" ++ Text.ofString "//")))))))) :=
    .token opening (by rintro n ⟨⟩) <| .filler block <| .token one stops <|
      .token comma (by rintro n ⟨⟩) <| .token string (by rintro n ⟨⟩) <| .comma .bracket <|
        .filler line <| .token closing (by rintro n ⟨⟩) <| .openLine List.not_mem_nil
  exact ⟨strict, relaxes, (readLenient_of_relaxes strict).1,
    (readLenient_of_relaxes strict).2 _ relaxes⟩

end HttpCourier.Json
