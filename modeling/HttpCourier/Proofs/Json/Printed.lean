import HttpCourier.Json.Printer
import HttpCourier.Proofs.Json.Relaxed
import HttpCourier.Proofs.Text.Utf8

/-!
# HttpCourier.Proofs.Json.Printed

**What is written as a body is read as the value that it was.** The compact text of an `Exact`
value is a sequence of spelled tokens, so that the reader moves over it token by token
(`Reader.Reads`) and comes out with the value complete. The proof goes by the structure of the
value: a container takes its brackets, its separators and, by induction, its items.

A value that is not exact does not come back: a floating-point number may be written as `null`, an
integer with too many digits is not read at all, and of two members of one name the later one is
kept.
-/

namespace HttpCourier

/-! ### Digits of natural numbers -/

namespace Text

theorem ofNat_of_lt {n : Nat} (h : n < 10) : ofNat n = [CodePoint.ofChar n.digitChar] := by
  rw [ofNat, Nat.toDigits_of_lt_base h]
  rfl

theorem ofNat_of_le {n : Nat} (h : 10 ≤ n) :
    ofNat n = ofNat (n / 10) ++ [CodePoint.ofChar (n % 10).digitChar] := by
  rw [ofNat, Nat.toDigits_of_base_le (by decide) h, List.map_append]
  rfl

theorem digitsValue_concat (t : Text) {d : Nat} (h : d < 10) :
    digitsValue (t ++ [CodePoint.ofChar d.digitChar]) = 10 * digitsValue t + d := by
  rw [digitsValue, List.foldl_append]
  show 10 * digitsValue t + (d.digitChar.toNat - 0x30) = _
  rw [Nat.toNat_digitChar_sub_48_of_lt_ten h]

theorem digitsValue_ofNat (n : Nat) : digitsValue (ofNat n) = n := by
  induction n using Nat.strong_induction_on with
  | _ n ih =>
    by_cases small : n < 10
    · rw [ofNat_of_lt small]
      exact (digitsValue_concat [] small).trans (Nat.zero_add n)
    · rw [ofNat_of_le (by omega), digitsValue_concat _ (Nat.mod_lt n (by decide)),
        ih (n / 10) (by omega)]
      omega

theorem isDigit_of_mem_ofNat {n : Nat} {c : CodePoint} (h : c ∈ ofNat n) : c.isDigit = true := by
  obtain ⟨x, written, rfl⟩ := List.mem_map.1 h
  have digit := Nat.isDigit_of_mem_toDigits (by decide) (by decide) written
  rw [Char.isDigit_iff_toNat] at digit
  exact CodePoint.isDigit_iff.2 digit

theorem ofNat_ne_nil (n : Nat) : ofNat n ≠ [] := by
  simp [ofNat, Nat.toDigits_ne_nil]

theorem ofNat_head? {n : Nat} (h : n ≠ 0) : (ofNat n).head? ≠ some (CodePoint.ofChar '0') := by
  induction n using Nat.strong_induction_on with
  | _ n ih =>
    by_cases small : n < 10
    · rw [ofNat_of_lt small]
      intro front
      have zero := CodePoint.ofChar_inj.1 (Option.some.inj front)
      exact h (Nat.digitChar_eq_zero.1 zero)
    · rw [ofNat_of_le (by omega), List.head?_append_of_ne_nil _ (ofNat_ne_nil _)]
      exact ih (n / 10) (by omega) (by omega)

end Text

namespace Json

/-! ### Integers -/

namespace Numeral

/-- The literal of an integer. -/
def ofInt (i : Int) : Numeral := ⟨decide (i < 0), Text.ofNat i.natAbs, none, none⟩

theorem wholeSpelling_ofNat (n : Nat) : WholeSpelling (Text.ofNat n) := by
  by_cases zero : n = 0
  · subst zero
    exact .zero
  · have first := Text.ofNat_head? zero
    have all : ∀ d ∈ Text.ofNat n, d.isDigit = true := fun _ => Text.isDigit_of_mem_ofNat
    cases written : Text.ofNat n with
    | nil => exact absurd written (Text.ofNat_ne_nil n)
    | cons c ds =>
      rw [written] at first all
      exact .digits (fun hc => first (congrArg some hc)) all

theorem spelling_ofInt (i : Int) : Spelling (ofInt i) (Text.ofInt i) := by
  have spelled : Spelling (ofInt i) _ := .mk (wholeSpelling_ofNat i.natAbs) .none .none
  unfold Text.ofInt
  by_cases negative : i < 0
  · rw [if_pos negative]
    simpa [negative] using spelled
  · rw [if_neg negative]
    simpa [negative] using spelled

theorem stopsAt_cons {c : CodePoint} (h : inSpelling c = false) (t : Text) : StopsAt (c :: t) := by
  rintro _ ⟨⟩
  exact stops_of_not_inSpelling h

theorem value_ofInt {i : Int} (h : (Text.ofNat i.natAbs).length ≤ maxDigits) :
    (ofInt i).value = .ok (.int i) := by
  have converted : (ofInt i).toInt = i := by
    unfold toInt ofInt
    dsimp only
    rw [Text.digitsValue_ofNat]
    split
    · next negative =>
      have := of_decide_eq_true negative
      omega
    · next negative =>
      have := of_decide_eq_false (Bool.eq_false_iff.2 negative)
      omega
  have short : ¬ maxDigits < (ofInt i).whole.length := Nat.not_lt.2 h
  unfold value
  rw [if_pos ⟨rfl, rfl⟩, if_neg short, converted]

end Numeral

/-! ### String literals -/

theorem Letter.join_numbered {n : Nat} (h : n < 0x20) (letters : List Letter) :
    join (.numbered n :: letters) = CodePoint.ofNat n :: join letters := by
  have low : isHighSurrogate n = false := by simp [isHighSurrogate]; omega
  cases letters with
  | nil => rfl
  | cons letter letters =>
    cases letter with
    | plain c => rfl
    | numbered m => simp [join, low]

/-- A control character is escaped by four hexadecimal digits, which spell its number. -/
theorem unicodeEscape_of_lt : ∀ n < 0x20,
    unicodeEscape n = [CodePoint.ofChar '\\', CodePoint.ofChar 'u', CodePoint.ofChar '0',
      CodePoint.ofChar '0', CodePoint.ofChar (n / 16).digitChar,
      CodePoint.ofChar (n % 16).digitChar] ∧
    hexValue? (CodePoint.ofChar '0') (CodePoint.ofChar '0') (CodePoint.ofChar (n / 16).digitChar)
      (CodePoint.ofChar (n % 16).digitChar) = some n := by
  decide

/-- An escaped code point is one letter, which stands for it. -/
theorem exists_letter (c : CodePoint) {body : Text} {letters : List Letter}
    (rest : LiteralBody body letters) : ∃ letter,
      LiteralBody (escaped false c ++ body) (letter :: letters) ∧
        Letter.join (letter :: letters) = c :: Letter.join letters := by
  have short {e : Char} {d : CodePoint} (hc : c = d) (other : e ≠ 'u')
      (meaning : shortEscape? (CodePoint.ofChar e) = some d) :
      ∃ letter, LiteralBody ([CodePoint.ofChar '\\', CodePoint.ofChar e] ++ body)
          (letter :: letters) ∧ Letter.join (letter :: letters) = c :: Letter.join letters := by
    subst hc
    exact ⟨.plain c, .short (fun h => other (CodePoint.ofChar_inj.1 h)) meaning rest, rfl⟩
  have numbered {n : Nat} (hn : c.val = n) : c = CodePoint.ofNat n := by
    rw [← hn, CodePoint.ofNat_val]
  unfold escaped
  simp only [Bool.false_eq_true, false_and, if_false]
  split_ifs with quote backslash backspace tab newline page return_ control
  · exact short quote (by decide) (by decide)
  · exact short backslash (by decide) (by decide)
  · exact short (numbered backspace) (by decide) (by decide)
  · exact short (numbered tab) (by decide) (by decide)
  · exact short (numbered newline) (by decide) (by decide)
  · exact short (numbered page) (by decide) (by decide)
  · exact short (numbered return_) (by decide) (by decide)
  · obtain ⟨written, value⟩ := unicodeEscape_of_lt c.val control
    refine ⟨.numbered c.val, ?_, ?_⟩
    · rw [written]
      exact .numbered value rest
    · rw [Letter.join_numbered control, CodePoint.ofNat_val]
  · exact ⟨.plain c, .plain quote backslash control rest, rfl⟩

theorem exists_letters (t : Text) : ∃ letters,
    LiteralBody (t.flatMap (escaped false) ++ [CodePoint.ofChar '"']) letters ∧
      Letter.join letters = t := by
  induction t with
  | nil => exact ⟨[], .close, rfl⟩
  | cons c t ih =>
    obtain ⟨letters, spelled, joined⟩ := ih
    obtain ⟨letter, spelled, front⟩ := exists_letter c spelled
    refine ⟨letter :: letters, ?_, front.trans (congrArg (c :: ·) joined)⟩
    rw [List.flatMap_cons, List.append_assoc]
    exact spelled

theorem lexeme_stringLiteral (t : Text) : Lexeme (.string t) (stringLiteral false t) := by
  obtain ⟨letters, spelled, joined⟩ := exists_letters t
  have lexeme : Lexeme _ _ := .string spelled
  rw [joined] at lexeme
  exact lexeme

/-! ### Pieces of text -/

namespace Reader

/-- The reader moves over a piece of text into another state, wherever the piece stands and
whatever follows that does not go on with a number. -/
def Reads (r : Reader) (piece : Text) (r' : Reader) : Prop :=
  ∀ at_ s, Numeral.StopsAt s →
    r.run (Token.scanFrom 0 at_ (piece ++ s)) =
      r'.run (Token.scanFrom 0 (at_ + piece.length) s)

variable {r r' r'' : Reader} {piece more : Text} {token : Token}

theorem reads_token (spelled : Lexeme token piece) (moves : Moves r token r') :
    Reads r piece r' := by
  intro at_ s stops
  rw [Token.scanFrom_lexeme spelled fun _ _ => stops, run_of_moves moves]

theorem Reads.nil : Reads r [] r := fun _ _ _ => rfl

/-- A mark is at its end whatever follows. -/
theorem Reads.cons {c : CodePoint} (one : (c, token) ∈ marks) (moves : Moves r token r')
    (second : Reads r' more r'') : Reads r (c :: more) r'' := by
  intro at_ s behind
  have stops : token.StopsAt (more ++ s) := by
    rintro n rfl
    simp [marks] at one
  have scanned := Token.scanFrom_lexeme (.mark one) stops at_
  rw [List.cons_append, List.nil_append] at scanned
  have shift : at_ + (c :: more).length = at_ + 1 + more.length := by simp; omega
  rw [List.cons_append, scanned, run_of_moves moves, shift]
  exact second _ s behind

/-- Two pieces are taken one after the other, unless they meet inside a number. -/
theorem Reads.append (first : Reads r piece r') (second : Reads r' more r'')
    (stops : Numeral.StopsAt more) : Reads r (piece ++ more) r'' := by
  intro at_ s behind
  -- An empty second piece leaves it to what follows to end the first one.
  have stops : Numeral.StopsAt (more ++ s) := by
    cases more with
    | nil => exact behind
    | cons c more => exact stops
  rw [List.append_assoc, first at_ _ stops, second _ s behind, List.length_append, Nat.add_assoc]

end Reader

/-! ### Values -/

/-- Values that are read as they are written: each number is an integer, short enough to be read,
and no object has a name twice. -/
inductive Value.Exact : Value → Prop
  | null : Exact .null
  | bool (b : Bool) : Exact (.bool b)
  | int {i : Int} (short : (Text.ofNat i.natAbs).length ≤ maxDigits) : Exact (.int i)
  | string (t : Text) : Exact (.string t)
  | array {elements : List Value} (all : ∀ v ∈ elements, Exact v) : Exact (.array elements)
  | object {members : Members} (distinct : (members.map Prod.fst).Nodup)
      (all : ∀ m ∈ members, Exact m.2) : Exact (.object members)

/-! ### The permitted levels -/

namespace Restriction

variable {F : Type} {b : Restriction F} {levels : Nat}

theorem elementsFault?_eq_none_iff {elements : List Value} :
    b.elementsFault? levels elements = none ↔ ∀ v ∈ elements, b.fault? levels v = none := by
  induction elements with
  | nil => simp [elementsFault?]
  | cons v rest ih =>
    rw [elementsFault?, List.forall_mem_cons, ← ih]
    cases b.fault? levels v <;> simp

theorem membersFault?_eq_none_iff {members : Members} :
    b.membersFault? levels members = none ↔
      ∀ m ∈ members, b.ofName m.1 = none ∧ b.fault? levels m.2 = none := by
  induction members with
  | nil => simp [membersFault?]
  | cons m rest ih =>
    rw [membersFault?, List.forall_mem_cons, ← ih]
    cases b.ofName m.1 <;> cases b.fault? levels m.2 <;> simp

theorem write_eq_ok_iff {style : Style} {v : Value} {t : Text} :
    b.write levels style v = .ok t ↔ b.fault? levels v = none ∧ style.text v = t := by
  unfold write
  cases b.fault? levels v <;> simp

end Restriction

/-! ### Taking a value -/

namespace Reader

variable {stack : List Frame} {level : Nat}

/-- The elements behind the first one, and the closing bracket. -/
theorem reads_elements {rest : List Value} (each : ∀ v ∈ rest, ∀ before,
      Reads ⟨stack, .element before false⟩ (Style.compact.textAt level v)
        ⟨stack, .afterElement (v :: before)⟩) (before : List Value) :
    Reads ⟨stack, .afterElement before⟩
      (Style.compact.elementsText level rest ++ [CodePoint.ofChar ']'])
      (complete (.array (before.reverse ++ rest)) stack) ∧
    Numeral.StopsAt (Style.compact.elementsText level rest ++ [CodePoint.ofChar ']']) := by
  induction rest generalizing before with
  | nil =>
    rw [List.append_nil]
    exact ⟨.cons (by simp [marks]) .lastElement .nil, Numeral.stopsAt_cons (by decide) _⟩
  | cons v rest ih =>
    obtain ⟨first, others⟩ := List.forall_mem_cons.1 each
    obtain ⟨behind, stops⟩ := ih others (v :: before)
    rw [List.reverse_cons, List.append_assoc] at behind
    have text : Style.compact.elementsText level (v :: rest) ++ [CodePoint.ofChar ']'] =
        CodePoint.ofChar ',' :: (Style.compact.textAt level v ++
          (Style.compact.elementsText level rest ++ [CodePoint.ofChar ']'])) := by
      simp [Style.elementsText, Style.compact, Style.lineBreak, Text.ofString]
    rw [text]
    exact ⟨.cons (by simp [marks]) .nextElement ((first before).append behind stops),
      Numeral.stopsAt_cons (by decide) _⟩

/-- A member with its name. -/
theorem reads_member {name : Text} {v : Value} {before : Members} (mayEnd : Bool)
    (fresh : name ∉ before.map Prod.fst)
    (value : Reads ⟨stack, .member before name⟩ (Style.compact.textAt level v)
      ⟨stack, .afterMember (before.insert name v)⟩) :
    Reads ⟨stack, .name before mayEnd⟩
      (stringLiteral false name ++ CodePoint.ofChar ':' :: Style.compact.textAt level v)
      ⟨stack, .afterMember (before ++ [(name, v)])⟩ := by
  rw [Entries.insert_of_notMem fresh] at value
  exact (reads_token (lexeme_stringLiteral name) .name).append
    (.cons (by simp [marks]) .colon value) (Numeral.stopsAt_cons (by decide) _)

/-- The members behind the first one, and the closing brace. -/
theorem reads_members {rest : Members} (each : ∀ m ∈ rest, ∀ before : Members,
      Reads ⟨stack, .member before m.1⟩ (Style.compact.textAt level m.2)
        ⟨stack, .afterMember (before.insert m.1 m.2)⟩) (before : Members)
    (distinct : ((before ++ rest).map Prod.fst).Nodup) :
    Reads ⟨stack, .afterMember before⟩
      (Style.compact.membersText level rest ++ [CodePoint.ofChar '}'])
      (complete (.object (before ++ rest)) stack) ∧
    Numeral.StopsAt (Style.compact.membersText level rest ++ [CodePoint.ofChar '}']) := by
  induction rest generalizing before with
  | nil =>
    rw [List.append_nil]
    exact ⟨.cons (by simp [marks]) .lastMember .nil, Numeral.stopsAt_cons (by decide) _⟩
  | cons m rest ih =>
    obtain ⟨name, v⟩ := m
    obtain ⟨first, others⟩ := List.forall_mem_cons.1 each
    have fresh : name ∉ before.map Prod.fst := by
      rw [List.map_append, List.nodup_append] at distinct
      exact fun known => distinct.2.2 name known name List.mem_cons_self rfl
    have split : before ++ (name, v) :: rest = before ++ [(name, v)] ++ rest := by simp
    rw [split] at distinct ⊢
    obtain ⟨behind, stops⟩ := ih others (before ++ [(name, v)]) distinct
    have text : Style.compact.membersText level ((name, v) :: rest) ++ [CodePoint.ofChar '}'] =
        CodePoint.ofChar ',' :: (stringLiteral false name ++
          CodePoint.ofChar ':' :: Style.compact.textAt level v ++
          (Style.compact.membersText level rest ++ [CodePoint.ofChar '}'])) := by
      simp [Style.membersText, Style.compact, Style.lineBreak, Text.ofString]
    rw [text]
    exact ⟨.cons (by simp [marks]) .nextMember
      ((reads_member false fresh (first before)).append behind stops),
      Numeral.stopsAt_cons (by decide) _⟩

/-- An array, where a level is left for it. -/
theorem reads_array {elements : List Value} {r : Reader} (due : Awaits r stack)
    (room : stack.length < maxDepth) (each : ∀ v ∈ elements, ∀ before mayEnd,
      Reads ⟨stack, .element before mayEnd⟩ (Style.compact.textAt (level + 1) v)
        ⟨stack, .afterElement (v :: before)⟩) :
    Reads r (Style.compact.textAt level (.array elements)) (complete (.array elements) stack) := by
  have opening : Moves r .beginArray ⟨stack, .element [] true⟩ :=
    .value due (if_neg (Nat.not_le.2 room))
  cases elements with
  | nil =>
    have text : Style.compact.textAt level (.array []) =
        [CodePoint.ofChar '[', CodePoint.ofChar ']'] := rfl
    rw [text]
    exact .cons (by simp [marks]) opening (.cons (by simp [marks]) .noElements .nil)
  | cons v rest =>
    have first := each v List.mem_cons_self [] true
    obtain ⟨behind, stops⟩ := reads_elements
      (fun w hw before => each w (List.mem_cons_of_mem v hw) before false) [v]
    have text : Style.compact.textAt level (.array (v :: rest)) =
        CodePoint.ofChar '[' :: (Style.compact.textAt (level + 1) v ++
          (Style.compact.elementsText (level + 1) rest ++ [CodePoint.ofChar ']'])) := by
      simp [Style.textAt, Style.compact, Style.lineBreak]
    rw [text]
    exact .cons (by simp [marks]) opening (first.append behind stops)

/-- An object, where a level is left for it. -/
theorem reads_object {members : Members} {r : Reader} (due : Awaits r stack)
    (room : stack.length < maxDepth) (distinct : (members.map Prod.fst).Nodup)
    (each : ∀ m ∈ members, ∀ before : Members,
      Reads ⟨stack, .member before m.1⟩ (Style.compact.textAt (level + 1) m.2)
        ⟨stack, .afterMember (before.insert m.1 m.2)⟩) :
    Reads r (Style.compact.textAt level (.object members)) (complete (.object members) stack) := by
  have opening : Moves r .beginObject ⟨stack, .name [] true⟩ :=
    .value due (if_neg (Nat.not_le.2 room))
  cases members with
  | nil =>
    have text : Style.compact.textAt level (.object []) =
        [CodePoint.ofChar '{', CodePoint.ofChar '}'] := rfl
    rw [text]
    exact .cons (by simp [marks]) opening (.cons (by simp [marks]) .noMembers .nil)
  | cons m rest =>
    obtain ⟨name, v⟩ := m
    have first := reads_member true (by simp) (each (name, v) List.mem_cons_self [])
    obtain ⟨behind, stops⟩ := reads_members
      (fun m hm => each m (List.mem_cons_of_mem (name, v) hm)) [(name, v)] distinct
    have text : Style.compact.textAt level (.object ((name, v) :: rest)) =
        CodePoint.ofChar '{' :: (stringLiteral false name ++
          CodePoint.ofChar ':' :: Style.compact.textAt (level + 1) v ++
          (Style.compact.membersText (level + 1) rest ++ [CodePoint.ofChar '}'])) := by
      simp [Style.textAt, Style.compact, Style.lineBreak, Text.ofString]
    rw [text]
    exact .cons (by simp [marks]) opening (first.append behind stops)

/-- **The compact text of an exact value is read as the value.** The levels that the printer is
permitted are levels that the reader has left. -/
theorem reads_textAt {v : Value} (h : v.Exact) {r : Reader} (due : Awaits r stack) {F : Type}
    {b : Restriction F} {levels : Nat} (fits : b.fault? levels v = none)
    (room : levels + stack.length ≤ maxDepth) :
    Reads r (Style.compact.textAt level v) (complete v stack) := by
  induction h generalizing r stack levels level with
  | null => exact reads_token (.word (by simp [words, Style.textAt])) (.value due rfl)
  | bool b =>
    cases b <;> exact reads_token (.word (by simp [words, Style.textAt])) (.value due rfl)
  | @int i short =>
    refine reads_token (.number (Numeral.spelling_ofInt i)) (.value due ?_)
    rw [startValue, Numeral.value_ofInt short]
  | string t => exact reads_token (lexeme_stringLiteral t) (.value due rfl)
  | array _ ih =>
    cases levels with
    | zero => cases fits
    | succ levels =>
      have inner := Restriction.elementsFault?_eq_none_iff.1 fits
      exact reads_array due (by omega) fun v hv before mayEnd =>
        ih v hv .element (inner v hv) (by rw [List.length_cons]; omega)
  | object distinct _ ih =>
    cases levels with
    | zero => cases fits
    | succ levels =>
      have inner := Restriction.membersFault?_eq_none_iff.1 fits
      exact reads_object due (by omega) distinct fun m hm before =>
        ih m hm .member (inner m hm).2 (by rw [List.length_cons]; omega)

end Reader

/-- **A body is read as the value that it was made of**, in its strict text and by the lenient
reader, which finds no comment and no trailing comma in it. -/
theorem readLenient_of_bodyText {v : Value} (h : v.Exact) {t : Text}
    (written : bodyText v = .ok t) : readLenient t = .ok v := by
  obtain ⟨fits, rfl⟩ := Restriction.write_eq_ok_iff.1 written
  have whole : Reader.start.Reads (Style.compact.text v) (Reader.complete v []) :=
    Reader.reads_textAt h .top fits (by decide)
  have ran := whole 0 [] (by rintro _ ⟨⟩)
  rw [List.append_nil] at ran
  exact readLenient_of_read (read_of_run ran)

end Json

end HttpCourier
