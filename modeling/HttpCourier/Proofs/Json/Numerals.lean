import HttpCourier.Json.Numeral
import HttpCourier.Proofs.Json.Digits

/-!
# HttpCourier.Proofs.Json.Numerals

**How a number literal is spelled.** `Numeral.Spelling` says so as a grammar: a sign, a whole
part, a fraction and an exponent, each with its own digits. The scanner takes such a spelling off
the front of a text (`exists_spelling`), and it reads the same literal again wherever the spelling
stands and does not go on (`Spelling.scan`). Both are put together from the same two facts about
each part.
-/

namespace HttpCourier.Json

namespace Numeral

/-! ### The grammar -/

/-- The spelling of a whole part. -/
inductive WholeSpelling : Text → Prop
  | zero : WholeSpelling [CodePoint.ofChar '0']
  | digits {c ds} (first : c ≠ CodePoint.ofChar '0') (all : ∀ d ∈ c :: ds, d.isDigit = true) :
      WholeSpelling (c :: ds)

/-- The spelling of a fraction, which may be missing. -/
inductive FractionSpelling : Option Text → Text → Prop
  | none : FractionSpelling none []
  | digits {ds} (some_ : ds ≠ []) (all : ∀ d ∈ ds, d.isDigit = true) :
      FractionSpelling (some ds) (CodePoint.ofChar '.' :: ds)

/-- The spelling of the sign of an exponent. -/
inductive SignSpelling : Bool → Text → Prop
  | bare : SignSpelling false []
  | plus : SignSpelling false [CodePoint.ofChar '+']
  | minus : SignSpelling true [CodePoint.ofChar '-']

/-- The spelling of an exponent, which may be missing. -/
inductive ExponentSpelling : Option (Bool × Text) → Text → Prop
  | none : ExponentSpelling none []
  | digits {e negative sign ds} (mark : e = CodePoint.ofChar 'e' ∨ e = CodePoint.ofChar 'E')
      (signed : SignSpelling negative sign) (some_ : ds ≠ []) (all : ∀ d ∈ ds, d.isDigit = true) :
      ExponentSpelling (some (negative, ds)) (e :: (sign ++ ds))

/-- The spelling of a number literal. -/
inductive Spelling : Numeral → Text → Prop
  | mk {negative whole fraction exponent f x} (wholePart : WholeSpelling whole)
      (fractionPart : FractionSpelling fraction f) (exponentPart : ExponentSpelling exponent x) :
      Spelling ⟨negative, whole, fraction, exponent⟩
        ((if negative then [CodePoint.ofChar '-'] else []) ++ (whole ++ (f ++ x)))

/-- A number literal in front of the text is at its end. -/
def StopsAt (rest : Text) : Prop :=
  ∀ c ∈ rest.head?, c.isDigit = false ∧ c ≠ CodePoint.ofChar '.' ∧ c ≠ CodePoint.ofChar 'e' ∧
    c ≠ CodePoint.ofChar 'E'

/-! ### The parts -/

theorem digits_append {ds rest : Text} (all : ∀ d ∈ ds, d.isDigit = true)
    (stops : ∀ c ∈ rest.head?, c.isDigit = false) : digits (ds ++ rest) = ds := by
  unfold digits
  rw [List.takeWhile_append_of_pos all]
  cases rest with
  | nil => simp
  | cons c rest => simp [stops c rfl]

theorem digits_spec (t : Text) :
    ∃ rest, t = digits t ++ rest ∧ ∀ d ∈ digits t, d.isDigit = true :=
  ⟨t.dropWhile CodePoint.isDigit, List.takeWhile_append_dropWhile.symm,
    fun _ hd => List.mem_takeWhile_imp hd⟩

theorem scanWhole_spec {t : Text} (h : scanWhole t ≠ []) :
    ∃ rest, t = scanWhole t ++ rest ∧ WholeSpelling (scanWhole t) := by
  obtain ⟨rest, split, all⟩ := digits_spec t
  unfold scanWhole at h ⊢
  split at h
  · next zero =>
    rw [if_pos zero]
    cases ht : digits t with
    | nil =>
      rw [ht] at zero
      cases zero
    | cons c ds =>
      rw [ht] at zero split
      cases zero
      exact ⟨ds ++ rest, split, .zero⟩
  · next zero =>
    rw [if_neg zero]
    refine ⟨rest, split, ?_⟩
    cases ht : digits t with
    | nil => exact absurd ht h
    | cons c ds =>
      rw [ht] at zero all
      exact .digits (fun hc => zero (congrArg some hc)) all

theorem WholeSpelling.scanWhole {w rest : Text} (h : WholeSpelling w)
    (stops : ∀ c ∈ rest.head?, c.isDigit = false) : scanWhole (w ++ rest) = w := by
  have all : ∀ d ∈ w, d.isDigit = true := by
    cases h with
    | zero => decide
    | digits _ all => exact all
  unfold Numeral.scanWhole
  rw [digits_append all stops]
  cases h with
  | zero => rfl
  | digits first _ => exact if_neg fun h => first (Option.some.inj h)

/-- How many code points a fraction takes. -/
def fractionLength : Option Text → Nat
  | some ds => ds.length + 1
  | none => 0

theorem FractionSpelling.length_eq {fraction : Option Text} {f : Text}
    (h : FractionSpelling fraction f) : fractionLength fraction = f.length := by
  cases h <;> rfl

theorem scanFraction_spec (t : Text) :
    ∃ f rest, t = f ++ rest ∧ FractionSpelling (scanFraction t) f := by
  unfold scanFraction
  cases t with
  | nil => exact ⟨[], [], rfl, .none⟩
  | cons c t =>
    dsimp only
    split
    · next h =>
      obtain ⟨rfl, some_⟩ := h
      obtain ⟨rest, split, all⟩ := digits_spec t
      exact ⟨CodePoint.ofChar '.' :: digits t, rest, congrArg _ split, .digits some_ all⟩
    · exact ⟨[], c :: t, rfl, .none⟩

theorem FractionSpelling.scanFraction {fraction : Option Text} {f rest : Text}
    (h : FractionSpelling fraction f)
    (stops : ∀ c ∈ rest.head?, c.isDigit = false ∧ c ≠ CodePoint.ofChar '.') :
    scanFraction (f ++ rest) = fraction := by
  cases h with
  | none =>
    cases rest with
    | nil => rfl
    | cons c rest => exact if_neg fun h => (stops c rfl).2 h.1
  | digits some_ all =>
    have scanned := digits_append all fun c hc => (stops c hc).1
    rw [List.cons_append, Numeral.scanFraction, scanned, if_pos ⟨rfl, some_⟩]

/-- The sign of an exponent, and what follows it. -/
theorem sign_spec (t : Text) :
    ∃ sign rest, t = sign ++ rest ∧
      (if t.head? = some (CodePoint.ofChar '-') ∨ t.head? = some (CodePoint.ofChar '+')
        then t.drop 1 else t) = rest ∧
      (if t.head? = some (CodePoint.ofChar '-') ∨ t.head? = some (CodePoint.ofChar '+')
        then 2 else 1) = sign.length + 1 ∧
      SignSpelling (decide (t.head? = some (CodePoint.ofChar '-'))) sign := by
  by_cases minus : t.head? = some (CodePoint.ofChar '-')
  · obtain ⟨rest, rfl⟩ := List.head?_eq_some_iff.1 minus
    exact ⟨[CodePoint.ofChar '-'], rest, rfl, rfl, rfl, .minus⟩
  · by_cases plus : t.head? = some (CodePoint.ofChar '+')
    · obtain ⟨rest, rfl⟩ := List.head?_eq_some_iff.1 plus
      exact ⟨[CodePoint.ofChar '+'], rest, rfl, rfl, rfl, .plus⟩
    · have bare := not_or.2 ⟨minus, plus⟩
      rw [decide_eq_false minus]
      exact ⟨[], t, rfl, if_neg bare, if_neg bare, .bare⟩

theorem scanExponent_spec {t : Text} {exponent : Bool × Text} {n : Nat}
    (h : scanExponent t = some (exponent, n)) :
    ∃ x rest, t = x ++ rest ∧ ExponentSpelling (some exponent) x ∧ x.length = n := by
  cases t with
  | nil => cases h
  | cons e t =>
    obtain ⟨sign, signless, split, rest_eq, length_eq, signed⟩ := sign_spec t
    unfold scanExponent at h
    dsimp only at h
    rw [rest_eq, length_eq] at h
    split at h
    · next mark =>
      split at h
      · cases h
      · next some_ =>
        cases h
        obtain ⟨rest, split', all⟩ := digits_spec signless
        refine ⟨e :: (sign ++ digits signless), rest, ?_, .digits mark signed some_ all, ?_⟩
        · rw [List.cons_append, List.append_assoc, ← split', split]
        · rw [List.length_cons, List.length_append]
          omega
    · cases h

theorem SignSpelling.split {negative : Bool} {sign : Text} (h : SignSpelling negative sign)
    {t : Text} (other : ∀ c ∈ t.head?, c.isDigit = true) :
    decide ((sign ++ t).head? = some (CodePoint.ofChar '-')) = negative ∧
      (if (sign ++ t).head? = some (CodePoint.ofChar '-') ∨
          (sign ++ t).head? = some (CodePoint.ofChar '+') then (sign ++ t).drop 1 else sign ++ t) = t ∧
      (if (sign ++ t).head? = some (CodePoint.ofChar '-') ∨
          (sign ++ t).head? = some (CodePoint.ofChar '+') then 2 else 1) = sign.length + 1 := by
  cases h with
  | plus => exact ⟨rfl, rfl, rfl⟩
  | minus => exact ⟨rfl, rfl, rfl⟩
  | bare =>
    have bare {x : Char} (hx : x.toNat < 0x30 ∨ 0x39 < x.toNat) :
        t.head? ≠ some (CodePoint.ofChar x) :=
      fun h => CodePoint.ne_ofChar_of_isDigit (other _ h) hx rfl
    have minus := bare (x := '-') (by decide)
    have both := not_or.2 ⟨minus, bare (x := '+') (by decide)⟩
    exact ⟨decide_eq_false minus, if_neg both, if_neg both⟩

theorem ExponentSpelling.scanExponent {exponent : Option (Bool × Text)} {x rest : Text}
    (h : ExponentSpelling exponent x) (stops : StopsAt rest) :
    scanExponent (x ++ rest) = exponent.map fun e => (e, x.length) := by
  cases h with
  | none =>
    cases rest with
    | nil => rfl
    | cons c rest =>
      exact if_neg fun h => h.elim (stops c rfl).2.2.1 (stops c rfl).2.2.2
  | @digits e negative sign ds mark signed some_ all =>
    have scanned := digits_append all fun c hc => (stops c hc).1
    have first : ∀ c ∈ (ds ++ rest).head?, c.isDigit = true := by
      cases ds with
      | nil => exact absurd rfl some_
      | cons d ds =>
        rintro c ⟨⟩
        exact all d List.mem_cons_self
    obtain ⟨h₁, h₂, h₃⟩ := signed.split first
    rw [List.cons_append, List.append_assoc, Numeral.scanExponent, if_pos mark]
    dsimp only
    rw [h₁, h₂, h₃, scanned, if_neg some_]
    simp; omega

/-! ### The whole literal -/

/-- The number literal that `body` starts with behind a sign that is already read. -/
def scanBody (negative : Bool) (body : Text) : Option (Numeral × Nat) :=
  if scanWhole body = [] then none
  else
    let afterWhole := body.drop (scanWhole body).length
    let fraction := scanFraction afterWhole
    let exponent := scanExponent (afterWhole.drop (fractionLength fraction))
    some (⟨negative, scanWhole body, fraction, exponent.map (·.1)⟩,
      (if negative then 1 else 0) + (scanWhole body).length + fractionLength fraction +
        (exponent.map (·.2)).getD 0)

theorem scan_minus (body : Text) : scan (CodePoint.ofChar '-' :: body) = scanBody true body := rfl

theorem scan_bare {t : Text} (h : t.head? ≠ some (CodePoint.ofChar '-')) :
    scan t = scanBody false t := by
  unfold scan
  simp only [h, if_false, decide_false]
  rfl

theorem exists_spelling_scanBody {negative : Bool} {body : Text} {n : Numeral} {length : Nat}
    (h : scanBody negative body = some (n, length)) :
    ∃ whole f x rest, body = whole ++ (f ++ x) ++ rest ∧
      (if negative then 1 else 0) + (whole ++ (f ++ x)).length = length ∧
      Spelling n ((if negative then [CodePoint.ofChar '-'] else []) ++ (whole ++ (f ++ x))) := by
  unfold scanBody at h
  split at h
  · cases h
  · next some_ =>
    obtain ⟨rest₁, split₁, wholePart⟩ := scanWhole_spec some_
    have behind : body.drop (scanWhole body).length = rest₁ :=
      (congrArg (List.drop (scanWhole body).length) split₁).trans List.drop_left
    obtain ⟨f, rest₂, split₂, fractionPart⟩ := scanFraction_spec rest₁
    have behind' : rest₁.drop f.length = rest₂ :=
      (congrArg (List.drop f.length) split₂).trans List.drop_left
    dsimp only at h
    rw [behind, fractionPart.length_eq, behind'] at h
    cases exponent : scanExponent rest₂ with
    | none =>
      rw [exponent] at h
      cases h
      refine ⟨_, f, [], rest₂, ?_, ?_, .mk wholePart fractionPart .none⟩
      · rw [List.append_nil, List.append_assoc, ← split₂, ← split₁]
      · simp; omega
    | some e =>
      obtain ⟨value, taken⟩ := e
      obtain ⟨x, rest₃, split₃, exponentPart, exponentLength⟩ := scanExponent_spec exponent
      rw [exponent] at h
      cases h
      refine ⟨_, f, x, rest₃, ?_, ?_, .mk wholePart fractionPart exponentPart⟩
      · rw [List.append_assoc, List.append_assoc, ← split₃, ← split₂, ← split₁]
      · simp; omega

/-- The number literal that is scanned is spelled at the front of the text. -/
theorem exists_spelling {t : Text} {n : Numeral} {length : Nat} (h : scan t = some (n, length)) :
    ∃ spelling rest, t = spelling ++ rest ∧ spelling.length = length ∧ Spelling n spelling := by
  by_cases minus : t.head? = some (CodePoint.ofChar '-')
  · obtain ⟨body, rfl⟩ := List.head?_eq_some_iff.1 minus
    obtain ⟨whole, f, x, rest, rfl, rfl, spelled⟩ := exists_spelling_scanBody (scan_minus body ▸ h)
    exact ⟨_, rest, rfl, Nat.add_comm _ _, spelled⟩
  · obtain ⟨whole, f, x, rest, rfl, rfl, spelled⟩ := exists_spelling_scanBody (scan_bare minus ▸ h)
    exact ⟨_, rest, rfl, (Nat.zero_add _).symm, spelled⟩

theorem scanBody_of_spelling {whole f x rest : Text} {fraction : Option Text}
    {exponent : Option (Bool × Text)} (negative : Bool) (wholePart : WholeSpelling whole)
    (fractionPart : FractionSpelling fraction f) (exponentPart : ExponentSpelling exponent x)
    (stops : StopsAt rest) :
    scanBody negative (whole ++ (f ++ (x ++ rest))) = some (⟨negative, whole, fraction, exponent⟩,
      (if negative then 1 else 0) + whole.length + f.length + x.length) := by
  -- Each part is read up to the mark of the next one that is there, or up to the rest.
  have behindWhole : ∀ c ∈ (x ++ rest).head?, c.isDigit = false ∧ c ≠ CodePoint.ofChar '.' := by
    cases exponentPart with
    | none => exact fun c hc => ⟨(stops c hc).1, (stops c hc).2.1⟩
    | digits mark _ _ _ =>
      rintro c ⟨⟩
      rcases mark with rfl | rfl <;> decide
  have behindAll : ∀ c ∈ (f ++ (x ++ rest)).head?, c.isDigit = false := by
    cases fractionPart with
    | none => exact fun c hc => (behindWhole c hc).1
    | digits _ _ =>
      rintro c ⟨⟩
      decide
  have some_ : whole ≠ [] := by cases wholePart <;> simp
  unfold scanBody
  rw [wholePart.scanWhole behindAll, if_neg some_]
  dsimp only
  rw [List.drop_left, fractionPart.scanFraction behindWhole, fractionPart.length_eq,
    List.drop_left, exponentPart.scanExponent stops]
  cases exponentPart <;> rfl

/-- A spelling is scanned wherever it stands and does not go on. -/
theorem Spelling.scan {n : Numeral} {spelling rest : Text} (h : Spelling n spelling)
    (stops : StopsAt rest) : scan (spelling ++ rest) = some (n, spelling.length) := by
  obtain @⟨negative, whole, fraction, exponent, f, x, wholePart, fractionPart, exponentPart⟩ := h
  have scanned := scanBody_of_spelling negative wholePart fractionPart exponentPart stops
  simp only [List.append_assoc, List.length_append]
  cases negative with
  | true =>
    exact (scan_minus _).trans (scanned.trans (by simp; omega))
  | false =>
    have minus : (whole ++ (f ++ (x ++ rest))).head? ≠ some (CodePoint.ofChar '-') := by
      cases wholePart with
      | zero => exact fun h => absurd (Option.some.inj h) (by decide)
      | digits _ all =>
        intro h
        exact CodePoint.ne_ofChar_of_isDigit (all _ List.mem_cons_self) (by decide)
          (Option.some.inj h)
    exact (scan_bare minus).trans (scanned.trans (by simp; omega))

/-- The code points that number literals are made of. -/
def inSpelling (c : CodePoint) : Bool :=
  c.isDigit || c = '-' || c = '+' || c = '.' || c = 'e' || c = 'E'

theorem inSpelling_of_isDigit {c : CodePoint} (h : c.isDigit = true) : inSpelling c = true := by
  simp [inSpelling, h]

theorem isBlank_of_inSpelling {c : CodePoint} (h : inSpelling c = true) : c.isBlank = false := by
  simp only [inSpelling, Bool.or_eq_true, decide_eq_true_eq] at h
  rcases h with ((((h | rfl) | rfl) | rfl) | rfl) | rfl
  · rw [CodePoint.isDigit_iff] at h
    simp [CodePoint.isBlank, CodePoint.blankRanges]
    omega
  all_goals decide

theorem stops_of_not_inSpelling {c : CodePoint} (h : inSpelling c = false) :
    c.isDigit = false ∧ c ≠ CodePoint.ofChar '.' ∧ c ≠ CodePoint.ofChar 'e' ∧
      c ≠ CodePoint.ofChar 'E' := by
  simp only [inSpelling, Bool.or_eq_false_iff, decide_eq_false_iff_not] at h
  obtain ⟨⟨⟨⟨⟨digit, -⟩, -⟩, point⟩, small⟩, large⟩ := h
  exact ⟨digit, point, small, large⟩

theorem Spelling.ne_nil {n : Numeral} {spelling : Text} (h : Spelling n spelling) :
    spelling ≠ [] := by
  obtain ⟨wholePart, -, -⟩ := h
  cases wholePart <;> simp

theorem Spelling.inSpelling {n : Numeral} {spelling : Text} (h : Spelling n spelling) :
    ∀ c ∈ spelling, inSpelling c = true := by
  obtain ⟨wholePart, fractionPart, exponentPart⟩ := h
  simp only [List.mem_append]
  rintro c (minus | whole | fraction | exponent)
  · split at minus
    · rw [List.mem_singleton.1 minus]
      decide
    · cases minus
  · cases wholePart with
    | zero =>
      rw [List.mem_singleton.1 whole]
      decide
    | digits _ all => exact inSpelling_of_isDigit (all c whole)
  · cases fractionPart with
    | none => cases fraction
    | digits _ all =>
      rcases List.mem_cons.1 fraction with rfl | digit
      · decide
      · exact inSpelling_of_isDigit (all c digit)
  · cases exponentPart with
    | none => cases exponent
    | digits mark signed _ all =>
      rcases List.mem_cons.1 exponent with rfl | more
      · rcases mark with rfl | rfl <;> decide
      · rcases List.mem_append.1 more with sign | digit
        · cases signed with
          | bare => cases sign
          | plus | minus =>
            rw [List.mem_singleton.1 sign]
            decide
        · exact inSpelling_of_isDigit (all c digit)

end Numeral

end HttpCourier.Json
