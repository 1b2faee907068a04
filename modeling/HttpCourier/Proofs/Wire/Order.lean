import HttpCourier.Proofs.Text.Lowering
import HttpCourier.Proofs.Wire.Carried

/-!
# HttpCourier.Proofs.Wire.Order

**Configured headers in another order.** Up to their order, fields are what they are whichever one
is set first, as long as the names are told apart in lower case: setting a field replaces those of
its own name only (`TextFields.set_swap`), and whether a header is passed over does not depend on
the others (`TextFields.hasKey_offer`). So the fields of a request that is sent are the same up to
their order, in every order of the configured headers (`Message.sameUpToOrder_complete`).
-/

namespace HttpCourier

namespace Wire

/-! ### One field after another -/

namespace TextFields

/-- Headers whose names are told apart in lower case. -/
abbrev Distinct (headers : List (Text × Text)) : Prop :=
  headers.Pairwise fun a b => Text.lower a.1 ≠ Text.lower b.1

variable {ts us ts' us' : TextFields} {a b : Text × Text} {name value k : Text}
variable {mine guarded : Text → Bool}

theorem replaceFirst_perm (there : ts.hasKey (Text.asciiLower name) = true) :
    (replaceFirst name value ts).Perm
      ((name, value) :: ts.filter fun t => Text.asciiLower t.1 ≠ Text.asciiLower name) := by
  induction ts with
  | nil => cases there
  | cons t rest ih =>
    rw [replaceFirst, List.filter_cons]
    by_cases same : Text.asciiLower t.1 = Text.asciiLower name
    · rw [if_pos same, if_neg (by simpa using same)]
    · rw [if_neg same, if_pos (by simpa using same)]
      have later : hasKey rest (Text.asciiLower name) = true := by
        simpa [hasKey, same] using there
      exact ((ih later).cons t).trans (.swap _ _ _)

/-- Setting a field adds it and drops the others of its name. -/
theorem set_perm (ts : TextFields) (name value : Text) :
    (ts.set name value).Perm
      ((name, value) :: ts.filter fun t => Text.asciiLower t.1 ≠ Text.asciiLower name) := by
  unfold set
  split
  · next there => exact replaceFirst_perm there
  · next missing =>
    rw [List.filter_eq_self.2]
    · exact List.perm_append_singleton _ _
    · intro t ht
      simp only [hasKey, List.any_eq_true, decide_eq_true_eq, not_exists, not_and] at missing
      exact decide_eq_true (missing t ht)

theorem set_congr (same : ts.Perm us) (name value : Text) :
    (ts.set name value).Perm (us.set name value) :=
  (set_perm ts name value).trans
    (((same.filter _).cons _).trans (set_perm us name value).symm)

/-- **Two fields can be set in either order**, if their names are different. -/
theorem set_swap (ts : TextFields) (other : Text.asciiLower a.1 ≠ Text.asciiLower b.1) :
    ((ts.set a.1 a.2).set b.1 b.2).Perm ((ts.set b.1 b.2).set a.1 a.2) := by
  have both {a b : Text × Text} (other : Text.asciiLower a.1 ≠ Text.asciiLower b.1) :
      ((ts.set a.1 a.2).set b.1 b.2).Perm (b :: a :: ts.filter fun t =>
        Text.asciiLower t.1 ≠ Text.asciiLower a.1 ∧ Text.asciiLower t.1 ≠ Text.asciiLower b.1) := by
    refine (set_perm _ _ _).trans (((set_perm ts a.1 a.2).filter _).cons b |>.trans ?_)
    rw [List.filter_cons_of_pos (by simpa using other), List.filter_filter]
    refine .of_eq (congrArg (b :: a :: ·) (List.filter_congr fun t _ => ?_))
    rw [← Bool.decide_and, decide_eq_decide]
    exact and_comm
  refine (both other).trans ((List.Perm.swap a b _).trans ?_)
  simp only [and_comm (a := Text.asciiLower _ ≠ Text.asciiLower a.1)]
  exact (both other.symm).symm

theorem hasKey_congr (same : ts.Perm us) (k : Text) : ts.hasKey k = us.hasKey k := same.any_eq

theorem hasKey_set (other : Text.asciiLower name ≠ k) :
    (ts.set name value).hasKey k = ts.hasKey k := by
  rw [Bool.eq_iff_iff, hasKey_iff, hasKey_iff, valuesOf_set other]

/-! ### One header after another -/

/-- Whether fields take a header: it is one that they are meant for, and is not passed over because
its name is there. -/
def takes (mine guarded : Text → Bool) (ts : TextFields) (name : Text) : Bool :=
  mine name && !(guarded name && ts.hasKey name)

/-- The fields with a header, if they take it. -/
def offer (mine guarded : Text → Bool) (ts : TextFields) (header : Text × Text) : TextFields :=
  if takes mine guarded ts (Text.lower header.1) then ts.set header.1 header.2 else ts

theorem addHeader_eq_offer : addHeader = offer (fun name => !isContentHeader name) fun _ => true := by
  funext ts header
  unfold addHeader offer takes
  cases content : isContentHeader (Text.lower header.1) <;>
    cases ts.hasKey (Text.lower header.1) <;> simp [content]

theorem addContentHeader_eq_offer :
    addContentHeader = offer isContentHeader fun name => name = contentTypeKey := by
  funext ts header
  unfold addContentHeader offer takes
  cases isContentHeader (Text.lower header.1) with
  | false => simp
  | true =>
    by_cases type : Text.lower header.1 = contentTypeKey
    · cases known : ts.hasKey contentTypeKey <;> simp [type, known]
    · simp [type]

theorem hasKey_offer (other : Text.lower a.1 ≠ Text.lower b.1) :
    (offer mine guarded ts a).hasKey (Text.lower b.1) = ts.hasKey (Text.lower b.1) := by
  unfold offer
  split
  · exact hasKey_set fun same => other (Text.lower_of_asciiLower same (Text.lower_lower _))
  · rfl

theorem takes_offer (other : Text.lower a.1 ≠ Text.lower b.1) :
    takes mine guarded (offer mine guarded ts a) (Text.lower b.1) =
      takes mine guarded ts (Text.lower b.1) := by
  unfold takes
  rw [hasKey_offer other]

theorem offer_congr (same : ts.Perm us) (a : Text × Text) :
    (offer mine guarded ts a).Perm (offer mine guarded us a) := by
  unfold offer takes
  rw [hasKey_congr same]
  split
  · exact set_congr same _ _
  · exact same

/-- **Two headers can be offered in either order.** -/
theorem offer_swap (ts : TextFields) (other : Text.lower a.1 ≠ Text.lower b.1) :
    (offer mine guarded (offer mine guarded ts a) b).Perm
      (offer mine guarded (offer mine guarded ts b) a) := by
  have first : takes mine guarded (offer mine guarded ts a) (Text.lower b.1) = _ :=
    takes_offer other
  have second : takes mine guarded (offer mine guarded ts b) (Text.lower a.1) = _ :=
    takes_offer other.symm
  unfold offer at *
  rw [first, second]
  split <;> split
  · exact set_swap ts fun same => other (Text.lower_congr same)
  · exact .refl _
  · exact .refl _
  · exact .refl _

/-- **Headers can be offered in any order.** -/
theorem foldl_offer_perm {headers headers' : List (Text × Text)} (order : headers.Perm headers')
    (distinct : Distinct headers) (same : ts.Perm us) :
    (headers.foldl (offer mine guarded) ts).Perm (headers'.foldl (offer mine guarded) us) := by
  have congr (headers : List (Text × Text)) {ts us : TextFields} (same : ts.Perm us) :
      (headers.foldl (offer mine guarded) ts).Perm (headers.foldl (offer mine guarded) us) :=
    List.foldl_rel same fun a _ _ _ same => offer_congr same a
  -- By induction over the ways of changing the order, of which only a swap needs the names.
  induction order generalizing ts us with
  | nil => exact same
  | cons a _ ih => exact ih (List.pairwise_cons.1 distinct).2 (offer_congr same a)
  | swap a b rest =>
    have other := (List.pairwise_cons.1 distinct).1 a List.mem_cons_self
    exact congr rest ((offer_swap ts other).trans (offer_congr (offer_congr same a) b))
  | trans first _ ih ih' =>
    exact (ih distinct same).trans
      (ih' ((first.pairwise_iff fun h => h.symm).1 distinct) (.refl _))

theorem update_perm (same : ts.Perm ts') (same' : us.Perm us') :
    (ts.update us).Perm (ts'.update us') := by
  unfold update
  simp only [same'.any_eq]
  exact (same.filter _).append same'

end TextFields

/-! ### Messages -/

/-- The messages are the same but for the order of their fields. -/
structure Message.SameUpToOrder (m m' : Message) : Prop where
  method : m'.method = m.method
  url : m'.url = m.url
  content : m'.content = m.content
  fields : m'.fields.entries.Perm m.fields.entries

/-- The fields that were missing do not depend on the order of those that are there. -/
theorem Message.sameUpToOrder_complete {method : Text} {url : Url.Locator} {f f' : Fields}
    {content : Bytes} (same : f'.entries.Perm f.entries) :
    (complete method url f content).SameUpToOrder (complete method url f' content) := by
  have known {f f' : Fields} (same : f'.entries.Perm f.entries) (name : String) :
      f'.hasName name = f.hasName name := same.any_eq
  have length : (withLength f' content).entries.Perm (withLength f content).entries := by
    unfold withLength
    rw [known same]
    split
    · exact same
    · exact same.append_right _
  refine ⟨rfl, rfl, rfl, ?_⟩
  unfold complete
  dsimp only
  have leading : leadingFields method url (withLength f' content) =
      leadingFields method url (withLength f content) := by
    unfold leadingFields
    rw [known length, known length, known length]
  rw [leading]
  exact length.append_left _

end Wire

end HttpCourier
