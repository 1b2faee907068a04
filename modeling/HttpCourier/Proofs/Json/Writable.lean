import HttpCourier.Proofs.Json.Printed

/-!
# HttpCourier.Proofs.Json.Writable

**Which values can be written inside other text**: those whose containers are not nested too deep,
and whose integers do not have too many digits (`Value.Fits`). The printer looks for the first fault
of a value in the order of its text, with the levels that are left; there is none exactly if the
value fits them (`fault?_eq_none_iff`).
-/

namespace HttpCourier.Json

/-- A value whose containers take no more than so many levels, and whose integers are short. -/
inductive Value.Fits : Nat → Value → Prop
  | null {levels : Nat} : Fits levels .null
  | bool {levels : Nat} (b : Bool) : Fits levels (.bool b)
  | int {levels : Nat} {i : Int} (short : (Text.ofNat i.natAbs).length ≤ maxDigits) :
      Fits levels (.int i)
  | float {levels : Nat} (x : Binary64) : Fits levels (.float x)
  | string {levels : Nat} (t : Text) : Fits levels (.string t)
  | array {levels : Nat} {elements : List Value} (all : ∀ v ∈ elements, Fits levels v) :
      Fits (levels + 1) (.array elements)
  | object {levels : Nat} {members : Members} (all : ∀ m ∈ members, Fits levels m.2) :
      Fits (levels + 1) (.object members)

/-- A value that can be written. -/
def Value.Writable (v : Value) : Prop := v.Fits maxDepth

variable {levels : Nat} {v : Value}

/-- By the levels: what stands in a container has one less. -/
theorem fault?_eq_none_iff : valueRestriction.fault? levels v = none ↔ v.Fits levels := by
  induction levels using Nat.strong_induction_on generalizing v with
  | _ levels ih =>
    cases v with
    | null | bool | float | string => exact iff_of_true rfl (by constructor)
    | int i =>
      show (if _ then _ else _) = _ ↔ _
      rw [ite_eq_right_iff]
      exact ⟨fun short => .int (Nat.not_lt.1 fun long => nomatch short long),
        fun | .int short => fun long => absurd short (Nat.not_le.2 long)⟩
    | array elements =>
      cases levels with
      | zero => exact iff_of_false nofun nofun
      | succ levels =>
        show valueRestriction.elementsFault? levels elements = none ↔ _
        simp only [Restriction.elementsFault?_eq_none_iff, ih levels (Nat.lt_succ_self _)]
        exact ⟨.array, fun | .array all => all⟩
    | object members =>
      cases levels with
      | zero => exact iff_of_false nofun nofun
      | succ levels =>
        show valueRestriction.membersFault? levels members = none ↔ _
        simp only [Restriction.membersFault?_eq_none_iff, ih levels (Nat.lt_succ_self _)]
        exact ⟨fun all => .object fun m hm => (all m hm).2,
          fun | .object all => fun m hm => ⟨rfl, all m hm⟩⟩

theorem valueText_ok_iff : (∃ t, valueText v = .ok t) ↔ v.Writable := by
  unfold Value.Writable
  rw [← fault?_eq_none_iff]
  exact ⟨fun ⟨_, written⟩ => (Restriction.write_eq_ok_iff.1 written).1,
    fun fits => ⟨_, Restriction.write_eq_ok_iff.2 ⟨fits, rfl⟩⟩⟩

end HttpCourier.Json
