import HttpCourier.Transport.Client
import Mathlib.Data.List.Basic

/-!
# HttpCourier.Proofs.Transport.Buffer

**What is kept of a body does not depend on its chunks.** Of any chunks the bytes are kept that
there is room for, and something is cut off exactly if there are more (`Buffer.keep_eq`). Reading
stops early only when more than that has come in already (`Buffer.lt_of_overfills`).

A response is received just where its body is taken in and its stream is then closed without a
fault (`Client.ending_receive_iff`). So a body that is not encoded and comes in without a fault is
kept up to the limit, in whatever pieces and with whatever pauses it comes
(`Client.receive_of_brings`).
-/

namespace HttpCourier

namespace Buffer

variable {room limit count : Nat} {b : Bytes}

/-! ### Chunks -/

theorem flatten_firstChunks (enough : b.length ≤ count) : (firstChunks count b).flatten = b := by
  induction count generalizing b with
  | zero => exact (List.length_eq_zero_iff.1 (Nat.le_zero.1 enough)).symm
  | succ count ih =>
    rw [firstChunks]
    split
    · next empty => exact empty.symm
    · next nonempty =>
      have positive : 0 < b.length := List.length_pos_iff.2 nonempty
      have fewer : (b.drop chunkSize).length ≤ count := by
        rw [List.length_drop, chunkSize]
        omega
      rw [List.flatten_cons, ih fewer, List.take_append_drop]

/-- **Chunking loses, adds and reorders nothing.** -/
theorem flatten_chunks (b : Bytes) : (chunks b).flatten = b := flatten_firstChunks (Nat.le_refl _)

/-! ### What is kept -/

/-- **What is kept of chunks**, wherever one ends and the next one begins. -/
theorem keep_eq (room : Nat) (chunks : List Bytes) :
    keep room chunks = ⟨chunks.flatten.take room, room < chunks.flatten.length⟩ := by
  -- By induction over the chunks; the room shrinks by those that are kept whole.
  induction chunks generalizing room with
  | nil => simp [keep]
  | cons chunk rest ih =>
    rw [keep, List.flatten_cons, List.length_append]
    split
    · next little =>
      rw [List.take_append_of_le_length (Nat.le_of_lt little),
        decide_eq_true (Nat.lt_add_right _ little)]
    · next enough =>
      have fits : chunk.length ≤ room := Nat.not_lt.1 enough
      rw [ih, List.take_append, List.take_of_length_le fits]
      simp only [Kept.mk.injEq, true_and, decide_eq_decide]
      omega

theorem keep_chunks (room : Nat) (b : Bytes) :
    keep room (chunks b) = ⟨b.take room, room < b.length⟩ := by
  rw [keep_eq, flatten_chunks]

/-- What came in before an early stop is more than there is room for. -/
theorem lt_of_overfills (h : overfills room count = true) : room < count :=
  Nat.lt_of_lt_of_le (of_decide_eq_true h) (Nat.div_mul_le_self _ _)

end Buffer

/-! ### Bodies that come in -/

/-- The pieces bring in bytes, in a span of time: there are pauses between them, and some of them
may be empty, but there is no fault and no end of what is said before its time. -/
inductive Piece.Brings : List Piece → Bytes → Nanos → Prop
  | nil : Brings [] [] 0
  | bytes (here : Bytes) {pieces b span} (rest : Brings pieces b span) :
    Brings (.bytes here :: pieces) (here ++ b) span
  | pause (still : Nanos) {pieces b span} (rest : Brings pieces b span) :
    Brings (.pause still :: pieces) b (still + span)

namespace Reply

/-- The body of a response comes in whole, and its stream is closed without a fault, all within
less than a span of time. -/
def Delivers (r : Reply) (b : Bytes) (span : Nanos) : Prop :=
  ∃ t still, t + still < span ∧ Piece.Brings (r.pieces span) b t ∧ r.closing = .ends still none

/-- The response has no field that says how its body is encoded. -/
def Plain (r : Reply) : Prop := ∀ f ∈ r.textFields, f.1 ≠ Text.ofString "content-encoding"

theorem Plain.codings {r : Reply} (h : r.Plain) : Coding.ofFields r.textFields = [] := by
  have none : r.textFields.filter (fun f => f.1 = Text.ofString "content-encoding") = [] :=
    List.filter_eq_nil_iff.2 fun f hf => by simpa using h f hf
  unfold Coding.ofFields
  rw [none]
  rfl

end Reply

namespace Course

variable {c : Course (Except Fault α)} {t : Nanos}

theorem ending_andThen_iff {next : Nanos → α → Course (Except Fault β)} {b : β} :
    (c.andThen next).ending = some (t, .ok b) ↔
      ∃ time a, c.ending = some (time, .ok a) ∧ (next time a).ending = some (t, .ok b) := by
  obtain ⟨trace, _ | ⟨time, f | a⟩⟩ := c
  · simp [andThen]
  · simp [andThen]
  · constructor
    · intro h
      exact ⟨time, a, rfl, h⟩
    · rintro ⟨_, _, ⟨⟩, h⟩
      exact h

/-- A course ends with a value behind which a stream is closed, if that is closed without a
fault. -/
theorem ending_closedBy_iff {closing : Closing} {a : α} :
    (c.closedBy closing).ending = some (t, .ok a) ↔
      ∃ time still, c.ending = some (time, .ok a) ∧ closing = .ends still none ∧
        t = time + still := by
  obtain ⟨trace, _ | ⟨time, e⟩⟩ := c
  · simp [closedBy]
  · cases closing with
    | never => simp [closedBy, Closing.ending]
    | ends span fault => cases fault <;> simp [closedBy, Closing.ending, eq_comm, and_comm]

end Course

namespace Client

variable {pieces : List Piece} {b : Bytes} {span : Nanos}

/-- **Taking in what pieces bring in** ends in time, with all of it or with as much of it as makes
the reading stop. -/
theorem takeIn_of_brings (stops : Nat → Bool) (h : Piece.Brings pieces b span)
    (first : Option Bytes) (raw : Bytes) (now : Nanos) :
    ∃ t taken, takeIn [] stops first raw now pieces = some (t, .ok taken) ∧ t ≤ now + span ∧
      (taken = raw ++ b ∨ stops taken.length = true ∧ taken <+: raw ++ b) := by
  -- By induction over the pieces; what has come in so far stands in front.
  induction h generalizing first raw now with
  | nil => exact ⟨now, raw, rfl, Nat.le_refl _, .inl (List.append_nil raw).symm⟩
  | @pause still pieces b span _ ih =>
    obtain ⟨t, taken, ends, timely, all⟩ := ih first raw (now + still)
    exact ⟨t, taken, ends, by rwa [← Nat.add_assoc], all⟩
  | @bytes here pieces b span _ ih =>
    rw [takeIn]
    split
    · next empty =>
      rw [empty]
      exact ih first raw now
    · show ∃ t taken, (if stops (raw ++ here).length then some (now, .ok (raw ++ here))
        else takeIn [] stops (some (first.getD here)) (raw ++ here) now pieces) = _ ∧ _
      rw [← List.append_assoc]
      split
      · next stopped =>
        exact ⟨now, raw ++ here, rfl, Nat.le_add_right _ _, .inr ⟨stopped, List.prefix_append _ _⟩⟩
      · exact ih (some (first.getD here)) (raw ++ here) now

/-- **A response is received** just where its body is taken in and its stream is then closed
without a fault; as much of the body is kept as the limit allows. -/
theorem ending_receive_iff {c : Client} {r : Reply} {now t : Nanos} {x : Received} :
    (c.receive r now).ending = some (t, .ok x) ↔
      ∃ time bytes still,
        (c.takeBody (Buffer.overfills c.limit) r now).ending = some (time, .ok bytes) ∧
        r.closing = .ends still none ∧ t = time + still ∧ x = ⟨r, bytes.take c.limit⟩ := by
  unfold receive drain
  simp only [Course.ending_andThen_iff, Course.ending_closedBy_iff, Buffer.keep_chunks]
  constructor
  · rintro ⟨_, _, ⟨_, still, ⟨_, _, taken, ⟨⟩⟩, closed, rfl⟩, ⟨⟩⟩
    exact ⟨_, _, still, taken, closed, rfl, rfl⟩
  · rintro ⟨time, bytes, still, taken, closed, rfl, rfl⟩
    exact ⟨_, bytes, ⟨time, still, ⟨time, bytes, taken, rfl⟩, closed, rfl⟩, rfl⟩

/-- **What is kept of a body** is as much of it as the limit allows, in whatever pieces it comes. -/
theorem receive_of_brings (c : Client) {r : Reply} {now : Nanos} (plain : r.Plain)
    (delivered : r.Delivers b (c.deadline - now)) :
    ∃ t < c.deadline, (c.receive r now).ending = some (t, .ok ⟨r, b.take c.limit⟩) := by
  obtain ⟨span, still, short, brings, closed⟩ := delivered
  obtain ⟨t, taken, ends, timely, all⟩ :=
    takeIn_of_brings (Buffer.overfills c.limit) brings none [] now
  have kept : taken.take c.limit = b.take c.limit := by
    rcases all with rfl | ⟨stopped, start⟩
    · rfl
    · -- What came in is more than the limit, and the rest would not have been kept.
      obtain ⟨rest, rfl⟩ := start
      exact (List.take_append_of_le_length (Nat.le_of_lt (Buffer.lt_of_overfills stopped))).symm
  refine ⟨t + still, ?_, ending_receive_iff.2 ⟨t, taken, still, ?_, closed, rfl, by rw [kept]⟩⟩
  · calc t + still ≤ now + span + still := Nat.add_le_add_right timely still
      _ = now + (span + still) := Nat.add_assoc _ _ _
      _ < c.deadline := Nat.add_lt_of_lt_sub' short
  · unfold takeBody
    rw [plain.codings, ends]

end Client

end HttpCourier
