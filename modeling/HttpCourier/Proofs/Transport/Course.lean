import HttpCourier.Proofs.Transport.Faults

/-!
# HttpCourier.Proofs.Transport.Course

**What a client's course keeps to.** `Course.Keeps` is a triple about a course: from which time
on it may end, that nothing in its trace comes after its ending, and what holds of the fault or
of the value with which it ends. It is closed under `Course.andThen`, so that each function of
the client has one lemma, put together like the function itself.

The last of them, `Client.send_keeps`, is about a request with all its redirects: whatever it
ends with comes from the script, or is a fault of the client's own.

`Course.Does` tells of the effects of a course, whatever it ends with, and is closed in the same
way. A client sends messages and keeps cookies, and of a response it counts what it has read, and
logs it if it was too much (`Client.send_does`).
-/

namespace HttpCourier

theorem Trace.time_le_of_mem_nil {time : Nanos} : ∀ m ∈ ([] : Trace), m.time ≤ time := by
  intro m hm
  cases hm

namespace Course

/-- A course that starts at `now` ends no earlier, and does nothing after its ending; it ends
with a fault that satisfies `faults`, or with a value that satisfies `values`. -/
structure Keeps (now : Nanos) (faults : Fault → Prop) (values : α → Prop)
    (c : Course (Except Fault α)) : Prop where
  timely : ∀ t e, c.ending = some (t, e) → now ≤ t ∧ ∀ m ∈ c.trace, m.time ≤ t
  fault : ∀ t f, c.ending = some (t, .error f) → faults f
  value : ∀ t a, c.ending = some (t, .ok a) → values a

variable {now : Nanos} {faults : Fault → Prop} {values : α → Prop}

theorem Keeps.silent (trace : Trace) : (⟨trace, none⟩ : Course _).Keeps now faults values := by
  constructor
  all_goals
    intro t x h
    cases h

/-- A course without effects. -/
theorem Keeps.quiet {ending : Option (Nanos × Except Fault α)}
    (h : ∀ t e, ending = some (t, e) → now ≤ t ∧ FaultsIn faults e)
    (hv : ∀ t a, ending = some (t, .ok a) → values a) :
    (⟨[], ending⟩ : Course _).Keeps now faults values := by
  exact ⟨fun t e he => ⟨(h t e he).1, Trace.time_le_of_mem_nil⟩,
    fun t f hf => (h t _ hf).2 f rfl, hv⟩

theorem Keeps.failed {trace : Trace} {t : Nanos} {f : Fault} (hn : now ≤ t)
    (ht : ∀ m ∈ trace, m.time ≤ t) (hf : faults f) :
    (⟨trace, some (t, .error f)⟩ : Course _).Keeps now faults values := by
  refine ⟨?_, ?_, ?_⟩
  · intro t e h
    cases h
    exact ⟨hn, ht⟩
  · intro t f h
    cases h
    exact hf
  · intro t a h
    cases h

theorem Keeps.came {trace : Trace} {t : Nanos} {a : α} (hn : now ≤ t)
    (ht : ∀ m ∈ trace, m.time ≤ t) (ha : values a) :
    (⟨trace, some (t, .ok a)⟩ : Course _).Keeps now faults values := by
  refine ⟨?_, ?_, ?_⟩
  · intro t e h
    cases h
    exact ⟨hn, ht⟩
  · intro t f h
    cases h
  · intro t a h
    cases h
    exact ha

theorem Keeps.mono {faults' : Fault → Prop} {values' : α → Prop} {c : Course (Except Fault α)}
    (hc : c.Keeps now faults values) (hf : ∀ f, faults f → faults' f)
    (hv : ∀ a, values a → values' a) : c.Keeps now faults' values' :=
  ⟨hc.timely, fun t f h => hf f (hc.fault t f h), fun t a h => hv a (hc.value t a h)⟩

/-- What follows on a course starts at its ending, with a value that it can end with. -/
theorem Keeps.andThen {next : Nanos → α → Course (Except Fault β)} {c : Course (Except Fault α)}
    {results : β → Prop} (hc : c.Keeps now faults values)
    (hn : ∀ t a, now ≤ t → values a → (next t a).Keeps t faults results) :
    (c.andThen next).Keeps now faults results := by
  obtain ⟨trace, ending⟩ := c
  match ending with
  | none => exact .silent _
  | some (time, .error f) =>
    obtain ⟨h₁, h₂⟩ := hc.timely time _ rfl
    exact .failed h₁ h₂ (hc.fault time f rfl)
  | some (time, .ok a) =>
    obtain ⟨h₁, h₂⟩ := hc.timely time _ rfl
    have h := hn time a h₁ (hc.value time a rfl)
    -- What `c` does comes no later than its ending, and what follows starts there.
    refine ⟨?_, h.fault, h.value⟩
    intro t e he
    obtain ⟨h₃, h₄⟩ := h.timely t e he
    refine ⟨Nat.le_trans h₁ h₃, ?_⟩
    intro m hm
    rcases List.mem_append.1 hm with hm | hm
    · exact Nat.le_trans (h₂ m hm) h₃
    · exact h₄ m hm

/-- What is closed behind a course takes place at its ending or later, and may fail for itself. -/
theorem Keeps.closedBy {c : Course (Except Fault α)} (hc : c.Keeps now faults values)
    {closing : Closing} (hf : ∀ f, closing.fault? = some f → faults f) :
    (c.closedBy closing).Keeps now faults values := by
  obtain ⟨trace, ending⟩ := c
  match ending, closing with
  | none, _ => exact .silent _
  | some _, .never => exact .silent _
  | some (time, e), .ends span fault =>
    obtain ⟨h₁, h₂⟩ := hc.timely time e rfl
    have start : now ≤ time + span := Nat.le_add_right_of_le h₁
    have before : ∀ m ∈ trace, m.time ≤ time + span := fun m hm => Nat.le_add_right_of_le (h₂ m hm)
    match fault, e with
    | some f, _ => exact .failed start before (hf f rfl)
    | none, .error f => exact .failed start before (hc.fault time f rfl)
    | none, .ok a => exact .came start before (hc.value time a rfl)

/-- What a course has done stays done, whatever follows on it. -/
theorem trace_andThen (c : Course (Except Fault α)) (next : Nanos → α → Course (Except Fault β)) :
    ∃ rest, (c.andThen next).trace = c.trace ++ rest := by
  unfold andThen
  split
  · exact ⟨[], (List.append_nil _).symm⟩
  · exact ⟨[], (List.append_nil _).symm⟩
  · exact ⟨_, rfl⟩

/-- Every effect of the course satisfies `P`. -/
def Does (P : Effect → Prop) (c : Course α) : Prop := ∀ m ∈ c.trace, P m.effect

theorem Does.mono {P Q : Effect → Prop} {c : Course α} (hc : c.Does P) (h : ∀ e, P e → Q e) :
    c.Does Q := fun m hm => h m.effect (hc m hm)

theorem Does.andThen {P : Effect → Prop} {next : Nanos → α → Course (Except Fault β)}
    {c : Course (Except Fault α)} (hc : c.Does P) (hn : ∀ t a, (next t a).Does P) :
    (c.andThen next).Does P := by
  unfold Course.andThen
  split
  · exact hc
  · exact hc
  · next time a _ =>
    intro m hm
    rcases List.mem_append.1 hm with hm | hm
    · exact hc m hm
    · exact hn time a m hm

theorem Does.closedBy {P : Effect → Prop} {c : Course (Except Fault α)} (hc : c.Does P)
    (closing : Closing) : (c.closedBy closing).Does P := hc

end Course

/-- What is done when a request goes out and is answered. -/
inductive Effect.OfExchange : Effect → Prop
  | sent (m : Wire.Message) : OfExchange (.sent m)
  | stored (v : Variant) (jar : Cookie.Jar) : OfExchange (.stored v jar)

namespace Client

open Course (Keeps Does)
open Effect (OfExchange)
open Wire (Message)

/-! ### Bodies -/

theorem takeIn_spec {P : Fault → Prop} (own : ∀ f : Fault, f.IsOfClient → P f)
    {codings : List Coding} {stops : Nat → Bool} {pieces : List Piece}
    (reported : ∀ f, Piece.fault f ∈ pieces → P f) {first : Option Bytes} {raw : Bytes}
    {now t : Nanos} {e : Except Fault Bytes}
    (h : takeIn codings stops first raw now pieces = some (t, e)) :
    now ≤ t ∧ FaultsIn P e := by
  have decoding (first raw : Bytes) : FaultsIn P (decoded codings first raw) :=
    fun f hf => own f (decoded_faults codings first raw f hf)
  -- The pieces are taken in one by one; only the bytes seen so far and the time change.
  induction pieces generalizing first raw now with
  | nil =>
    cases h
    exact ⟨Nat.le_refl _, decoding _ _⟩
  | cons piece rest ih =>
    have later : ∀ f, Piece.fault f ∈ rest → P f :=
      fun f hf => reported f (List.mem_cons_of_mem _ hf)
    cases piece with
    | pause span =>
      obtain ⟨h₁, h₂⟩ := ih later h
      exact ⟨Nat.le_trans (Nat.le_add_right now span) h₁, h₂⟩
    | fault f =>
      cases h
      exact ⟨Nat.le_refl _, .error (reported f List.mem_cons_self)⟩
    | silence => cases h
    | bytes b =>
      unfold takeIn at h
      split at h
      · exact ih later h
      · dsimp only at h
        split at h
        · next hd =>
          cases h
          exact ⟨Nat.le_refl _, .error (decoding _ _ _ hd)⟩
        · split at h
          · cases h
            exact ⟨Nat.le_refl _, .ok _⟩
          · exact ih later h

theorem takeBody_keeps (c : Client) (stops : Nat → Bool) {s : Script} {r : Reply}
    (hr : s.CanAnswer r) (now : Nanos) :
    (c.takeBody stops r now).Keeps now s.CanFail fun _ => True :=
  .quiet (fun _ _ h => takeIn_spec (fun _ => .inl) (fun _ hf => hr.canFail hf) h)
    fun _ _ _ => trivial

/-! ### Requests -/

theorem exchange_keeps (c : Client) (s : Script) (jar : Cookie.Jar) (now : Nanos) (m : Message) :
    (c.exchange s.next jar now m).Keeps now s.CanFail fun x => s.CanAnswer x.1 := by
  have arrived : now ≤ now + s.next.delay := Nat.le_add_right _ _
  have sent : ∀ x ∈ [(⟨now, .sent m⟩ : Moment)], x.time ≤ now + s.next.delay := by
    intro x hx
    rw [List.mem_singleton.1 hx]
    exact arrived
  unfold exchange
  dsimp only
  split
  · exact .silent _
  · next f hf =>
    refine .failed arrived sent (.inr ⟨s.next, s.meets_next, ?_⟩)
    unfold Exchange.Reports
    rw [hf]
  · next r hr =>
    split
    · next f hf => exact .failed arrived sent (.inl (isOfClient_of_wholeFault? hf))
    · split
      · next f hf => exact .failed arrived sent (.inl (Redirect.receive_faults _ _ _ _ _ hf))
      · refine .came arrived ?_ ⟨s.next, s.meets_next, hr⟩
        intro x hx
        rcases List.mem_append.1 hx with hx | hx
        · exact sent x hx
        · exact Nat.le_of_eq (congrArg Moment.time (List.mem_singleton.1 hx))

/-- **A request and its redirects.** Each redirect that is followed uses up one exchange of the
script, and one of the redirects that are left. -/
theorem hops_keeps (c : Client) (left : Nat) (s : Script) (jar : Cookie.Jar) (now : Nanos)
    (m : Message) : (c.hops left s jar now m).Keeps now s.CanFail s.CanAnswer := by
  unfold hops
  refine (c.exchange_keeps s jar now m).andThen fun arrival (r, jar) _ hr => ?_
  dsimp only
  split
  · exact .came (Nat.le_refl _) Trace.time_le_of_mem_nil hr
  · split
    · next hf =>
      exact (Keeps.failed (Nat.le_refl _) Trace.time_le_of_mem_nil
        (.inl (Redirect.follow_faults _ _ _ _ _ _ hf))).closedBy fun _ => hr.canFail_closing
    · split
      · refine ((c.takeBody_keeps _ hr arrival).closedBy fun _ => hr.canFail_closing).andThen
          fun now _ _ _ => ?_
        cases left with
        | zero =>
          exact .failed (Nat.le_refl _) Trace.time_le_of_mem_nil
            (.inl ⟨rfl, show "TooManyRedirects" ≠ "" by decide⟩)
        | succ left =>
          -- What the rest of the script can do, the whole of it can do.
          exact (hops_keeps c left (s.after 1) jar now _).mono (fun _ => .of_after)
            fun _ => .of_after
      · exact .came (Nat.le_refl _) Trace.time_le_of_mem_nil hr
termination_by left

theorem drain_keeps (c : Client) {s : Script} {r : Reply} (hr : s.CanAnswer r) (now : Nanos) :
    (c.drain r now).Keeps now s.CanFail fun _ => True := by
  refine .closedBy ((c.takeBody_keeps _ hr now).andThen fun now bytes _ _ => ?_)
    fun _ => hr.canFail_closing
  refine .came (Nat.le_refl _) ?_ trivial
  intro m hm
  rw [Course.done, List.append_nil, Trace.logging, List.mem_map] at hm
  obtain ⟨_, _, rfl⟩ := hm
  exact Nat.le_refl _

theorem receive_keeps (c : Client) {s : Script} {r : Reply} (hr : s.CanAnswer r) (now : Nanos) :
    (c.receive r now).Keeps now s.CanFail fun x => x.reply = r := by
  refine (c.drain_keeps hr now).andThen fun now bytes _ _ => ?_
  refine .came (Nat.le_refl _) ?_ rfl
  intro m hm
  rw [Course.done, List.append_nil, Trace.logging, Trace.measuring, List.mem_append,
    List.mem_map, List.mem_map] at hm
  obtain ⟨_, _, rfl⟩ | ⟨_, _, rfl⟩ := hm
  · exact Nat.le_refl _
  · exact Nat.le_refl _

/-- **A whole request** ends with a response of the script, or with a fault that is the client's
own or one of the script, and does nothing after its ending. -/
theorem send_keeps (c : Client) (s : Script) (jar : Cookie.Jar) (now : Nanos) (m : Message) :
    (c.send s jar now m).Keeps now s.CanFail fun x => s.CanAnswer x.reply := by
  refine (c.hops_keeps maxRedirects s jar now _).andThen fun arrival r _ hr => ?_
  refine (c.receive_keeps hr arrival).mono (fun _ => id) ?_
  intro x hx
  rw [hx]
  exact hr

/-! ### What is done -/

theorem takeBody_does (c : Client) (stops : Nat → Bool) (r : Reply) (now : Nanos)
    (P : Effect → Prop) : (c.takeBody stops r now).Does P := fun _ h => absurd h List.not_mem_nil

theorem done_does (now : Nanos) (a : α) (P : Effect → Prop) : (Course.done now a).Does P :=
  fun _ h => absurd h List.not_mem_nil

theorem exchange_does (c : Client) (x : Exchange) (jar : Cookie.Jar) (now : Nanos) (m : Message) :
    (c.exchange x jar now m).Does OfExchange := by
  have sent : ∀ x ∈ [(⟨now, .sent m⟩ : Moment)], OfExchange x.effect := by
    intro x hx
    rw [List.mem_singleton.1 hx]
    exact .sent m
  unfold exchange
  dsimp only
  split
  · exact sent
  · exact sent
  · split
    · exact sent
    · split
      · exact sent
      · next jar _ =>
        intro x hx
        rcases List.mem_append.1 hx with hx | hx
        · exact sent x hx
        · rw [List.mem_singleton.1 hx]
          exact .stored c.variant jar

theorem hops_does (c : Client) (left : Nat) (s : Script) (jar : Cookie.Jar) (now : Nanos)
    (m : Message) : (c.hops left s jar now m).Does OfExchange := by
  unfold hops
  refine (c.exchange_does _ _ _ _).andThen ?_
  rintro arrival ⟨r, jar⟩
  dsimp only
  split
  · exact done_does _ _ _
  · split
    · exact .closedBy (done_does _ _ _) r.closing
    · split
      · refine ((c.takeBody_does _ _ _ _).closedBy r.closing).andThen fun now _ => ?_
        cases left with
        | zero => exact done_does _ _ _
        | succ left => exact hops_does c left (s.after 1) jar now _
      · exact done_does _ _ _
termination_by left

/-- What a client does for a request. -/
inductive OfRequest (c : Client) : Effect → Prop
  | exchange {e : Effect} (h : e.OfExchange) : OfRequest c e
  | truncated (r : Reply) : OfRequest c (.logged (c.truncated r))
  | measured (m : Measurement) : OfRequest c (.measured m)

/-- What is logged of a body that is taken in, if anything, is that it was too much. -/
theorem ofRequest_of_mem {c : Client} {r : Reply} {e : Log.Event} {p : Prop} [Decidable p]
    (h : e ∈ if p then [c.truncated r] else []) : c.OfRequest (.logged e) := by
  split at h
  · rw [List.mem_singleton.1 h]
    exact .truncated r
  · cases h

theorem drain_does (c : Client) (r : Reply) (now : Nanos) : (c.drain r now).Does c.OfRequest := by
  refine .closedBy ((c.takeBody_does _ r now _).andThen fun now bytes m hm => ?_) r.closing
  rw [Course.after, Course.done, List.append_nil, Trace.logging, List.mem_map] at hm
  obtain ⟨e, he, rfl⟩ := hm
  exact ofRequest_of_mem he

theorem receive_does (c : Client) (r : Reply) (now : Nanos) :
    (c.receive r now).Does c.OfRequest := by
  refine (c.drain_does r now).andThen fun now bytes m hm => ?_
  rw [Course.after, Course.done, List.append_nil, Trace.logging, Trace.measuring, List.mem_append,
    List.mem_map, List.mem_map] at hm
  obtain ⟨e, he, rfl⟩ | ⟨x, -, rfl⟩ := hm
  · exact ofRequest_of_mem he
  · exact .measured x

/-- **What a client does for a request**, with all its redirects. -/
theorem send_does (c : Client) (s : Script) (jar : Cookie.Jar) (now : Nanos) (m : Message) :
    (c.send s jar now m).Does c.OfRequest :=
  ((c.hops_does maxRedirects s jar now _).mono fun _ => .exchange).andThen
    fun arrival r => c.receive_does r arrival

/-! ### What goes out first -/

theorem exchange_trace (c : Client) (x : Exchange) (jar : Cookie.Jar) (now : Nanos) (m : Message) :
    ∃ rest, (c.exchange x jar now m).trace = ⟨now, .sent m⟩ :: rest := by
  unfold exchange
  dsimp only
  split
  · exact ⟨[], rfl⟩
  · exact ⟨[], rfl⟩
  · split
    · exact ⟨[], rfl⟩
    · split
      · exact ⟨[], rfl⟩
      · exact ⟨_, rfl⟩

/-- A request goes out as soon as it is sent, and before anything else happens. -/
theorem send_trace (c : Client) (s : Script) (jar : Cookie.Jar) (now : Nanos) (m : Message) :
    ∃ rest, (c.send s jar now m).trace = ⟨now, .sent (withUrlCredentials m)⟩ :: rest := by
  unfold send hops
  obtain ⟨first, h₁⟩ := c.exchange_trace s.next jar now (withUrlCredentials m)
  obtain ⟨second, h₂⟩ := Course.trace_andThen (c.exchange s.next jar now (withUrlCredentials m)) _
  obtain ⟨third, h₃⟩ := Course.trace_andThen _ _
  rw [h₃, h₂, h₁]
  exact ⟨_, rfl⟩

end Client

end HttpCourier
