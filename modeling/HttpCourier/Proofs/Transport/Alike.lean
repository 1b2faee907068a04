import HttpCourier.Proofs.Transport.Faults
import Mathlib.Data.List.Forall2

/-!
# HttpCourier.Proofs.Transport.Alike

**The same course, at another time and with other cookies.** Two traces are alike if the one is
the other some time later, but for the cookies that are stored: of these it is only known that a
relation between jars holds of them. Two courses are alike if their traces and endings are.

Cookies come into a request only where a redirect is followed. So if a relation between jars
survives every response, and if no redirect of a script tells apart jars that are related
(`Script.Blind`), then a client that starts with related jars does alike at any time
(`Client.send_alike`). Equality is such a relation for every script; for a script without
redirects, any two jars are related.
-/

namespace HttpCourier

/-! ### Traces -/

/-- The same effects, but for the cookies that are stored, which are related. -/
inductive Effect.Alike (jars : Cookie.Jar → Cookie.Jar → Prop) : Effect → Effect → Prop
  | sent (m : Wire.Message) : Alike jars (.sent m) (.sent m)
  | stored (v : Variant) {jar jar' : Cookie.Jar} (related : jars jar jar') :
      Alike jars (.stored v jar) (.stored v jar')
  | measured (m : Measurement) : Alike jars (.measured m) (.measured m)
  | logged (e : Log.Event) : Alike jars (.logged e) (.logged e)

/-- The one moment is the other, some time later. -/
structure Moment.Alike (d : Nanos) (jars : Cookie.Jar → Cookie.Jar → Prop) (x y : Moment) :
    Prop where
  time_eq : x.time = d + y.time
  effect : x.effect.Alike jars y.effect

/-- The one trace is the other, some time later. -/
def Trace.Alike (d : Nanos) (jars : Cookie.Jar → Cookie.Jar → Prop) (t u : Trace) : Prop :=
  List.Forall₂ (Moment.Alike d jars) t u

variable {d : Nanos} {jars : Cookie.Jar → Cookie.Jar → Prop}

namespace Trace

variable {t u : Trace}

theorem Alike.nil : Alike d jars [] [] := List.Forall₂.nil

theorem Alike.single {x y : Moment} (h : x.Alike d jars y) : Alike d jars [x] [y] :=
  .cons h .nil

theorem Alike.append {t' u' : Trace} (h : Alike d jars t u) (h' : Alike d jars t' u') :
    Alike d jars (t ++ t') (u ++ u') :=
  List.rel_append h h'

theorem alike_logging (time : Nanos) (events : List Log.Event) :
    Alike d jars (logging (d + time) events) (logging time events) := by
  unfold Alike logging
  rw [List.forall₂_map_left_iff, List.forall₂_map_right_iff]
  exact List.forall₂_same.2 fun e _ => ⟨rfl, .logged e⟩

theorem alike_measuring (time : Nanos) (measurements : List Measurement) :
    Alike d jars (measuring (d + time) measurements) (measuring time measurements) := by
  unfold Alike measuring
  rw [List.forall₂_map_left_iff, List.forall₂_map_right_iff]
  exact List.forall₂_same.2 fun m _ => ⟨rfl, .measured m⟩

theorem Alike.upTo (h : Alike d jars t u) (time : Nanos) :
    Alike d jars (t.upTo (d + time)) (u.upTo time) := by
  refine List.rel_filter (fun x y hxy => ?_) h
  show decide (x.time ≤ d + time) = true ↔ decide (y.time ≤ time) = true
  rw [decide_eq_true_iff, decide_eq_true_iff, hxy.time_eq]
  exact Nat.add_le_add_iff_left

theorem Alike.before (h : Alike d jars t u) (time : Nanos) :
    Alike d jars (t.before (d + time)) (u.before time) := by
  refine List.rel_filter (fun x y hxy => ?_) h
  show decide (x.time < d + time) = true ↔ decide (y.time < time) = true
  rw [decide_eq_true_iff, decide_eq_true_iff, hxy.time_eq]
  exact Nat.add_lt_add_iff_left

/-- A view of traces that does not look at cookies is the same of both. -/
theorem Alike.filterMap {f g : Moment → Option α} (h : Alike d jars t u)
    (same : ∀ x y, x.Alike d jars y → f x = g y) : t.filterMap f = u.filterMap g := by
  induction h with
  | nil => rfl
  | cons first _ ih => rw [List.filterMap_cons, List.filterMap_cons, ih, same _ _ first]

theorem Alike.sent (h : Alike d jars t u) :
    t.sent = u.sent.map fun x => (d + x.1, x.2) := by
  unfold Trace.sent
  rw [List.map_filterMap]
  refine h.filterMap fun x y hxy => ?_
  obtain ⟨time, effect⟩ := x
  obtain ⟨time', effect'⟩ := y
  obtain ⟨rfl, he⟩ := hxy
  cases he <;> rfl

theorem Alike.events (h : Alike d jars t u) : t.events = u.events := by
  refine h.filterMap fun x y hxy => ?_
  obtain ⟨time, effect⟩ := x
  obtain ⟨time', effect'⟩ := y
  obtain ⟨rfl, he⟩ := hxy
  cases he <;> rfl

theorem Alike.measurements (h : Alike d jars t u) : t.measurements = u.measurements := by
  refine h.filterMap fun x y hxy => ?_
  obtain ⟨time, effect⟩ := x
  obtain ⟨time', effect'⟩ := y
  obtain ⟨rfl, he⟩ := hxy
  cases he <;> rfl

/-- Jars that are related before are so after, whatever of the two traces is stored in them. -/
theorem Alike.jarAfter (h : Alike d jars t u) (v : Variant) {jar jar' : Cookie.Jar}
    (hj : jars jar jar') : jars (t.jarAfter v jar) (u.jarAfter v jar') := by
  refine List.rel_foldl (fun jar jar' hj x y hxy => ?_) hj h
  obtain ⟨time, effect⟩ := x
  obtain ⟨time', effect'⟩ := y
  obtain ⟨rfl, he⟩ := hxy
  cases he with
  | stored w related =>
    by_cases hw : w = v
    · simpa [hw] using related
    · simpa [hw] using hj
  | _ => exact hj

end Trace

/-! ### Courses -/

/-- No ending at all, or the same fault or related values some time later. -/
inductive EndsAlike (d : Nanos) (values : α → α → Prop) :
    Option (Nanos × Except Fault α) → Option (Nanos × Except Fault α) → Prop
  | never : EndsAlike d values none none
  | failed (time : Nanos) (f : Fault) :
      EndsAlike d values (some (d + time, .error f)) (some (time, .error f))
  | came (time : Nanos) {a b : α} (related : values a b) :
      EndsAlike d values (some (d + time, .ok a)) (some (time, .ok b))

theorem EndsAlike.shifted (ending : Option (Nanos × Except Fault α)) :
    EndsAlike d Eq (ending.map fun x => (d + x.1, x.2)) ending := by
  rcases ending with _ | ⟨time, f | a⟩
  · exact .never
  · exact .failed time f
  · exact .came time rfl

theorem EndsAlike.eq_map {ending ending' : Option (Nanos × Except Fault α)}
    (h : EndsAlike d Eq ending ending') : ending = ending'.map fun x => (d + x.1, x.2) := by
  cases h with
  | never => rfl
  | failed time f => rfl
  | came time related => rw [related]; rfl

namespace Course

/-- The one course is the other, some time later. -/
structure Alike (d : Nanos) (jars : Cookie.Jar → Cookie.Jar → Prop) (values : α → α → Prop)
    (c c' : Course (Except Fault α)) : Prop where
  trace : Trace.Alike d jars c.trace c'.trace
  ending : EndsAlike d values c.ending c'.ending

variable {values : α → α → Prop}

theorem Alike.failed (time : Nanos) (f : Fault) :
    (done (d + time) (.error f)).Alike d jars values (done time (.error f)) :=
  ⟨.nil, .failed time f⟩

theorem Alike.came (time : Nanos) {a b : α} (related : values a b) :
    (done (d + time) (.ok a)).Alike d jars values (done time (.ok b)) :=
  ⟨.nil, .came time related⟩

theorem Alike.andThen {results : β → β → Prop} {c c' : Course (Except Fault α)}
    {next next' : Nanos → α → Course (Except Fault β)} (h : c.Alike d jars values c')
    (hn : ∀ time a b, values a b →
      (next (d + time) a).Alike d jars results (next' time b)) :
    (c.andThen next).Alike d jars results (c'.andThen next') := by
  obtain ⟨trace, ending⟩ := c
  obtain ⟨trace', ending'⟩ := c'
  obtain ⟨ht, he⟩ := h
  cases he with
  | never => exact ⟨ht, .never⟩
  | failed time f => exact ⟨ht, .failed time f⟩
  | came time related =>
    obtain ⟨ht', he'⟩ := hn time _ _ related
    exact ⟨ht.append ht', he'⟩

theorem Alike.closedBy {c c' : Course (Except Fault α)} (h : c.Alike d jars values c')
    (closing : Closing) : (c.closedBy closing).Alike d jars values (c'.closedBy closing) := by
  obtain ⟨trace, ending⟩ := c
  obtain ⟨trace', ending'⟩ := c'
  obtain ⟨ht, he⟩ := h
  refine ⟨ht, ?_⟩
  unfold Course.closedBy Closing.ending
  cases he with
  | never => exact .never
  | failed time f =>
    rcases closing with ⟨span, _ | g⟩ | _
    · dsimp only [Option.bind_some]
      rw [Nat.add_assoc]
      exact .failed (time + span) f
    · dsimp only [Option.bind_some]
      rw [Nat.add_assoc]
      exact .failed (time + span) g
    · exact .never
  | came time related =>
    rcases closing with ⟨span, _ | g⟩ | _
    · dsimp only [Option.bind_some]
      rw [Nat.add_assoc]
      exact .came (time + span) related
    · dsimp only [Option.bind_some]
      rw [Nat.add_assoc]
      exact .failed (time + span) g
    · exact .never

end Course

/-! ### Scripts -/

/-- A relation between jars survives every response, and no redirect of the script tells apart
jars that it relates, whatever the clock shows. -/
structure Script.Blind (s : Script) (jars : Cookie.Jar → Cookie.Jar → Prop) : Prop where
  receive : ∀ now site fields jar jar', jars jar jar' →
    jars (Cookie.Jar.receive now site fields jar) (Cookie.Jar.receive now site fields jar')
  follow : ∀ now m r location jar jar', s.CanAnswer r → Redirect.location? r = some location →
    jars jar jar' → Redirect.follow now m r location jar = Redirect.follow now m r location jar'

namespace Script

theorem Blind.after {s : Script} (h : s.Blind jars) (n : Nat) : (s.after n).Blind jars :=
  ⟨h.receive, fun now m r location jar jar' hr => h.follow now m r location jar jar' hr.of_after⟩

/-- The cookies of a client after a response are related as those before it were, and a response
that is refused with the ones is refused with the others. -/
theorem Blind.receive_cases {s : Script} (blind : s.Blind jars) (now : ClockFace)
    (m : Wire.Message) (r : Reply) {jar jar' : Cookie.Jar} (hj : jars jar jar') :
    (∃ f, Redirect.receive now m r jar = .error f ∧ Redirect.receive now m r jar' = .error f) ∨
      ∃ kept kept', Redirect.receive now m r jar = .ok kept ∧
        Redirect.receive now m r jar' = .ok kept' ∧ jars kept kept' := by
  unfold Redirect.receive
  cases Redirect.siteOf m with
  | error f => exact .inl ⟨f, rfl, rfl⟩
  | ok site => exact .inr ⟨_, _, rfl, rfl, blind.receive _ _ _ _ _ hj⟩

/-- The same cookies make the same request. -/
theorem blind_eq (s : Script) : s.Blind Eq :=
  ⟨fun _ _ _ _ _ h => congrArg _ h, fun _ _ _ _ _ _ _ _ h => congrArg _ h⟩

/-- Without redirects, cookies make no difference at all. -/
theorem blind_of_direct {s : Script} (h : ∀ r, s.CanAnswer r → Redirect.location? r = none) :
    s.Blind fun _ _ => True := by
  refine ⟨fun _ _ _ _ _ _ => trivial, fun now m r location jar jar' hr hl _ => ?_⟩
  rw [h r hr] at hl
  cases hl

end Script

/-! ### Requests -/

namespace Client

/-- The client of an attempt that starts some time later, under a clock of its own. -/
def later (d : Nanos) (clock : Clock) (c : Client) : Client :=
  { c with deadline := d + c.deadline, clock := clock }

variable {clock : Clock}

/-- Where both clocks show the same, each at its time. -/
theorem clock_later {c : Client} (shown : clock.startingAt d = c.clock) (time : Nanos) :
    (c.later d clock).clock (d + time) = c.clock time := congrFun shown time

theorem takeIn_later (codings : List Coding) (stops : Nat → Bool) (first : Option Bytes)
    (raw : Bytes) (now : Nanos) (pieces : List Piece) :
    takeIn codings stops first raw (d + now) pieces =
      (takeIn codings stops first raw now pieces).map fun x => (d + x.1, x.2) := by
  -- Only the bytes seen so far and the time change from piece to piece.
  induction pieces generalizing first raw now with
  | nil => rfl
  | cons piece rest ih =>
    cases piece with
    | pause span =>
      have further := ih first raw (now + span)
      rw [← Nat.add_assoc] at further
      exact further
    | fault f => rfl
    | silence => rfl
    | bytes b =>
      simp only [takeIn]
      split
      · exact ih _ _ _
      · split
        · rfl
        · split
          · rfl
          · exact ih _ _ _

/-- As much time is left for a body as there would be at the other time. -/
theorem takeBody_alike (c : Client) (stops : Nat → Bool) (r : Reply) (now : Nanos) :
    ((c.later d clock).takeBody stops r (d + now)).Alike d jars Eq (c.takeBody stops r now) := by
  refine ⟨.nil, ?_⟩
  have left : (c.later d clock).deadline - (d + now) = c.deadline - now :=
    Nat.add_sub_add_left _ _ _
  unfold takeBody
  dsimp only
  rw [left, takeIn_later]
  exact .shifted _

theorem exchange_alike {c : Client} (shown : clock.startingAt d = c.clock) {s : Script}
    (blind : s.Blind jars) {jar jar' : Cookie.Jar} (hj : jars jar jar') (now : Nanos) (m : Wire.Message) :
    ((c.later d clock).exchange s.next jar (d + now) m).Alike d jars
      (fun x y => x.1 = y.1 ∧ s.CanAnswer y.1 ∧ jars x.2 y.2) (c.exchange s.next jar' now m) := by
  have out : Trace.Alike d jars [⟨d + now, .sent m⟩] [⟨now, .sent m⟩] := .single ⟨rfl, .sent m⟩
  unfold exchange
  dsimp only
  rw [Nat.add_assoc, clock_later shown]
  split
  · exact ⟨out, .never⟩
  · exact ⟨out, .failed _ _⟩
  · next r hr =>
    split
    · exact ⟨out, .failed _ _⟩
    · rcases blind.receive_cases (c.clock (now + s.next.delay)) m r hj with
        ⟨f, h, h'⟩ | ⟨kept, kept', h, h', related⟩
      · rw [h, h']
        exact ⟨out, .failed _ _⟩
      · rw [h, h']
        exact ⟨out.append (.single ⟨rfl, .stored _ related⟩),
          .came _ ⟨rfl, ⟨s.next, s.meets_next, hr⟩, related⟩⟩

/-- **A request and its redirects.** The jars are related at each redirect, so that the same
request follows on it. -/
theorem hops_alike {c : Client} (shown : clock.startingAt d = c.clock) (left : Nat) {s : Script}
    (blind : s.Blind jars) {jar jar' : Cookie.Jar} (hj : jars jar jar') (now : Nanos) (m : Wire.Message) :
    ((c.later d clock).hops left s jar (d + now) m).Alike d jars Eq (c.hops left s jar' now m) := by
  unfold hops
  refine (exchange_alike shown blind hj now m).andThen ?_
  rintro arrival ⟨r, kept⟩ ⟨_, kept'⟩ ⟨rfl, hr, related⟩
  dsimp only at hr related ⊢
  cases hl : Redirect.location? r with
  | none => exact .came arrival rfl
  | some location =>
    dsimp only
    rw [clock_later shown, blind.follow _ m r location kept kept' hr hl related]
    split
    · exact (Course.Alike.failed arrival _).closedBy r.closing
    · next next _ =>
      have policy : (c.later d clock).variant = c.variant := rfl
      rw [policy]
      split
      · refine ((c.takeBody_alike _ r arrival).closedBy r.closing).andThen fun now _ _ _ => ?_
        cases left with
        | zero => exact .failed now _
        | succ left => exact hops_alike shown left (blind.after 1) related now next
      · exact .came arrival rfl
termination_by left

theorem drain_alike (c : Client) (r : Reply) (now : Nanos) :
    ((c.later d clock).drain r (d + now)).Alike d jars Eq (c.drain r now) := by
  refine .closedBy ((c.takeBody_alike _ r now).andThen ?_) r.closing
  rintro now bytes _ rfl
  exact ⟨(Trace.alike_logging now _).append .nil, .came now rfl⟩

theorem receive_alike (c : Client) (r : Reply) (now : Nanos) :
    ((c.later d clock).receive r (d + now)).Alike d jars Eq (c.receive r now) := by
  refine (c.drain_alike r now).andThen ?_
  rintro now bytes _ rfl
  refine ⟨.append ?_ .nil, .came now rfl⟩
  exact (Trace.alike_logging now _).append (Trace.alike_measuring now _)

/-- **A whole request**, at another time and with related cookies. -/
theorem send_alike {c : Client} (shown : clock.startingAt d = c.clock) {s : Script}
    (blind : s.Blind jars) {jar jar' : Cookie.Jar} (hj : jars jar jar') (now : Nanos) (m : Wire.Message) :
    ((c.later d clock).send s jar (d + now) m).Alike d jars Eq (c.send s jar' now m) := by
  refine (hops_alike shown maxRedirects blind hj now _).andThen ?_
  rintro arrival r _ rfl
  exact c.receive_alike r arrival

end Client

end HttpCourier
