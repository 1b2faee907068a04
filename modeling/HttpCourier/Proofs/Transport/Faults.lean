import HttpCourier.Transport.Client

/-!
# HttpCourier.Proofs.Transport.Faults

**Where the faults of a client come from.** A fault is either reported by the transport, in one
of the exchanges of its script, or found by the client itself: in a body that cannot be decoded,
in a redirect that leads nowhere, or in a request that has no site. The faults of the second kind
belong to three families (`FaultFamily.isOfClient`), and none of these is about time, about a
connection or about an interruption. Their kinds all have names.
-/

namespace HttpCourier

/-! ### Faults that a computation can end with -/

/-- Every fault with which `e` can end satisfies `P`. -/
def FaultsIn (P : Fault → Prop) (e : Except Fault α) : Prop := ∀ f, e = .error f → P f

namespace FaultsIn

variable {P : Fault → Prop}

theorem ok (a : α) : FaultsIn P (.ok a) := by
  intro f h
  cases h

theorem error {f : Fault} (h : P f) : FaultsIn P (.error f : Except Fault α) := by
  intro g hg
  cases hg
  exact h

theorem bind {e : Except Fault α} {next : α → Except Fault β} (he : FaultsIn P e)
    (hn : ∀ a, FaultsIn P (next a)) : FaultsIn P (e >>= next) := by
  intro f hf
  cases e with
  | error _ =>
    cases hf
    exact he f rfl
  | ok a => exact hn a f hf

theorem map {e : Except Fault α} (g : α → β) (he : FaultsIn P e) : FaultsIn P (e.map g) := by
  intro f hf
  cases e with
  | error _ =>
    cases hf
    exact he f rfl
  | ok a => cases hf

theorem mapError {e : Except ε α} {g : ε → Fault} (h : ∀ x, P (g x)) :
    FaultsIn P (e.mapError g) := by
  intro f hf
  cases e with
  | error x =>
    cases hf
    exact h x
  | ok a => cases hf

end FaultsIn

/-! ### The client's own faults -/

namespace FaultFamily

/-- Whether a client can find a fault of the family by itself. -/
def isOfClient : FaultFamily → Bool
  | transport | remoteProtocol | other => true
  | _ => false

end FaultFamily

namespace Fault

/-- The fault is of one of the families that a client can find by itself, and its kind has a
name. -/
structure IsOfClient (f : Fault) : Prop where
  family : f.family.isOfClient = true
  named : f.kind ≠ ""

theorem isOfClient_unencodable (e : EncodeError) : (unencodable e).IsOfClient :=
  ⟨rfl, show "UnicodeEncodeError" ≠ "" by decide⟩

theorem isOfClient_ofLocator (e : Url.LocatorError) : (ofLocator e).IsOfClient := by
  cases e with
  | unencodable e => exact isOfClient_unencodable e
  | _ => exact ⟨rfl, show "InvalidURL" ≠ "" by decide⟩

theorem isOfClient_ofBuild (e : Wire.BuildFault) : (ofBuild e).IsOfClient := by
  cases e with
  | unencodable e => exact isOfClient_unencodable e
  | body f => exact ⟨rfl, show "PydanticSerializationError" ≠ "" by decide⟩

theorem isOfClient_ofMessage (e : Wire.MessageFault) : (ofMessage e).IsOfClient := by
  cases e with
  | unencodable e => exact isOfClient_unencodable e
  | url e => exact isOfClient_ofLocator e

theorem isOfClient_ofSplit (e : Url.SplitError) : (ofSplit e).IsOfClient :=
  ⟨rfl, show "ValueError" ≠ "" by decide⟩

theorem isOfClient_lostField (name : Text) : (lostField name).IsOfClient :=
  ⟨rfl, show "KeyError" ≠ "" by decide⟩

end Fault

namespace Redirect

theorem siteOf_faults (m : Wire.Message) : FaultsIn Fault.IsOfClient (siteOf m) := by
  refine .bind (.mapError Fault.isOfClient_lostField) fun _ => ?_
  split
  · exact .ok _
  · exact .error ⟨rfl, show "ValueError" ≠ "" by decide⟩

theorem receive_faults (now : ClockFace) (m : Wire.Message) (r : Reply) (jar : Cookie.Jar) :
    FaultsIn Fault.IsOfClient (receive now m r jar) :=
  (siteOf_faults m).map _

theorem target_faults (source : Url.Locator) (location : Text) :
    FaultsIn Fault.IsOfClient (target source location) := by
  have unread (e : Url.LocatorError) : (Fault.badLocation e).IsOfClient :=
    ⟨rfl, show "RemoteProtocolError" ≠ "" by decide⟩
  refine .bind (.mapError unread) fun named => ?_
  dsimp only
  -- Which host is taken makes no difference to what can fail behind it.
  generalize (if named.scheme ≠ [] ∧ named.host = [] then
    { named with host := source.host } else named) = located
  refine .bind (.mapError Fault.isOfClient_ofLocator) fun _ => ?_
  have carried (absolute : Url.Locator) : FaultsIn Fault.IsOfClient
      ((withFragment source absolute).mapError Fault.unencodable) :=
    .mapError Fault.isOfClient_unencodable
  split
  · exact .bind (.ok _) carried
  · refine .bind (.mapError Fault.isOfClient_ofSplit) fun _ => ?_
    exact .bind (.mapError Fault.isOfClient_ofLocator) carried

theorem follow_faults (now : ClockFace) (m : Wire.Message) (r : Reply) (location : Text)
    (jar : Cookie.Jar) : FaultsIn Fault.IsOfClient (follow now m r location jar) := by
  refine .bind (target_faults m.url location) fun url => ?_
  have completed (p : Prop) [Decidable p] (a b : Wire.Message) :
      FaultsIn Fault.IsOfClient (if p then .ok a else .ok b) := by
    split <;> exact .ok _
  dsimp only
  split
  · exact .bind (.ok _) fun _ => completed _ _ _
  · refine .bind (siteOf_faults _) fun _ => ?_
    exact .bind (.mapError Fault.isOfClient_unencodable) fun _ => completed _ _ _

end Redirect

namespace Client

theorem decoded_faults (codings : List Coding) (first raw : Bytes) :
    FaultsIn Fault.IsOfClient (decoded codings first raw) :=
  .mapError fun _ => ⟨rfl, show "DecodingError" ≠ "" by decide⟩

theorem isOfClient_of_wholeFault? {r : Reply} {f : Fault} (h : wholeFault? r = some f) :
    f.IsOfClient := by
  unfold wholeFault? at h
  split at h
  · cases h
  · split at h
    · next he =>
      cases h
      exact decoded_faults _ _ _ _ he
    · cases h

end Client

/-! ### The exchanges of a script -/

/-- The exchange is one of those that the script provides. -/
def Script.Meets (s : Script) (x : Exchange) : Prop := x ∈ s.upcoming ∨ x = s.afterwards

theorem Script.meets_next (s : Script) : s.Meets s.next := by
  obtain ⟨upcoming, afterwards⟩ := s
  cases upcoming with
  | nil => exact .inr rfl
  | cons x rest => exact .inl List.mem_cons_self

theorem Script.Meets.of_after {s : Script} {n : Nat} {x : Exchange} (h : (s.after n).Meets x) :
    s.Meets x := by
  rcases h with h | h
  · exact .inl (List.mem_of_mem_drop h)
  · exact .inr h

/-- The transport reports the fault in the exchange: at once, while the body comes in, or when its
stream is closed. -/
def Exchange.Reports (x : Exchange) (f : Fault) : Prop :=
  match x.answer with
  | .fault g => f = g
  | .reply r => (∃ span, Piece.fault f ∈ r.pieces span) ∨ r.closing.fault? = some f
  | .silence => False

/-- A response with a whole body has no fault in it. -/
theorem Exchange.not_reports_ofWhole {delay : Nanos} {status : Nat} {reason : Option Text}
    {fields : Wire.Fields} {b : Bytes} {f : Fault} :
    ¬Reports ⟨delay, .reply (.ofWhole status reason fields b)⟩ f := by
  rintro (⟨span, hf⟩ | hf)
  · cases List.mem_singleton.1 hf
  · cases hf

/-- The fault is one of the client's own, or reported in an exchange of the script. -/
def Script.CanFail (s : Script) (f : Fault) : Prop :=
  f.IsOfClient ∨ ∃ x, s.Meets x ∧ x.Reports f

/-- The response is the answer of an exchange of the script. -/
def Script.CanAnswer (s : Script) (r : Reply) : Prop := ∃ x, s.Meets x ∧ x.answer = .reply r

theorem Script.CanFail.of_after {s : Script} {n : Nat} {f : Fault}
    (h : (s.after n).CanFail f) : s.CanFail f := by
  rcases h with h | ⟨x, hx, hf⟩
  · exact .inl h
  · exact .inr ⟨x, hx.of_after, hf⟩

theorem Script.CanAnswer.of_after {s : Script} {n : Nat} {r : Reply}
    (h : (s.after n).CanAnswer r) : s.CanAnswer r := by
  obtain ⟨x, hx, hr⟩ := h
  exact ⟨x, hx.of_after, hr⟩

/-- A fault in the body of a response that the script gives is one with which it can fail. -/
theorem Script.CanAnswer.canFail {s : Script} {r : Reply} {f : Fault} {span : Nanos}
    (h : s.CanAnswer r) (hf : Piece.fault f ∈ r.pieces span) : s.CanFail f := by
  obtain ⟨x, hx, hr⟩ := h
  refine .inr ⟨x, hx, ?_⟩
  unfold Exchange.Reports
  rw [hr]
  exact .inl ⟨span, hf⟩

/-- So is a fault in the closing of its stream. -/
theorem Script.CanAnswer.canFail_closing {s : Script} {r : Reply} {f : Fault}
    (h : s.CanAnswer r) (hf : r.closing.fault? = some f) : s.CanFail f := by
  obtain ⟨x, hx, hr⟩ := h
  refine .inr ⟨x, hx, ?_⟩
  unfold Exchange.Reports
  rw [hr]
  exact .inr hf

/-! ### What a script does not do -/

namespace Script

/-- No response of the script has a status below the least one. -/
def StatusesFrom (least : Nat) (s : Script) : Prop := ∀ r, s.CanAnswer r → least ≤ r.status

/-- The script reports no fault of the family. -/
def Avoids (family : FaultFamily) (s : Script) : Prop :=
  ∀ x f, s.Meets x → x.Reports f → f.family ≠ family

/-- The kinds of the faults that the script reports have names. -/
def Named (s : Script) : Prop := ∀ x f, s.Meets x → x.Reports f → f.kind ≠ ""

theorem StatusesFrom.after {s : Script} {least : Nat} (h : s.StatusesFrom least) (n : Nat) :
    (s.after n).StatusesFrom least :=
  fun r hr => h r hr.of_after

theorem Avoids.after {s : Script} {family : FaultFamily} (h : s.Avoids family) (n : Nat) :
    (s.after n).Avoids family :=
  fun x f hx => h x f hx.of_after

theorem Named.after {s : Script} (h : s.Named) (n : Nat) : (s.after n).Named :=
  fun x f hx => h x f hx.of_after

theorem CanFail.kind_ne {s : Script} {f : Fault} (h : s.CanFail f) (named : s.Named) :
    f.kind ≠ "" := by
  rcases h with h | ⟨x, hx, hf⟩
  · exact h.named
  · exact named x f hx hf

/-- A family that neither the script reports nor a client finds does not come up. -/
theorem CanFail.family_ne {s : Script} {f : Fault} {family : FaultFamily} (h : s.CanFail f)
    (ha : s.Avoids family) (hc : family.isOfClient = false) : f.family ≠ family := by
  rcases h with h | ⟨x, hx, hf⟩
  · intro hf
    have found := h.family
    rw [hf, hc] at found
    cases found
  · exact ha x f hx hf

end Script

end HttpCourier
