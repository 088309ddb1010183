import VectorTiles.Database.Script
import VectorTiles.Proofs.Database.Borrowing

/-!
# Faults in other words

Two servers may fail at the same calls and differ in what they say about it. No session can tell them
apart: what is done next depends on whether a fault is an error of the driver, and on nothing else
about it.

**Data.** Faults are alike if both are errors of the driver, or neither is. Outcomes are alike if both
are faults that are alike, or results in a given relation. Steps are alike if their outcomes are, and
if they leave the same state behind.

**Results.**

* `Server.IsLike`, `Session.IsLike`: servers and sessions that differ in the wording of faults.
* `Server.IsLike.withCursor`, `Server.IsLike.withConnection`: what runs on servers that are alike.
* `Script.IsLike.server`: scripts that fail at the same points.
-/

namespace VectorTiles
namespace Database

open Session

variable {σ α β : Type}

section Outcomes

/-- Faults of one kind, whatever they say. -/
inductive Fault.IsLike : Fault → Fault → Prop
  | driver (error other : DriverError) : IsLike (.driver error) (.driver other)
  | foreign (text other : String) : IsLike (.foreign text) (.foreign other)

/-- Faults of one kind, or results in a relation. -/
inductive IsLikeOutcome (R : α → α → Prop) : Except Fault α → Except Fault α → Prop
  | error {fault other : Fault} (h : fault.IsLike other) :
      IsLikeOutcome R (.error fault) (.error other)
  | ok {a b : α} (h : R a b) : IsLikeOutcome R (.ok a) (.ok b)

/-- Outcomes that are alike, with the same state behind them. -/
structure IsLikeStep (R : α → α → Prop) (step other : Except Fault α × σ) : Prop where
  outcome : IsLikeOutcome R step.1 other.1
  state_eq : step.2 = other.2

/-- Two servers that give the same answers, but for the wording of faults. -/
structure Server.IsLike (server other : Server σ) : Prop where
  perform : ∀ call state, IsLikeStep Eq (server.perform call state) (other.perform call state)
  fetchOne : ∀ state, IsLikeStep Eq (server.fetchOne state) (other.fetchOne state)
  fetchAll : ∀ state, IsLikeStep Eq (server.fetchAll state) (other.fetchAll state)
  isClosed_eq : server.isClosed = other.isClosed

/-- Two sessions that do the same and end alike, wherever they begin. -/
def Session.IsLike (R : α → α → Prop) (session other : Session σ α) : Prop :=
  ∀ activity, IsLikeStep R (session activity) (other activity)

theorem Fault.IsLike.refl (fault : Fault) : fault.IsLike fault := by
  cases fault with
  | driver error => exact .driver error error
  | foreign text => exact .foreign text text

theorem IsLikeOutcome.refl (outcome : Except Fault α) : IsLikeOutcome Eq outcome outcome := by
  cases outcome with
  | error fault => exact .error (.refl fault)
  | ok a => exact .ok rfl

/-- Steps that are alike either both fail or both have a result. -/
theorem IsLikeStep.eq_or {R : α → α → Prop} {step other : Except Fault α × σ}
    (h : IsLikeStep R step other) :
    (∃ fault second behind, fault.IsLike second ∧ step = (.error fault, behind) ∧
        other = (.error second, behind)) ∨
      ∃ a b behind, R a b ∧ step = (.ok a, behind) ∧ other = (.ok b, behind) := by
  rcases step with ⟨result, behind⟩
  rcases other with ⟨second, otherBehind⟩
  obtain ⟨hresult, hbehind⟩ := h
  obtain rfl : behind = otherBehind := hbehind
  cases hresult with
  | error hfault => exact .inl ⟨_, _, behind, hfault, rfl, rfl⟩
  | ok hrelated => exact .inr ⟨_, _, behind, hrelated, rfl, rfl⟩

end Outcomes

section Sessions

variable {R : α → α → Prop} {S : β → β → Prop} {server other : Server σ}

theorem Session.IsLike.refl (session : Session σ α) : Session.IsLike Eq session session :=
  fun activity => ⟨.refl (session activity).1, rfl⟩

theorem Session.IsLike.bind {first second : Session σ α} {next later : α → Session σ β}
    (hfirst : Session.IsLike R first second)
    (hnext : ∀ a b, R a b → Session.IsLike S (next a) (later b)) :
    Session.IsLike S (first >>= next) (second >>= later) := by
  intro activity
  rw [Session.bind_apply, Session.bind_apply]
  obtain ⟨fault, other, behind, hfault, hone, htwo⟩ | ⟨a, b, behind, hrelated, hone, htwo⟩ :=
    (hfirst activity).eq_or
  · rw [hone, htwo]
    exact ⟨.error hfault, rfl⟩
  · rw [hone, htwo]
    exact hnext a b hrelated behind

theorem Session.IsLike.outcome {session second : Session σ α} (h : Session.IsLike R session second) :
    Session.IsLike (IsLikeOutcome R) (outcome session) (outcome second) :=
  fun activity => ⟨.ok (h activity).outcome, (h activity).state_eq⟩

theorem Session.IsLike.conclude {result second : Except Fault α} (h : IsLikeOutcome R result second) :
    Session.IsLike (σ := σ) R (conclude result) (conclude second) :=
  fun _ => ⟨h, rfl⟩

theorem Session.IsLike.answered (call : Call) {answer second : σ → Except Fault α × σ}
    (h : ∀ state, IsLikeStep R (answer state) (second state)) :
    Session.IsLike R (answered call answer) (answered call second) := by
  intro activity
  obtain ⟨hresult, hbehind⟩ := h activity.server
  exact ⟨hresult, congrArg (Activity.mk · (activity.calls ++ [call]) activity.records) hbehind⟩

theorem Server.IsLike.call (h : server.IsLike other) (call : Call) :
    Session.IsLike Eq (Session.call server call) (Session.call other call) :=
  .answered call (h.perform call)

/-- A connection is given back in the same way. -/
theorem Server.IsLike.handBack (h : server.IsLike other) :
    Session.IsLike Eq (handBack server) (Database.handBack other) := by
  have hgive (discard : Bool) := h.call (.giveBack discard)
  have hclosed : Session.IsLike Eq (Session.isClosed server) (Session.isClosed other) := by
    rw [show Session.isClosed server = Session.isClosed other from
      funext fun activity => by rw [Session.isClosed, Session.isClosed, h.isClosed_eq]]
    exact .refl _
  refine hclosed.bind fun isClosed _ hsame => ?_
  obtain rfl := hsame
  cases isClosed with
  | true => exact hgive true
  | false =>
      refine (h.call .rollback).outcome.bind fun result second hresult => ?_
      -- Of a fault in the rollback, it counts whether it is one of the driver.
      cases hresult with
      | ok hsame => exact hgive false
      | error hfault =>
          cases hfault with
          | driver error otherError =>
              exact (Session.IsLike.refl (record discardedRecord)).bind fun _ _ _ => hgive true
          | foreign text otherText => exact .conclude (.error (.foreign text otherText))

theorem Server.IsLike.withConnection {body second : Session σ α} (h : server.IsLike other)
    (hbody : Session.IsLike R body second) :
    Session.IsLike R (withConnection server body) (withConnection other second) :=
  (h.call .takeConnection).bind fun _ _ _ => hbody.outcome.bind fun _ _ hresult =>
    h.handBack.bind fun _ _ _ => .conclude hresult

theorem Server.IsLike.withCursor {body second : Session σ α} (h : server.IsLike other)
    (hbody : Session.IsLike R body second) :
    Session.IsLike R (withCursor server body) (withCursor other second) :=
  (h.call .openCursor).bind fun _ _ _ => hbody.outcome.bind fun _ _ hresult =>
    (Session.IsLike.refl (note .closeCursor)).bind fun _ _ _ => .conclude hresult

end Sessions

section Scripts

/-- Two scripts that fail at the same points, each in its own words. -/
structure Script.IsLike (script other : Script) : Prop where
  rows_eq : script.rows = other.rows
  faults : ∀ point, Option.Rel Fault.IsLike (script.faults point) (other.faults point)
  closed_eq : script.closed = other.closed
  closedOnFault_eq : script.closedOnFault = other.closedOnFault

variable {script other : Script}

theorem Script.IsLike.start_eq (h : script.IsLike other) : script.start = other.start := by
  rw [Script.start, Script.start, h.rows_eq, h.closed_eq]

theorem Script.IsLike.answer (h : script.IsLike other) (point : Option CallPoint)
    (answer : Script.State → α × Script.State) (state : Script.State) :
    IsLikeStep Eq (script.answer point answer state) (other.answer point answer state) := by
  have hfaults : Option.Rel Fault.IsLike (point.bind script.faults) (point.bind other.faults) := by
    cases point with
    | none => exact .none
    | some point => exact h.faults point
  have hbehind : script.afterFault state = other.afterFault state := by
    rw [Script.afterFault, Script.afterFault, h.closedOnFault_eq]
  rw [Script.answer, Script.answer]
  generalize point.bind script.faults = fault at hfaults ⊢
  generalize point.bind other.faults = otherFault at hfaults ⊢
  cases hfaults with
  | none => exact ⟨.ok rfl, rfl⟩
  | some hfault => exact ⟨.error hfault, hbehind⟩

/-- **Scripts that fail at the same points make servers that are alike.** -/
theorem Script.IsLike.server (h : script.IsLike other) : script.server.IsLike other.server where
  perform _ state := h.answer _ _ state
  fetchOne state := h.answer (some .fetchOne)
    (fun state => (state.rows.head?, { state with rows := state.rows.tail })) state
  fetchAll state := h.answer (some .fetchAll)
    (fun state => (state.rows, { state with rows := [] })) state
  isClosed_eq := rfl

end Scripts

end Database
end VectorTiles
