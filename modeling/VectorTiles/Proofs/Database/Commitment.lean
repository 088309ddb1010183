import VectorTiles.Proofs.Database.ConnectionUse

/-!
# Committed bodies

A request to the header table runs a body on a cursor and commits. Once the connection and the cursor
are there, the body alone decides whether anything is committed.

**Results.**

* `withCursor_of_ok`: the body runs between opening and closing the cursor.
* `exit_committing_of_ok`, `exit_committing_of_error`: a commit follows a body that succeeds, and only
  such a body.
-/

namespace VectorTiles
namespace Database

open Session

variable {σ α : Type} {server : Server σ} {state : σ}

/-- The activity behind the taking of a connection. -/
def taken (server : Server σ) (state : σ) : Activity σ :=
  ⟨(server.perform .takeConnection state).2, [.takeConnection], []⟩

/-- The activity behind the opening of a cursor. -/
def opened (server : Server σ) (activity : Activity σ) : Activity σ :=
  ⟨(server.perform .openCursor activity.server).2, activity.calls ++ [.openCursor],
    activity.records⟩

/-- The activity behind the closing of a cursor. -/
def closed (activity : Activity σ) : Activity σ :=
  { activity with calls := activity.calls ++ [.closeCursor] }

/-- A connection and a cursor are there for a body. -/
structure Reaches (server : Server σ) (state : σ) : Prop where
  takeConnection_eq : (server.perform .takeConnection state).1 = .ok ()
  openCursor_eq : (server.perform .openCursor (taken server state).server).1 = .ok ()

theorem call_apply (call : Call) (activity : Activity σ) : Session.call server call activity =
    ((server.perform call activity.server).1,
      ⟨(server.perform call activity.server).2, activity.calls ++ [call], activity.records⟩) :=
  rfl

theorem call_of_answer {call : Call} (activity : Activity σ) {result : Except Fault Unit} {behind : σ}
    (h : server.perform call activity.server = (result, behind)) :
    Session.call server call activity =
      (result, ⟨behind, activity.calls ++ [call], activity.records⟩) := by
  rw [call_apply, h]

theorem leavesPool_call (server : Server σ) (call : Call) (h : call.isOfPool = false) :
    LeavesPool (Session.call server call) :=
  .answered h _

theorem withCursor_of_ok {activity : Activity σ} (body : Session σ α)
    (h : (server.perform .openCursor activity.server).1 = .ok ()) :
    withCursor server body activity =
      ((body (opened server activity)).1, closed (body (opened server activity)).2) := by
  rw [withCursor, Session.bind_apply, call, answered]
  simp only [h]
  rfl

section Committing

variable {body : Session σ α} (hleaves : LeavesPool body) {behind : Activity σ}

theorem exit_committing_eq
    (hopen : (server.perform .openCursor (taken server state).server).1 = .ok ()) :
    (committing server body hleaves).exit server state =
      match body (opened server (taken server state)) with
      | (.ok result, behind) =>
        (call server .commit >>= fun _ => pure result) (closed behind)
      | (.error fault, behind) => (.error fault, closed behind) := by
  have hbind : (committing server body hleaves).exit server state =
      (withCursor server body >>= fun result => call server .commit >>= fun _ => pure result)
        (taken server state) := rfl
  rw [hbind, Session.bind_apply, withCursor_of_ok body hopen]
  rcases body (opened server (taken server state)) with ⟨_ | _, behind⟩ <;> rfl

/-- What a body has done is committed if it succeeds. -/
theorem exit_committing_of_ok {result : α}
    (hopen : (server.perform .openCursor (taken server state).server).1 = .ok ())
    (h : body (opened server (taken server state)) = (.ok result, behind)) :
    (committing server body hleaves).exit server state =
      ((server.perform .commit behind.server).1.map fun _ => result,
        ⟨(server.perform .commit behind.server).2, behind.calls ++ [.closeCursor, .commit],
          behind.records⟩) := by
  have hcalls : behind.calls ++ [.closeCursor] ++ [.commit] =
      behind.calls ++ [.closeCursor, .commit] := by
    rw [List.append_assoc]
    rfl
  rw [exit_committing_eq hleaves hopen, h]
  simp only [Session.bind_apply, call_apply, closed, hcalls]
  cases (server.perform .commit behind.server).1 <;> rfl

/-- Nothing is committed behind a body that fails. -/
theorem exit_committing_of_error {fault : Fault}
    (hopen : (server.perform .openCursor (taken server state).server).1 = .ok ())
    (h : body (opened server (taken server state)) = (.error fault, behind)) :
    (committing server body hleaves).exit server state = (.error fault, closed behind) := by
  rw [exit_committing_eq hleaves hopen, h]

end Committing

end Database
end VectorTiles
