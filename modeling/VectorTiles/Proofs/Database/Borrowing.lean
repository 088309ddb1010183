import VectorTiles.Database.Session
import Mathlib.Data.List.Basic
import Mathlib.Tactic.Common

/-!
# Borrowed connections

Between taking a connection and giving it back a body runs. How the connection is given back depends
on the state in which the body leaves it, and on nothing else.

**Data.** A borrowing is a body together with what was recorded before. The body works on the
connection and leaves the pool alone.

**Rules.** The calls that give a connection back are those of its last state: none of the body's
faults changes them, and they change the outcome of the body only when one of them fails.

**Results.**

* `returnCalls`, `returnFault?`: how a connection is given back.
* `Borrowing.calls_run`, `Borrowing.fst_run`: the calls and the outcome of a borrowing.
-/

namespace VectorTiles
namespace Database

open Session

variable {σ α β : Type}

section Sessions

variable {activity : Activity σ}

/-- The second part of a session runs if the first one succeeds. -/
theorem Session.bind_apply (first : Session σ α) (next : α → Session σ β) :
    (first >>= next) activity =
      match first activity with
      | (.ok a, behind) => next a behind
      | (.error fault, behind) => (.error fault, behind) := by
  simp only [bind, ExceptT.bind, ExceptT.mk, ExceptT.bindCont, StateT.bind]
  cases first activity with
  | mk result behind => cases result <;> rfl

/-- What follows the outcome of a session does not depend on whether it failed. -/
theorem Session.outcome_bind_apply (session : Session σ α) (next : Except Fault α → Session σ β) :
    (outcome session >>= next) activity = next (session activity).1 (session activity).2 :=
  Session.bind_apply (outcome session) next

/-- A call to the pool, not to the connection. -/
def Call.isOfPool : Call → Bool
  | takeConnection => true
  | giveBack _ => true
  | _ => false

/-- A session that works on a connection. It adds to the calls, but makes none to the pool. -/
def LeavesPool (session : Session σ α) : Prop :=
  ∀ activity, ∃ added, (session activity).2.calls = activity.calls ++ added ∧
    ∀ call ∈ added, call.isOfPool = false

theorem LeavesPool.of_calls_eq {session : Session σ α}
    (h : ∀ activity, (session activity).2.calls = activity.calls) : LeavesPool session :=
  fun activity => ⟨[], by simp [h activity], by simp⟩

theorem LeavesPool.pure (a : α) : LeavesPool (pure a : Session σ α) :=
  LeavesPool.of_calls_eq fun _ => rfl

theorem LeavesPool.conclude (result : Except Fault α) :
    LeavesPool (conclude result : Session σ α) :=
  LeavesPool.of_calls_eq fun _ => rfl

theorem LeavesPool.answered {call : Call} (h : call.isOfPool = false)
    (answer : σ → Except Fault α × σ) : LeavesPool (answered call answer) :=
  fun _ => ⟨[call], rfl, by simp [h]⟩

theorem LeavesPool.outcome {session : Session σ α} (h : LeavesPool session) :
    LeavesPool (outcome session) :=
  fun activity => h activity

theorem LeavesPool.bind {first : Session σ α} {next : α → Session σ β} (hfirst : LeavesPool first)
    (hnext : ∀ a, LeavesPool (next a)) : LeavesPool (first >>= next) := by
  intro activity
  obtain ⟨added, hadded, hpool⟩ := hfirst activity
  rw [Session.bind_apply]
  cases hresult : first activity with
  | mk result behind =>
      rw [hresult] at hadded
      cases result with
      | error fault => exact ⟨added, hadded, hpool⟩
      | ok a =>
          obtain ⟨more, hmore, hpool'⟩ := hnext a behind
          refine ⟨added ++ more, ?_, ?_⟩
          · rw [← List.append_assoc, ← hadded]
            exact hmore
          · intro call hcall
            exact (List.mem_append.mp hcall).elim (hpool call) (hpool' call)

theorem LeavesPool.withCursor {body : Session σ α} (server : Server σ) (h : LeavesPool body) :
    LeavesPool (withCursor server body) :=
  (LeavesPool.answered rfl _).bind fun _ => h.outcome.bind fun result =>
    (LeavesPool.answered rfl _).bind fun _ => LeavesPool.conclude result

end Sessions

section Returning

/-- The fault of an outcome. -/
def faultOf? : Except Fault α → Option Fault
  | .ok _ => none
  | .error fault => some fault

/-- An outcome in which a later fault takes the place of an earlier result. -/
def replacedBy (result : Except Fault α) : Option Fault → Except Fault α
  | none => result
  | some fault => .error fault

variable (server : Server σ) (state : σ)

theorem replacedBy_faultOf? (result : Except Fault Unit) :
    replacedBy (.ok ()) (faultOf? result) = result := by
  cases result <;> rfl

/-- The calls that give back a connection in this state. -/
def returnCalls : List Call :=
  if server.isClosed state then [.giveBack true]
  else
    match (server.perform .rollback state).1 with
    | .ok () => [.rollback, .giveBack false]
    | .error (.driver _) => [.rollback, .giveBack true]
    | .error (.foreign _) => [.rollback]

/-- What goes wrong when a connection in this state is given back. An error of the driver in the
rollback is not counted. -/
def returnFault? : Option Fault :=
  if server.isClosed state then faultOf? (server.perform (.giveBack true) state).1
  else
    match server.perform .rollback state with
    | (.ok (), behind) => faultOf? (server.perform (.giveBack false) behind).1
    | (.error (.driver _), behind) => faultOf? (server.perform (.giveBack true) behind).1
    | (.error (.foreign text), _) => some (.foreign text)

/-- The connection is lost to the pool: it is open and fails to roll back in a way that the driver
does not know. -/
def IsLost : Prop :=
  server.isClosed state = false ∧
    ∃ text, (server.perform .rollback state).1 = .error (.foreign text)

/-- A connection is given back once, and by the last of these calls. -/
def IsReturnedOnce (calls : List Call) : Prop :=
  ∃ front discard, calls = front ++ [.giveBack discard] ∧ ∀ earlier, .giveBack earlier ∉ front

/-- How these calls give a connection back that a body has left. -/
structure IsCleanReturn (exit : Activity σ) (calls : List Call) : Prop where
  /-- It is used again only if it is open and the rollback just before succeeded. -/
  reused : .giveBack false ∈ calls → server.isClosed exit.server = false ∧
    (server.perform .rollback exit.server).1 = .ok () ∧ [.rollback, .giveBack false] <:+ calls
  /-- It is discarded if and only if it is closed or the driver fails to roll it back. -/
  discarded : .giveBack true ∈ calls ↔ server.isClosed exit.server = true ∨
    server.isClosed exit.server = false ∧
      ∃ error, (server.perform .rollback exit.server).1 = .error (.driver error)
  /-- A closed connection is not rolled back. -/
  untouched : server.isClosed exit.server = true → calls = exit.calls ++ [.giveBack true]

variable {server state} (activity : Activity σ)

theorem returnCalls_of_isLost (h : IsLost server state) :
    returnCalls server state = [.rollback] := by
  obtain ⟨hopen, text, hrollback⟩ := h
  simp [returnCalls, hopen, hrollback]

/-- A connection that is not lost is given back by the last call. -/
theorem returnCalls_of_not_isLost (h : ¬ IsLost server state) :
    ∃ front discard, returnCalls server state = front ++ [.giveBack discard] ∧
      ∀ earlier, .giveBack earlier ∉ front := by
  rw [returnCalls]
  split_ifs with hclosed
  · exact ⟨[], true, rfl, by simp⟩
  · split
    · exact ⟨[.rollback], false, rfl, by simp⟩
    · exact ⟨[.rollback], true, rfl, by simp⟩
    · rename_i text hrollback
      exact absurd ⟨Bool.eq_false_iff.mpr hclosed, text, hrollback⟩ h

theorem giveBack_false_mem_returnCalls_iff : .giveBack false ∈ returnCalls server state ↔
    server.isClosed state = false ∧ (server.perform .rollback state).1 = .ok () := by
  rw [returnCalls]
  split_ifs with hclosed
  · simp [hclosed]
  · split <;> simp_all

theorem giveBack_true_mem_returnCalls_iff : .giveBack true ∈ returnCalls server state ↔
    server.isClosed state = true ∨
      server.isClosed state = false ∧
        ∃ error, (server.perform .rollback state).1 = .error (.driver error) := by
  rw [returnCalls]
  split_ifs with hclosed
  · simp [hclosed]
  · split <;> simp_all

theorem handBack_of_isClosed (h : server.isClosed activity.server = true) :
    handBack server activity = call server (.giveBack true) activity := by
  rw [handBack, Session.bind_apply]
  simp only [Session.isClosed, h]
  rfl

/-- An open connection is rolled back before anything else. -/
theorem handBack_of_isOpen (h : server.isClosed activity.server = false) :
    handBack server activity =
      match call server .rollback activity with
      | (.ok (), behind) => call server (.giveBack false) behind
      | (.error (.driver _), behind) =>
        call server (.giveBack true) { behind with records := behind.records ++ [discardedRecord] }
      | (.error (.foreign text), behind) => (.error (.foreign text), behind) := by
  rw [handBack, Session.bind_apply]
  simp only [Session.isClosed, h, Bool.false_eq_true, if_false, Session.outcome_bind_apply]
  cases hrollback : call server .rollback activity with
  | mk result behind =>
      cases result with
      | ok => rfl
      | error fault => cases fault <;> rfl

theorem handBack_calls : (handBack server activity).2.calls =
    activity.calls ++ returnCalls server activity.server := by
  rw [returnCalls]
  split_ifs with hclosed
  · rw [handBack_of_isClosed activity hclosed]
    rfl
  · rw [handBack_of_isOpen activity (Bool.eq_false_iff.mpr hclosed), call, answered]
    rcases server.perform .rollback activity.server with ⟨(_ | _) | _, behind⟩ <;>
      simp [call, answered]

theorem fst_handBack : (handBack server activity).1 =
    replacedBy (.ok ()) (returnFault? server activity.server) := by
  rw [returnFault?]
  split_ifs with hclosed
  · rw [handBack_of_isClosed activity hclosed]
    exact (replacedBy_faultOf? _).symm
  · rw [handBack_of_isOpen activity (Bool.eq_false_iff.mpr hclosed), call, answered]
    rcases server.perform .rollback activity.server with ⟨(error | text) | _, behind⟩
    · exact (replacedBy_faultOf? _).symm
    · rfl
    · exact (replacedBy_faultOf? _).symm

end Returning

section Borrowing

/-- A body for a borrowed connection, with what was recorded before. -/
structure Borrowing (σ : Type) where
  Result : Type
  body : Session σ Result
  leavesPool : LeavesPool body
  records : List Log.Record

namespace Borrowing

variable (borrowing : Borrowing σ) (server : Server σ) (state : σ)

/-- Takes a connection, runs the body and gives the connection back. -/
def run : Except Fault borrowing.Result × Activity σ :=
  withConnection server borrowing.body ⟨state, [], borrowing.records⟩

/-- The outcome of the body on the connection that was taken, and what happened so far. -/
def exit : Except Fault borrowing.Result × Activity σ :=
  borrowing.body ⟨(server.perform .takeConnection state).2, [.takeConnection], borrowing.records⟩

variable {borrowing server state}

theorem calls_run_of_error {fault : Fault}
    (h : (server.perform .takeConnection state).1 = .error fault) :
    (borrowing.run server state).2.calls = [.takeConnection] := by
  rw [run, withConnection, Session.bind_apply, call, answered]
  simp [h]

/-- Behind the body the connection is given back, and then the outcome of the body counts. -/
theorem run_of_ok (h : (server.perform .takeConnection state).1 = .ok ()) :
    borrowing.run server state =
      (handBack server >>= fun _ => conclude (borrowing.exit server state).1)
        (borrowing.exit server state).2 := by
  rw [run, withConnection, Session.bind_apply, call, answered]
  simp only [h, List.nil_append]
  exact Session.outcome_bind_apply _ _

theorem fst_run_of_ok (h : (server.perform .takeConnection state).1 = .ok ()) :
    (borrowing.run server state).1 = replacedBy (borrowing.exit server state).1
      (returnFault? server (borrowing.exit server state).2.server) := by
  have hback : (handBack server (borrowing.exit server state).2).1 = _ := fst_handBack _
  rw [run_of_ok h, Session.bind_apply]
  cases hhand : handBack server (borrowing.exit server state).2 with
  | mk outcome last =>
      rw [hhand] at hback
      cases hfault : returnFault? server (borrowing.exit server state).2.server with
      | none =>
          obtain rfl : outcome = .ok () := by simpa [hfault, replacedBy] using hback
          rfl
      | some fault =>
          obtain rfl : outcome = .error fault := by simpa [hfault, replacedBy] using hback
          rfl

theorem calls_run_of_ok (h : (server.perform .takeConnection state).1 = .ok ()) :
    (borrowing.run server state).2.calls = (borrowing.exit server state).2.calls ++
      returnCalls server (borrowing.exit server state).2.server := by
  rw [run_of_ok h, Session.bind_apply, ← handBack_calls]
  -- Whether giving back fails makes no difference to the calls: none is left.
  rcases handBack server (borrowing.exit server state).2 with ⟨_ | _, last⟩ <;> rfl

/-- The body gives nothing back. -/
theorem notMem_calls_exit (discard : Bool) :
    .giveBack discard ∉ (borrowing.exit server state).2.calls := by
  intro hmem
  obtain ⟨added, hadded, hpool⟩ := borrowing.leavesPool
    ⟨(server.perform .takeConnection state).2, [.takeConnection], borrowing.records⟩
  rw [exit, hadded] at hmem
  rcases List.mem_append.mp hmem with htake | hcall
  · simp at htake
  · exact absurd (hpool _ hcall) (by simp [Call.isOfPool])

theorem isReturnedOnce_run_iff (h : (server.perform .takeConnection state).1 = .ok ()) :
    IsReturnedOnce (borrowing.run server state).2.calls ↔
      ¬ IsLost server (borrowing.exit server state).2.server := by
  rw [calls_run_of_ok h]
  constructor
  · rintro ⟨front, discard, hcalls, -⟩ hlost
    rw [returnCalls_of_isLost hlost] at hcalls
    simpa using congrArg List.getLast? hcalls
  · intro hlost
    obtain ⟨front, discard, hcalls, hfront⟩ := returnCalls_of_not_isLost hlost
    refine ⟨(borrowing.exit server state).2.calls ++ front, discard, ?_, ?_⟩
    · rw [hcalls, List.append_assoc]
    · intro earlier hmem
      exact (List.mem_append.mp hmem).elim (notMem_calls_exit earlier) (hfront earlier)

theorem giveBack_mem_calls_run_iff (h : (server.perform .takeConnection state).1 = .ok ())
    (discard : Bool) : .giveBack discard ∈ (borrowing.run server state).2.calls ↔
      .giveBack discard ∈ returnCalls server (borrowing.exit server state).2.server := by
  rw [calls_run_of_ok h, List.mem_append, or_iff_right (notMem_calls_exit discard)]

theorem isCleanReturn_run (h : (server.perform .takeConnection state).1 = .ok ()) :
    IsCleanReturn server (borrowing.exit server state).2 (borrowing.run server state).2.calls where
  reused := by
    rw [giveBack_mem_calls_run_iff h, giveBack_false_mem_returnCalls_iff]
    rintro ⟨hopen, hrollback⟩
    refine ⟨hopen, hrollback, ?_⟩
    rw [calls_run_of_ok h, returnCalls, hopen, hrollback]
    exact List.suffix_append _ _
  discarded := by
    rw [giveBack_mem_calls_run_iff h, giveBack_true_mem_returnCalls_iff]
  untouched := by
    intro hclosed
    rw [calls_run_of_ok h, returnCalls, hclosed]
    rfl

end Borrowing

end Borrowing

end Database
end VectorTiles
