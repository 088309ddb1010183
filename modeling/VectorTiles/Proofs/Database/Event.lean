import VectorTiles.Proofs.Database.Borrowing

/-!
# Events

What a session does is told by its calls and by what they were answered.

**Data.** An event is a call with its answer: the rows that it returns, if there are any, or a
fault. A server answers the same calls from the same state alike, so the events of a session can be
read off its calls.

**Rules.** A session is determined by the state in which it begins: calls and records from before do
not matter. The fault that it ends with is the last one among its events, but a fault of the driver
in a rollback does not count. All that a session records is that a connection was discarded.

**Results.**

* `Server.events`: the events of calls.
* `Runs`: how a session runs from a state, with one lemma for each way of putting sessions together.
* `exists_runs_handBack`, `Runs.withConnection`: giving a connection back, and borrowing one.
-/

namespace VectorTiles
namespace Database

open Session

variable {σ α β : Type}

section Events

/-- A call with its answer. -/
structure Event where
  call : Call
  answer : Except Fault (List Row)

/-- The answer to a call, and the state behind it. -/
def Server.answer (server : Server σ) (state : σ) : Call → Except Fault (List Row) × σ
  | .fetchOne => ((server.fetchOne state).1.map Option.toList, (server.fetchOne state).2)
  | .fetchAll => server.fetchAll state
  | .closeCursor => (.ok [], state)
  | call => ((server.perform call state).1.map fun _ => [], (server.perform call state).2)

/-- The state behind calls. -/
def Server.behind (server : Server σ) (state : σ) (calls : List Call) : σ :=
  calls.foldl (fun state call => (server.answer state call).2) state

/-- The events of calls. -/
def Server.events (server : Server σ) : σ → List Call → List Event
  | _, [] => []
  | state, call :: calls =>
    ⟨call, (server.answer state call).1⟩ :: server.events (server.answer state call).2 calls

/-- The fault of an event, unless the driver fails to roll back. -/
def Event.fault? : Event → Option Fault
  | ⟨.rollback, .error (.driver _)⟩ => none
  | ⟨_, answer⟩ => faultOf? answer

/-- The last fault of events. -/
def lastFault? : List Event → Option Fault
  | [] => none
  | event :: events => (lastFault? events).or event.fault?

/-- A call is made, and never fails. -/
def Succeeds (events : List Event) (call : Call) : Prop :=
  call ∈ events.map Event.call ∧
    ∀ event ∈ events, event.call = call → ∃ rows, event.answer = .ok rows

def Fails (events : List Event) (call : Call) : Prop :=
  ∃ fault, ⟨call, .error fault⟩ ∈ events

/-- Every call returned without a fault. -/
def AllSucceed (events : List Event) : Prop :=
  ∀ event ∈ events, ∃ rows, event.answer = .ok rows

variable {server : Server σ} {state : σ} {events later : List Event}

theorem Server.behind_append (calls more : List Call) :
    server.behind state (calls ++ more) = server.behind (server.behind state calls) more :=
  List.foldl_append

theorem Server.events_append (calls more : List Call) : server.events state (calls ++ more) =
    server.events state calls ++ server.events (server.behind state calls) more := by
  induction calls generalizing state with
  | nil => rfl
  | cons call calls ih => exact congrArg (_ :: ·) ih

theorem Server.map_call_events (server : Server σ) (state : σ) (calls : List Call) :
    (server.events state calls).map Event.call = calls := by
  induction calls generalizing state with
  | nil => rfl
  | cons call calls ih => exact congrArg (_ :: ·) (ih _)

theorem Event.fault?_of_ne {event : Event} (h : event.call ≠ .rollback) :
    event.fault? = faultOf? event.answer := by
  rw [Event.fault?.eq_def]
  split
  · exact absurd rfl h
  · rfl

theorem Event.fault?_of_ok {event : Event} {rows : List Row} (h : event.answer = .ok rows) :
    event.fault? = none := by
  rw [Event.fault?.eq_def]
  split
  · rfl
  · exact congrArg faultOf? h

theorem Event.answer_of_fault? {event : Event} {fault : Fault} (h : event.fault? = some fault) :
    event.answer = .error fault := by
  rw [Event.fault?.eq_def] at h
  split at h
  · cases h
  · rename_i answer _
    cases answer with
    | error found => exact congrArg Except.error (Option.some.inj h)
    | ok rows => cases h

/-- Of the faults of a rollback, those of the driver do not count. -/
theorem Event.exists_foreign_of_rollback {event : Event} {fault : Fault}
    (h : event.fault? = some fault) (hcall : event.call = .rollback) :
    ∃ text, fault = .foreign text := by
  obtain ⟨_, answer⟩ := event
  obtain rfl := hcall
  rcases answer with (error | text) | rows
  · cases h
  · exact ⟨text, (Option.some.inj h).symm⟩
  · cases h

theorem lastFault?_singleton (event : Event) : lastFault? [event] = event.fault? :=
  Option.none_or

theorem lastFault?_append :
    lastFault? (events ++ later) = (lastFault? later).or (lastFault? events) := by
  induction events with
  | nil => exact (Option.or_none).symm
  | cons event events ih => rw [List.cons_append, lastFault?, lastFault?, ih, Option.or_assoc]

theorem lastFault?_eq_none_iff :
    lastFault? events = none ↔ ∀ event ∈ events, event.fault? = none := by
  induction events with
  | nil => simp [lastFault?]
  | cons event events ih =>
      rw [lastFault?, Option.or_eq_none_iff, ih, List.forall_mem_cons, and_comm]

theorem exists_mem_of_lastFault? {fault : Fault} (h : lastFault? events = some fault) :
    ∃ event ∈ events, event.fault? = some fault := by
  induction events with
  | nil => cases h
  | cons event events ih =>
      rcases Option.or_eq_some_iff.mp h with hlater | ⟨-, hfirst⟩
      · obtain ⟨found, hfound, hfault⟩ := ih hlater
        exact ⟨found, List.mem_cons_of_mem _ hfound, hfault⟩
      · exact ⟨event, List.mem_cons_self, hfirst⟩

theorem Fails.not_succeeds {call : Call} (h : Fails events call) : ¬ Succeeds events call := by
  rintro ⟨-, hall⟩
  obtain ⟨fault, hfault⟩ := h
  obtain ⟨rows, hrows⟩ := hall _ hfault rfl
  cases hrows

/-- A call that fails leaves its fault behind, unless it is a rollback. -/
theorem Fails.lastFault?_ne_none {call : Call} (h : Fails events call) (hcall : call ≠ .rollback) :
    lastFault? events ≠ none := by
  intro hnone
  obtain ⟨fault, hfault⟩ := h
  have hevent := lastFault?_eq_none_iff.mp hnone _ hfault
  rw [Event.fault?_of_ne hcall] at hevent
  cases hevent

theorem AllSucceed.lastFault?_eq_none (h : AllSucceed events) : lastFault? events = none := by
  refine lastFault?_eq_none_iff.mpr fun event hevent => ?_
  obtain ⟨rows, hrows⟩ := h event hevent
  exact Event.fault?_of_ok hrows

theorem AllSucceed.append (h : AllSucceed events) (hlater : AllSucceed later) :
    AllSucceed (events ++ later) := by
  intro event hevent
  exact (List.mem_append.mp hevent).elim (h event) (hlater event)

end Events

section Runs

/-- A session runs from a state: it ends with a result, makes calls, and adds records. -/
structure Runs (server : Server σ) (state : σ) (session : Session σ α) (result : Except Fault α)
    (calls : List Call) (records : List Log.Record) : Prop where
  apply_eq : ∀ earlier noted, session ⟨state, earlier, noted⟩ =
    (result, ⟨server.behind state calls, earlier ++ calls, noted ++ records⟩)
  faultOf?_eq : faultOf? result = lastFault? (server.events state calls)
  eq_discardedRecord : ∀ record ∈ records, record = discardedRecord

namespace Runs

variable {server : Server σ} {state : σ} {session : Session σ α} {result : Except Fault α}
  {calls more : List Call} {records noted : List Log.Record}

theorem pure (a : α) : Runs server state (pure a : Session σ α) (.ok a) [] [] where
  apply_eq earlier noted := by
    rw [List.append_nil, List.append_nil]
    rfl
  faultOf?_eq := rfl
  eq_discardedRecord := by simp

/-- A single call, whose answer is the result up to the form of its rows. -/
theorem answered {call : Call} {answer : σ → Except Fault α × σ} (rows : α → List Row)
    (hanswer : server.answer state call = ((answer state).1.map rows, (answer state).2))
    (hcall : call ≠ .rollback) :
    Runs server state (answered call answer) (answer state).1 [call] [] where
  apply_eq earlier noted := by
    rw [List.append_nil, Server.behind, List.foldl_cons, List.foldl_nil, hanswer]
    rfl
  faultOf?_eq := by
    rw [Server.events, Server.events, lastFault?_singleton, Event.fault?_of_ne hcall, hanswer]
    cases (answer state).1 <;> rfl
  eq_discardedRecord := by simp

theorem bind_of_error {next : α → Session σ β} {fault : Fault}
    (h : Runs server state session (.error fault) calls records) :
    Runs server state (session >>= next) (.error fault) calls records where
  apply_eq earlier noted := by rw [Session.bind_apply, h.apply_eq]
  faultOf?_eq := h.faultOf?_eq
  eq_discardedRecord := h.eq_discardedRecord

theorem bind_of_ok {next : α → Session σ β} {a : α} {last : Except Fault β}
    (h : Runs server state session (.ok a) calls records)
    (hnext : Runs server (server.behind state calls) (next a) last more noted) :
    Runs server state (session >>= next) last (calls ++ more) (records ++ noted) where
  apply_eq earlier before := by
    rw [Session.bind_apply, h.apply_eq]
    simp only [hnext.apply_eq, Server.behind_append, List.append_assoc]
  faultOf?_eq := by
    have hnone : none = lastFault? (server.events state calls) := h.faultOf?_eq
    rw [Server.events_append, lastFault?_append, ← hnone, Option.or_none, hnext.faultOf?_eq]
  eq_discardedRecord := List.forall_mem_append.mpr ⟨h.eq_discardedRecord, hnext.eq_discardedRecord⟩

/-- What runs on every way out. Its fault takes the place of the result. -/
theorem outcome_bind {after : Session σ Unit} {last : Except Fault Unit}
    (h : Runs server state session result calls records)
    (hafter : Runs server (server.behind state calls) after last more noted) :
    Runs server state (outcome session >>= fun result => after >>= fun _ => conclude result)
      (replacedBy result (faultOf? last)) (calls ++ more) (records ++ noted) where
  apply_eq earlier before := by
    rw [Session.outcome_bind_apply, Session.bind_apply, h.apply_eq, hafter.apply_eq,
      Server.behind_append]
    cases last <;> simp [replacedBy, faultOf?, conclude]
  faultOf?_eq := by
    rw [Server.events_append, lastFault?_append, ← h.faultOf?_eq, ← hafter.faultOf?_eq]
    cases last <;> rfl
  eq_discardedRecord := List.forall_mem_append.mpr ⟨h.eq_discardedRecord, hafter.eq_discardedRecord⟩

end Runs

end Runs

section Borrowing

variable {server : Server σ} {state : σ} {body : Session σ α} {result : Except Fault α}
  {calls : List Call} {records : List Log.Record} {fault : Fault}

/-- A single call without result. -/
theorem runs_call (server : Server σ) (state : σ) (c : Call) (hcall : c ≠ .rollback)
    (hanswer : server.answer state c =
      ((server.perform c state).1.map fun _ => [], (server.perform c state).2)) :
    Runs server state (call server c) (server.perform c state).1 [c] [] :=
  .answered (fun _ => []) hanswer hcall

/-- A cursor that cannot be opened is not closed. -/
theorem runs_withCursor_of_error (h : (server.perform .openCursor state).1 = .error fault) :
    Runs server state (withCursor server body) (.error fault) [.openCursor] [] := by
  have hopen := runs_call server state .openCursor nofun rfl
  rw [h] at hopen
  exact hopen.bind_of_error

theorem Runs.withCursor (h : (server.perform .openCursor state).1 = .ok ())
    (hbody : Runs server (server.behind state [.openCursor]) body result calls records) :
    Runs server state (withCursor server body) result
      (.openCursor :: (calls ++ [.closeCursor])) records := by
  have hopen := runs_call server state .openCursor nofun rfl
  rw [h] at hopen
  have hclose : Runs server (server.behind (server.behind state [.openCursor]) calls)
      (note .closeCursor) (.ok ()) [.closeCursor] [] :=
    .answered (fun _ => []) rfl nofun
  have hrest : Runs server state (Database.withCursor server body) _ _ _ :=
    hopen.bind_of_ok (hbody.outcome_bind hclose)
  rw [List.nil_append, List.append_nil] at hrest
  exact hrest

theorem events_rollback {answer : Except Fault Unit} {behind : σ}
    (h : server.perform .rollback state = (answer, behind)) (calls : List Call) :
    server.events state (.rollback :: calls) =
      ⟨.rollback, answer.map fun _ => []⟩ :: server.events behind calls := by
  simp only [Server.events, Server.answer, h]

/-- Giving a connection back makes the calls that its state demands. -/
theorem exists_runs_handBack (server : Server σ) (state : σ) :
    ∃ last noted, Runs server state (handBack server) last (returnCalls server state) noted := by
  have hgive (state : σ) (discard : Bool) : Runs server state (call server (.giveBack discard))
      (server.perform (.giveBack discard) state).1 [.giveBack discard] [] :=
    runs_call server state _ (by simp) rfl
  rw [returnCalls]
  -- A closed connection is given back at once, an open one as its rollback ends.
  split_ifs with hclosed
  · refine ⟨_, [], fun earlier noted => ?_, (hgive state true).faultOf?_eq, by simp⟩
    exact (handBack_of_isClosed _ hclosed).trans ((hgive state true).apply_eq earlier noted)
  · have hopen : server.isClosed state = false := Bool.eq_false_iff.mpr hclosed
    rcases hrollback : server.perform .rollback state with ⟨(error | text) | done, behind⟩
    · refine ⟨(server.perform (.giveBack true) behind).1, [discardedRecord], fun earlier noted => ?_,
        ?_, by simp⟩
      · rw [handBack_of_isOpen _ hopen, call, answered]
        simp [hrollback, call, answered, Server.behind, Server.answer]
      · rw [events_rollback hrollback, lastFault?, ← (hgive behind true).faultOf?_eq]
        exact Option.or_none.symm
    · refine ⟨.error (.foreign text), [], fun earlier noted => ?_, ?_, by simp⟩
      · rw [handBack_of_isOpen _ hopen, call, answered]
        simp [hrollback, Server.behind, Server.answer]
      · rw [events_rollback hrollback]
        rfl
    · refine ⟨(server.perform (.giveBack false) behind).1, [], fun earlier noted => ?_, ?_, by simp⟩
      · rw [handBack_of_isOpen _ hopen, call, answered]
        simp [hrollback, call, answered, Server.behind, Server.answer]
      · rw [events_rollback hrollback, lastFault?, ← (hgive behind false).faultOf?_eq]
        exact Option.or_none.symm

theorem runs_withConnection_of_error (h : (server.perform .takeConnection state).1 = .error fault) :
    Runs server state (withConnection server body) (.error fault) [.takeConnection] [] := by
  have htake := runs_call server state .takeConnection nofun rfl
  rw [h] at htake
  exact htake.bind_of_error

/-- A connection that was taken is given back as the body leaves it. -/
theorem Runs.withConnection (h : (server.perform .takeConnection state).1 = .ok ())
    (hbody : Runs server (server.behind state [.takeConnection]) body result calls records) :
    ∃ (last : Except Fault Unit) (noted : List Log.Record),
      Runs server state (withConnection server body) (replacedBy result (faultOf? last))
        (.takeConnection ::
          (calls ++ returnCalls server (server.behind state (.takeConnection :: calls)))) noted := by
  have htake := runs_call server state .takeConnection nofun rfl
  rw [h] at htake
  obtain ⟨last, noted, hback⟩ :=
    exists_runs_handBack server (server.behind (server.behind state [.takeConnection]) calls)
  refine ⟨last, [] ++ (records ++ noted), ?_⟩
  exact htake.bind_of_ok (hbody.outcome_bind hback)

end Borrowing

end Database
end VectorTiles
