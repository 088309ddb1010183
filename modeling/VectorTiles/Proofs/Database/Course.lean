import VectorTiles.Proofs.Database.Event

/-!
# The course of a borrowed cursor

A connection is taken, a cursor is opened on it, the cursor works, it is closed, perhaps something
follows on the connection, and the connection is given back. What comes about of this is decided by
the first call that fails.

**Data.** The work of a cursor is a list of calls. The ending is what follows on the connection when
the work is done.

**Rules.** The calls of the work are made one after the other, up to the first that fails. An opened
cursor is closed and a taken connection is given back in any case; the ending is reached only behind
work without a fault.

**Results.**

* `Follows`: a session that makes the calls of a work.
* `CursorCourse`, `Course`: the events of a cursor and of a connection that is taken for one.
* `Follows.exists_course`, `Follows.exists_course_commit`: every such session takes this course.
-/

namespace VectorTiles
namespace Database

open Session

variable {σ α β : Type}

section Work

/-- A session makes the calls of a work up to the first that fails, and the answer to the last of
them is its result. -/
def Follows (server : Server σ) (body : Session σ α) (rows : α → List Row) (work : List Call) :
    Prop :=
  ∀ state, ∃ result done call rest, work = done ++ call :: rest ∧
    Runs server state body result (done ++ [call]) [] ∧ AllSucceed (server.events state done) ∧
    (server.answer (server.behind state done) call).1 = result.map rows ∧
    (result.isOk = true → rest = [])

variable {server : Server σ} {rows : α → List Row} {work : List Call}

theorem follows_answered {call : Call} {answer : σ → Except Fault α × σ}
    (hanswer : ∀ state, server.answer state call = ((answer state).1.map rows, (answer state).2))
    (hcall : call ≠ .rollback) : Follows server (answered call answer) rows [call] := by
  intro state
  refine ⟨(answer state).1, [], call, [], rfl, .answered rows (hanswer state) hcall, nofun, ?_, ?_⟩
  · exact congrArg Prod.fst (hanswer state)
  · exact fun _ => rfl

theorem follows_call (call : Call) (hcall : call ≠ .rollback)
    (hanswer : ∀ state, server.answer state call =
      ((server.perform call state).1.map fun _ => [], (server.perform call state).2)) :
    Follows server (Session.call server call) (fun _ => []) [call] :=
  follows_answered hanswer hcall

theorem follows_execute (server : Server σ) (sql : String) (params : Option (List Param)) :
    Follows server (Database.execute server sql params) (fun _ => []) [.execute sql params] :=
  follows_call _ nofun fun _ => rfl

theorem follows_fetchOne (server : Server σ) :
    Follows server (fetchOne server) Option.toList [.fetchOne] :=
  follows_answered (fun _ => rfl) nofun

theorem follows_fetchAll (server : Server σ) : Follows server (fetchAll server) id [.fetchAll] := by
  refine follows_answered (fun state => ?_) nofun
  rw [Server.answer]
  rcases server.fetchAll state with ⟨_ | _, behind⟩ <;> rfl

theorem Follows.bind {first : Session σ β} {next : Session σ α} {earlier : β → List Row}
    {more : List Call} (hfirst : Follows server first earlier work)
    (hnext : Follows server next rows more) :
    Follows server (first >>= fun _ => next) rows (work ++ more) := by
  intro state
  obtain ⟨result, done, call, rest, rfl, hruns, hdone, hanswer, hrest⟩ := hfirst state
  cases result with
  | error fault =>
      refine ⟨.error fault, done, call, rest ++ more, ?_, hruns.bind_of_error, hdone, hanswer, nofun⟩
      rw [List.append_assoc, List.cons_append]
  | ok b =>
      obtain rfl := hrest rfl
      obtain ⟨last, later, call', rest', rfl, hruns', hlater, hanswer', hrest'⟩ :=
        hnext (server.behind state (done ++ [call]))
      refine ⟨last, done ++ [call] ++ later, call', rest', ?_, ?_, ?_, ?_, hrest'⟩
      · rw [List.append_assoc (done ++ [call])]
      · rw [List.append_assoc (done ++ [call])]
        exact hruns.bind_of_ok hruns'
      · rw [Server.events_append, Server.events_append]
        refine (hdone.append ?_).append hlater
        simp [AllSucceed, Server.events, hanswer, Except.map]
      · rw [Server.behind_append]
        exact hanswer'

end Work

section Courses

/-- The events of a cursor with a work, and the result of the work. -/
inductive CursorCourse (rows : α → List Row) (work : List Call) : Except Fault α → List Event → Prop
  | unopened (fault : Fault) : CursorCourse rows work (.error fault) [⟨.openCursor, .error fault⟩]
  | opened {result : Except Fault α} {done : List Event} {call : Call} {rest : List Call}
      (hwork : work = done.map Event.call ++ call :: rest) (hdone : AllSucceed done)
      (hrest : result.isOk = true → rest = []) :
      CursorCourse rows work result
        (⟨.openCursor, .ok []⟩ :: (done ++ [⟨call, result.map rows⟩, ⟨.closeCursor, .ok []⟩]))

/-- These events give a connection back. -/
def IsReturn (back : List Event) : Prop :=
  ∀ event ∈ back, event.call = .rollback ∨ ∃ discard, event.call = .giveBack discard

/-- The events of a connection that is taken for a cursor, and the outcome. -/
inductive Course (rows : α → List Row) (work ending : List Call) :
    Except Fault α → List Event → Prop
  | untaken (fault : Fault) :
      Course rows work ending (.error fault) [⟨.takeConnection, .error fault⟩]
  | taken {result outcome : Except Fault α} {inner last back : List Event}
      (hinner : CursorCourse rows work result inner)
      (hlast : last.map Event.call = if result.isOk then ending else [])
      (hback : IsReturn back) (houtcome : ∀ a, outcome = .ok a → result = .ok a) :
      Course rows work ending outcome (⟨.takeConnection, .ok []⟩ :: (inner ++ (last ++ back)))

variable {server : Server σ} {state : σ} {body inner : Session σ α} {rows : α → List Row}
  {work ending : List Call} {events : List Event}

/-- The calls of a course, whatever becomes of it. -/
theorem Course.mem_calls {outcome : Except Fault α} (h : Course rows work ending outcome events)
    {event : Event} (hevent : event ∈ events) :
    event.call ∈ .takeConnection :: .openCursor :: (work ++ ending) ∨
      event = ⟨.closeCursor, .ok []⟩ ∨ event.call = .rollback ∨
        ∃ discard, event.call = .giveBack discard := by
  cases h with
  | untaken fault =>
      obtain rfl := List.mem_singleton.mp hevent
      exact .inl List.mem_cons_self
  | @taken result _ inner last back hinner hlast hback houtcome =>
      have hending : ∀ event ∈ last, event.call ∈ ending := by
        intro event hevent
        have hmem : event.call ∈ last.map Event.call := List.mem_map_of_mem hevent
        rw [hlast] at hmem
        split_ifs at hmem
        · exact hmem
        · cases hmem
      rw [List.mem_cons, List.mem_append, List.mem_append] at hevent
      rcases hevent with rfl | hinside | hbehind | hreturn
      · exact .inl List.mem_cons_self
      · cases hinner with
        | unopened fault =>
            obtain rfl := List.mem_singleton.mp hinside
            exact .inl (List.mem_cons_of_mem _ List.mem_cons_self)
        | @opened _ done call rest hwork hdone hrest =>
            rw [List.mem_cons, List.mem_append, List.mem_pair] at hinside
            rcases hinside with rfl | hmade | rfl | rfl
            · exact .inl (List.mem_cons_of_mem _ List.mem_cons_self)
            · have hmem : event.call ∈ done.map Event.call := List.mem_map_of_mem hmade
              exact .inl (by simp [hwork, hmem])
            · exact .inl (by simp [hwork])
            · exact .inr (.inl rfl)
      · have hmem := hending event hbehind
        exact .inl (by simp [hmem])
      · exact .inr (.inr (hback event hreturn))

/-- The last call of the work answers with the result. -/
theorem Course.exists_front_of_ok {before : List Call} {call : Call} {a : α}
    (h : Course rows (before ++ [call]) ending (.ok a) events) :
    ∃ front back, events = front ++ ⟨call, .ok (rows a)⟩ :: back ∧
      front.map Event.call = .takeConnection :: .openCursor :: before := by
  cases h with
  | @taken result _ inner last back hinner hlast hback hresult =>
      obtain rfl := hresult a rfl
      cases hinner with
      | @opened _ done final rest hwork hdone hrest =>
          obtain rfl := hrest rfl
          obtain ⟨rfl, hcall⟩ := List.append_inj' hwork rfl
          obtain rfl := (List.cons.inj hcall).1
          refine ⟨⟨.takeConnection, .ok []⟩ :: ⟨.openCursor, .ok []⟩ :: done,
            ⟨.closeCursor, .ok []⟩ :: (last ++ back), ?_, rfl⟩
          simp [Except.map]

theorem isReturn_returnCalls (server : Server σ) (state behind : σ) :
    IsReturn (server.events behind (returnCalls server state)) := by
  have hreturn : ∀ call ∈ returnCalls server state,
      call = .rollback ∨ ∃ discard, call = .giveBack discard := by
    rw [returnCalls]
    split_ifs
    · simp
    · split <;> simp
  intro event hevent
  refine hreturn event.call ?_
  rw [← server.map_call_events behind (returnCalls server state)]
  exact List.mem_map_of_mem hevent

/-- The work of a cursor is done on the cursor, which is closed behind it. -/
theorem Follows.exists_cursorCourse (h : Follows server body rows work) (state : σ) :
    ∃ result calls, Runs server state (withCursor server body) result calls [] ∧
      CursorCourse rows work result (server.events state calls) := by
  cases hopen : (server.perform .openCursor state).1 with
  | error fault =>
      refine ⟨_, _, runs_withCursor_of_error hopen, ?_⟩
      simp only [Server.events, Server.answer, hopen]
      exact .unopened fault
  | ok =>
      obtain ⟨result, done, call, rest, rfl, hruns, hdone, hanswer, hrest⟩ :=
        h (server.behind state [.openCursor])
      refine ⟨_, _, .withCursor hopen hruns, ?_⟩
      have hevents : server.events state (.openCursor :: (done ++ [call] ++ [.closeCursor])) =
          ⟨.openCursor, .ok []⟩ :: (server.events (server.behind state [.openCursor]) done ++
            [⟨call, result.map rows⟩, ⟨.closeCursor, .ok []⟩]) := by
        have hanswered : (server.answer state .openCursor).1 = .ok [] := by
          simp only [Server.answer, hopen, Except.map]
        rw [Server.events, hanswered, List.append_assoc, Server.events_append, ← hanswer]
        rfl
      rw [hevents]
      refine .opened ?_ hdone hrest
      rw [Server.map_call_events]

variable {result last : Except Fault α} {calls more : List Call} {records : List Log.Record}

/-- The connection for a cursor is taken before it, and given back behind what follows the cursor. -/
theorem exists_course_of_runs
    (hinner : Runs server (server.behind state [.takeConnection]) inner last (calls ++ more) records)
    (hcursor : CursorCourse rows work result
      (server.events (server.behind state [.takeConnection]) calls))
    (hmore : more = if result.isOk then ending else [])
    (hlast : ∀ a, last = .ok a → result = .ok a) :
    ∃ outcome calls noted, Runs server state (withConnection server inner) outcome calls noted ∧
      Course rows work ending outcome (server.events state calls) := by
  cases htake : (server.perform .takeConnection state).1 with
  | error fault =>
      refine ⟨_, _, _, runs_withConnection_of_error htake, ?_⟩
      simp only [Server.events, Server.answer, htake]
      exact .untaken fault
  | ok =>
      obtain ⟨returned, noted, hruns⟩ := Runs.withConnection htake hinner
      refine ⟨_, _, _, hruns, ?_⟩
      have hanswered : (server.answer state .takeConnection).1 = .ok [] := by
        simp only [Server.answer, htake, Except.map]
      rw [Server.events, hanswered, Server.events_append, Server.events_append, List.append_assoc]
      refine .taken hcursor ?_ (isReturn_returnCalls server _ _) fun a houtcome => hlast a ?_
      · rw [Server.map_call_events]
        exact hmore
      · cases returned with
        | error fault => cases houtcome
        | ok => exact houtcome

/-- A cursor with nothing behind it. -/
theorem Follows.exists_course (h : Follows server body rows work) (state : σ) :
    ∃ outcome calls noted,
      Runs server state (withConnection server (withCursor server body)) outcome calls noted ∧
        Course rows work [] outcome (server.events state calls) := by
  obtain ⟨result, calls, hruns, hcursor⟩ :=
    h.exists_cursorCourse (server.behind state [.takeConnection])
  rw [← List.append_nil calls] at hruns
  refine exists_course_of_runs hruns hcursor ?_ fun a hresult => hresult
  rw [ite_self]

/-- A cursor with a commit behind work that was done. -/
theorem Follows.exists_course_commit (h : Follows server body rows work) (state : σ) :
    ∃ outcome calls noted,
      Runs server state
          (withConnection server do
            let result ← withCursor server body
            call server .commit
            return result)
          outcome calls noted ∧
        Course rows work [.commit] outcome (server.events state calls) := by
  obtain ⟨result, calls, hruns, hcursor⟩ :=
    h.exists_cursorCourse (server.behind state [.takeConnection])
  cases result with
  | error fault =>
      have hinner : Runs server _
          (withCursor server body >>= fun a => call server .commit >>= fun _ => pure a) _ _ _ :=
        hruns.bind_of_error
      rw [← List.append_nil calls] at hinner
      exact exists_course_of_runs hinner hcursor rfl nofun
  | ok a =>
      have hcommit := runs_call server
        (server.behind (server.behind state [.takeConnection]) calls) .commit nofun rfl
      cases hanswer : (server.perform .commit
          (server.behind (server.behind state [.takeConnection]) calls)).1 with
      | error fault =>
          rw [hanswer] at hcommit
          exact exists_course_of_runs (hruns.bind_of_ok hcommit.bind_of_error) hcursor rfl nofun
      | ok =>
          rw [hanswer] at hcommit
          exact exists_course_of_runs (hruns.bind_of_ok (hcommit.bind_of_ok (.pure a))) hcursor rfl
            fun _ => id

end Courses

end Database
end VectorTiles
