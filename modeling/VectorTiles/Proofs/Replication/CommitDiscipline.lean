import VectorTiles.Proofs.Database.ConnectionUse
import VectorTiles.Proofs.Database.CommittedCourse

/-!
# When requests are committed

A request to a header table works on a cursor and commits. What it reports has to agree with what the
server has saved: success only behind a commit, and failure behind one only when the connection could
not be given back.

**Data.** The work of a request is its statement with all of its arguments, and what it fetches. A
header has an argument for each column of the table. The requests that change the table fetch nothing,
so their work is a single call.

**Rules.** A request that names no key and no header, or a header that cannot be encoded, needs no
connection and has no work.

**Results.**

* `Header.arguments`, `Table.work?`: the work of a request.
* `Header.row_eq_arguments`: the row of a header holds its arguments.
* `requestCourse_perform`: a request takes the course of a cursor with this work.
* `isCommittedOnce_perform`: when it is committed, and what it reports.
-/

namespace VectorTiles
namespace Replication

open Database

section Works

/-- What is stored of a header in a column. -/
def Header.argument (header : Header) : String → Param
  | "replication_sequence_number" => .int header.sequenceNumber
  | "replication_timestamp" => header.timestamp.elim .null .timestamp
  | "replication_url" => header.url.elim .null .text
  | "source" => header.source.elim .null .text
  | "writing_program" => header.writingProgram.elim .null .text
  | _ => .null

/-- The arguments of a header, one for each column in turn. -/
def Header.arguments (header : Header) : List Param :=
  Table.columns.map header.argument

theorem Header.row_eq_arguments : Header.row = Header.arguments := by
  have helim {α : Type} (f : α → Param) (value : Option α) :
      (value.map f).getD .null = value.elim .null f := by
    cases value <;> rfl
  funext header
  rw [row, textParam, textParam, textParam, helim, helim, helim, helim]
  rfl

/-- The work of a request. -/
def Table.work? (table : Table) : Operation → Option (List Call)
  | .create => some [.execute table.create none]
  | .drop => some [.execute table.drop none]
  | .truncate => some [.execute table.truncate none]
  | .get key => some [.execute table.selectOne (some [.int key]), .fetchOne]
  | .getMany keys =>
    if keys.isEmpty then none else some [.execute table.selectAny (some [.ints keys]), .fetchAll]
  | .put header => some [.execute table.upsert (some header.arguments)]
  | .putMany headers =>
    if headers.isEmpty then none else some [.executeBatch table.upsert (headers.map Header.arguments)]
  | .delete key => some [.execute table.delete (some [.int key])]
  | .deleteMany keys =>
    if keys.isEmpty then none
    else some [.executeBatch table.delete (keys.map fun key => [Param.int key])]
  | .load headers =>
    if headers.isEmpty then none
    else (loadStream headers).toOption.map fun stream => [.copyFrom table.load stream]
  | .selectAll | .selectLatest => some [.execute table.selectAll none, .fetchAll]

/-- Whether a request is made to change the table. -/
def Operation.isChange : Operation → Bool
  | .get _ | .getMany _ | .selectAll | .selectLatest => false
  | _ => true

end Works

section Courses

/-- The course of a request: the reply is its outcome, or is read from the result. -/
inductive RequestCourse (work : List Call) (isChange : Bool) (events : List Event)
    (reply : Except LogFault Answer) : Prop
  | intro {α : Type} {rows : α → List Row} {answer : α → Except CellFault Answer}
      {outcome : Except Fault α} (hcourse : Course rows work [.commit] outcome events)
      (hfault : faultOf? outcome = lastFault? events)
      (herror : ∀ fault, outcome = .error fault → reply = .error (Table.logFault fault))
      (hok : ∀ result, outcome = .ok result → reply = (answer result).mapError .unreadable)
      (hwork : ∀ call ∈ work, IsOfCursor call)
      (hchange : isChange = true →
        (∃ statement, work = [statement]) ∧ ∀ result, answer result = .ok .done)

variable {σ α : Type} {server : Server σ} {state : σ} {rows : α → List Row} {work : List Call}

theorem requestCourse_answering {body : Session σ α} (h : Follows server body rows work)
    (hwork : ∀ call ∈ work, IsOfCursor call) (answer : α → Except CellFault Answer) {isChange : Bool}
    (hchange : isChange = true →
      (∃ statement, work = [statement]) ∧ ∀ result, answer result = .ok .done) :
    RequestCourse work isChange
      (server.events state (Table.answering server state body answer).2.calls)
      (Table.answering server state body answer).1 := by
  obtain ⟨outcome, calls, noted, hruns, hcourse⟩ := h.exists_course_commit state
  have hrun : (Table.committed server body).run state =
      (outcome, ⟨server.behind state calls, calls, noted⟩) := hruns.apply_eq [] []
  rw [Table.answering, hrun]
  cases outcome with
  | error fault =>
      refine .intro hcourse hruns.faultOf?_eq (fun _ herror => ?_) (by simp) hwork hchange
      exact congrArg (Except.error ∘ Table.logFault) (Except.error.inj herror)
  | ok result =>
      refine .intro hcourse hruns.faultOf?_eq (by simp) (fun _ hok => ?_) hwork hchange
      exact congrArg (Except.mapError LogFault.unreadable ∘ answer) (Except.ok.inj hok)

/-- A request that fetches the row or the rows of its statement. -/
theorem requestCourse_fetching (sql : String) (params : Option (List Param)) {fetch : Session σ α}
    {call : Call} (hfetch : Follows server fetch rows [call]) (hcall : IsOfCursor call)
    (answer : α → Except CellFault Answer) :
    RequestCourse [.execute sql params, call] false
      (server.events state (Table.answering server state
        (Database.execute server sql params >>= fun _ => fetch) answer).2.calls)
      (Table.answering server state
        (Database.execute server sql params >>= fun _ => fetch) answer).1 := by
  refine requestCourse_answering ((follows_execute server sql params).bind hfetch) ?_ answer nofun
  exact List.forall_mem_cons.mpr ⟨trivial, List.forall_mem_singleton.mpr hcall⟩

/-- A request whose statement changes the table. -/
theorem requestCourse_changing (statement : Call) (hstatement : IsOfCursor statement)
    (hanswer : ∀ state, server.answer state statement =
      ((server.perform statement state).1.map fun _ => [], (server.perform statement state).2)) :
    RequestCourse [statement] true
      (server.events state (Table.changing server state (Session.call server statement)).2.calls)
      (Table.changing server state (Session.call server statement)).1 :=
  requestCourse_answering (follows_call statement (hstatement.ne id) hanswer)
    (List.forall_mem_singleton.mpr hstatement) _ fun _ => ⟨⟨statement, rfl⟩, fun _ => rfl⟩

/-- What is recorded behind a bulk load makes no difference. -/
theorem requestCourse_sendLoad (table : Table) (count : Nat) (stream : List UInt8) :
    RequestCourse [.copyFrom table.load stream] true
      (server.events state (table.sendLoad server state count stream).2.calls)
      (table.sendLoad server state count stream).1 := by
  have hchanging : RequestCourse [.copyFrom table.load stream] true
      (server.events state
        (Table.changing server state (copyFrom server table.load stream)).2.calls)
      (Table.changing server state (copyFrom server table.load stream)).1 :=
    requestCourse_changing (.copyFrom table.load stream) trivial fun _ => rfl
  rw [Table.sendLoad]
  rcases hload : Table.changing server state (copyFrom server table.load stream) with
    ⟨fault | answer, behind⟩
  · rw [hload] at hchanging
    exact hchanging
  · rw [hload] at hchanging
    exact hchanging

/-- **A request takes the course of its work**, and makes no call without work. -/
theorem requestCourse_perform (table : Table) (server : Server σ) (state : σ)
    (operation : Operation) :
    match table.work? operation with
    | none => (table.perform server state operation).2.calls = [] ∧
        ∀ fault, (table.perform server state operation).1 = .error fault →
          ∃ cause, fault = .unwritable cause
    | some work => RequestCourse work operation.isChange
        (server.events state (table.perform server state operation).2.calls)
        (table.perform server state operation).1 := by
  cases operation with
  | create => exact requestCourse_changing _ trivial fun _ => rfl
  | drop => exact requestCourse_changing _ trivial fun _ => rfl
  | truncate => exact requestCourse_changing _ trivial fun _ => rfl
  | get key => exact requestCourse_fetching _ _ (follows_fetchOne server) trivial _
  | getMany keys =>
      rw [Table.perform, Table.work?]
      split_ifs
      · exact ⟨rfl, by simp [Table.idle]⟩
      · exact requestCourse_fetching _ _ (follows_fetchAll server) trivial _
  | put header =>
      rw [Table.work?, ← Header.row_eq_arguments]
      exact requestCourse_changing _ trivial fun _ => rfl
  | putMany headers =>
      rw [Table.perform, Table.work?, ← Header.row_eq_arguments]
      split_ifs
      · exact ⟨rfl, by simp [Table.idle]⟩
      · exact requestCourse_changing _ trivial fun _ => rfl
  | delete key => exact requestCourse_changing _ trivial fun _ => rfl
  | deleteMany keys =>
      rw [Table.perform, Table.work?]
      split_ifs
      · exact ⟨rfl, by simp [Table.idle]⟩
      · exact requestCourse_changing _ trivial fun _ => rfl
  | load headers =>
      rw [Table.perform, Table.work?]
      split_ifs
      · exact ⟨rfl, by simp [Table.idle]⟩
      · cases loadStream headers with
        | error fault => exact ⟨rfl, fun _ h => ⟨fault, (Except.error.inj h).symm⟩⟩
        | ok stream => exact requestCourse_sendLoad table _ stream
  | selectAll => exact requestCourse_fetching _ _ (follows_fetchAll server) trivial _
  | selectLatest => exact requestCourse_fetching _ _ (follows_fetchAll server) trivial _

end Courses

section Discipline

/-- What is reported about a change agrees with what was committed. -/
structure IsReported (statement : Call) (events : List Event) (reply : Except LogFault Answer) :
    Prop where
  ok_iff : reply = .ok .done ↔ lastFault? events = none
  of_ok : ∀ answer, reply = .ok answer →
    answer = .done ∧ Succeeds events statement ∧ Succeeds events .commit
  /-- A failure behind a commit is one of giving the connection back. -/
  of_error : ∀ fault, reply = .error fault → ¬ Succeeds events .commit ∨
    ∃ event ∈ events, ∃ cause, event.fault? = some cause ∧ fault = Table.logFault cause ∧
      ((∃ discard, event.call = .giveBack discard) ∨
        event.call = .rollback ∧ ∃ text, cause = .foreign text)

variable {σ : Type} {work : List Call} {isChange : Bool} {events : List Event}
  {reply : Except LogFault Answer}

theorem RequestCourse.isCommittedOnce (h : RequestCourse work isChange events reply) :
    IsCommittedOnce work events := by
  obtain ⟨hcourse, -, -, -, hwork, -⟩ := h
  exact hcourse.isCommittedOnce hwork

theorem RequestCourse.exists_isReported (h : RequestCourse work true events reply) :
    ∃ statement, work = [statement] ∧ IsReported statement events reply := by
  obtain @⟨α, rows, answer, outcome, hcourse, hfault, herror, hok, hwork, hchange⟩ := h
  obtain ⟨⟨statement, rfl⟩, hdone⟩ := hchange rfl
  refine ⟨statement, rfl, ?_⟩
  cases outcome with
  | error fault =>
      have hlast : some fault = lastFault? events := hfault
      obtain rfl := herror fault rfl
      refine ⟨by simp [← hlast], by simp, fun _ herror => ?_⟩
      obtain rfl := Except.error.inj herror
      by_cases hcommit : Succeeds events .commit
      · obtain ⟨event, hevent, hcause, hcall⟩ :=
          hcourse.exists_fault_behind_commit hwork hlast.symm hcommit
        exact .inr ⟨event, hevent, fault, hcause, rfl, hcall⟩
      · exact .inl hcommit
  | ok result =>
      have hnone : none = lastFault? events := hfault
      obtain rfl : reply = .ok .done := by rw [hok result rfl, hdone, Except.mapError]
      obtain ⟨hstatement, hcommit⟩ := hcourse.succeeds_of_lastFault?_eq_none hwork hnone.symm
      refine ⟨by simp [← hnone], fun answer hanswer => ?_, by simp⟩
      exact ⟨(Except.ok.inj hanswer).symm, hstatement statement List.mem_cons_self, hcommit⟩

/-- **A request is committed if and only if its work was done, and what it reports agrees with it.**
A commit is attempted at most once, behind the closing of the cursor and before the connection is
given back, and if and only if taking the connection, opening the cursor and all of the work
succeeded. A change succeeds only when its statement and the commit did, and fails behind a commit
only when the connection could not be given back. -/
theorem isCommittedOnce_perform (table : Table) (server : Server σ) (state : σ)
    (operation : Operation) :
    let reply := table.perform server state operation
    match table.work? operation with
    | none => reply.2.calls = []
    | some work =>
      IsCommittedOnce work (server.events state reply.2.calls) ∧
        (operation.isChange = true → ∃ statement, work = [statement] ∧
          IsReported statement (server.events state reply.2.calls) reply.1) := by
  have hperform := requestCourse_perform table server state operation
  cases hwork : table.work? operation with
  | none =>
      rw [hwork] at hperform
      exact hperform.1
  | some work =>
      rw [hwork] at hperform
      refine ⟨hperform.isCommittedOnce, fun hchange => ?_⟩
      rw [hchange] at hperform
      exact hperform.exists_isReported

end Discipline

end Replication
end VectorTiles
