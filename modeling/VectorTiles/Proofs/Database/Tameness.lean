import VectorTiles.Proofs.Database.Course
import VectorTiles.Database.Script

/-!
# Tame servers

A server is tame if nothing goes wrong with it but what the driver knows of, and if it returns tiles.

**Data.** A tile stands in the first cell of the first row. It is binary data, or null.

**Rules.** The points at which a tile can fail are those of its calls. A rollback is not among them:
what the driver reports about it is put right by discarding the connection.

**Results.**

* `Server.IsTame`: a tame server.
* `isTame_script`: the scripts that make a server tame.
* `Course.isInterrupted_iff`: a fault is left behind if and only if a call for the tile failed.
-/

namespace VectorTiles
namespace Database

section Servers

variable {σ : Type}

/-- The row of a tile. -/
inductive IsTileRow : Row → Prop
  | null (rest : Row) : IsTileRow (.null :: rest)
  | bytes (content : List UInt8) (rest : Row) : IsTileRow (.bytes content :: rest)
  | buffer (content : List UInt8) (rest : Row) : IsTileRow (.buffer content :: rest)

/-- Faults are errors of the driver, and the first row is that of a tile. -/
structure Server.IsTame (server : Server σ) (state : σ) : Prop where
  ne_foreign : ∀ calls, ∀ event ∈ server.events state calls, ∀ text,
    event.answer ≠ .error (.foreign text)
  isTileRow : ∀ calls, .fetchOne ∉ calls → .fetchAll ∉ calls → ∀ row,
    (server.answer (server.behind state calls) .fetchOne).1 = .ok [row] → IsTileRow row

/-- The answer to a call depends on the calls before it. -/
theorem Server.answer_of_events_eq {server : Server σ} {state : σ} {calls : List Call}
    {front back : List Event} {event : Event}
    (h : server.events state calls = front ++ event :: back) :
    event.answer = (server.answer (server.behind state (front.map Event.call)) event.call).1 := by
  induction front generalizing state calls with
  | nil =>
      cases calls with
      | nil => cases h
      | cons call calls =>
          obtain ⟨rfl, -⟩ := List.cons.inj h
          rfl
  | cons first front ih =>
      cases calls with
      | nil => cases h
      | cons call calls =>
          obtain ⟨rfl, hrest⟩ := List.cons.inj h
          exact ih hrest

/-- The fault that a tame server leaves behind is an error of the driver. -/
theorem Server.IsTame.exists_driver {server : Server σ} {state : σ} (h : server.IsTame state)
    {calls : List Call} {fault : Fault}
    (hlast : lastFault? (server.events state calls) = some fault) :
    ∃ error, fault = .driver error := by
  obtain ⟨event, hevent, hfound⟩ := exists_mem_of_lastFault? hlast
  cases fault with
  | driver error => exact ⟨error, rfl⟩
  | foreign text =>
      exact absurd (Event.answer_of_fault? hfound) (h.ne_foreign calls event hevent text)

end Servers

section Scripts

variable {script : Script} {state : Script.State} {fault : Fault} {call : Call}

theorem exists_faults_of_script_answer {α : Type} {answer : Script.State → α × Script.State}
    {point : Option CallPoint} (h : (script.answer point answer state).1 = .error fault) :
    ∃ point, script.faults point = some fault := by
  rw [Script.answer] at h
  cases hfaults : point.bind script.faults with
  | none => simp [hfaults] at h
  | some found =>
      rw [hfaults] at h
      obtain rfl := Except.error.inj h
      obtain ⟨point, -, hpoint⟩ := Option.bind_eq_some_iff.mp hfaults
      exact ⟨point, hpoint⟩

theorem rows_script_answer {α : Type} {answer : Script.State → α × Script.State}
    (point : Option CallPoint) (hrows : (answer state).2.rows = state.rows) :
    (script.answer point answer state).2.rows = state.rows := by
  rw [Script.answer]
  split
  · rfl
  · exact hrows

theorem eq_error_of_map {α β : Type} {f : α → β} {result : Except Fault α}
    (h : result.map f = .error fault) : result = .error fault := by
  cases result with
  | error found => exact congrArg Except.error (Except.error.inj h)
  | ok a => cases h

/-- The faults of a scripted server are those of its script. -/
theorem exists_faults_of_answer (h : (script.server.answer state call).1 = .error fault) :
    ∃ point, script.faults point = some fault := by
  cases call with
  | closeCursor => cases h
  | fetchAll =>
      have hfetch : (script.answer (some .fetchAll)
          (fun state => (state.rows, { state with rows := [] })) state).1 = .error fault := h
      exact exists_faults_of_script_answer hfetch
  | _ => exact exists_faults_of_script_answer (eq_error_of_map h)

/-- Rows are kept until they are fetched. -/
theorem rows_answer (hone : call ≠ .fetchOne) (hall : call ≠ .fetchAll) :
    (script.server.answer state call).2.rows = state.rows := by
  cases call with
  | closeCursor => rfl
  | fetchOne => exact absurd rfl hone
  | fetchAll => exact absurd rfl hall
  | _ => exact rows_script_answer _ rfl

theorem rows_behind {calls : List Call} (hone : .fetchOne ∉ calls) (hall : .fetchAll ∉ calls) :
    (script.server.behind state calls).rows = state.rows := by
  induction calls generalizing state with
  | nil => rfl
  | cons call calls ih =>
      rw [List.mem_cons, not_or] at hone hall
      have hrest : (script.server.behind (script.server.answer state call).2 calls).rows = _ :=
        ih hone.2 hall.2
      exact hrest.trans (rows_answer (Ne.symm hone.1) (Ne.symm hall.1))

theorem head?_rows_of_fetch {row : Row}
    (h : (script.server.answer state .fetchOne).1 = .ok [row]) : state.rows.head? = some row := by
  simp only [Server.answer, Script.server, Script.answer] at h
  split at h
  · cases h
  · simpa [Except.map] using h

theorem ne_foreign_script
    (hdriver : ∀ point fault, script.faults point = some fault → ∃ error, fault = .driver error)
    (calls : List Call) : ∀ event ∈ script.server.events state calls, ∀ text,
      event.answer ≠ .error (.foreign text) := by
  induction calls generalizing state with
  | nil => nofun
  | cons call calls ih =>
      refine List.forall_mem_cons.mpr ⟨fun text hforeign => ?_, ih⟩
      obtain ⟨point, hpoint⟩ := exists_faults_of_answer hforeign
      obtain ⟨error, herror⟩ := hdriver point _ hpoint
      cases herror

/-- A script whose faults are errors of the driver, and whose first row is that of a tile. -/
theorem isTame_script
    (hdriver : ∀ point fault, script.faults point = some fault → ∃ error, fault = .driver error)
    (hrow : ∀ row ∈ script.rows.head?, IsTileRow row) : script.server.IsTame script.start where
  ne_foreign calls := ne_foreign_script hdriver calls
  isTileRow calls hone hall row hfetch := by
    have hrows : (script.server.behind script.start calls).rows = script.rows :=
      rows_behind hone hall
    have hhead := head?_rows_of_fetch hfetch
    rw [hrows] at hhead
    exact hrow row hhead

/-- A database that stops every statement. -/
def timeoutScript : Script :=
  ⟨[], fun point =>
    if point = .execute then some (.driver ⟨"QueryCanceled", "statement timeout"⟩) else none,
    false, none⟩

theorem isTame_timeoutScript : timeoutScript.server.IsTame timeoutScript.start := by
  refine isTame_script (fun point fault hfault => ?_) nofun
  simp only [timeoutScript] at hfault
  split_ifs at hfault
  exact ⟨_, (Option.some.inj hfault).symm⟩

end Scripts

section Interruptions

/-- The points at which a tile can fail. -/
def tilePoints : List CallPoint :=
  [.takeConnection, .openCursor, .execute, .fetchOne, .giveBack]

/-- A call for the tile failed. -/
def IsInterrupted (events : List Event) : Prop :=
  ∃ event ∈ events, (∃ point ∈ tilePoints, event.call.point? = some point) ∧
    ∃ fault, event.answer = .error fault

variable {outcome : Except Fault (Option Row)} {events : List Event} {sql : String}
  {params : Option (List Param)}

theorem not_isInterrupted_nil : ¬ IsInterrupted [] := by
  rintro ⟨event, hevent, -⟩
  cases hevent

theorem IsInterrupted.lastFault?_ne_none (h : IsInterrupted events) : lastFault? events ≠ none := by
  obtain ⟨⟨call, answer⟩, hevent, ⟨point, hpoint, hcall⟩, fault, hanswer⟩ := h
  obtain rfl : answer = .error fault := hanswer
  refine Fails.lastFault?_ne_none ⟨fault, hevent⟩ ?_
  rintro rfl
  obtain rfl := Option.some.inj hcall
  simp [tilePoints] at hpoint

/-- **A fault is left behind if and only if a call for the tile failed.** -/
theorem Course.isInterrupted_iff
    (h : Course Option.toList [.execute sql params, .fetchOne] [] outcome events)
    (hdriver : ∀ event ∈ events, ∀ text, event.answer ≠ .error (.foreign text)) :
    IsInterrupted events ↔ lastFault? events ≠ none := by
  refine ⟨IsInterrupted.lastFault?_ne_none, fun hlast => ?_⟩
  obtain ⟨fault, hfault⟩ := Option.ne_none_iff_exists'.mp hlast
  obtain ⟨event, hevent, hfound⟩ := exists_mem_of_lastFault? hfault
  have hanswer : event.answer = .error fault := Event.answer_of_fault? hfound
  suffices hpoint : ∃ point ∈ tilePoints, event.call.point? = some point from
    ⟨event, hevent, hpoint, fault, hanswer⟩
  rcases h.mem_calls hevent with hcall | rfl | hrollback | ⟨discard, hgive⟩
  · simp only [List.append_nil, List.mem_cons, List.not_mem_nil, or_false] at hcall
    rcases hcall with hcall | hcall | hcall | hcall <;> simp [hcall, Call.point?, tilePoints]
  · cases hanswer
  · obtain ⟨text, rfl⟩ := Event.exists_foreign_of_rollback hfound hrollback
    exact absurd hanswer (hdriver event hevent text)
  · simp [hgive, Call.point?, tilePoints]

end Interruptions

end Database
end VectorTiles
