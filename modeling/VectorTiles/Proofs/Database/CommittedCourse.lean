import VectorTiles.Proofs.Database.Course

/-!
# Commits behind the work of a cursor

A connection is taken for a cursor whose work is to be saved, so a commit follows it.

**Rules.** The commit is attempted if and only if taking the connection, opening the cursor and every
call of the work succeeded. It stands between the closing of the cursor and the calls that give the
connection back.

**Results.**

* `Course.fails_or_reaches_commit`: the two ways that such a course takes.
* `Course.isCommittedOnce`: when a commit is attempted, and where.
* `Course.exists_fault_behind_commit`: what can still go wrong behind a commit.
* `Course.exists_statement`: the events of a cursor with a single statement.
* `Course.filter_isCopy`: when a stream is sent.
-/

namespace VectorTiles
namespace Database

section Commits

/-- A call of a cursor that is open. -/
def IsOfCursor : Call → Prop
  | .execute _ _ | .executeBatch _ _ | .fetchOne | .fetchAll | .copyFrom _ _ => True
  | _ => False

/-- When a commit is attempted behind a work. -/
structure IsCommittedOnce (work : List Call) (events : List Event) : Prop where
  count_le_one : (events.map Event.call).count .commit ≤ 1
  mem_iff : .commit ∈ events.map Event.call ↔
    ∀ call ∈ .takeConnection :: .openCursor :: work, Succeeds events call
  /-- Without a fault on the way there is a commit. -/
  mem_or_fails : .commit ∈ events.map Event.call ∨
    ∃ call ∈ .takeConnection :: .openCursor :: work, Fails events call
  /-- The cursor is closed before it, and the connection is given back behind it. -/
  placed : .commit ∈ events.map Event.call → ∃ front back, events = front ++ back ∧
    front.map Event.call = .takeConnection :: .openCursor :: (work ++ [.closeCursor, .commit]) ∧
    IsReturn back

variable {α : Type} {rows : α → List Row} {work : List Call} {outcome : Except Fault α}
  {events front back : List Event} {answer : Except Fault (List Row)} {call : Call}

theorem IsCommittedOnce.of_fails (hcommit : .commit ∉ events.map Event.call)
    (hcall : call ∈ .takeConnection :: .openCursor :: work) (hfails : Fails events call) :
    IsCommittedOnce work events where
  count_le_one := by
    rw [List.count_eq_zero_of_not_mem hcommit]
    exact Nat.zero_le 1
  mem_iff := by
    refine iff_of_false hcommit fun hall => ?_
    exact hfails.not_succeeds (hall call hcall)
  mem_or_fails := .inr ⟨call, hcall, hfails⟩
  placed h := absurd h hcommit

theorem notMem_of_isReturn (h : IsReturn back) (hrollback : call ≠ .rollback)
    (hgive : ∀ discard, call ≠ .giveBack discard) : call ∉ back.map Event.call := by
  intro hmem
  obtain ⟨event, hevent, hcall⟩ := List.mem_map.mp hmem
  rcases h event hevent with hreturn | ⟨discard, hreturn⟩
  · exact hrollback (hcall.symm.trans hreturn)
  · exact hgive discard (hcall.symm.trans hreturn)

theorem IsOfCursor.ne {other : Call} (h : IsOfCursor call) (hother : ¬ IsOfCursor other) :
    call ≠ other :=
  fun heq => hother (heq ▸ h)

section Cursors

variable {inner : List Event} {result : Except Fault α}

theorem CursorCourse.commit_notMem (h : CursorCourse rows work result inner)
    (hwork : ∀ call ∈ work, IsOfCursor call) : .commit ∉ inner.map Event.call := by
  cases h with
  | unopened fault => simp
  | @opened _ done call rest hcalls hdone hrest =>
      have hnone : .commit ∉ done.map Event.call ++ call :: rest :=
        fun hmem => (hwork _ (hcalls ▸ hmem)).ne id rfl
      simp only [List.mem_append, List.mem_cons, not_or] at hnone
      simpa [hnone.2.1] using hnone.1

theorem CursorCourse.exists_fails {fault : Fault}
    (h : CursorCourse rows work (.error fault) inner) :
    ∃ call ∈ .openCursor :: work, Fails inner call := by
  cases h with
  | unopened fault => exact ⟨.openCursor, List.mem_cons_self, fault, List.mem_singleton_self _⟩
  | @opened _ done call rest hcalls hdone hrest =>
      exact ⟨call, by simp [hcalls], fault, by simp [Except.map]⟩

theorem CursorCourse.allSucceed {a : α} (h : CursorCourse rows work (.ok a) inner) :
    AllSucceed inner ∧ inner.map Event.call = .openCursor :: (work ++ [.closeCursor]) := by
  cases h with
  | @opened _ done call rest hcalls hdone hrest =>
      obtain rfl := hrest rfl
      rw [AllSucceed, List.forall_mem_cons, List.forall_mem_append]
      exact ⟨⟨⟨[], rfl⟩, hdone, by simp [Except.map]⟩, by simp [hcalls]⟩

end Cursors

/-- Either something fails and nothing is committed, or a commit stands behind the work. -/
theorem Course.fails_or_reaches_commit (h : Course rows work [.commit] outcome events)
    (hwork : ∀ call ∈ work, IsOfCursor call) :
    (.commit ∉ events.map Event.call ∧
        ∃ call ∈ .takeConnection :: .openCursor :: work, Fails events call) ∨
      ∃ front answer back, events = front ++ ⟨.commit, answer⟩ :: back ∧ AllSucceed front ∧
        front.map Event.call = .takeConnection :: .openCursor :: (work ++ [.closeCursor]) ∧
        IsReturn back := by
  cases h with
  | untaken fault => exact .inl ⟨by simp, .takeConnection, by simp, fault, by simp⟩
  | @taken result _ inner last back hinner hlast hback houtcome =>
      have hinside : .commit ∉ inner.map Event.call := hinner.commit_notMem hwork
      have hreturn : .commit ∉ back.map Event.call := notMem_of_isReturn hback nofun nofun
      -- Only work that was done is followed by anything but the return of the connection.
      cases result with
      | error fault =>
          obtain rfl : last = [] := List.map_eq_nil_iff.mp hlast
          obtain ⟨call, hcall, cause, hcause⟩ := hinner.exists_fails
          refine .inl ⟨?_, call, List.mem_cons_of_mem _ hcall, cause, by simp [hcause]⟩
          rw [List.map_cons, List.map_append, List.nil_append, List.mem_cons, List.mem_append]
          simp only [hinside, hreturn, reduceCtorEq, or_self, not_false_eq_true]
      | ok a =>
          obtain ⟨⟨_, answer⟩, rfl, rfl⟩ := List.map_eq_singleton_iff.mp hlast
          obtain ⟨hdone, hcalls⟩ := hinner.allSucceed
          refine .inr ⟨⟨.takeConnection, .ok []⟩ :: inner, answer, back, by simp, ?_, ?_, hback⟩
          · exact List.forall_mem_cons.mpr ⟨⟨[], rfl⟩, hdone⟩
          · rw [List.map_cons, hcalls]

theorem ne_of_mem_work (hwork : ∀ call ∈ work, IsOfCursor call)
    (hcall : call ∈ .takeConnection :: .openCursor :: work) :
    call ≠ .commit ∧ call ≠ .rollback ∧ ∀ discard, call ≠ .giveBack discard := by
  rcases List.mem_cons.mp hcall with rfl | hcall
  · exact ⟨nofun, nofun, nofun⟩
  rcases List.mem_cons.mp hcall with rfl | hcall
  · exact ⟨nofun, nofun, nofun⟩
  · exact ⟨(hwork _ hcall).ne id, (hwork _ hcall).ne id, fun _ => (hwork _ hcall).ne id⟩

theorem commit_notMem_front (hwork : ∀ call ∈ work, IsOfCursor call)
    (hcalls : front.map Event.call = .takeConnection :: .openCursor :: (work ++ [.closeCursor])) :
    .commit ∉ front.map Event.call := by
  have hne : .commit ∉ work := fun hcall => (hwork _ hcall).ne id rfl
  simp [hcalls, hne]

/-- A call of the work is made before the commit, and not again. -/
theorem succeeds_of_front (hfront : AllSucceed front) (hback : IsReturn back)
    (hwork : ∀ call ∈ work, IsOfCursor call)
    (hcalls : front.map Event.call = .takeConnection :: .openCursor :: (work ++ [.closeCursor]))
    (hcall : call ∈ .takeConnection :: .openCursor :: work) :
    Succeeds (front ++ ⟨.commit, answer⟩ :: back) call := by
  obtain ⟨hcommit, hrollback, hgive⟩ := ne_of_mem_work hwork hcall
  have hmem : call ∈ front.map Event.call := by
    rw [hcalls, ← List.cons_append, ← List.cons_append]
    exact List.mem_append_left _ hcall
  refine ⟨by simp only [List.map_append, List.mem_append, hmem, true_or], fun event hevent heq => ?_⟩
  rcases List.mem_append.mp hevent with hevent | hevent
  · exact hfront event hevent
  rcases List.mem_cons.mp hevent with rfl | hevent
  · exact absurd heq.symm hcommit
  · have hnone : call ∉ back.map Event.call := notMem_of_isReturn hback hrollback hgive
    exact absurd (List.mem_map.mpr ⟨event, hevent, heq⟩) hnone

theorem succeeds_commit_iff (hfront : .commit ∉ front.map Event.call) (hback : IsReturn back) :
    Succeeds (front ++ ⟨.commit, answer⟩ :: back) .commit ↔ ∃ rows, answer = .ok rows := by
  constructor
  · rintro ⟨-, hall⟩
    exact hall ⟨.commit, answer⟩ (by simp) rfl
  · intro hanswer
    refine ⟨by simp, fun event hevent heq => ?_⟩
    rcases List.mem_append.mp hevent with hevent | hevent
    · exact absurd (List.mem_map.mpr ⟨event, hevent, heq⟩) hfront
    rcases List.mem_cons.mp hevent with rfl | hevent
    · exact hanswer
    · have hnone : .commit ∉ back.map Event.call := notMem_of_isReturn hback nofun nofun
      exact absurd (List.mem_map.mpr ⟨event, hevent, heq⟩) hnone

theorem Course.isCommittedOnce (h : Course rows work [.commit] outcome events)
    (hwork : ∀ call ∈ work, IsOfCursor call) : IsCommittedOnce work events := by
  rcases h.fails_or_reaches_commit hwork with
    ⟨hcommit, call, hcall, hfails⟩ | ⟨front, answer, back, rfl, hfront, hcalls, hback⟩
  · exact .of_fails hcommit hcall hfails
  · have hmem : .commit ∈ (front ++ ⟨.commit, answer⟩ :: back).map Event.call := by simp
    have hnone := commit_notMem_front hwork hcalls
    refine ⟨?_, iff_of_true hmem fun call hcall => ?_, .inl hmem, fun _ => ?_⟩
    · have hreturn : .commit ∉ back.map Event.call := notMem_of_isReturn hback nofun nofun
      simp [List.count_append, List.count_eq_zero_of_not_mem hnone,
        List.count_eq_zero_of_not_mem hreturn]
    · exact succeeds_of_front hfront hback hwork hcalls hcall
    · refine ⟨front ++ [⟨.commit, answer⟩], back, by simp, ?_, hback⟩
      simp [hcalls]

/-- Behind a commit that succeeded, only giving the connection back can fail. -/
theorem exists_fault_of_isReturn {fault : Fault} (hback : IsReturn back)
    (h : lastFault? back = some fault) : ∃ event ∈ back, event.fault? = some fault ∧
      ((∃ discard, event.call = .giveBack discard) ∨
        event.call = .rollback ∧ ∃ text, fault = .foreign text) := by
  obtain ⟨event, hevent, hfault⟩ := exists_mem_of_lastFault? h
  refine ⟨event, hevent, hfault, ?_⟩
  rcases hback event hevent with hrollback | hgive
  · exact .inr ⟨hrollback, Event.exists_foreign_of_rollback hfault hrollback⟩
  · exact .inl hgive

theorem Course.succeeds_of_lastFault?_eq_none (h : Course rows work [.commit] outcome events)
    (hwork : ∀ call ∈ work, IsOfCursor call) (hnone : lastFault? events = none) :
    (∀ call ∈ work, Succeeds events call) ∧ Succeeds events .commit := by
  rcases h.fails_or_reaches_commit hwork with
    ⟨-, call, hcall, hfails⟩ | ⟨front, answer, back, rfl, hfront, hcalls, hback⟩
  · exact absurd hnone (hfails.lastFault?_ne_none (ne_of_mem_work hwork hcall).2.1)
  · have hcommit := lastFault?_eq_none_iff.mp hnone ⟨.commit, answer⟩ (by simp)
    have hnone := commit_notMem_front hwork hcalls
    refine ⟨fun call hcall => ?_, (succeeds_commit_iff hnone hback).mpr ?_⟩
    · have hmem : call ∈ .takeConnection :: .openCursor :: work := by simp [hcall]
      exact succeeds_of_front hfront hback hwork hcalls hmem
    · cases answer with
      | error fault => cases hcommit
      | ok rows => exact ⟨rows, rfl⟩

theorem Course.exists_fault_behind_commit {fault : Fault}
    (h : Course rows work [.commit] outcome events) (hwork : ∀ call ∈ work, IsOfCursor call)
    (hfault : lastFault? events = some fault) (hcommit : Succeeds events .commit) :
    ∃ event ∈ events, event.fault? = some fault ∧ ((∃ discard, event.call = .giveBack discard) ∨
      event.call = .rollback ∧ ∃ text, fault = .foreign text) := by
  rcases h.fails_or_reaches_commit hwork with
    ⟨hnone, -⟩ | ⟨front, answer, back, rfl, hfront, hcalls, hback⟩
  · exact absurd hcommit.1 hnone
  · obtain ⟨rows, rfl⟩ :=
      (succeeds_commit_iff (commit_notMem_front hwork hcalls) hback).mp hcommit
    have hlast : lastFault? back = some fault := by
      rw [lastFault?_append, hfront.lastFault?_eq_none, Option.or_none, lastFault?] at hfault
      exact Option.or_none.symm.trans hfault
    obtain ⟨event, hevent, hfound⟩ := exists_fault_of_isReturn hback hlast
    exact ⟨event, by simp [hevent], hfound⟩

end Commits

section Statements

/-- Whether a call sends a stream. -/
def Call.isCopy : Call → Bool
  | copyFrom _ _ => true
  | _ => false

/-- These events follow the cursor. -/
def IsConclusion (events : List Event) : Prop :=
  ∀ event ∈ events, event.call = .commit ∨ event.call = .rollback ∨
    ∃ discard, event.call = .giveBack discard

variable {α : Type} {rows : α → List Row} {statement : Call} {outcome : Except Fault α}
  {events back : List Event}

theorem IsConclusion.of_append {last : List Event} {result : Bool}
    (hlast : last.map Event.call = if result then [.commit] else []) (hback : IsReturn back) :
    IsConclusion (last ++ back) := by
  intro event hevent
  rcases List.mem_append.mp hevent with hevent | hevent
  · have hmem : event.call ∈ last.map Event.call := List.mem_map_of_mem hevent
    rw [hlast] at hmem
    split_ifs at hmem
    · exact .inl (List.mem_singleton.mp hmem)
    · cases hmem
  · exact .inr (hback event hevent)

/-- The events of a cursor with a single statement. -/
theorem Course.exists_statement (h : Course rows [statement] [.commit] outcome events) :
    (∃ fault, events = [⟨.takeConnection, .error fault⟩]) ∨
      (∃ fault back, IsConclusion back ∧
        events = ⟨.takeConnection, .ok []⟩ :: ⟨.openCursor, .error fault⟩ :: back) ∨
      ∃ answer back, IsConclusion back ∧
        events = ⟨.takeConnection, .ok []⟩ :: ⟨.openCursor, .ok []⟩ :: ⟨statement, answer⟩ ::
          ⟨.closeCursor, .ok []⟩ :: back := by
  cases h with
  | untaken fault => exact .inl ⟨fault, rfl⟩
  | @taken result _ inner last back hinner hlast hback houtcome =>
      have hconclusion : IsConclusion (last ++ back) := .of_append hlast hback
      cases hinner with
      | unopened fault => exact .inr (.inl ⟨fault, _, hconclusion, rfl⟩)
      | @opened _ done call rest hwork hdone hrest =>
          have hsplit := List.append_eq_singleton_iff.mp hwork.symm
          obtain ⟨hnone, hlist⟩ := hsplit.resolve_right (by simp)
          obtain rfl := List.map_eq_nil_iff.mp hnone
          obtain ⟨rfl, rfl⟩ := List.cons.inj hlist
          exact .inr (.inr ⟨_, _, hconclusion, rfl⟩)

theorem IsConclusion.filter_isCopy (h : IsConclusion back) :
    (back.map Event.call).filter Call.isCopy = [] := by
  rw [List.filter_eq_nil_iff, List.forall_mem_map]
  intro event hevent
  rcases h event hevent with hcall | hcall | ⟨_, hcall⟩ <;> simp [hcall, Call.isCopy]

theorem IsConclusion.ne (h : IsConclusion back) {event : Event} (hevent : event ∈ back) :
    event.call ≠ .takeConnection ∧ event.call ≠ .openCursor := by
  rcases h event hevent with hcall | hcall | ⟨_, hcall⟩ <;> simp [hcall]

/-- A stream is sent if and only if there is a connection with a cursor, and only once. -/
theorem Course.filter_isCopy (h : Course rows [statement] [.commit] outcome events)
    (hstatement : statement.isCopy = true) :
    (Succeeds events .takeConnection ∧ Succeeds events .openCursor) ∧
        (events.map Event.call).filter Call.isCopy = [statement] ∨
      ¬ (Succeeds events .takeConnection ∧ Succeeds events .openCursor) ∧
        (events.map Event.call).filter Call.isCopy = [] := by
  rcases h.exists_statement with
    ⟨fault, rfl⟩ | ⟨fault, back, hback, rfl⟩ | ⟨answer, back, hback, rfl⟩
  · have hfails : Fails [⟨.takeConnection, .error fault⟩] .takeConnection :=
      ⟨fault, List.mem_singleton_self _⟩
    exact .inr ⟨fun hsucceeds => hfails.not_succeeds hsucceeds.1, rfl⟩
  · have hfails : Fails (⟨.takeConnection, .ok []⟩ :: ⟨.openCursor, .error fault⟩ :: back)
        .openCursor := ⟨fault, by simp⟩
    refine .inr ⟨fun hsucceeds => hfails.not_succeeds hsucceeds.2, ?_⟩
    simp [Call.isCopy, hback.filter_isCopy]
  · have hne : statement ≠ .takeConnection ∧ statement ≠ .openCursor := by
      constructor <;> rintro rfl <;> cases hstatement
    refine .inl ⟨⟨⟨by simp, ?_⟩, by simp, ?_⟩, ?_⟩
    · simp only [List.forall_mem_cons]
      exact ⟨fun _ => ⟨[], rfl⟩, nofun, fun hcall => absurd hcall hne.1, nofun,
        fun event hevent hcall => absurd hcall (hback.ne hevent).1⟩
    · simp only [List.forall_mem_cons]
      exact ⟨nofun, fun _ => ⟨[], rfl⟩, fun hcall => absurd hcall hne.2, nofun,
        fun event hevent hcall => absurd hcall (hback.ne hevent).2⟩
    · simp only [List.map_cons, List.filter_cons, hback.filter_isCopy, hstatement]
      simp [Call.isCopy]

end Statements

end Database
end VectorTiles
