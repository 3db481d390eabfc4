import SqlBridge.Proofs.Session.World
import SqlBridge.Session.Script

/-!
# Commands as operations

A command is a sequence of operations: each is called on one manager, or is about the server, the
kept handles or the log alone. `World.after` is the world that a list of operations leaves.

Most operations need no handle, so any task may do them at any time; worlds between which only such
operations lie drift (`World.Drifts`). What a statement does is told once, in
`Executor.runWithRetry_course`, and what a command does in `Command.Course` and `Command.course`:
what holds of every operation is carried over to commands from there, with one case for each place
where a handle is used.
-/

namespace SqlBridge

variable {n : Nat}

/-! ## Operations -/

/-- What is done to the managers and their server, one thing at a time. -/
inductive Operation (n : Nat) where
  | connect (m : Fin n) (config : ConnectionConfig)
  | reconnect (m : Fin n) (lost : Handle)
  | disconnect (m : Fin n) (h : Handle)
  | retire (m : Fin n) (h : Handle)
  | disconnectAll (m : Fin n)
  | closeStale (m : Fin n) (held : List Handle)
  /-- A caller keeps the current handle under a name. -/
  | keep (m : Fin n) (name : String)
  | forget (name : String)
  | receive (statement : Sent)
  | note (e : LogEvent)
  | push (replies : List (Reply n))
  | refuse (error : Option Error)
  | failClose (error : Option Error)

namespace Operation

/-- What an operation makes of a world. -/
def run (w : World n) : Operation n → World n
  | connect m config => (w.connect m config).2
  | reconnect m lost => (w.reconnect m lost).2
  | disconnect m h => (w.disconnect m h).2
  | retire m h => (w.retire m h).2
  | disconnectAll m => (w.disconnectAll m).2
  | closeStale m held => (w.closeStale m held).2
  | keep m name =>
    match (w.manager m).current with
    | some h => w.keep (some name) h
    | none => w
  | forget name => { w with names := w.names.erase name }
  | receive statement => { w with server := (w.server.receive statement).2 }
  | note e => w.note e
  | push replies => { w with server := { w.server with replies := w.server.replies ++ replies } }
  | refuse error => { w with server := { w.server with refusal := error } }
  | failClose error => { w with server := { w.server with closeFailure := error } }

/-- The operation needs no handle and leaves the closing of sessions as it is. -/
def isFree : Operation n → Bool
  | reconnect .. | disconnect .. | retire .. | failClose _ => false
  | _ => true

end Operation

namespace World

variable {w w' w'' : World n} {m : Fin n} {h : Handle}

/-- The world after a list of operations. -/
def after (w : World n) (ops : List (Operation n)) : World n := ops.foldl Operation.run w

@[simp]
theorem after_nil (w : World n) : w.after [] = w := rfl

@[simp]
theorem after_cons (w : World n) (o : Operation n) (ops : List (Operation n)) :
    w.after (o :: ops) = (o.run w).after ops := rfl

/-- A list of operations in two parts is run one after the other. -/
theorem after_append (w : World n) (first second : List (Operation n)) :
    w.after (first ++ second) = (w.after first).after second := List.foldl_append

/-- Nothing was done in between but operations that need no handle. -/
def Drifts (w w' : World n) : Prop :=
  ∃ ops : List (Operation n), (∀ o ∈ ops, o.isFree) ∧ w.after ops = w'

namespace Drifts

/-- Nothing need be done in between. -/
theorem refl (w : World n) : w.Drifts w := ⟨[], by simp, rfl⟩

/-- What drifts twice drifts. -/
theorem trans (hfirst : w.Drifts w') (hsecond : w'.Drifts w'') : w.Drifts w'' := by
  obtain ⟨first, hfree, rfl⟩ := hfirst
  obtain ⟨second, hfree', rfl⟩ := hsecond
  refine ⟨first ++ second, fun o ho => ?_, w.after_append first second⟩
  exact (List.mem_append.1 ho).elim (hfree o) (hfree' o)

/-- An operation that needs no handle is such a step. -/
theorem of_operation (o : Operation n) (ho : o.isFree) : w.Drifts (o.run w) :=
  ⟨[o], by simp [ho], rfl⟩

/-- What free operations lead to from one world to the next, they lead to all the way. -/
theorem lift {R : World n → World n → Prop} (hd : w.Drifts w') (hrefl : ∀ w, R w w)
    (htrans : ∀ {w w' w''}, R w w' → R w' w'' → R w w'')
    (hstep : ∀ w (o : Operation n), o.isFree → R w (o.run w)) : R w w' := by
  obtain ⟨ops, hfree, rfl⟩ := hd
  induction ops generalizing w with
  | nil => exact hrefl w
  | cons o ops ih =>
    have hrest := ih (w := o.run w) fun o ho => hfree o (List.mem_cons_of_mem _ ho)
    exact htrans (hstep w o (hfree o (List.mem_cons_self))) hrest

end Drifts

/-! ## What happens while a statement waits -/

/-- A note is something that other tasks may do in the meantime. -/
theorem drifts_note (w : World n) (e : LogEvent) : w.Drifts (w.note e) :=
  .of_operation (.note e) rfl

/-- What another task does in the meantime needs no handle. -/
theorem drifts_interrupt (w : World n) (i : Interruption n) : w.Drifts (w.interrupt i) := by
  cases i with
  | connect m config => exact .of_operation (.connect m config) rfl
  | disconnectAll m => exact .of_operation (.disconnectAll m) rfl
  | refuse e => exact .of_operation (.refuse e) rfl

/-- What other tasks do meanwhile is a number of them. -/
theorem drifts_interruptions (w : World n) (l : List (Interruption n)) :
    w.Drifts (l.foldl interrupt w) := by
  induction l generalizing w with
  | nil => exact .refl w
  | cons i l ih => exact (w.drifts_interrupt i).trans (ih _)

/-- Until an answer arrives, only other tasks act. -/
theorem drifts_send (w : World n) (session : SessionId) (verb : Verb) (sql : String) :
    w.Drifts (w.send session verb sql).2 :=
  (Drifts.of_operation (.receive ⟨session, verb, sql⟩) rfl).trans (drifts_interruptions _ _)

/-! ## Handles that callers keep -/

/-- The handle of a new connection is the current one. -/
theorem current_connect {config : ConnectionConfig} (hresult : (w.connect m config).1 = .ok h) :
    ((w.connect m config).2.manager m).current = some h := by
  rcases w.connect_cases m config with ⟨⟨e, herror⟩, -⟩ | ⟨hnext, hadmits⟩
  · rw [herror] at hresult
    cases hresult
  · rw [hadmits.self, Manager.install_eq, ← Except.ok.inj (hnext.symm.trans hresult)]

/-- The handle of a reconnection is the current one. -/
theorem current_reconnect {lost : Handle} (hresult : (w.reconnect m lost).1 = .ok h) :
    ((w.reconnect m lost).2.manager m).current = some h := by
  rcases w.reconnect_cases m lost with ⟨⟨e, herror⟩, -⟩ | ⟨hnext, hadmits⟩
  · rw [herror] at hresult
    cases hresult
  · rw [hadmits.self, Manager.current_adopt, ← Except.ok.inj (hnext.symm.trans hresult)]

/-- A handle is current when it is returned, and so it is when it is kept. -/
theorem drifts_giveOut (keepAs : Option String) {r : Except Error Handle × World n}
    (hcurrent : ∀ h, r.1 = .ok h → (r.2.manager m).current = some h) :
    r.2.Drifts (giveOut keepAs r).2 := by
  obtain ⟨r, w⟩ := r
  cases r with
  | error e => exact .refl w
  | ok h =>
    cases keepAs with
    | none => exact .refl w
    | some name =>
      have hkeep : (Operation.keep m name).run w = w.keep (some name) h := by
        rw [Operation.run, hcurrent h rfl]
      have hdrift := Drifts.of_operation (w := w) (.keep m name) rfl
      rwa [hkeep] at hdrift

end World

/-! ## Statements -/

namespace Executor

open World (Drifts)

variable {w : World n} {m : Fin n}

/-- An attempt asks, lets other tasks act, and notes. -/
theorem drifts_attempt (x : Executor n) (w : World n) (h : Handle) (st : Statement)
    (internal : Bool) : w.Drifts (x.attempt w h st internal).2 := by
  have hsend := w.drifts_send h.session st.kind.verb st.sql
  rw [attempt]
  generalize w.send h.session st.kind.verb st.sql = sent at hsend
  obtain ⟨answer, w'⟩ := sent
  simp only
  cases st.kind.shape answer with
  | error e => exact hsend
  | ok t =>
    simp only
    split
    · exact hsend.trans (w'.drifts_note _)
    · exact hsend

/-- A retry drifts behind its reconnect, and the clearing up is all that may come after that. -/
theorem retry_course (x : Executor n) (w : World n) (h : Handle) (st : Statement)
    (internal : Bool) :
    let after := (x.retry w h st internal).2
    (w.reconnect x.manager h).2.Drifts after ∨
      ∃ fresh w₂, (w.reconnect x.manager h).1 = .ok fresh ∧
        (w.reconnect x.manager h).2.Drifts w₂ ∧ after = x.settle w₂ h fresh := by
  intro after
  simp only [after]
  rw [retry]
  generalize w.reconnect x.manager h = second
  obtain ⟨r, w₂⟩ := second
  cases r with
  | error e => exact .inl (w₂.drifts_note _)
  | ok fresh =>
    have hsecond := x.drifts_attempt w₂ fresh st internal
    simp only
    generalize x.attempt w₂ fresh st internal = third at hsecond
    obtain ⟨r, w₃⟩ := third
    cases r with
    | ok t => exact .inr ⟨fresh, w₃, rfl, hsecond, rfl⟩
    | error e => exact .inl (hsecond.trans (w₃.drifts_note _))

/-- How a statement on a handle can go: its session is not lost, or it is lost and there is no other
one or the second attempt fails, or the second attempt succeeds and the lost session is retired. -/
theorem runWithRetry_course (x : Executor n) (w : World n) (h : Handle) (st : Statement)
    (internal : Bool) :
    let after := (x.runWithRetry w h st internal).2
    w.Drifts after ∨
      ∃ w₁, w.Drifts w₁ ∧
        ((w₁.reconnect x.manager h).2.Drifts after ∨
          ∃ fresh w₂, (w₁.reconnect x.manager h).1 = .ok fresh ∧
            (w₁.reconnect x.manager h).2.Drifts w₂ ∧ after = x.settle w₂ h fresh) := by
  intro after
  have hfirst := x.drifts_attempt w h st internal
  simp only [after]
  rw [runWithRetry]
  generalize x.attempt w h st internal = first at hfirst
  obtain ⟨r, w₁⟩ := first
  cases r with
  | ok t => exact .inl hfirst
  | error e =>
    simp only
    split
    · exact .inr ⟨w₁.note (.lostConnection e st.sql), hfirst.trans (w₁.drifts_note _),
        x.retry_course _ h st internal⟩
    · exact .inl (hfirst.trans (w₁.drifts_note _))

/-- A statement that is sent only once is one attempt at most. -/
theorem drifts_runOnce (x : Executor n) (w : World n) (st : Statement) :
    w.Drifts (x.runOnce w st).2 := by
  rw [runOnce]
  cases w.active x.manager with
  | error e => exact .refl w
  | ok h =>
    have hattempt := x.drifts_attempt w h st true
    simp only
    generalize x.attempt w h st true = attempted at hattempt
    obtain ⟨r, w'⟩ := attempted
    cases r with
    | ok t => exact hattempt
    | error e => exact hattempt.trans (w'.drifts_note _)

/-- A change of the schema is an internal statement or none. -/
theorem drifts_change (x : Executor n) (w : World n) (c : SchemaChange) :
    w.Drifts (x.change w c).2 := by
  rw [change]
  cases c.statement with
  | error e => exact .refl w
  | ok st => exact x.drifts_runOnce w st

end Executor

/-! ## Commands -/

namespace Command

open World (Drifts)

/-- How a command can go. -/
inductive Course (logQueries : Bool) (c : Command n) (w : World n) : World n → Prop
  | drift {w' : World n} (h : w.Drifts w') : Course logQueries c w w'
  | failClose {error : Option Error} (haction : c.action = .failClose error) :
    Course logQueries c w { w with server := { w.server with closeFailure := error } }
  | reconnect {name : String} {keepAs : Option String} {lost : Handle} {w' : World n}
    (haction : c.action = .reconnect name keepAs) (hname : w.handle? name = some lost)
    (hrest : (w.reconnect c.manager lost).2.Drifts w') : Course logQueries c w w'
  | disconnect {name : String} {h : Handle} (haction : c.action = .disconnect name)
    (hname : w.handle? name = some h) : Course logQueries c w (w.disconnect c.manager h).2
  | retire {name : String} {h : Handle} (haction : c.action = .retire name)
    (hname : w.handle? name = some h) : Course logQueries c w (w.retire c.manager h).2
  /-- A statement is run on the current handle. -/
  | run {h : Handle} (st : Statement) (internal : Bool)
    (hcurrent : (w.manager c.manager).current = some h) :
    Course logQueries c w (Executor.runWithRetry ⟨c.manager, logQueries⟩ w h st internal).2
  | runOn {name : String} {h : Handle} {st : Statement} {internal : Bool}
    (haction : c.action = .runOn name st internal) (hname : w.handle? name = some h) :
    Course logQueries c w (Executor.runWithRetry ⟨c.manager, logQueries⟩ w h st internal).2

variable {c : Command n} {w : World n} {logQueries : Bool}

/-- What is done with a kept handle, if there is one of that name. -/
theorem course_withHandle {name : String} {f : Handle → CommandResult × World n}
    (hf : ∀ h, w.handle? name = some h → c.Course logQueries w (f h).2) :
    c.Course logQueries w (w.withHandle name f).2 := by
  rw [World.withHandle]
  cases hh : w.handle? name with
  | none => exact .drift (.refl w)
  | some h => exact hf h hh

/-- A statement on the current connection goes as one on its handle; without a connection nothing is
done. -/
theorem course_runWithOutcome (st : Statement) (internal : Bool) :
    c.Course logQueries w
      (Executor.runWithOutcome ⟨c.manager, logQueries⟩ w st internal).2 := by
  rw [Executor.runWithOutcome, World.active]
  cases hcurrent : (w.manager c.manager).current with
  | none => exact .drift (.refl w)
  | some h => exact .run st internal hcurrent

/-- **A command goes as `Course` tells.** -/
theorem course (logQueries : Bool) (c : Command n) (w : World n) :
    c.Course logQueries w (c.run logQueries w).2 := by
  obtain ⟨m, action⟩ := c
  have hsame : w.Drifts w := .refl w
  cases action with
  | connect config keepAs =>
    have hconnect := Drifts.of_operation (w := w) (.connect m config) rfl
    exact .drift (hconnect.trans (World.drifts_giveOut keepAs fun _ => World.current_connect))
  | active keepAs =>
    refine .drift (World.drifts_giveOut (r := (w.active m, w)) (m := m) keepAs fun h hh => ?_)
    simp only [World.active] at hh
    split at hh
    · next hcurrent => rw [hcurrent, ← Except.ok.inj hh]
    · cases hh
  | reconnect name keepAs =>
    refine course_withHandle fun h hh => .reconnect rfl hh ?_
    exact World.drifts_giveOut keepAs fun _ => World.current_reconnect
  | disconnect name => exact course_withHandle fun h hh => .disconnect rfl hh
  | retire name => exact course_withHandle fun h hh => .retire rfl hh
  | disconnectAll => exact .drift (.of_operation (.disconnectAll m) rfl)
  | forget name =>
    exact course_withHandle fun h hh => .drift (.of_operation (.forget name) rfl)
  | closeStale => exact .drift (.of_operation (.closeStale m []) rfl)
  | compare name other =>
    refine course_withHandle fun h hh => ?_
    exact course_withHandle (f := fun other => (.truth (h.same other), w)) fun _ _ => .drift hsame
  | describe => exact .drift hsame
  | push replies => exact .drift (.of_operation (.push replies) rfl)
  | refuse e => exact .drift (.of_operation (.refuse e) rfl)
  | failClose e => exact .failClose rfl
  | run st internal => exact course_runWithOutcome st internal
  | runOn name st internal => exact course_withHandle fun h hh => .runOn rfl hh
  | runOnce st => exact .drift (Executor.drifts_runOnce ⟨m, logQueries⟩ w st)
  | runWithOutcome st internal => exact course_runWithOutcome st internal
  | change change => exact .drift (Executor.drifts_change ⟨m, logQueries⟩ w change)
  | appliedVersions => exact .drift (Executor.drifts_runOnce ⟨m, logQueries⟩ w Ddl.appliedVersions)

/-- A statement is a sequence of operations. -/
theorem exists_operations_runWithRetry (x : Executor n) (w : World n) (h : Handle) (st : Statement)
    (internal : Bool) :
    ∃ ops : List (Operation n), w.after ops = (x.runWithRetry w h st internal).2 := by
  rcases x.runWithRetry_course w h st internal with ⟨ops, -, hops⟩ | ⟨w₁, ⟨first, -, rfl⟩, hrest⟩
  · exact ⟨ops, hops⟩
  rcases hrest with ⟨second, -, hsecond⟩ | ⟨fresh, w₂, -, ⟨second, -, rfl⟩, hsettled⟩
  · refine ⟨first ++ .reconnect x.manager h :: second, ?_⟩
    rw [World.after_append, World.after_cons]
    exact hsecond
  · refine ⟨first ++ .reconnect x.manager h :: (second ++
      [.retire x.manager h, .closeStale x.manager [h, fresh]]), ?_⟩
    rw [World.after_append, World.after_cons, World.after_append, hsettled]
    rfl

/-- **A command is a sequence of operations.** -/
theorem exists_operations (logQueries : Bool) (c : Command n) (w : World n) :
    ∃ ops : List (Operation n), w.after ops = (c.run logQueries w).2 := by
  generalize hcourse : (c.run logQueries w).2 = after
  cases hcourse ▸ c.course logQueries w with
  | drift hdrift => exact hdrift.imp fun _ h => h.2
  | failClose haction => exact ⟨[.failClose _], rfl⟩
  | @reconnect _ _ lost _ haction hname hrest =>
    obtain ⟨ops, -, hops⟩ := hrest
    exact ⟨.reconnect c.manager lost :: ops, hops⟩
  | @disconnect _ h => exact ⟨[.disconnect c.manager h], rfl⟩
  | @retire _ h => exact ⟨[.retire c.manager h], rfl⟩
  | run st internal => exact exists_operations_runWithRetry _ w _ st internal
  | runOn => exact exists_operations_runWithRetry _ w _ _ _

/-- A script of commands is a list of operations. -/
theorem exists_operations_runAll (logQueries : Bool) (cs : List (Command n)) (w : World n) :
    ∃ ops : List (Operation n), w.after ops = runAll logQueries cs w := by
  induction cs generalizing w with
  | nil => exact ⟨[], rfl⟩
  | cons c cs ih =>
    obtain ⟨first, hfirst⟩ := c.exists_operations logQueries w
    obtain ⟨rest, hrest⟩ := ih (c.run logQueries w).2
    refine ⟨first ++ rest, ?_⟩
    rw [World.after_append, hfirst, hrest]
    rfl

end Command

end SqlBridge
