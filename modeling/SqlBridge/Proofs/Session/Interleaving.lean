import SqlBridge.Proofs.Session.World
import SqlBridge.Session.Executor

/-!
# Calls side by side

Calls that run at the same time on one executor take turns at the points where each of them waits.
`Phase` is where a call stands at such a point, with the handles that it holds, `Executor.advance`
is what it does until the next one, and a schedule says whose turn it is (`Traffic.run`). Each turn
is a part of what `Executor.runWithOutcome` does in one go: a call that is left alone comes to the
same result in the same world (`Traffic.run_alone`).
-/

namespace SqlBridge

variable {n k : Nat}

/-- Where a call stands. -/
inductive Phase where
  /-- Before it takes the current handle. -/
  | waiting
  /-- Before the first attempt on a handle. -/
  | holding (h : Handle)
  /-- Behind the first attempt, before the answer arrives. -/
  | asked (h : Handle) (a : Answer)
  /-- The session of the handle is lost. -/
  | lost (h : Handle)
  /-- Before a session is opened with the remembered settings. -/
  | opening (h : Handle) (config : ConnectionConfig)
  /-- Before the new session takes the place of the lost one. -/
  | opened (h fresh : Handle)
  /-- Before the second attempt, on the new session. -/
  | installed (h fresh : Handle)
  | resent (h fresh : Handle) (a : Answer)
  /-- The second attempt succeeded. -/
  | recovered (h fresh : Handle) (t : Table)
  /-- The lost handle does not wait any more; before its session is closed. -/
  | unqueued (h fresh : Handle) (t : Table)
  /-- Before the queue is swept. -/
  | retired (h fresh : Handle) (t : Table)
  /-- While the idle handles of the queue are closed one by one. -/
  | sweeping (h fresh : Handle) (idle : List Handle) (t : Table)
  | finished (r : Except Error (RetryOutcome Table))

namespace Phase

/-- The handles that a call holds. -/
def held : Phase → List Handle
  | waiting => []
  | holding h => [h]
  | asked h _ => [h]
  | lost h => [h]
  | opening h _ => [h]
  | opened h fresh => [h, fresh]
  | installed h fresh => [h, fresh]
  | resent h fresh _ => [h, fresh]
  | recovered h fresh _ => [h, fresh]
  | unqueued h fresh _ => [h, fresh]
  | retired h fresh _ => [h, fresh]
  | sweeping h fresh idle _ => h :: fresh :: idle
  | finished _ => []

/-- Those of them that nobody else knows: a session that was opened and is not installed yet, and
the idle handles of a sweep. -/
def own : Phase → List Handle
  | opened _ fresh => [fresh]
  | sweeping _ _ idle _ => idle
  | _ => []

/-- The handle whose session is closed next. -/
def closes : Phase → Option Handle
  | unqueued h _ _ => some h
  | sweeping _ _ (g :: _) _ => some g
  | _ => none

end Phase

/-! ## Turns -/

namespace Executor

/-- What becomes of an answer to an attempt. -/
def conclude (x : Executor n) (w : World n) (st : Statement) (internal : Bool) (a : Answer) :
    Except Error Table × World n :=
  match st.kind.shape a with
  | .error e => (.error e, w)
  | .ok t => (.ok t, if x.logQueries && !internal then w.note (.finished st.sql) else w)

/-- An attempt is sent and its answer concluded. -/
theorem attempt_eq (x : Executor n) (w : World n) (h : Handle) (st : Statement) (internal : Bool) :
    x.attempt w h st internal =
      let sent := w.send h.session st.kind.verb st.sql
      x.conclude sent.2 st internal sent.1 := rfl

/-- What a call does until it waits again, with the handles that the others hold. -/
def advance (x : Executor n) (st : Statement) (internal : Bool) (others : List Handle)
    (w : World n) : Phase → Phase × World n
  | .waiting =>
    match w.active x.manager with
    | .error e => (.finished (.error e), w)
    | .ok h => (.holding h, w)
  | .holding h =>
    let (answer, w) := w.send h.session st.kind.verb st.sql
    (.asked h answer, w)
  | .asked h a =>
    match x.conclude w st internal a with
    | (.ok t, w) => (.finished (.ok (.success t)), w)
    | (.error e, w) =>
      if e.isRetryable then (.lost h, w.note (.lostConnection e st.sql))
      else (.finished (.error e), w.note (.queryFailed e st.sql))
  | .lost h =>
    match (w.manager x.manager).config with
    | none =>
      let e : Error := .notConnected .neverConnected
      (.finished (.ok (.exhausted e)), w.note (.reconnectFailed e))
    | some config => (.opening h config, w.note (.reconnecting Server.driverName h.id))
  | .opening h config =>
    match w.openHandle x.manager config with
    | (.error e, w) => (.finished (.ok (.exhausted e)), w.note (.reconnectFailed e))
    | (.ok fresh, w) => (.opened h fresh, w)
  | .opened h fresh => (.installed h fresh, w.update x.manager fun m => m.adopt h fresh)
  | .installed h fresh =>
    let (answer, w) := w.send fresh.session st.kind.verb st.sql
    (.resent h fresh answer, w)
  | .resent h fresh a =>
    match x.conclude w st internal a with
    | (.ok t, w) => (.recovered h fresh t, w)
    | (.error e, w) => (.finished (.ok (.exhausted e)), w.note (.retryFailed e st.sql))
  | .recovered h fresh t => (.unqueued h fresh t, w.update x.manager fun m => m.unqueue h)
  | .unqueued h fresh t => (.retired h fresh t, (w.close h).2)
  | .retired h fresh t =>
    let (idle, busy) := (w.manager x.manager).stale.partition (w.isIdle (others ++ [h, fresh]))
    (.sweeping h fresh idle t, w.update x.manager fun m => { m with stale := busy })
  | .sweeping _ _ [] t => (.finished (.ok (.retriedSuccess t)), w)
  | .sweeping h fresh (g :: idle) t => (.sweeping h fresh idle t, (w.close g).2)
  | .finished r => (.finished r, w)

/-- A call that holds a handle sends its first attempt there. -/
theorem advance_holding (x : Executor n) (st : Statement) (internal : Bool) (others : List Handle)
    (w : World n) (h : Handle) :
    x.advance st internal others w (.holding h) =
      (.asked h (w.send h.session st.kind.verb st.sql).1,
        (w.send h.session st.kind.verb st.sql).2) := rfl

/-- A call that has installed a session sends its second attempt there. -/
theorem advance_installed (x : Executor n) (st : Statement) (internal : Bool) (others : List Handle)
    (w : World n) (h fresh : Handle) :
    x.advance st internal others w (.installed h fresh) =
      (.resent h fresh (w.send fresh.session st.kind.verb st.sql).1,
        (w.send fresh.session st.kind.verb st.sql).2) := rfl

end Executor

/-- Calls that run side by side on one executor. -/
structure Traffic (n k : Nat) where
  world : World n
  phase : Fin k → Phase

namespace Traffic

/-- Before any of the calls has begun. -/
def start (w : World n) : Traffic n k := ⟨w, fun _ => .waiting⟩

/-- The handles that the other calls hold. -/
def others (t : Traffic n k) (i : Fin k) : List Handle :=
  (List.finRange k).flatMap fun j => if j = i then [] else (t.phase j).held

/-- A call stands elsewhere, in another world. -/
def put (t : Traffic n k) (i : Fin k) (w : World n) (p : Phase) : Traffic n k :=
  ⟨w, fun j => if j = i then p else t.phase j⟩

/-- One turn of a call. -/
def step (x : Executor n) (calls : Fin k → Statement × Bool) (t : Traffic n k) (i : Fin k) :
    Traffic n k :=
  let turn := x.advance (calls i).1 (calls i).2 (t.others i) t.world (t.phase i)
  t.put i turn.2 turn.1

/-- The turns of a schedule in order. -/
def run (x : Executor n) (calls : Fin k → Statement × Bool) (t : Traffic n k)
    (schedule : List (Fin k)) : Traffic n k :=
  schedule.foldl (step x calls) t

variable {x : Executor n} {calls : Fin k → Statement × Bool} {t : Traffic n k} {i j : Fin k}

@[simp] theorem run_nil : t.run x calls [] = t := rfl

@[simp] theorem run_cons (schedule : List (Fin k)) :
    t.run x calls (i :: schedule) = (t.step x calls i).run x calls schedule := rfl

/-- A schedule in two parts is run one after the other. -/
theorem run_append (before behind : List (Fin k)) :
    t.run x calls (before ++ behind) = (t.run x calls before).run x calls behind :=
  List.foldl_append

@[simp] theorem phase_put_self (w : World n) (p : Phase) : (t.put i w p).phase i = p := by
  simp [put]

/-- The turn of a call leaves the other calls where they stand. -/
theorem phase_put_of_ne (w : World n) (p : Phase) (h : j ≠ i) :
    (t.put i w p).phase j = t.phase j := by simp [put, h]

/-- Of two turns of one call put behind each other the later one shows. -/
theorem put_put (w w' : World n) (p p' : Phase) :
    (t.put i w p).put i w' p' = t.put i w' p' := by
  rw [put, put, put]
  congr 1
  funext j
  by_cases h : j = i <;> simp [h]

/-- In its turn a call advances, with what the others hold. -/
theorem phase_step_self : (t.step x calls i).phase i =
    (x.advance (calls i).1 (calls i).2 (t.others i) t.world (t.phase i)).1 :=
  phase_put_self ..

/-- In the turn of one call no other one moves. -/
theorem phase_step_of_ne (h : j ≠ i) : (t.step x calls i).phase j = t.phase j :=
  phase_put_of_ne _ _ h

/-- What the others hold is held by one of them. -/
theorem mem_others {h : Handle} : h ∈ t.others i ↔ ∃ j, j ≠ i ∧ h ∈ (t.phase j).held := by
  rw [others, List.mem_flatMap]
  constructor
  · rintro ⟨j, -, hj⟩
    by_cases heq : j = i
    · rw [if_pos heq] at hj
      cases hj
    · rw [if_neg heq] at hj
      exact ⟨j, heq, hj⟩
  · rintro ⟨j, heq, hj⟩
    refine ⟨j, List.mem_finRange j, ?_⟩
    rw [if_neg heq]
    exact hj

/-! ## A call that is left alone -/

/-- One call stands somewhere, and the others have not begun. -/
def alone (i : Fin k) (p : Phase) (w : World n) : Traffic n k := (start w).put i w p

/-- A call that is alone has no others. -/
theorem others_alone (p : Phase) (w : World n) : (alone i p w).others i = [] := by
  rw [others, List.flatMap_eq_nil_iff]
  intro j _
  by_cases h : j = i
  · rw [if_pos h]
  · rw [if_neg h, alone, phase_put_of_ne w p h]
    rfl

/-- A call that is alone advances with nobody else holding a handle. -/
theorem step_alone (p : Phase) (w : World n) : (alone i p w).step x calls i =
    alone i (x.advance (calls i).1 (calls i).2 [] w p).1
      (x.advance (calls i).1 (calls i).2 [] w p).2 := by
  rw [step, others_alone, alone, phase_put_self, put_put]
  rfl

/-- Turns of a call that is left alone lead from one place and world to others. -/
def Leads (x : Executor n) (calls : Fin k → Statement × Bool) (i : Fin k) (p : Phase) (w : World n)
    (p' : Phase) (w' : World n) : Prop :=
  ∃ turns, (alone i p w).run x calls (List.replicate turns i) = alone i p' w'

namespace Leads

variable {p p' p'' : Phase} {w w' w'' : World n}

/-- A call leads to where it stands without a turn. -/
theorem refl (p : Phase) (w : World n) : Leads x calls i p w p w := ⟨0, rfl⟩

/-- A call leads to where it comes by one turn and whatever that leads to. -/
theorem head (hturn : x.advance (calls i).1 (calls i).2 [] w p = (p', w'))
    (h : Leads x calls i p' w' p'' w'') : Leads x calls i p w p'' w'' := by
  obtain ⟨turns, hrun⟩ := h
  refine ⟨turns + 1, ?_⟩
  rw [List.replicate_succ, run_cons, step_alone, hturn]
  exact hrun

/-- A sweep closes the idle handles in order. -/
theorem sweep (h fresh : Handle) (idle : List Handle) (table : Table) (w : World n) :
    Leads x calls i (.sweeping h fresh idle table) w (.finished (.ok (.retriedSuccess table)))
      (w.closeEach idle) := by
  induction idle generalizing w with
  | nil => exact .head rfl (.refl _ _)
  | cons g idle ih => exact .head rfl (ih (w.close g).2)

/-- A second attempt that succeeded is followed by the clearing up. -/
theorem settle (h fresh : Handle) (table : Table) (w : World n) :
    Leads x calls i (.recovered h fresh table) w (.finished (.ok (.retriedSuccess table)))
      (x.settle w h fresh) := by
  refine .head rfl (.head rfl (.head rfl ?_))
  exact sweep h fresh _ table _

/-- From where its session is lost, a call does what it does in one go. -/
theorem retry (h : Handle) (w : World n) :
    Leads x calls i (.lost h) w (.finished (x.retry w h (calls i).1 (calls i).2).1)
      (x.retry w h (calls i).1 (calls i).2).2 := by
  rw [Executor.retry, World.reconnect, World.reopen]
  cases hconfig : (w.manager x.manager).config with
  | none => exact .head (by simp [Executor.advance, hconfig]) (.refl _ _)
  | some config =>
    have hturn : x.advance (calls i).1 (calls i).2 [] w (.lost h) =
        (.opening h config, w.note (.reconnecting Server.driverName h.id)) := by
      simp [Executor.advance, hconfig]
    refine .head hturn ?_
    generalize w.note (.reconnecting Server.driverName h.id) = w
    simp only
    cases hopen : w.openHandle x.manager config with
    | mk result w₁ =>
    cases result with
    | error e => exact .head (by simp [Executor.advance, hopen]) (.refl _ _)
    | ok fresh =>
      have hturn : x.advance (calls i).1 (calls i).2 [] w (.opening h config) =
          (.opened h fresh, w₁) := by simp [Executor.advance, hopen]
      refine .head hturn (.head rfl (.head (x.advance_installed ..) ?_))
      simp only [Executor.attempt_eq]
      generalize World.send _ _ _ _ = sent
      cases hsecond : x.conclude sent.2 (calls i).1 (calls i).2 sent.1 with
      | mk result w₂ =>
      cases result with
      | error e => exact .head (by simp [Executor.advance, hsecond]) (.refl _ _)
      | ok t => exact .head (by simp [Executor.advance, hsecond]) (settle h fresh t w₂)

/-- From the first attempt on, a call does what it does in one go. -/
theorem runWithRetry (h : Handle) (w : World n) :
    Leads x calls i (.holding h) w (.finished (x.runWithRetry w h (calls i).1 (calls i).2).1)
      (x.runWithRetry w h (calls i).1 (calls i).2).2 := by
  refine .head (x.advance_holding ..) ?_
  rw [Executor.runWithRetry, Executor.attempt_eq]
  generalize World.send _ _ _ _ = sent
  cases hfirst : x.conclude sent.2 (calls i).1 (calls i).2 sent.1 with
  | mk result w₁ =>
  cases result with
  | ok t => exact .head (by simp [Executor.advance, hfirst]) (.refl _ _)
  | error e =>
    cases he : e.isRetryable with
    | false => exact .head (by simp [Executor.advance, hfirst, he]) (.refl _ _)
    | true =>
      have hturn : x.advance (calls i).1 (calls i).2 [] sent.2 (.asked h sent.1) =
          (.lost h, w₁.note (.lostConnection e (calls i).1.sql)) := by
        simp [Executor.advance, hfirst, he]
      simp only [he, if_true]
      exact .head hturn (retry h _)

end Leads

/-- **A call that is left alone comes to the result of its run in one go**, in the same world. -/
theorem run_alone (x : Executor n) (calls : Fin k → Statement × Bool) (w : World n) (i : Fin k) :
    ∃ turns, (start w).run x calls (List.replicate turns i) =
      alone i (.finished (x.runWithOutcome w (calls i).1 (calls i).2).1)
        (x.runWithOutcome w (calls i).1 (calls i).2).2 := by
  have hstart : (start w : Traffic n k) = alone i .waiting w := by simp [start, alone, put]
  rw [hstart]
  change Leads x calls i _ _ _ _
  rw [Executor.runWithOutcome]
  cases hactive : w.active x.manager with
  | error e =>
    refine .head ?_ (.refl _ _)
    simp [Executor.advance, hactive]
  | ok h =>
    refine .head ?_ (Leads.runWithRetry h w)
    simp [Executor.advance, hactive]

end Traffic

end SqlBridge
