import SqlBridge.Session.Server
import SqlBridge.Session.Log

/-!
# Connection managers

A manager keeps one current session and a queue of stale ones, which were replaced and still
have to be closed. It gives out handles, numbered from one, and compares them by number alone.
A session that is replaced is not closed at once, since others may hold its handle: it waits
in the queue until it is retired or until nobody else refers to it.

`Manager` holds what one manager remembers, with the handles that it has given out, and how
that changes. `World` puts a server and its managers together with the handles that callers
keep by name and with the log; its operations are those of a manager, each with the manager's
number.
-/

namespace SqlBridge

/-- A reference to a session, with the number that its manager gave it. -/
structure Handle where
  id : Nat
  session : SessionId
  deriving DecidableEq, Repr, Inhabited

/-- Handles are compared by their numbers. -/
def Handle.same (a b : Handle) : Bool := a.id == b.id

/-- What a manager remembers. -/
structure Manager where
  current : Option Handle
  stale : List Handle
  /-- The settings of the last connection. -/
  config : Option ConnectionConfig
  /-- A connection has been opened. -/
  opened : Bool
  /-- The number of the next handle. -/
  nextId : Nat
  /-- The handles given out, in the order of their numbers. -/
  issued : List Handle

namespace Manager

/-- A manager before its first connection. -/
def fresh : Manager := ⟨none, [], none, false, 1, []⟩

/-- Gives a handle out. -/
def issue (m : Manager) (h : Handle) : Manager :=
  { m with nextId := m.nextId + 1, issued := m.issued ++ [h] }

/-- The handle waits in the queue. -/
def isQueued (m : Manager) (h : Handle) : Bool := m.stale.any h.same

/-- Queues a handle at the end. -/
def queue (m : Manager) (h : Handle) : Manager := { m with stale := m.stale ++ [h] }

/-- Queues a handle unless it waits already. -/
def queueOnce (m : Manager) (h : Handle) : Manager := if m.isQueued h then m else m.queue h

/-- Takes a handle out of the queue. -/
def unqueue (m : Manager) (h : Handle) : Manager :=
  { m with stale := m.stale.filter fun x => !x.same h }

/-- Makes a new connection the current one and remembers its settings; the one before it
waits to be closed. -/
def install (m : Manager) (h : Handle) (config : ConnectionConfig) : Manager :=
  let m := match m.current with | some previous => m.queue previous | none => m
  { m with current := some h, config := some config, opened := true }

/-- Makes a new connection the current one in the place of a lost one. The lost one waits to
be closed, and so does the current one if another task has replaced the lost one before. -/
def adopt (m : Manager) (lost h : Handle) : Manager :=
  let queued := m.queueOnce lost
  let m :=
    match m.current with
    | some previous => if previous.same lost then queued else queued.queueOnce previous
    | none => queued
  { m with current := some h }

/-- Gives a handle up, current or queued. -/
def release (m : Manager) (h : Handle) : Manager :=
  let m := m.unqueue h
  match m.current with
  | some c => if c.same h then { m with current := none } else m
  | none => m

/-- Gives all handles up. -/
def releaseAll (m : Manager) : Manager := { m with current := none, stale := [] }

/-- All handles that the manager keeps. -/
def handles (m : Manager) : List Handle := m.current.toList ++ m.stale

end Manager

/-- A server, its managers, the handles that callers keep, and the log. -/
structure World (n : Nat) where
  server : Server n
  managers : Vector Manager n
  /-- The handles that callers keep, by name. -/
  names : Named Handle
  log : List LogEvent

namespace World

variable {n : Nat}

/-- Before the first connection. -/
def fresh (replies : List (Reply n)) : World n :=
  ⟨.fresh replies, .replicate n .fresh, .empty, []⟩

/-- What one manager remembers. -/
def manager (w : World n) (m : Fin n) : Manager := w.managers[m]

/-- Changes one manager. -/
def update (w : World n) (m : Fin n) (change : Manager → Manager) : World n :=
  { w with managers := w.managers.set m (change (w.manager m)) }

/-- Logs an event. -/
def note (w : World n) (e : LogEvent) : World n := { w with log := w.log ++ [e] }

@[simp] theorem manager_fresh (replies : List (Reply n)) (m : Fin n) :
    (World.fresh replies).manager m = .fresh := by simp [manager, World.fresh]

@[simp] theorem manager_update_self (w : World n) (m : Fin n) (change : Manager → Manager) :
    (w.update m change).manager m = change (w.manager m) := by simp [manager, update]

@[simp] theorem manager_update_of_ne (w : World n) {m k : Fin n} (change : Manager → Manager)
    (h : k ≠ m) : (w.update m change).manager k = w.manager k := by
  have h' : (m : Nat) ≠ k := fun e => h (Fin.ext e.symm)
  simp [manager, update, Vector.getElem_set_ne _ _ h']

@[simp] theorem server_update (w : World n) (m : Fin n) (change : Manager → Manager) :
    (w.update m change).server = w.server := rfl

@[simp] theorem server_note (w : World n) (e : LogEvent) : (w.note e).server = w.server := rfl

@[simp] theorem manager_note (w : World n) (e : LogEvent) (m : Fin n) :
    (w.note e).manager m = w.manager m := rfl

/-! ## Sessions -/

/-- Opens a session and gives it the manager's next number. -/
def openHandle (w : World n) (m : Fin n) (config : ConnectionConfig) :
    Except Error Handle × World n :=
  match w.server.openSession config with
  | (.error e, server) => (.error e, { w with server })
  | (.ok session, server) =>
    let h : Handle := ⟨(w.manager m).nextId, session⟩
    (.ok h, { w with server }.update m fun k => k.issue h)

/-- Closes the session of a handle. -/
def close (w : World n) (h : Handle) : Except Error Unit × World n :=
  match w.server.close h.session with
  | (r, server) => (r, { w with server })

/-- Closes the sessions of handles in order, whatever becomes of each. -/
def closeEach (w : World n) (handles : List Handle) : World n :=
  handles.foldl (fun w h => (w.close h).2) w

/-- The session of the handle was closed. -/
def isClosed (w : World n) (h : Handle) : Bool := w.server.isClosed h.session

/-! ## Operations of a manager -/

/-- Opens a session with new settings and makes it the current one. -/
def connect (w : World n) (m : Fin n) (config : ConnectionConfig) :
    Except Error Handle × World n :=
  match config.validate with
  | .error e => (.error e, w)
  | .ok _ =>
    match w.openHandle m config with
    | (.error e, w) => (.error e, w)
    | (.ok h, w) =>
      (.ok h, (w.note (.connected Server.driverName config.url h.id)).update m fun k =>
        k.install h config)

/-- The current handle. -/
def active (w : World n) (m : Fin n) : Except Error Handle :=
  match (w.manager m).current with
  | some h => .ok h
  | none => .error (.notConnected .noneActive)

/-- Gives a handle up and closes its session. -/
def disconnect (w : World n) (m : Fin n) (h : Handle) : Except Error Unit × World n :=
  if (w.manager m).opened then (w.update m fun k => k.release h).close h
  else (.error (.notConnected .neverOpened), w)

/-- Opens a session with the remembered settings for a handle that was lost. -/
def reopen (w : World n) (m : Fin n) (lost : Handle) : Except Error Handle × World n :=
  match (w.manager m).config with
  | none => (.error (.notConnected .neverConnected), w)
  | some config => (w.note (.reconnecting Server.driverName lost.id)).openHandle m config

/-- Opens a session in the place of a lost one and makes it the current one. -/
def reconnect (w : World n) (m : Fin n) (lost : Handle) : Except Error Handle × World n :=
  match w.reopen m lost with
  | (.error e, w) => (.error e, w)
  | (.ok h, w) => (.ok h, w.update m fun k => k.adopt lost h)

/-- Takes a handle out of the queue and closes its session. -/
def retire (w : World n) (m : Fin n) (h : Handle) : Except Error Unit × World n :=
  (w.update m fun k => k.unqueue h).close h

/-- All handles that managers keep or callers have by name. -/
def keptHandles (w : World n) : List Handle :=
  (List.finRange n).flatMap (fun m => (w.manager m).handles) ++ w.names.values

/-- How many references there are to a session, those of a call in progress included. -/
def references (w : World n) (held : List Handle) (session : SessionId) : Nat :=
  ((held ++ w.keptHandles).filter fun h => h.session == session).length

/-- Closes the queued sessions to which there is no reference but the one in the queue. -/
def closeStale (w : World n) (m : Fin n) (held : List Handle) : Nat × World n :=
  let (idle, busy) := (w.manager m).stale.partition fun h => w.references held h.session == 1
  (idle.length, (w.update m fun k => { k with stale := busy }).closeEach idle)

/-- Closes the current session and all queued ones. Only a failure to close the current one is
reported. -/
def disconnectAll (w : World n) (m : Fin n) : Except Error Unit × World n :=
  let manager := w.manager m
  let w := (w.update m Manager.releaseAll).closeEach manager.stale
  match manager.current with
  | some h => w.close h
  | none => (.ok (), w)

/-! ## Statements -/

/-- Does what another task does. -/
def interrupt (w : World n) : Interruption n → World n
  | .connect m config => (w.connect m config).2
  | .disconnectAll m => (w.disconnectAll m).2
  | .refuse error => { w with server := { w.server with refusal := error } }

/-- Sends a statement and waits for the answer, while others go on. -/
def send (w : World n) (session : SessionId) (verb : Verb) (sql : String) : Answer × World n :=
  match w.server.receive ⟨session, verb, sql⟩ with
  | (reply, server) => (reply.answer, reply.meanwhile.foldl interrupt { w with server })

end World

end SqlBridge
