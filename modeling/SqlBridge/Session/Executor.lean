import SqlBridge.Session.Manager
import SqlBridge.Retry
import SqlBridge.Query.Select

/-!
# Running statements

An executor sends statements to the current session of a manager and gives the answer the
shape that belongs to the kind of statement. When the session turns out to be lost, it
reconnects and sends the statement once more, never a third time; after that the lost session
is closed, and with it the queued ones that nobody needs. Internal statements of the library
are not logged, and those that are sent only once do not reconnect.
-/

namespace SqlBridge

/-- Sends statements over a manager. -/
structure Executor (n : Nat) where
  manager : Fin n
  /-- Statements of the user are logged when they succeed. -/
  logQueries : Bool

/-- How the answer to a kind of statement is wanted. -/
def StatementKind.verb : StatementKind → Verb
  | select => .query
  | _ => .execute

/-- The table for the answer to a kind of statement. -/
def StatementKind.shape (kind : StatementKind) (a : Answer) : Except Error Table :=
  match kind with
  | select => Table.ofRowSet <$> a.toRows
  | insert => (fun e => Table.inserted e.insertId) <$> a.toEffect
  | _ => (fun e => Table.status e.affected) <$> a.toEffect

namespace Executor

variable {n : Nat}

/-- Sends a statement on a handle once. -/
def attempt (x : Executor n) (w : World n) (h : Handle) (st : Statement) (internal : Bool) :
    Except Error Table × World n :=
  let (answer, w) := w.send h.session st.kind.verb st.sql
  match st.kind.shape answer with
  | .error e => (.error e, w)
  | .ok t => (.ok t, if x.logQueries && !internal then w.note (.finished st.sql) else w)

/-- Clears up after a second attempt that succeeded. -/
def settle (x : Executor n) (w : World n) (lost fresh : Handle) : World n :=
  let (_, w) := w.retire x.manager lost
  (w.closeStale x.manager [lost, fresh]).2

/-- Goes on when the session of the first attempt is lost: reconnects and sends the statement on the
fresh handle. -/
def retry (x : Executor n) (w : World n) (h : Handle) (st : Statement) (internal : Bool) :
    Except Error (RetryOutcome Table) × World n :=
  match w.reconnect x.manager h with
  | (.error e, w) => (.ok (.exhausted e), w.note (.reconnectFailed e))
  | (.ok fresh, w) =>
    match x.attempt w fresh st internal with
    | (.ok t, w) => (.ok (.retriedSuccess t), x.settle w h fresh)
    | (.error e, w) => (.ok (.exhausted e), w.note (.retryFailed e st.sql))

/-- Sends a statement on a handle, and once more on a fresh one if the session is lost. -/
def runWithRetry (x : Executor n) (w : World n) (h : Handle) (st : Statement)
    (internal : Bool) : Except Error (RetryOutcome Table) × World n :=
  match x.attempt w h st internal with
  | (.ok t, w) => (.ok (.success t), w)
  | (.error e, w) =>
    if e.isRetryable then x.retry (w.note (.lostConnection e st.sql)) h st internal
    else (.error e, w.note (.queryFailed e st.sql))

/-- Runs a statement on the current connection and tells how that went. -/
def runWithOutcome (x : Executor n) (w : World n) (st : Statement) (internal : Bool) :
    Except Error (RetryOutcome Table) × World n :=
  match w.active x.manager with
  | .error e => (.error e, w)
  | .ok h => x.runWithRetry w h st internal

/-- An outcome as a plain result. -/
def plainResult (r : Except Error (RetryOutcome Table)) : Except Error Table :=
  r.bind RetryOutcome.toExcept

/-- Runs a statement on the current connection. -/
def run (x : Executor n) (w : World n) (st : Statement) (internal : Bool) :
    Except Error Table × World n :=
  let (r, w) := x.runWithOutcome w st internal
  (plainResult r, w)

/-- Runs a statement on a handle. -/
def runOn (x : Executor n) (w : World n) (h : Handle) (st : Statement) (internal : Bool) :
    Except Error Table × World n :=
  let (r, w) := x.runWithRetry w h st internal
  (plainResult r, w)

/-- Runs text of unknown kind on the current connection. -/
def runSql (x : Executor n) (w : World n) (sql : String) (internal : Bool) :
    Except Error Table × World n :=
  x.run w (.classify sql) internal

/-- Runs an internal statement once on the current connection. -/
def runOnce (x : Executor n) (w : World n) (st : Statement) : Except Error Table × World n :=
  match w.active x.manager with
  | .error e => (.error e, w)
  | .ok h =>
    match x.attempt w h st true with
    | (.ok t, w) => (.ok t, w)
    | (.error e, w) => (.error e, w.note (.internalFailed e st.sql))

end Executor

end SqlBridge
