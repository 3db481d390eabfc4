import SqlBridge.Error

/-!
# What the session layer logs

An entry is the event that it reports; its level and its wording follow from that. The time
that a statement took is not part of the event: in the wording a placeholder stands for it.
-/

namespace SqlBridge

/-- How much an entry matters. -/
inductive LogLevel where
  | info
  | warn
  | error
  deriving DecidableEq, Repr

/-- The name of a level. -/
def LogLevel.name : LogLevel → String
  | info => "INFO"
  | warn => "WARN"
  | error => "ERROR"

/-- What happened. -/
inductive LogEvent where
  /-- A session was opened for the user of the manager. -/
  | connected (driver url : String) (handle : Nat)
  /-- A session is about to be opened in the place of a lost one. -/
  | reconnecting (driver : String) (handle : Nat)
  /-- The first attempt at a statement lost its session. -/
  | lostConnection (error : Error) (sql : String)
  /-- The first attempt failed for another reason. -/
  | queryFailed (error : Error) (sql : String)
  /-- There is no session for a second attempt. -/
  | reconnectFailed (error : Error)
  /-- The second attempt failed. -/
  | retryFailed (error : Error) (sql : String)
  /-- The only attempt at an internal statement failed. -/
  | internalFailed (error : Error) (sql : String)
  /-- A statement of the user succeeded. -/
  | finished (sql : String)
  deriving DecidableEq, Repr

namespace LogEvent

/-- The level of an event. -/
def level : LogEvent → LogLevel
  | connected .. => .info
  | reconnecting .. => .warn
  | lostConnection .. => .warn
  | queryFailed .. => .error
  | reconnectFailed _ => .error
  | retryFailed .. => .error
  | internalFailed .. => .error
  | finished _ => .info

/-- The wording of an event. -/
def message : LogEvent → String
  | connected driver url handle =>
    "Connected to " ++ driver ++ " (" ++ url ++ ") as handle " ++ toString handle
  | reconnecting driver handle =>
    "Reconnecting to " ++ driver ++ " after losing handle " ++ toString handle
  | lostConnection e sql =>
    "Lost connection while running query (" ++ e.message ++ "), retrying once [" ++ sql ++ "]"
  | queryFailed e sql => "Query failed: " ++ e.message ++ " [" ++ sql ++ "]"
  | reconnectFailed e => "Reconnect failed: " ++ e.message
  | retryFailed e sql => "Query failed after reconnect: " ++ e.message ++ " [" ++ sql ++ "]"
  | internalFailed e sql => "Internal statement failed: " ++ e.message ++ " [" ++ sql ++ "]"
  | finished sql => sql ++ " in <elapsed>"

end LogEvent

end SqlBridge
