import SqlBridge.Config
import SqlBridge.Table

/-!
# A server that follows a script

The server of a session is known by what it does: it opens sessions or refuses to, answers the
statements sent to it, and closes sessions or fails to. This one takes its answers from a
script, and a reply of the script also says what other tasks do while the sender waits for it.

Sessions are numbered from one in the order in which they are opened. A closed session still
answers. When the script has come to its end, or gives the wrong kind of answer, the answer is
an empty one.
-/

namespace SqlBridge

/-- The number of a session. -/
abbrev SessionId := Nat

/-- The two ways to send a statement. -/
inductive Verb where
  /-- Rows are wanted. -/
  | query
  /-- The effect is wanted. -/
  | execute
  deriving DecidableEq, Repr

/-- The name of a way to send. -/
def Verb.name : Verb → String
  | query => "query"
  | execute => "execute"

/-- A statement as a server received it. -/
structure Sent where
  session : SessionId
  verb : Verb
  sql : String
  deriving DecidableEq, Repr

/-- What a statement changed. -/
structure Effect where
  affected : UInt64
  insertId : Option UInt64
  deriving DecidableEq, Repr

/-- An answer of a server. -/
inductive Answer where
  | fail (error : Error)
  | rows (r : RowSet)
  | done (e : Effect)

/-- The answer to a statement that wants rows. -/
def Answer.toRows : Answer → Except Error RowSet
  | fail e => .error e
  | rows r => .ok r
  | done _ => .ok ⟨[], []⟩

/-- The answer to a statement that wants an effect. -/
def Answer.toEffect : Answer → Except Error Effect
  | fail e => .error e
  | done e => .ok e
  | rows _ => .ok ⟨0, none⟩

/-- What another task does in the meantime; managers are known by their numbers below `n`. -/
inductive Interruption (n : Nat) where
  | connect (manager : Fin n) (config : ConnectionConfig)
  | disconnectAll (manager : Fin n)
  | refuse (error : Option Error)

/-- A reply of the script. -/
structure Reply (n : Nat) where
  answer : Answer
  /-- What happens before the answer arrives. -/
  meanwhile : List (Interruption n)

/-- The state of a server. -/
structure Server (n : Nat) where
  /-- The replies that are left. -/
  replies : List (Reply n)
  /-- Why sessions are refused at present. -/
  refusal : Option Error
  /-- Why sessions cannot be closed at present. -/
  closeFailure : Option Error
  /-- The settings with which sessions were asked for, refused ones included. -/
  requests : List ConnectionConfig
  /-- The number of sessions opened. -/
  opened : Nat
  /-- The sessions closed, in the order of closing. -/
  closed : List SessionId
  /-- The statements received. -/
  sent : List Sent

namespace Server

variable {n : Nat}

/-- A server before its first session. -/
def fresh (replies : List (Reply n)) : Server n := ⟨replies, none, none, [], 0, [], []⟩

/-- The name of the driver that reaches this server. -/
def driverName : String := "scripted"

/-- The session was closed. -/
def isClosed (s : Server n) (id : SessionId) : Bool := s.closed.contains id

/-- Opens a session, unless sessions are refused. -/
def openSession (s : Server n) (config : ConnectionConfig) : Except Error SessionId × Server n :=
  let s := { s with requests := s.requests ++ [config] }
  match s.refusal with
  | some e => (.error e, s)
  | none => (.ok (s.opened + 1), { s with opened := s.opened + 1 })

/-- Closes a session; a second time changes nothing. -/
def close (s : Server n) (id : SessionId) : Except Error Unit × Server n :=
  match s.closeFailure with
  | some e => (.error e, s)
  | none => (.ok (), if s.isClosed id then s else { s with closed := s.closed ++ [id] })

/-- Receives a statement and takes the next reply. -/
def receive (s : Server n) (statement : Sent) : Reply n × Server n :=
  let s := { s with sent := s.sent ++ [statement] }
  match s.replies with
  | [] => (⟨.rows ⟨[], []⟩, []⟩, s)
  | reply :: rest => (reply, { s with replies := rest })

end Server

end SqlBridge
