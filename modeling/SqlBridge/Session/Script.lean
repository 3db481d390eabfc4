import SqlBridge.Session.Migration

/-!
# Scripts of commands

A script is a list of commands to the managers of one server, in the order in which one caller
gives them. Handles that a command returns may be kept under a name, which is a reference to
the session like any other; without a name a handle is let go at once. A command that names a
handle which is not kept does nothing. `Command.run` gives the result of a command and the
world after it, and `Entry` what can be seen of that from outside.
-/

namespace SqlBridge

/-- What a command is about. -/
inductive Action (n : Nat) where
  | connect (config : ConnectionConfig) (keepAs : Option String)
  | active (keepAs : Option String)
  | reconnect (handle : String) (keepAs : Option String)
  | disconnect (handle : String)
  | retire (handle : String)
  | disconnectAll
  /-- Lets a kept handle go. -/
  | forget (handle : String)
  | closeStale
  /-- Compares two kept handles. -/
  | compare (handle other : String)
  /-- Asks for the name of the driver. -/
  | describe
  | push (replies : List (Reply n))
  | refuse (error : Option Error)
  | failClose (error : Option Error)
  | run (st : Statement) (internal : Bool)
  | runOn (handle : String) (st : Statement) (internal : Bool)
  | runOnce (st : Statement)
  | runWithOutcome (st : Statement) (internal : Bool)
  | change (c : SchemaChange)
  | appliedVersions

/-- A command to one manager. -/
structure Command (n : Nat) where
  manager : Fin n
  action : Action n

/-- The result of a command. -/
inductive CommandResult where
  | handle (id : Nat) (closed : Bool)
  | nothing
  | count (k : Nat)
  | truth (b : Bool)
  | driver (name : String)
  | table (t : Table)
  | outcome (o : RetryOutcome Table)
  | versions (l : List String)
  | error (e : Error)
  /-- The command names a handle that is not kept. -/
  | noHandle

namespace CommandResult

/-- How a handle is printed. -/
def handleDescription (id : Nat) (closed : Bool) : String :=
  "ConnectionHandle \x7b id: " ++ toString id ++ ", closed: " ++
    (if closed then "true" else "false") ++ " \x7d"

/-- How a manager is printed. -/
def managerDescription (driver : String) : String :=
  "ConnectionManager \x7b driver: " ++ Text.quote driver ++ " \x7d"

/-- A result that is an error or shown by a function. -/
def ofExcept {α : Type} (f : α → CommandResult) : Except Error α → CommandResult
  | .ok a => f a
  | .error e => .error e

end CommandResult

namespace World

variable {n : Nat}

/-- A kept handle. -/
def handle? (w : World n) (name : String) : Option Handle := w.names.entries.lookup name

/-- Keeps a handle under a name. -/
def keep (w : World n) (keepAs : Option String) (h : Handle) : World n :=
  match keepAs with
  | some name => { w with names := w.names.insert name h }
  | none => w

/-- Returns a handle, kept under a name if one is given. -/
def giveOut (keepAs : Option String) : Except Error Handle × World n → CommandResult × World n
  | (.ok h, w) => (.handle h.id (w.isClosed h), w.keep keepAs h)
  | (.error e, w) => (.error e, w)

/-- Does something with a kept handle. -/
def withHandle (w : World n) (name : String)
    (f : Handle → CommandResult × World n) : CommandResult × World n :=
  match w.handle? name with
  | some h => f h
  | none => (.noHandle, w)

/-- A result without a value. -/
def unit : Except Error Unit × World n → CommandResult × World n
  | (r, w) => (.ofExcept (fun _ => .nothing) r, w)

/-- A result that is a table. -/
def tableResult : Except Error Table × World n → CommandResult × World n
  | (r, w) => (.ofExcept .table r, w)

end World

namespace Named

variable {α : Type}

/-- Takes a name out. -/
def erase (m : Named α) (name : String) : Named α :=
  ⟨m.entries.filter fun e => e.1 != name,
    (List.filter_sublist.map Prod.fst).nodup m.nodup⟩

end Named

namespace Command

variable {n : Nat}

/-- Runs a command. -/
def run (logQueries : Bool) (c : Command n) (w : World n) : CommandResult × World n :=
  let x : Executor n := ⟨c.manager, logQueries⟩
  match c.action with
  | .connect config keepAs => World.giveOut keepAs (w.connect c.manager config)
  | .active keepAs => World.giveOut keepAs (w.active c.manager, w)
  | .reconnect h keepAs =>
    w.withHandle h fun h => World.giveOut keepAs (w.reconnect c.manager h)
  | .disconnect h => w.withHandle h fun h => World.unit (w.disconnect c.manager h)
  | .retire h => w.withHandle h fun h => World.unit (w.retire c.manager h)
  | .disconnectAll => World.unit (w.disconnectAll c.manager)
  | .forget h => w.withHandle h fun _ => (.nothing, { w with names := w.names.erase h })
  | .closeStale =>
    match w.closeStale c.manager [] with
    | (k, w) => (.count k, w)
  | .compare h other =>
    w.withHandle h fun h => w.withHandle other fun other => (.truth (h.same other), w)
  | .describe => (.driver Server.driverName, w)
  | .push replies =>
    (.nothing, { w with server := { w.server with replies := w.server.replies ++ replies } })
  | .refuse error => (.nothing, { w with server := { w.server with refusal := error } })
  | .failClose error => (.nothing, { w with server := { w.server with closeFailure := error } })
  | .run st internal => World.tableResult (x.run w st internal)
  | .runOn h st internal => w.withHandle h fun h => World.tableResult (x.runOn w h st internal)
  | .runOnce st => World.tableResult (x.runOnce w st)
  | .runWithOutcome st internal =>
    match x.runWithOutcome w st internal with
    | (r, w) => (.ofExcept .outcome r, w)
  | .change change => World.unit (x.change w change)
  | .appliedVersions =>
    match x.appliedVersions w with
    | (r, w) => (.ofExcept .versions r, w)

/-- The world after a list of commands. -/
def runAll (logQueries : Bool) (cs : List (Command n)) (w : World n) : World n :=
  cs.foldl (fun w c => (c.run logQueries w).2) w

end Command

/-- What can be seen of a command from outside. -/
structure Entry (n : Nat) where
  result : CommandResult
  /-- The statements that the server received. -/
  sent : List Sent
  /-- The events that were logged. -/
  log : List LogEvent
  /-- The world after the command. -/
  after : World n

/-- What can be seen of the commands of a script. -/
def Entry.ofScript {n : Nat} (logQueries : Bool) : World n → List (Command n) → List (Entry n)
  | _, [] => []
  | w, c :: rest =>
    let (result, after) := c.run logQueries w
    { result
      sent := after.server.sent.drop w.server.sent.length
      log := after.log.drop w.log.length
      after } :: ofScript logQueries after rest

end SqlBridge
