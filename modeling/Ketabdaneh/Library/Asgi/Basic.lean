import Ketabdaneh.Library.Python.Value

/-!
This module contains applications behind an asynchronous gateway: what one does with a request, as
the messages it sends, each answered by the server, its own effects and its end, and what comes of
that with a server. A middleware goes along with an application, and has the last word.
-/

namespace Asgi

open Python Text

/-- The name and the value are read as Latin-1; servers send the names in lower case. -/
structure Header where
  name : Str
  value : Str
  deriving DecidableEq

namespace Header

/-- The values of the headers of a name, given in lower case. -/
def named (name : Str) (headers : List Header) : List Str :=
  (headers.filter fun header => asciiLower header.name = name).map Header.value

/-- The value of the first header whose name is, as it stands, the given one. -/
def get? (name : Str) (headers : List Header) : Option Str :=
  (headers.find? fun header => header.name = name).map Header.value

end Header

inductive ScopeType where
  | http
  | websocket
  | lifespan
  deriving DecidableEq

/-- A route that the router has chosen, with the path it is registered under if it has one. -/
structure Route where
  path : Option Value := none

/-- What is known of a request; the application and its middleware share it and write to it. -/
structure Scope where
  type : ScopeType
  method : Option Str := none
  path : Option Str := none
  headers : List Header := []
  state : Option (List (Str × Value)) := none
  route : Option Route := none

def Scope.state? (key : Str) (scope : Scope) : Option Value :=
  scope.state.bind fun items => (items.find? fun item => item.1 = key).map Prod.snd

inductive Message where
  | start (status : Int) (headers : List Header)
  | body (content : Str) (more : Bool)
  deriving DecidableEq

def Message.isStart : Message → Bool
  | .start .. => true
  | .body .. => false

inductive Raised where
  | exception (name : String)
  /-- Of no class below that of exceptions, as a cancellation is. -/
  | cancelled
  deriving DecidableEq

inductive Exit where
  | returned
  | raised (raised : Raised)
  deriving DecidableEq

/-- The end of an application, and the scope as it leaves it. -/
structure Ended where
  scope : Scope
  exit : Exit

/-- Each message is answered: it is taken, or sending it raises. -/
inductive Task (Effect α : Type) where
  | done (result : α)
  | emit (effect : Effect) (rest : Task Effect α)
  | send (message : Message) (next : Option Raised → Task Effect α)

abbrev Application (Effect : Type) :=
  Scope → Task Effect Ended

abbrev Server (σ : Type) :=
  σ → Message → Option Raised × σ

inductive Event (Effect : Type) where
  | sent (message : Message) (answer : Option Raised)
  | emitted (effect : Effect)

structure Run (σ Effect α : Type) where
  events : List (Event Effect)
  server : σ
  result : α

variable {σ Effect Effect' α β τ : Type}

def Task.run (server : Server σ) (s : σ) : Task Effect α → Run σ Effect α
  | .done result => ⟨[], s, result⟩
  | .emit effect rest =>
    let run := Task.run server s rest
    { run with events := .emitted effect :: run.events }
  | .send message next =>
    let answer := server s message
    let run := Task.run server answer.2 (next answer.1)
    { run with events := .sent message answer.1 :: run.events }

namespace Event

def map (lift : Effect → Effect') (onSend : Message → Message) : Event Effect → Event Effect'
  | .sent message answer => .sent (onSend message) answer
  | .emitted effect => .emitted (lift effect)

def sent? : Event Effect → Option Message
  | .sent message _ => some message
  | .emitted _ => none

def effect? : Event Effect → Option Effect
  | .sent .. => none
  | .emitted effect => some effect

/-- The head of a response, if the server takes it. -/
def head? : Event Effect → Option (Int × List Header)
  | .sent (.start status headers) none => some (status, headers)
  | _ => none

variable (lift : Effect → Effect') (onSend : Message → Message) (events : List (Event Effect))

theorem filterMap_sent?_map
    : (events.map (map lift onSend)).filterMap sent? = (events.filterMap sent?).map onSend := by
  rw [List.filterMap_map, List.map_filterMap]
  congr 1
  funext event
  cases event with
  | sent message answer => rfl
  | emitted effect => rfl

theorem filterMap_effect?_map
    : (events.map (map lift onSend)).filterMap effect? = (events.filterMap effect?).map lift := by
  rw [List.filterMap_map, List.map_filterMap]
  congr 1
  funext event
  cases event with
  | sent message answer => rfl
  | emitted effect => rfl

theorem map_map_id (events : List (Event Effect)) : events.map (map id id) = events := by
  conv_rhs => rw [← List.map_id events]
  apply List.map_congr_left
  intro event _
  cases event with
  | sent message answer => rfl
  | emitted effect => rfl

end Event

namespace Run

def sent (run : Run σ Effect α) : List Message :=
  run.events.filterMap Event.sent?

def effects (run : Run σ Effect α) : List Effect :=
  run.events.filterMap Event.effect?

/-- The head of the response the client receives. -/
def response? (run : Run σ Effect α) : Option (Int × List Header) :=
  run.events.findSome? Event.head?

theorem response?_eq_none {run : Run σ Effect α} (h : run.sent.any Message.isStart = false)
    : run.response? = none := by
  rw [response?, List.findSome?_eq_none_iff]
  intro event hevent
  cases event with
  | emitted effect => rfl
  | sent message answer =>
    have hmessage : message ∈ run.sent := by
      rw [sent, List.mem_filterMap]
      exact ⟨_, hevent, rfl⟩
    rw [List.any_eq_false] at h
    have hstart := h message hmessage
    cases message with
    | start status headers => exact absurd rfl hstart
    | body content more => rfl

end Run

section

variable (lift : Effect → Effect') (onSend : Message → Message) (note : τ → Message → τ)
  (finish : τ → α → Task Effect' β)

/--
Goes along with a task: what it sends is sent in another form, and noted; at its end, `finish` has
what was noted and its result.
-/
def Task.wrap (noted : τ) : Task Effect α → Task Effect' β
  | .done result => finish noted result
  | .emit effect rest => .emit (lift effect) (rest.wrap noted)
  | .send message next => .send (onSend message) fun answer => (next answer).wrap (note noted message)

/-- The server as the task sees it that is gone along with. -/
def Server.through (server : Server σ) : Server σ :=
  fun s message => server s (onSend message)

theorem Server.through_id (server : Server σ) : Server.through id server = server := rfl

def Run.noted (noted : τ) (run : Run σ Effect α) : τ :=
  run.sent.foldl note noted

variable {lift onSend note finish} {server : Server σ}

/-- The task that is gone along with has its run, and `finish` runs after it. -/
theorem Task.run_wrap (s : σ) (noted : τ) (task : Task Effect α)
    : (task.wrap lift onSend note finish noted).run server s
        =
      let inner := task.run (Server.through onSend server) s
      let last := (finish (inner.noted note noted) inner.result).run server inner.server
      { last with events := inner.events.map (Event.map lift onSend) ++ last.events } := by
  induction task generalizing s noted with
  | done result => rfl
  | emit effect rest ih =>
    rw [Task.wrap, Task.run, ih]
    rfl
  | send message next ih =>
    rw [Task.wrap, Task.run]
    dsimp only
    rw [ih]
    rfl

end

end Asgi
