import Ketabdaneh.Library.Asgi.Basic

/-!
This module contains the outermost layer of an application: it answers for an exception that gets
through all the others, if no response has started yet, and raises it again.
-/

namespace Asgi

open Text

variable {σ Effect : Type}

def internalServerError : Str :=
  ofString "Internal Server Error"

def errorHeaders : List Header :=
  [⟨ofString "content-length", ofString "21"⟩,
    ⟨ofString "content-type", ofString "text/plain; charset=utf-8"⟩]

structure ServerErrorMiddleware (Effect : Type) where
  app : Application Effect

namespace ServerErrorMiddleware

/-- What the server raises goes out of the middleware. -/
def unlessRaised (ended : Ended) (rest : Task Effect Ended) : Option Raised → Task Effect Ended
  | some raised => .done { ended with exit := .raised raised }
  | none => rest

/-- The response to the exception `ended` is left with, which is raised after it. -/
def errorResponse (ended : Ended) : Task Effect Ended :=
  .send (.start 500 errorHeaders)
    (unlessRaised ended
      (.send (.body internalServerError false) (unlessRaised ended (.done ended))))

def finish (responseStarted : Bool) (ended : Ended) : Task Effect Ended :=
  match ended.exit with
  | .raised (.exception _) => if responseStarted then .done ended else errorResponse ended
  | _ => .done ended

def note (responseStarted : Bool) (message : Message) : Bool :=
  responseStarted || message.isStart

def call (middleware : ServerErrorMiddleware Effect) : Application Effect :=
  fun scope =>
    if scope.type ≠ .http then
      middleware.app scope
    else
      (middleware.app scope).wrap id id note finish false

variable {middleware : ServerErrorMiddleware Effect} {scope : Scope} {server : Server σ} {s : σ}

theorem foldl_note (messages : List Message) (started : Bool)
    : messages.foldl note started = (started || messages.any Message.isStart) := by
  induction messages generalizing started with
  | nil => simp
  | cons message messages ih => rw [List.foldl_cons, ih, note, List.any_cons, Bool.or_assoc]

def last (server : Server σ) (inner : Run σ Effect Ended) : Run σ Effect Ended :=
  (finish (inner.sent.any Message.isStart) inner.result).run server inner.server

theorem run_call (h : scope.type = .http)
    : (middleware.call scope).run server s
        =
      let inner := (middleware.app scope).run server s
      { last server inner with events := inner.events ++ (last server inner).events } := by
  have htype : ¬scope.type ≠ .http := by
    simp [h]
  unfold call last
  rw [if_neg htype, Task.run_wrap, Server.through_id]
  dsimp only
  rw [Event.map_map_id, Run.noted, foldl_note, Bool.false_or]

theorem events_unlessRaised (ended : Ended) (rest : Task Effect Ended) (answer : Option Raised)
    : ((unlessRaised ended rest answer).run server s).events
        =
      if answer = none then (rest.run server s).events else [] := by
  cases answer with
  | none => rfl
  | some raised => rfl

/-- An exception gets through, and no response has started. -/
def Escapes (inner : Run σ Effect Ended) : Prop :=
  (∃ name, inner.result.exit = .raised (.exception name)) ∧ inner.sent.any Message.isStart = false

theorem events_last_of_not_escapes {inner : Run σ Effect Ended} (h : ¬Escapes inner)
    : (last server inner).events = [] := by
  unfold last finish
  split
  . next name hexit =>
    split
    . rfl
    . next hstarted =>
      rw [Bool.not_eq_true] at hstarted
      exact absurd ⟨⟨name, hexit⟩, hstarted⟩ h
  . rfl

theorem events_last_of_escapes {inner : Run σ Effect Ended} (h : Escapes inner)
    : ∃ rest : List (Event Effect), rest.filterMap Event.effect? = []
        ∧ rest.findSome? Event.head? = none
        ∧ (last server inner).events
          = .sent (.start 500 errorHeaders) (server inner.server (.start 500 errorHeaders)).1
            :: rest := by
  rcases h with ⟨⟨name, hexit⟩, hstarted⟩
  unfold last finish
  rw [hexit, hstarted]
  dsimp only
  rw [if_neg Bool.false_ne_true, errorResponse, Task.run]
  refine ⟨_, ?_, ?_, rfl⟩
  all_goals
    rw [events_unlessRaised]
    split
    . rw [Task.run]
      dsimp only
      rw [events_unlessRaised]
      split
      . rfl
      . rfl
    . rfl

theorem effects_call (h : scope.type = .http)
    : ((middleware.call scope).run server s).effects
        =
      ((middleware.app scope).run server s).effects := by
  rw [run_call h]
  simp only [Run.effects, List.filterMap_append]
  by_cases hescapes : Escapes ((middleware.app scope).run server s)
  . rcases events_last_of_escapes hescapes with ⟨rest, heffects, -, hlast⟩
    rw [hlast, List.filterMap_cons, heffects, Event.effect?, List.append_nil]
  . rw [events_last_of_not_escapes hescapes, List.filterMap_nil, List.append_nil]

theorem response?_call_of_not_escapes (h : scope.type = .http)
    (hescapes : ¬Escapes ((middleware.app scope).run server s))
    : ((middleware.call scope).run server s).response?
        =
      ((middleware.app scope).run server s).response? := by
  rw [run_call h]
  dsimp only
  rw [events_last_of_not_escapes hescapes, List.append_nil]
  rfl

theorem response?_call_of_escapes (h : scope.type = .http)
    (hescapes : Escapes ((middleware.app scope).run server s))
    : ((middleware.call scope).run server s).response?
        =
      if (server ((middleware.app scope).run server s).server (.start 500 errorHeaders)).1 = none then
        some (500, errorHeaders)
      else
        none := by
  have hnone := Run.response?_eq_none hescapes.2
  rcases events_last_of_escapes hescapes with ⟨rest, -, hrest, hlast⟩
  rw [Run.response?] at hnone
  rw [run_call h, Run.response?]
  dsimp only
  rw [List.findSome?_append, hnone, Option.none_or, hlast, List.findSome?_cons, hrest]
  cases (server ((middleware.app scope).run server s).server (.start 500 errorHeaders)).1 with
  | none => rfl
  | some raised => rfl

end ServerErrorMiddleware

end Asgi
