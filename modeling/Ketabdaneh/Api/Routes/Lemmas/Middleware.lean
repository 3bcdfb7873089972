import Ketabdaneh.Api.Routes.Middleware

namespace Api

open Asgi Python Text

/-- The texts that all of `[A-Za-z0-9_.-]{1,64}` matches. -/
structure SafeRequestId (s : Str) : Prop where
  length_pos : 1 ≤ s.length
  length_le : s.length ≤ 64
  safe : ∀ c ∈ s, safeCharacter c = true

theorem safeCharacter_digit {d : Nat} (h : d < 16) : safeCharacter (digit d) = true := by
  interval_cases d <;> decide

theorem safeRequestId_uuidHex (id : Fin (2 ^ 128)) : SafeRequestId (uuidHex id) := by
  have hlength := length_uuidHex id
  refine ⟨by omega, by omega, ?_⟩
  intro c hc
  rcases exists_of_mem_uuidHex hc with ⟨d, hd, rfl⟩
  exact safeCharacter_digit hd

/-- A text that is stripped has no line feed that the end of the pattern could leave out. -/
theorem safeRequestId_of_matches {s : Str}
    (h : matchesSafeRequestId (strip s) = true) : SafeRequestId (strip s) := by
  unfold matchesSafeRequestId at h
  dsimp only at h
  rw [Bool.and_eq_true, Bool.and_eq_true, decide_eq_true_eq, decide_eq_true_eq,
    Bool.or_eq_true, decide_eq_true_eq, decide_eq_true_eq] at h
  rcases h with ⟨⟨hpos, hle⟩, hrest⟩
  have hsplit := List.takeWhile_append_dropWhile (p := safeCharacter) (l := strip s)
  have hdrop : (strip s).drop ((strip s).takeWhile safeCharacter).length
      = (strip s).dropWhile safeCharacter := by
    have hleft := @List.drop_left _ ((strip s).takeWhile safeCharacter)
      ((strip s).dropWhile safeCharacter)
    rwa [hsplit] at hleft
  rw [hdrop] at hrest
  cases hrest with
  | inl hrest =>
    rw [hrest, List.append_nil] at hsplit
    rw [hsplit] at hpos hle
    refine ⟨hpos, hle, ?_⟩
    intro c hc
    rw [← hsplit] at hc
    exact List.mem_takeWhile_imp hc
  | inr hrest =>
    rw [hrest] at hsplit
    exact absurd hsplit.symm (trimBy_ne_concat rfl)

theorem safeRequestId_resolveRequestId (uuid4 : Fin (2 ^ 128)) (incoming : Option Str)
    : SafeRequestId (resolveRequestId uuid4 incoming) := by
  unfold resolveRequestId
  split
  . dsimp only
    split
    . next h => exact safeRequestId_of_matches h.2.2
    . apply safeRequestId_uuidHex
  . apply safeRequestId_uuidHex

theorem isControl_of_safeCharacter {c : CodePoint} (h : safeCharacter c = true)
    : isControl c = false := by
  unfold safeCharacter at h
  simp only [Bool.or_eq_true, beq_iff_eq] at h
  rcases h with ((h | rfl) | rfl) | rfl
  . exact isControl_of_isAlphanumeric h
  . rfl
  . rfl
  . rfl

theorem SafeRequestId.printable {s : Str} (h : SafeRequestId s) : printable s = true := by
  rw [printable_iff]
  intro c hc
  exact isControl_of_safeCharacter (h.safe c hc)

/-- A character of the tokens that methods are. -/
def isTokenCharacter (c : CodePoint) : Bool :=
  isAlphanumeric c || c ∈ ofString "!#$%&'*+-.^_`|~"

/-- What a server reads of a request: the path is percent-decoded. -/
structure Request where
  method : Str
  path : Str
  headers : List Header := []
  state : Option (List (Str × Value)) := none
  method_ne : method ≠ []
  method_token : method.all isTokenCharacter = true

namespace Request

def scope (request : Request) : Scope where
  type := .http
  method := some request.method
  path := some request.path
  headers := request.headers
  state := request.state

theorem printable_method (request : Request) : printable request.method = true := by
  rw [printable_iff]
  intro c hc
  have htoken := List.all_eq_true.mp request.method_token c hc
  rw [isTokenCharacter, Bool.or_eq_true, decide_eq_true_eq] at htoken
  cases htoken with
  | inl halnum => exact isControl_of_isAlphanumeric halnum
  | inr hmark => exact printable_iff.mp rfl c hmark

end Request

section

variable {σ Effect : Type}

def Report.observation? : Report → Option Observation
  | .observed observation => some observation
  | .logged _ => none

def Report.record? : Report → Option LogRecord
  | .observed _ => none
  | .logged record => some record

def reports {α : Type} (run : Run σ (Effect ⊕ Report) α) : List Report :=
  run.effects.filterMap Sum.getRight?

def records {α : Type} (run : Run σ (Effect ⊕ Report) α) : List LogRecord :=
  (reports run).filterMap Report.record?

def observations {α : Type} (run : Run σ (Effect ⊕ Report) α) : List Observation :=
  (reports run).filterMap Report.observation?

namespace RequestLoggingMiddleware

variable (circumstances : Circumstances) (middleware : RequestLoggingMiddleware Effect)
  (request : Request) (server : Server σ) (s : σ)

def answer : Run σ (Effect ⊕ Report) Ended :=
  (middleware.call circumstances request.scope).run server s

def correlationId : Str :=
  requestId circumstances request.scope

def passed : Scope :=
  withRequestId (correlationId circumstances request) request.scope

/-- The run of the application in that of the request. -/
def inner : Run σ Effect Ended :=
  (middleware.app (passed circumstances request)).run
    (Server.through (sendWithRequestId (correlationId circumstances request)) server) s

/-- The status of the response that was started last, if any was. -/
def status : Int :=
  (inner circumstances middleware request server s).noted statusOf 500

def record : LogRecord :=
  requestLine request.method request.path (status circumstances middleware request server s)
    (durationMs circumstances) (correlationId circumstances request)

theorem answer_eq
    : answer circumstances middleware request server s
        =
      ⟨.emitted (.inr (.observed (.httpRequestStart request.method)))
          :: ((inner circumstances middleware request server s).events.map
            (Event.map .inl (sendWithRequestId (correlationId circumstances request)))
          ++ [.emitted (.inr (.observed (.httpRequestEnd request.method))),
            .emitted (.inr (.observed (.httpRequest request.method request.path
              (inner circumstances middleware request server s).result.scope.route
              (status circumstances middleware request server s)
              (durationMs circumstances / 1000)))),
            .emitted (.inr (.logged (record circumstances middleware request server s)))]),
        (inner circumstances middleware request server s).server,
        (inner circumstances middleware request server s).result⟩ := by
  have htype : ¬request.scope.type ≠ .http := by
    simp [Request.scope]
  unfold answer call
  rw [if_neg htype, Task.run, Task.run_wrap]
  rfl

theorem sent_answer
    : (answer circumstances middleware request server s).sent
        =
      (inner circumstances middleware request server s).sent.map
        (sendWithRequestId (correlationId circumstances request)) := by
  rw [answer_eq]
  simp only [Run.sent, List.filterMap_cons, List.filterMap_append, List.filterMap_nil, Event.sent?,
    List.append_nil, Event.filterMap_sent?_map]

theorem reports_answer
    : reports (answer circumstances middleware request server s)
        =
      [.observed (.httpRequestStart request.method), .observed (.httpRequestEnd request.method),
        .observed (.httpRequest request.method request.path
          (inner circumstances middleware request server s).result.scope.route
          (status circumstances middleware request server s) (durationMs circumstances / 1000)),
        .logged (record circumstances middleware request server s)] := by
  have hinner : ∀ effects : List Effect,
      (effects.map (Sum.inl (β := Report))).filterMap Sum.getRight? = [] := by
    intro effects
    rw [List.filterMap_map, List.filterMap_eq_nil_iff]
    intro effect _
    rfl
  rw [answer_eq]
  simp only [reports, Run.effects, List.filterMap_cons, List.filterMap_append, List.filterMap_nil,
    Event.effect?, Event.filterMap_effect?_map, hinner, Sum.getRight?_inr, List.nil_append]

theorem records_answer
    : records (answer circumstances middleware request server s)
        =
      [record circumstances middleware request server s] := by
  rw [records, reports_answer]
  rfl

theorem observations_answer
    : observations (answer circumstances middleware request server s)
        =
      [.httpRequestStart request.method, .httpRequestEnd request.method,
        .httpRequest request.method request.path
          (inner circumstances middleware request server s).result.scope.route
          (status circumstances middleware request server s) (durationMs circumstances / 1000)] := by
  rw [observations, reports_answer]
  rfl

theorem state?_passed
    : (passed circumstances request).state? (ofString "request_id")
        =
      some (.str (correlationId circumstances request)) := by
  unfold passed withRequestId Scope.state?
  dsimp only
  rw [Option.bind_some, Json.find?_setItem]
  rfl

theorem getMessage_requestLine (method path : Str) (statusCode : Int) (durationMs : Rat)
    (requestId : Str)
    : (requestLine method path statusCode durationMs requestId).getMessage
        =
      ofString "request: " ++ (method ++ (ofString " " ++ (path ++ (ofString " -> "
        ++ (Json.intText statusCode ++ (ofString " " ++ (fixed 1 durationMs
          ++ (ofString "ms request_id=" ++ (requestId ++ []))))))))) := by
  have hmessage : (requestLine method path statusCode durationMs requestId).message.toList
      = "request: ".toList ++ ('%' :: 's' :: (" ".toList ++ ('%' :: 's' :: (" -> ".toList
        ++ ('%' :: 'd' :: (" ".toList ++ ('%' :: '.' :: '1' :: 'f' :: ("ms request_id=".toList
          ++ ['%', 's'])))))))) := by
    rw [requestLine]
    dsimp only
    decide
  unfold LogRecord.getMessage
  rw [hmessage, requestLine]
  dsimp only
  rw [formatArgs_plain (by decide), formatArgs_str, formatArgs_plain (by decide), formatArgs_str,
    formatArgs_plain (by decide), formatArgs_int, formatArgs_plain (by decide), formatArgs_float,
    formatArgs_plain (by decide), formatArgs_str]
  rfl

theorem printable_record
    : printable (record circumstances middleware request server s).getMessage
        =
      printable request.path := by
  have hid := safeRequestId_resolveRequestId circumstances.uuid4
    (Header.get? (ofString "x-request-id") request.scope.headers)
  have htexts : printable (ofString "request: ") = true ∧ printable (ofString " ") = true
      ∧ printable (ofString " -> ") = true ∧ printable (ofString "ms request_id=") = true :=
    ⟨rfl, rfl, rfl, rfl⟩
  rw [record, getMessage_requestLine]
  simp only [printable_append, printable_nil, printable_intText, printable_fixed, htexts,
    request.printable_method, Bool.true_and, Bool.and_true]
  rw [correlationId, requestId, hid.printable, Bool.and_true]

/--
One record is emitted, its text has no control character, and the id in it is the safe one that the
application finds in its state and that is added to every response it starts.
-/
def LogsOneLine : Prop :=
  ∃ record requestId, records (answer circumstances middleware request server s) = [record]
    ∧ printable record.getMessage = true
    ∧ record.args.getLast? = some (.str requestId)
    ∧ (passed circumstances request).state? (ofString "request_id") = some (.str requestId)
    ∧ (answer circumstances middleware request server s).sent
      = (inner circumstances middleware request server s).sent.map (sendWithRequestId requestId)
    ∧ SafeRequestId requestId

theorem printable_path_of_logsOneLine
    (h : LogsOneLine circumstances middleware request server s)
    : printable request.path = true := by
  rcases h with ⟨record', requestId, hrecords, hprintable, -⟩
  rw [records_answer, List.singleton_inj] at hrecords
  rwa [← printable_record circumstances middleware request server s, hrecords]

/-- The path is the only one of the fields that is logged as it comes. -/
theorem logsOneLine_iff
    : LogsOneLine circumstances middleware request server s ↔ printable request.path = true := by
  constructor
  . apply printable_path_of_logsOneLine
  . intro hpath
    rw [← printable_record circumstances middleware request server s] at hpath
    exact ⟨_, _, records_answer _ _ _ _ _, hpath, rfl, state?_passed _ _, sent_answer _ _ _ _ _,
      safeRequestId_resolveRequestId _ _⟩

end RequestLoggingMiddleware

end

def accepting : Server Unit :=
  fun s _ => (none, s)

def notFound : RequestLoggingMiddleware Empty where
  app scope := .send (.start 404 []) fun _ => .done ⟨scope, .returned⟩

/-- The path of the target `/%0Arequest`. -/
def twoLines : Request where
  method := ofString "GET"
  path := ofString "/\nrequest"
  headers := [⟨ofString "x-request-id", ofString "web-42"⟩]
  method_ne := by decide
  method_token := by decide

/-- The line feed of a path ends the line. -/
theorem twoLines_logged :
    (RequestLoggingMiddleware.record ⟨0, 0, 0⟩ notFound twoLines accepting ()).getMessage
        = ofString "request: GET /\nrequest -> 404 0.0ms request_id=web-42"
      ∧ ¬RequestLoggingMiddleware.LogsOneLine ⟨0, 0, 0⟩ notFound twoLines accepting () := by
  constructor
  . decide +kernel
  . intro h
    have hpath := RequestLoggingMiddleware.printable_path_of_logsOneLine _ _ _ _ _ h
    revert hpath
    decide

end Api
