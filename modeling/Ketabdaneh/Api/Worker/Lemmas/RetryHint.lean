import Ketabdaneh.Api.Worker.Lemmas.Delivery

/-!
This module contains which hint of a rate limit the worker finds in the text of an error.
-/

namespace Api

open Python Text

def waitIn (s : Str) : Option Nat :=
  s.tails.findSome? matchRetryAfter

theorem waitIn_cons {c : CodePoint} {s : Str} (h : matchRetryAfter (c :: s) = none)
    : waitIn (c :: s) = waitIn s := by
  rw [waitIn, List.tails_cons, List.findSome?_cons, h]
  rfl

theorem matchRetryAfter_cons {c : CodePoint} {s : Str}
    (h : (ofString "(retry after ").isPrefixOf (c :: s) = false)
    : matchRetryAfter (c :: s) = none := by
  rw [matchRetryAfter, if_neg (by simp [h])]

theorem isPrefixOf_of_ne {c : CodePoint} {s : Str} (h : c ≠ cp '(')
    : (ofString "(retry after ").isPrefixOf (c :: s) = false := by
  rw [show ofString "(retry after " = cp '(' :: ofString "retry after " from rfl,
    List.isPrefixOf_cons_cons, beq_false_of_ne (Ne.symm h)]
  rfl

theorem waitIn_append {s t : Str} (h : cp '(' ∉ s) : waitIn (s ++ t) = waitIn t := by
  induction s with
  | nil => rfl
  | cons c s ih =>
    rw [List.mem_cons, not_or] at h
    rw [List.cons_append, waitIn_cons, ih h.2]
    apply matchRetryAfter_cons
    apply isPrefixOf_of_ne
    exact Ne.symm h.1

theorem waitIn_nil : waitIn [] = none := rfl

theorem waitIn_of_not_mem {s : Str} (h : cp '(' ∉ s) : waitIn s = none := by
  have := waitIn_append (t := []) h
  rw [List.append_nil] at this
  rw [this, waitIn_nil]

/-- In a text with one parenthesis, only what it opens can be the pattern. -/
theorem waitIn_parenthesis {s t : Str} (hs : cp '(' ∉ s) (ht : cp '(' ∉ t)
    : waitIn (s ++ cp '(' :: t) = matchRetryAfter (cp '(' :: t) := by
  rw [waitIn_append hs]
  cases h : matchRetryAfter (cp '(' :: t) with
  | none => rw [waitIn_cons h, waitIn_of_not_mem ht]
  | some n =>
    rw [waitIn, List.tails_cons, List.findSome?_cons, h]

theorem parenthesis_not_mem_append {s t : Str} (hs : cp '(' ∉ s) (ht : cp '(' ∉ t)
    : cp '(' ∉ s ++ t := by
  rw [List.mem_append, not_or]
  exact ⟨hs, ht⟩

theorem waitIn_named {name before after : Str} (hname : cp '(' ∉ name) (hbefore : cp '(' ∉ before)
    (hafter : cp '(' ∉ after)
    : waitIn (name ++ (before ++ cp '(' :: after)) = matchRetryAfter (cp '(' :: after) := by
  rw [← List.append_assoc, waitIn_parenthesis (parenthesis_not_mem_append hname hbefore) hafter]

theorem matchRetryAfter_eq (rest : Str)
    : matchRetryAfter (ofString "(retry after " ++ rest)
        =
      let digits := rest.takeWhile fun c => (unicodeDigit c).isSome
      if digits ≠ [] ∧ (ofString "s)").isPrefixOf (rest.drop digits.length) then
        some (digits.foldl (fun n c => 10 * n + (unicodeDigit c).getD 0) 0)
      else
        none := by
  rw [matchRetryAfter, if_pos, List.drop_left]
  rw [List.isPrefixOf_iff_prefix]
  apply List.prefix_append

theorem matchRetryAfter_decimal (n : Nat)
    : matchRetryAfter (ofString "(retry after " ++ (decimal n ++ ofString "s)")) = some n := by
  have hdigits : (decimal n ++ ofString "s)").takeWhile (fun c => (unicodeDigit c).isSome)
      = decimal n := takeWhile_decimal_append n (by decide) _
  rw [matchRetryAfter_eq, hdigits]
  dsimp only
  rw [if_pos, foldl_unicodeDigit (readDigits_decimal n)]
  refine ⟨decimal_ne_nil n, ?_⟩
  rw [List.drop_left]
  rfl

theorem parenthesis_not_mem_decimal (n : Nat) : cp '(' ∉ decimal n := by
  intro h
  have := isSome_digitValue_of_mem_decimal _ h
  contradiction

theorem parenthesis_not_mem_intText (n : Int) : cp '(' ∉ Json.intText n := by
  unfold Json.intText
  split
  . rw [List.mem_cons, not_or]
    exact ⟨by decide, parenthesis_not_mem_decimal _⟩
  . apply parenthesis_not_mem_decimal

theorem matchRetryAfter_intText (n : Int)
    : matchRetryAfter (ofString "(retry after " ++ (Json.intText n ++ ofString "s)"))
        =
      if 0 ≤ n then some n.toNat else none := by
  unfold Json.intText
  by_cases h : n < 0
  . rw [if_pos h, if_neg (by omega), matchRetryAfter_eq]
    rfl
  . rw [if_neg h, if_pos (by omega), matchRetryAfter_decimal]
    congr 1
    omega

/-- The wait that a body suggests: a count of seconds, and no bool. -/
def suggestedWait (body : Value) : Option Nat :=
  match (member? body "parameters").bind fun parameters => member? parameters "retry_after" with
  | some (.int n) => if 0 ≤ n then some n.toNat else none
  | _ => none

theorem waitIn_rateLimit {name : Str} (hname : cp '(' ∉ name) (body : Value)
    : waitIn (name ++ ofString " rate limit exceeded"
        ++ match retryAfter body with
          | some wait => ofString " (retry after " ++ wait ++ ofString "s)"
          | none => [])
        =
      suggestedWait body := by
  have hplain : cp '(' ∉ name ++ ofString " rate limit exceeded" :=
    parenthesis_not_mem_append hname (by decide)
  -- a wait that is shown stands in the only parenthesis of the text
  have hwait : ∀ wait : Str, cp '(' ∉ wait →
      waitIn (name ++ ofString " rate limit exceeded"
        ++ (ofString " (retry after " ++ wait ++ ofString "s)"))
        = matchRetryAfter (ofString "(retry after " ++ (wait ++ ofString "s)")) := by
    intro wait hmem
    have hsplit : ofString " (retry after " ++ wait ++ ofString "s)"
        = [cp ' '] ++ cp '(' :: (ofString "retry after " ++ (wait ++ ofString "s)")) := by
      rw [List.append_assoc]
      rfl
    rw [hsplit, waitIn_named hplain (by decide)]
    . rfl
    . apply parenthesis_not_mem_append (by decide)
      exact parenthesis_not_mem_append hmem (by decide)
  unfold retryAfter suggestedWait
  generalize ((member? body "parameters").bind fun parameters => member? parameters "retry_after")
    = found
  cases found with
  | none =>
    dsimp only
    rw [List.append_nil, waitIn_of_not_mem hplain]
  | some value =>
    cases value with
    | int n =>
      dsimp only
      rw [hwait _ (parenthesis_not_mem_intText n), matchRetryAfter_intText]
    | bool b =>
      cases b with
      | true =>
        dsimp only
        rw [hwait _ (by decide)]
        rfl
      | false =>
        dsimp only
        rw [hwait _ (by decide)]
        rfl
    | _ =>
      dsimp only
      rw [List.append_nil, waitIn_of_not_mem hplain]

def errorText : Except SendError NotificationResult → Option Str
  | .ok result => result.errorMessage
  | .error (.providerUnavailable text) => some text
  | .error (.notificationRejected text _) => some text
  | .error (.crash typeName text) => some (typeName ++ ofString ": " ++ text)

theorem errorMessage_deliver (provider : NotificationProvider) (message : NotificationMessage)
    : (NotificationDispatcher.deliver provider message).errorMessage
        =
      errorText (provider.send message) := by
  unfold NotificationDispatcher.deliver
  cases provider.send message with
  | ok result => rfl
  | error error =>
    cases error with
    | providerUnavailable text => rfl
    | notificationRejected text code => rfl
    | crash typeName text => rfl

theorem retryAfterHint_eq (errorMessage : Option Str)
    : retryAfterHint errorMessage = (errorMessage.bind waitIn).map PyFloat.ofNat := by
  cases errorMessage with
  | none => rfl
  | some message => rfl

namespace BotApi

variable {python : Interpreter} {api : BotApi}

theorem heard_readResponse (hname : cp '(' ∉ api.providerName) {status : Nat} {body : Value}
    (h : sendAnswer (api.readResponse python status body) = .retryable)
    : (errorText (api.readResponse python status body)).bind waitIn
        =
      if status = 429 then suggestedWait body else none := by
  unfold readResponse at h ⊢
  by_cases h429 : status = 429
  . rw [if_pos h429, if_pos h429]
    apply waitIn_rateLimit hname
  rw [if_neg h429] at h ⊢
  rw [if_neg h429]
  by_cases h500 : status ≥ 500
  . rw [if_pos h500]
    have hsplit : ofString " server error (HTTP " ++ (decimal status ++ ofString ")")
        = ofString " server error "
          ++ cp '(' :: (ofString "HTTP " ++ (decimal status ++ ofString ")")) := by
      rfl
    rw [errorText, Option.bind_some, List.append_assoc, List.append_assoc, hsplit,
      waitIn_named hname (by decide)]
    . rfl
    . apply parenthesis_not_mem_append (by decide)
      exact parenthesis_not_mem_append (parenthesis_not_mem_decimal status) (by decide)
  rw [if_neg h500] at h ⊢
  by_cases h401 : status = 401
  . rw [if_pos h401]
    have hsplit : ofString " rejected the bot token (HTTP 401)"
        = ofString " rejected the bot token " ++ cp '(' :: ofString "HTTP 401)" := by
      rfl
    rw [errorText, Option.bind_some, hsplit, waitIn_named hname (by decide) (by decide)]
    rfl
  rw [if_neg h401] at h ⊢
  by_cases h400 : status ≥ 400
  . rw [if_pos h400] at h
    contradiction
  rw [if_neg h400] at h ⊢
  cases hsent : sentMessageId body with
  | none =>
    rw [errorText, Option.bind_some, waitIn_of_not_mem]
    rw [List.append_assoc]
    exact parenthesis_not_mem_append hname (by decide)
  | some id =>
    rw [hsent] at h
    contradiction

theorem waitIn_recursionError (container : Container)
    : waitIn (ofString "RecursionError" ++ ofString ": " ++ LoadsError.recursionMessage container)
        =
      none := by
  apply waitIn_of_not_mem
  cases container with
  | array => decide +kernel
  | object => decide +kernel

/-- What the worker hears in an exchange: an unexpected exception may look like a rate limit too. -/
def heard (frames : Nat) : Exchange → Option Nat
  | .timeout => none
  | .requestError => none
  | .raises typeName message => waitIn (typeName ++ ofString ": " ++ message)
  | .response status body =>
    if status = 429 then (body.loads frames).toOption.bind suggestedWait else none

theorem heard_sendBotApiMessage (hname : cp '(' ∉ api.providerName)
    (htimeout : cp '(' ∉ api.timeoutSeconds) {exchange : Exchange} {message : NotificationMessage}
    (h : sendAnswer (api.sendBotApiMessage python exchange message) = .retryable)
    : (errorText (api.sendBotApiMessage python exchange message)).bind waitIn
        =
      if api.botToken.getD [] = [] then none else heard python.frames exchange := by
  unfold sendBotApiMessage at h ⊢
  by_cases htoken : api.botToken.getD [] = []
  . rw [if_pos htoken, if_pos htoken]
    have hsplit : ofString (" provider is not configured: no bot token was provided "
          ++ "(see TELEGRAM_BOT_TOKEN/BALE_BOT_TOKEN in .env.example)")
        = ofString " provider is not configured: no bot token was provided "
          ++ cp '(' :: ofString "see TELEGRAM_BOT_TOKEN/BALE_BOT_TOKEN in .env.example)" := by
      rw [ofString_append]
      rfl
    rw [errorText, Option.bind_some, hsplit, waitIn_named hname (by decide) (by decide)]
    rfl
  rw [if_neg htoken] at h ⊢
  rw [if_neg htoken]
  by_cases hlength : message.text.length > api.maxTextLength
  . rw [if_pos hlength] at h
    contradiction
  rw [if_neg hlength] at h ⊢
  cases exchange with
  | timeout =>
    rw [heard, errorText, Option.bind_some, waitIn_of_not_mem]
    apply parenthesis_not_mem_append _ (by decide)
    apply parenthesis_not_mem_append _ htimeout
    exact parenthesis_not_mem_append hname (by decide)
  | requestError =>
    rw [heard, errorText, Option.bind_some, waitIn_of_not_mem]
    exact parenthesis_not_mem_append hname (by decide)
  | raises typeName text => rfl
  | response status body =>
    rw [heard]
    dsimp only at h ⊢
    cases hloads : body.loads python.frames with
    | ok value =>
      rw [hloads] at h
      apply heard_readResponse hname
      exact h
    | error error =>
      rw [hloads] at h
      cases error with
      | valueError =>
        -- the body counts as none, which suggests no wait
        apply heard_readResponse hname
        exact h
      | recursionError container =>
        dsimp only
        rw [errorText, Option.bind_some, waitIn_recursionError]
        split
        . rfl
        . rfl

end BotApi

namespace Attempt

/-- The hint that the worker finds, if any: nothing is asked without a token. -/
def heard (attempt : Attempt) : Option Nat :=
  if attempt.botApi.botToken.getD [] = [] then none
  else BotApi.heard attempt.python.frames attempt.exchange

/-- The delay of the retry, if the attempt leads to one. -/
def wait (attempt : Attempt) : Except FloatError PyFloat :=
  attempt.context.policy.delayFor (attempt.context.jobTry + 1) (attempt.heard.map PyFloat.ofNat)

theorem parenthesis_not_mem_providerName (attempt : Attempt)
    : cp '(' ∉ attempt.botApi.providerName := by
  unfold botApi
  cases attempt.message.channel with
  | telegram => exact (by decide : cp '(' ∉ ofString "Telegram")
  | bale => exact (by decide : cp '(' ∉ ofString "Bale")

theorem parenthesis_not_mem_timeoutSeconds (attempt : Attempt)
    : cp '(' ∉ attempt.botApi.timeoutSeconds := by
  have htimeout := parenthesis_not_mem_of_floatText attempt.settings.timeout_text
  unfold botApi
  cases attempt.message.channel with
  | telegram => exact htimeout
  | bale => exact htimeout

variable {attempt : Attempt}

theorem retryAfterHint_result (h : attempt.read = .retryable)
    : retryAfterHint attempt.result.errorMessage = attempt.heard.map PyFloat.ofNat := by
  have hsend := attempt.answerOf_result
  rw [h, result, answerOf_deliver] at hsend
  rw [result, retryAfterHint_eq, errorMessage_deliver, heard,
    ← BotApi.heard_sendBotApiMessage attempt.parenthesis_not_mem_providerName
      attempt.parenthesis_not_mem_timeoutSeconds hsend]
  rfl

theorem outcome_waits (h : attempt.read = .retryable) (hremains : attempt.Remains)
    : attempt.delivery.outcome = .ofDelay attempt.wait := by
  rw [outcome_retried h hremains, retryAfterHint_result h, wait]

end Attempt

end Api
