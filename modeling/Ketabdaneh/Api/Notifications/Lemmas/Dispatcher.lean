import Ketabdaneh.Api.Notifications.Dispatcher

namespace Api.NotificationDispatcher

open Python Text

variable (dispatcher : NotificationDispatcher) (behaviour : Behaviour)

/-- What comes of the send of a message, when a provider has its channel. -/
def resultAt (time : Nat) (message : NotificationMessage) : Option NotificationResult :=
  ((dispatcher.behaving behaviour time).send message).toOption

/--
The messages that have a provider are each sent once, in order, and what came of each is reported at
its place.
-/
structure Independent (messages : List NotificationMessage) : Prop where
  sent : (dispatcher.sendMany behaviour 0 messages).sent
    = messages.filter fun message => dispatcher.hasProvider message.channel
  reported : ∀ (i : Nat) message, messages[i]? = some message →
    message ∈ (dispatcher.sendMany behaviour 0 messages).sent →
      ∃ results, (dispatcher.sendMany behaviour 0 messages).outcome = .ok results
        ∧ results[i]? = dispatcher.resultAt behaviour i message

variable {dispatcher}

theorem provider?_behaving (time : Nat) (channel : NotificationChannel)
    : (dispatcher.behaving behaviour time).provider? channel
        =
      (dispatcher.provider? channel).map fun provider =>
        { provider with send := behaviour time provider.channel } := by
  unfold provider? behaving
  rw [List.find?_map]
  rfl

theorem hasProvider_behaving (time : Nat) (channel : NotificationChannel)
    : (dispatcher.behaving behaviour time).hasProvider channel = dispatcher.hasProvider channel := by
  unfold hasProvider
  rw [provider?_behaving, Option.isSome_map]

theorem send_eq_error {message : NotificationMessage}
    (h : dispatcher.hasProvider message.channel = false)
    : dispatcher.send message = .error message.channel := by
  unfold hasProvider at h
  rw [Option.isSome_eq_false_iff, Option.isNone_iff_eq_none] at h
  unfold send
  rw [h]

theorem exists_send_eq_ok {message : NotificationMessage}
    (h : dispatcher.hasProvider message.channel = true)
    : ∃ result, dispatcher.send message = .ok result := by
  unfold hasProvider at h
  rw [Option.isSome_iff_exists] at h
  obtain ⟨provider, hprovider⟩ := h
  exists deliver provider message
  unfold send
  rw [hprovider]

theorem sendMany_nil (time : Nat)
    : dispatcher.sendMany behaviour time [] = ⟨[], .ok []⟩ := by
  rfl

theorem sendMany_cons_of_not_hasProvider (time : Nat) {message : NotificationMessage}
    (messages : List NotificationMessage) (h : dispatcher.hasProvider message.channel = false)
    : dispatcher.sendMany behaviour time (message :: messages) = ⟨[], .error message.channel⟩ := by
  rw [← hasProvider_behaving behaviour time] at h
  rw [sendMany, send_eq_error h]

theorem exists_sendMany_cons (time : Nat) {message : NotificationMessage}
    (messages : List NotificationMessage) (h : dispatcher.hasProvider message.channel = true)
    : ∃ result, dispatcher.resultAt behaviour time message = some result
        ∧ dispatcher.sendMany behaviour time (message :: messages)
            =
          ⟨
            message :: (dispatcher.sendMany behaviour (time + 1) messages).sent,
            (dispatcher.sendMany behaviour (time + 1) messages).outcome.map
              fun results => result :: results
          ⟩ := by
  rw [← hasProvider_behaving behaviour time] at h
  obtain ⟨result, hresult⟩ := exists_send_eq_ok h
  exists result
  constructor
  . unfold resultAt
    rw [hresult]
    rfl
  . rw [sendMany, hresult]

/-- What is sent are the messages before the first that has no provider. -/
theorem sent_sendMany (time : Nat) (messages : List NotificationMessage)
    : (dispatcher.sendMany behaviour time messages).sent
        =
      messages.takeWhile fun message => dispatcher.hasProvider message.channel := by
  induction messages generalizing time with
  | nil => rfl
  | cons message messages ih =>
    cases h : dispatcher.hasProvider message.channel with
    | false =>
      rw [sendMany_cons_of_not_hasProvider behaviour time messages h, List.takeWhile_cons_of_neg]
      simp [h]
    | true =>
      obtain ⟨result, _, hsend⟩ := exists_sendMany_cons behaviour time messages h
      rw [hsend, List.takeWhile_cons]
      simp [h, ih]

theorem outcome_eq_error (time : Nat) {messages : List NotificationMessage}
    {message : NotificationMessage} (hmem : message ∈ messages)
    (h : dispatcher.hasProvider message.channel = false)
    : ∃ channel, (dispatcher.sendMany behaviour time messages).outcome = .error channel := by
  induction messages generalizing time with
  | nil => simp at hmem
  | cons first messages ih =>
    cases hfirst : dispatcher.hasProvider first.channel with
    | false =>
      exists first.channel
      rw [sendMany_cons_of_not_hasProvider behaviour time messages hfirst]
    | true =>
      have hrest : message ∈ messages := by
        cases hmem with
        | head => simp [hfirst] at h
        | tail _ hrest => exact hrest
      obtain ⟨result, _, hsend⟩ := exists_sendMany_cons behaviour time messages hfirst
      obtain ⟨channel, hchannel⟩ := ih (time + 1) hrest
      exists channel
      rw [hsend, Except.map_eq_error, hchannel]

theorem outcome_eq_ok (time : Nat) {messages : List NotificationMessage}
    (h : ∀ message ∈ messages, dispatcher.hasProvider message.channel = true)
    : ∃ results, (dispatcher.sendMany behaviour time messages).outcome = .ok results
        ∧ ∀ i : Nat, results[i]? = messages[i]?.bind (dispatcher.resultAt behaviour (time + i)) := by
  induction messages generalizing time with
  | nil =>
    exists []
    simp [sendMany_nil]
  | cons message messages ih =>
    have hmessage : dispatcher.hasProvider message.channel = true := by
      apply h
      simp
    have hmessages : ∀ message ∈ messages, dispatcher.hasProvider message.channel = true := by
      intro message hmem
      apply h
      simp [hmem]
    obtain ⟨result, hresult, hsend⟩ :=
      exists_sendMany_cons behaviour time messages hmessage
    obtain ⟨results, hok, hresults⟩ := ih (time + 1) hmessages
    exists result :: results
    constructor
    . rw [hsend, Except.map_eq_ok]
      exists results
    . intro i
      cases i with
      | zero => simp [hresult]
      | succ i =>
        rw [List.getElem?_cons_succ, List.getElem?_cons_succ, hresults i]
        congr 2
        omega

/--
The messages of a batch are independent of one another when each of them has a provider; then every
outcome is reported. With one that has none, only a batch of which nothing should be sent is.
-/
theorem independent_iff (dispatcher : NotificationDispatcher) (behaviour : Behaviour)
    (messages : List NotificationMessage)
    : Independent dispatcher behaviour messages
        ↔
      (∀ message ∈ messages, dispatcher.hasProvider message.channel = true)
        ∨ ∀ message ∈ messages, dispatcher.hasProvider message.channel = false := by
  constructor
  . intro hindep
    by_cases hall : ∀ message ∈ messages, dispatcher.hasProvider message.channel = true
    . exact .inl hall
    . right
      intro message hmem
      push Not at hall
      obtain ⟨missing, hmissing, hnone⟩ := hall
      rw [ne_eq, Bool.not_eq_true] at hnone
      obtain ⟨channel, hchannel⟩ := outcome_eq_error behaviour 0 hmissing hnone
      by_contra hsome
      rw [Bool.not_eq_false] at hsome
      have hsent : message ∈ (dispatcher.sendMany behaviour 0 messages).sent := by
        rw [hindep.sent, List.mem_filter]
        exact ⟨hmem, hsome⟩
      obtain ⟨i, hi⟩ := List.getElem?_of_mem hmem
      obtain ⟨results, hok, _⟩ := hindep.reported i message hi hsent
      simp [hchannel] at hok
  . intro h
    cases h with
    | inl hall =>
      constructor
      . rw [sent_sendMany, List.takeWhile_eq_self_iff.mpr hall, List.filter_eq_self.mpr hall]
      . intro i message hi _
        obtain ⟨results, hok, hresults⟩ := outcome_eq_ok behaviour 0 hall
        exists results
        apply And.intro hok
        rw [hresults, hi, Nat.zero_add, Option.bind_some]
    | inr hnone =>
      have hsent : (dispatcher.sendMany behaviour 0 messages).sent = [] := by
        rw [sent_sendMany]
        cases messages with
        | nil => rfl
        | cons message messages => simp [hnone message (by simp)]
      constructor
      . rw [hsent, eq_comm, List.filter_eq_nil_iff]
        intro message hmem
        simp [hnone message hmem]
      . intro i message _ hmem
        simp [hsent] at hmem

def telegramOnly : NotificationDispatcher where
  providers := [⟨.telegram, fun _ => .ok ⟨true, .telegram, none, none, none⟩⟩]
  nodup := by simp

def delivers : Behaviour :=
  fun _ channel _ => .ok ⟨true, channel, none, none, none⟩

def greeting (channel : NotificationChannel) : NotificationMessage :=
  ⟨⟨channel, ofString "42", by decide⟩, ofString "Hello", ofString "event", [], by decide, by decide⟩

/-- The telegram message is delivered, and the caller is given nothing but the unsupported channel. -/
theorem delivered_not_reported
    : (telegramOnly.sendMany delivers 0 [greeting .telegram, greeting .bale]).sent
          =
        [greeting .telegram]
        ∧ (telegramOnly.sendMany delivers 0 [greeting .telegram, greeting .bale]).outcome = .error .bale
        ∧ ¬Independent telegramOnly delivers [greeting .telegram, greeting .bale] := by
  have hsent :
      (telegramOnly.sendMany delivers 0 [greeting .telegram, greeting .bale]).sent
        =
      [greeting .telegram] := by
    rfl
  have houtcome :
      (telegramOnly.sendMany delivers 0 [greeting .telegram, greeting .bale]).outcome
        =
      .error .bale := by
    rfl
  refine ⟨hsent, houtcome, ?_⟩
  intro hindep
  obtain ⟨results, hok, _⟩ := hindep.reported 0 (greeting .telegram) rfl (by simp [hsent])
  simp [houtcome] at hok

end Api.NotificationDispatcher
