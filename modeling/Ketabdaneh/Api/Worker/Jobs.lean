import Ketabdaneh.Api.Notifications.Models
import Ketabdaneh.Library.Python.Json

namespace Api

open Python Text

def DELIVER_FUNCTION_NAME : String := "deliver_notification"

def mandatoryKeys : List Str :=
  [ofString "channel", ofString "address", ofString "text", ofString "category"]

def payloadKeys : List Str :=
  mandatoryKeys ++ [ofString "metadata"]

structure NotificationJob where
  channel : Str
  address : Str
  text : Str
  category : Str
  metadata : Items
  channel_ne : strip channel ≠ []
  address_ne : strip address ≠ []
  text_ne : strip text ≠ []
  category_ne : strip category ≠ []

def nonEmptyString (fieldName : String) (value : Value)
    : Except InvalidNotificationError { s : Str // strip s ≠ [] } :=
  match value with
  | .str s =>
    if h : strip s = [] then
      .error (.message ("Notification job field '" ++ fieldName ++ "' must be a non-empty string."))
    else
      .ok ⟨s, h⟩
  | _ =>
    .error (.message ("Notification job field '" ++ fieldName ++ "' must be a non-empty string."))

def mapping (value : Value) : Except InvalidNotificationError Items :=
  match value with
  | .dict items => .ok items
  | _ => .error (.message "Notification job metadata must be a mapping.")

namespace NotificationJob

def new (channel address text category metadata : Value)
    : Except InvalidNotificationError NotificationJob := do
  let channel ← nonEmptyString "channel" channel
  let address ← nonEmptyString "address" address
  let text ← nonEmptyString "text" text
  let category ← nonEmptyString "category" category
  let metadata ← mapping metadata
  return ⟨channel, address, text, category, metadata, channel.2, address.2, text.2, category.2⟩

def toPayload (job : NotificationJob) : Value :=
  .dict [
    (.str (ofString "channel"), .str job.channel),
    (.str (ofString "address"), .str job.address),
    (.str (ofString "text"), .str job.text),
    (.str (ofString "category"), .str job.category),
    (.str (ofString "metadata"), .dict job.metadata)]

def unknownKeys (items : Items) : List Value :=
  (items.map Prod.fst).filter fun key => payloadKeys.all fun known => !Value.eq key (.str known)

def missingKeys (items : Items) : List Str :=
  mandatoryKeys.filter fun key => (Value.get? items key).isNone

def fromPayload (payload : Value) : Except InvalidNotificationError NotificationJob :=
  match payload with
  | .dict items =>
    let unknown := unknownKeys items
    let missing := missingKeys items
    if unknown ≠ [] ∨ missing ≠ [] then
      .error (.payloadKeys unknown missing)
    else do
      let metadata ← mapping ((Value.get? items (ofString "metadata")).getD (.dict []))
      -- no key is missing, so the defaults below are never taken
      let value := fun key => (Value.get? items (ofString key)).getD .None
      new (value "channel") (value "address") (value "text") (value "category") (.dict metadata)
  | _ => .error (.message "Notification job payload must be a mapping.")

def fromMessage (message : NotificationMessage)
    : Except InvalidNotificationError NotificationJob :=
  new (.str message.recipient.channel.value) (.str message.recipient.address) (.str message.text)
    (.str message.category) (.dict message.metadata)

end NotificationJob

section

/-- What comes of an error as it is raised, of which the text is made first. -/
inductive Undecoded where
  | invalidNotification (text : Str)
  /-- Of the sorting of keys that are not all strings, as those of JSON are. -/
  | typeError

variable (repr : Str → Str)

def sortedNames (names : List Str) : List Str :=
  names.mergeSort fun s t => !decide (t < s)

def reprList (names : List Str) : Str :=
  ofString "[" ++ (ofString ", ").intercalate (names.map repr) ++ ofString "]"

def sortedKeys (keys : List Value) : Option (List Str) :=
  (keys.mapM Value.str?).map sortedNames

def InvalidNotificationError.raised : InvalidNotificationError → Undecoded
  | .message text => .invalidNotification (ofString text)
  | .payloadKeys unknown missing =>
    match sortedKeys unknown with
    | none => .typeError
    | some names =>
      .invalidNotification (
        ofString "Notification job payload keys are wrong (unknown: " ++ reprList repr names
          ++ ofString ", missing: " ++ reprList repr (sortedNames missing)
          ++ ofString "); expected " ++ reprList repr (sortedNames Api.payloadKeys) ++ ofString ".")

def NotificationJob.decode (payload : Value) : Except Undecoded NotificationJob :=
  (NotificationJob.fromPayload payload).mapError (InvalidNotificationError.raised repr)

end

inductive MessageError where
  | unknownChannel (value : Str)
  | invalid (error : InvalidNotificationError)

namespace NotificationJob

def toMessage (job : NotificationJob) : Except MessageError NotificationMessage :=
  match NotificationChannel.ofValue job.channel with
  | none => .error (.unknownChannel job.channel)
  | some channel =>
    Except.mapError .invalid do
      let recipient ← NotificationRecipient.new channel job.address
      NotificationMessage.new recipient job.text job.category job.metadata

theorem new_eq_ok (job : NotificationJob)
    : new (.str job.channel) (.str job.address) (.str job.text) (.str job.category)
        (.dict job.metadata)
        =
      .ok job := by
  simp [new, nonEmptyString, mapping, job.channel_ne, job.address_ne, job.text_ne, job.category_ne,
    bind, Except.bind, pure, Except.pure]

theorem fromPayload_toPayload (job : NotificationJob) : fromPayload job.toPayload = .ok job := by
  have hknown : unknownKeys [
      (.str (ofString "channel"), .str job.channel),
      (.str (ofString "address"), .str job.address),
      (.str (ofString "text"), .str job.text),
      (.str (ofString "category"), .str job.category),
      (.str (ofString "metadata"), .dict job.metadata)] = [] := rfl
  have hmissing : missingKeys [
      (.str (ofString "channel"), .str job.channel),
      (.str (ofString "address"), .str job.address),
      (.str (ofString "text"), .str job.text),
      (.str (ofString "category"), .str job.category),
      (.str (ofString "metadata"), .dict job.metadata)] = [] := rfl
  rw [toPayload, fromPayload]
  dsimp only
  rw [hknown, hmissing, if_neg (by simp)]
  exact new_eq_ok job

theorem toMessage_eq_ok {job : NotificationJob} {message : NotificationMessage}
    : job.toMessage = .ok message
        ↔
      NotificationChannel.ofValue job.channel = some message.recipient.channel
        ∧ message.recipient.address = job.address ∧ message.text = job.text
        ∧ message.category = job.category ∧ message.metadata = job.metadata := by
  unfold toMessage
  cases hchannel : NotificationChannel.ofValue job.channel with
  | none => simp
  | some channel =>
    rcases message with ⟨⟨channel', address, _⟩, text, category, metadata, _, _⟩
    simp only [NotificationRecipient.new_eq_ok channel job.address_ne, bind, Except.bind,
      NotificationMessage.new_eq_ok _ _ job.text_ne job.category_ne, Except.mapError,
      Except.ok.injEq, NotificationMessage.mk.injEq, NotificationRecipient.mk.injEq,
      Option.some.injEq]
    constructor
    . rintro ⟨⟨rfl, rfl⟩, rfl, rfl, rfl⟩
      exact ⟨rfl, rfl, rfl, rfl, rfl⟩
    . rintro ⟨rfl, rfl, rfl, rfl, rfl⟩
      exact ⟨⟨rfl, rfl⟩, rfl, rfl, rfl⟩

end NotificationJob

end Api
