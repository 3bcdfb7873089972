import Ketabdaneh.Library.Python.Value

namespace Api

open Python Text

inductive NotificationChannel where
  | telegram
  | bale
  deriving DecidableEq

namespace NotificationChannel

def value : NotificationChannel → Str
  | .telegram => ofString "telegram"
  | .bale => ofString "bale"

def ofValue (value : Str) : Option NotificationChannel :=
  if value = NotificationChannel.telegram.value then some .telegram
  else if value = NotificationChannel.bale.value then some .bale
  else none

theorem ofValue_eq_some {s : Str} {channel : NotificationChannel} (h : ofValue s = some channel)
    : channel.value = s := by
  unfold ofValue at h
  split at h
  . next heq =>
    injection h with h
    rw [← h, heq]
  . split at h
    . next heq =>
      injection h with h
      rw [← h, heq]
    . injection h

theorem ofValue_value (channel : NotificationChannel) : ofValue channel.value = some channel := by
  cases channel with
  | telegram => rfl
  | bale => rfl

end NotificationChannel

inductive InvalidNotificationError where
  | message (text : String)
  /-- The keys that are not known, and those that are missing; the text lists them sorted. -/
  | payloadKeys (unknown : List Value) (missing : List Str)

structure NotificationRecipient where
  channel : NotificationChannel
  address : Str
  address_ne : strip address ≠ []

structure NotificationMessage where
  recipient : NotificationRecipient
  text : Str
  category : Str
  metadata : Items
  text_ne : strip text ≠ []
  category_ne : strip category ≠ []

namespace NotificationMessage

def channel (message : NotificationMessage) : NotificationChannel :=
  message.recipient.channel

end NotificationMessage

def NotificationRecipient.new (channel : NotificationChannel) (address : Str)
    : Except InvalidNotificationError NotificationRecipient :=
  if h : strip address = [] then
    .error (.message "Notification recipient address must not be empty.")
  else
    .ok ⟨channel, address, h⟩

def NotificationMessage.new (recipient : NotificationRecipient) (text category : Str)
    (metadata : Items) : Except InvalidNotificationError NotificationMessage :=
  if htext : strip text = [] then
    .error (.message "Notification text must not be empty.")
  else if hcategory : strip category = [] then
    .error (.message "Notification category must not be empty.")
  else
    .ok ⟨recipient, text, category, metadata, htext, hcategory⟩

theorem NotificationRecipient.new_eq_ok (channel : NotificationChannel) {address : Str}
    (h : strip address ≠ []) : NotificationRecipient.new channel address = .ok ⟨channel, address, h⟩ := by
  simp [NotificationRecipient.new, h]

theorem NotificationMessage.new_eq_ok (recipient : NotificationRecipient) {text category : Str}
    (metadata : Items) (htext : strip text ≠ []) (hcategory : strip category ≠ [])
    : NotificationMessage.new recipient text category metadata
        =
      .ok ⟨recipient, text, category, metadata, htext, hcategory⟩ := by
  simp [NotificationMessage.new, htext, hcategory]

end Api
