import Ketabdaneh.Api.Worker.Lemmas.Service
import Ketabdaneh.Api.Worker.Lemmas.Worker

namespace Api

open Python Text

/-- The items of metadata that are a mapping, or that are not given. -/
def mappingItems : Value → Option Items
  | .None => some []
  | .dict items => some items
  | _ => none

section

variable (floatText : PyFloat → Str) (channel address text category metadata : Value)

/-- The notifications that a queue can take. -/
structure Queueable : Prop where
  nonBlank : ∀ value ∈ [channel, address, text, category], nonBlank value = true
  dumpable : ∃ items, mappingItems metadata = some items
    ∧ ∀ value ∈ [channel, address, text, category, .dict items],
      Json.dumpable floatText jsonDefault value = true

/-- No connection is had, or the command fails. -/
def Redis.Unreachable (redis : Redis) (service : BackgroundNotificationService) : Prop :=
  (service.pool = false ∧ redis.connect ≠ none) ∨ redis.enqueue ≠ none

/-- The error of a call tells a bad notification from a queue that cannot be reached. -/
structure Classified (redis : Redis) (service after : BackgroundNotificationService)
    (result : Except EnqueueError (NotificationJob × JobBytes)) : Prop where
  invalid : ¬Queueable floatText channel address text category metadata →
    (∃ error, result = .error (.invalidNotification error)) ∧ after = service
  queue : ∀ message, result = .error (.notificationQueue message) → redis.Unreachable service
  drops : service.pool = true → after.pool = false →
    (∃ message, result = .error (.notificationQueue message)) ∧ redis.Unreachable service

/-- The notification can be queued, or what is wrong with it is what is checked of it. -/
def Told : Prop :=
  Queueable floatText channel address text category metadata
    ∨ (∃ value ∈ [channel, address, text, category], nonBlank value = false)
    ∨ metadata.truthy = true ∧ mappingItems metadata = none

end

section

variable {floatText : PyFloat → Str} {channel address text category metadata : Value}

theorem mappingItems_of_or {items : Items}
    (h : (if metadata.truthy then metadata else .dict []) = .dict items)
    (hmapping : metadata.truthy = false → (mappingItems metadata).isSome = true)
    : mappingItems metadata = some items := by
  split at h
  . rw [h]
    rfl
  . next hfalsy =>
    injection h with h
    have hsome := hmapping (by simpa using hfalsy)
    rw [← h]
    cases metadata with
    | None => rfl
    | dict items' =>
      cases items' with
      | nil => rfl
      | cons item items' => simp [Value.truthy] at hfalsy
    | _ => simp [mappingItems] at hsome

theorem mappingItems_eq_none (h : ∀ items, metadata ≠ .dict items) (htruthy : metadata.truthy = true)
    : mappingItems metadata = none := by
  cases metadata with
  | None => injection htruthy
  | dict items => exact absurd rfl (h items)
  | _ => rfl

theorem exists_blank {items : Items} {error : InvalidNotificationError}
    (h : NotificationJob.new channel address text category (.dict items) = .error error)
    : ∃ value ∈ [channel, address, text, category], nonBlank value = false := by
  by_contra hnone
  simp only [not_exists, not_and, Bool.not_eq_false, List.forall_mem_cons, List.not_mem_nil,
    false_imp_iff, implies_true, and_true] at hnone
  rcases NotificationJob.exists_new.mpr hnone with ⟨job, hjob⟩
  rw [hjob] at h
  injection h

theorem told_of_new_eq_error {error : InvalidNotificationError}
    (h : NotificationJob.new channel address text category
      (if metadata.truthy then metadata else .dict []) = .error error)
    : Told floatText channel address text category metadata := by
  right
  split at h
  . next htruthy =>
    by_cases hdict : ∃ items, metadata = .dict items
    . rcases hdict with ⟨items, rfl⟩
      exact Or.inl (exists_blank h)
    . rw [not_exists] at hdict
      exact Or.inr ⟨htruthy, mappingItems_eq_none hdict htruthy⟩
  . exact Or.inl (exists_blank h)

theorem queueable_of_told {job : NotificationJob}
    (h : NotificationJob.new channel address text category
      (if metadata.truthy then metadata else .dict []) = .ok job)
    (htold : Told floatText channel address text category metadata)
    : Queueable floatText channel address text category metadata := by
  rcases NotificationJob.new_eq_ok_iff.mp h with ⟨rfl, rfl, rfl, rfl, hmetadata⟩
  rcases htold with hqueueable | ⟨value, hvalue, hblank⟩ | ⟨htruthy, hnone⟩
  . exact hqueueable
  . have hall : ∀ value ∈ [Value.str job.channel, .str job.address, .str job.text, .str job.category],
        nonBlank value = true := by
      simp [nonBlank, job.channel_ne, job.address_ne, job.text_ne, job.category_ne]
    rw [hall value hvalue] at hblank
    injection hblank
  . rw [if_pos htruthy] at hmetadata
    rw [hmetadata] at hnone
    injection hnone

theorem dumpable_of_queueable {job : NotificationJob}
    (h : NotificationJob.new channel address text category
      (if metadata.truthy then metadata else .dict []) = .ok job)
    (hqueueable : Queueable floatText channel address text category metadata)
    : Json.dumpable floatText jsonDefault job.toPayload = true := by
  rcases NotificationJob.new_eq_ok_iff.mp h with ⟨rfl, rfl, rfl, rfl, hmetadata⟩
  rcases hqueueable.dumpable with ⟨items, hitems, hdumpable⟩
  rw [mappingItems_of_or hmetadata fun _ => by rw [hitems]; rfl, Option.some.injEq] at hitems
  rw [NotificationJob.dumpable_toPayload, hitems]
  simp only [List.forall_mem_cons, List.not_mem_nil, false_imp_iff, implies_true,
    and_true] at hdumpable
  exact hdumpable

namespace BackgroundNotificationService

variable {redis : Redis} {service : BackgroundNotificationService}

theorem enqueue_of_enqueueJob {payload : Value} {name : String}
    (hdumpable : Json.dumpable floatText jsonDefault payload = true)
    (h : enqueueJob floatText redis payload = .error name) : redis.enqueue ≠ none := by
  rcases exists_jsonJobSerializer.mpr hdumpable with ⟨bytes, hbytes⟩
  intro hnone
  rw [enqueueJob_eq_ok.mpr ⟨hbytes, hnone⟩] at h
  injection h

theorem getPool_eq_error {error : EnqueueError} (h : service.getPool redis = .error error)
    : service.pool = false ∧ redis.connect ≠ none ∧ ∃ message, error = .notificationQueue message := by
  unfold getPool at h
  split at h
  . injection h
  . next hpool =>
    split at h
    . next name hconnect =>
      injection h with h
      rw [Bool.not_eq_true] at hpool
      refine ⟨hpool, ?_, _, h.symm⟩
      rw [hconnect]
      simp
    . injection h

theorem enqueueNotification_of_new (floatText : PyFloat → Str) (redis : Redis)
    (service : BackgroundNotificationService) {job : NotificationJob}
    (h : NotificationJob.new channel address text category
      (if metadata.truthy then metadata else .dict []) = .ok job)
    : (∀ error, (service.enqueueNotification floatText redis channel address text category
          metadata).2 ≠ .error (.invalidNotification error))
        ∧ (Json.dumpable floatText jsonDefault job.toPayload = true → ∀ message,
          (service.enqueueNotification floatText redis channel address text category metadata).2
            = .error (.notificationQueue message) → redis.Unreachable service)
        ∧ (service.pool = true →
          (service.enqueueNotification floatText redis channel address text category metadata).1.pool
            = false →
          ∃ message, (service.enqueueNotification floatText redis channel address text category
            metadata).2 = .error (.notificationQueue message)) := by
  unfold enqueueNotification
  dsimp only
  rw [h]
  dsimp only
  cases hpool : service.getPool redis with
  | error error =>
    rcases getPool_eq_error hpool with ⟨hfalse, hconnect, message, rfl⟩
    refine ⟨by simp, fun _ _ _ => Or.inl ⟨hfalse, hconnect⟩, ?_⟩
    intro htrue
    rw [hfalse] at htrue
    injection htrue
  | ok service' =>
    dsimp only
    cases hjob : enqueueJob floatText redis job.toPayload with
    | error name =>
      refine ⟨by simp, ?_, fun _ _ => ⟨_, rfl⟩⟩
      intro hdumpable _ _
      exact Or.inr (enqueue_of_enqueueJob hdumpable hjob)
    | ok bytes =>
      refine ⟨by simp, by simp, ?_⟩
      intro _ hdropped
      rw [(getPool_eq_ok.mp hpool).2] at hdropped
      injection hdropped

theorem enqueueNotification_of_not_dumpable {job : NotificationJob}
    (h : NotificationJob.new channel address text category
      (if metadata.truthy then metadata else .dict []) = .ok job)
    (hdumpable : Json.dumpable floatText jsonDefault job.toPayload = false)
    : BackgroundNotificationService.enqueueNotification floatText redis ⟨true⟩ channel address text
        category metadata
        =
      (⟨false⟩, .error (.notificationQueue
        ("could not enqueue notification job (" ++ "SerializationError" ++ ")"))) := by
  have hjob : enqueueJob floatText redis job.toPayload = .error "SerializationError" := by
    unfold enqueueJob
    cases hbytes : jsonJobSerializer floatText job.toPayload with
    | error error => rfl
    | ok bytes =>
      rw [exists_jsonJobSerializer.mp ⟨bytes, hbytes⟩] at hdumpable
      injection hdumpable
  unfold enqueueNotification
  dsimp only
  rw [h]
  dsimp only
  rw [getPool_eq_ok.mpr ⟨Or.inl rfl, rfl⟩]
  dsimp only
  rw [hjob]

end BackgroundNotificationService

/-- A call classifies its failure exactly when what is wrong, if anything is, is what is checked. -/
theorem enqueueClassified_iff (floatText : PyFloat → Str) (redis : Redis)
    (service : BackgroundNotificationService) (channel address text category metadata : Value)
    : Classified floatText channel address text category metadata redis service
        (service.enqueueNotification floatText redis channel address text category metadata).1
        (service.enqueueNotification floatText redis channel address text category metadata).2
        ↔
      Told floatText channel address text category metadata := by
  cases hnew : NotificationJob.new channel address text category
      (if metadata.truthy then metadata else .dict []) with
  | error error =>
    have hcall : service.enqueueNotification floatText redis channel address text category metadata
        = (service, .error (.invalidNotification error)) := by
      unfold BackgroundNotificationService.enqueueNotification
      dsimp only
      rw [hnew]
    rw [hcall]
    apply iff_of_true _ (told_of_new_eq_error hnew)
    constructor
    . intro _
      exact ⟨⟨error, rfl⟩, rfl⟩
    . intro message h
      injection h with h
      injection h
    . intro hpool hdropped
      dsimp only at hdropped
      rw [hpool] at hdropped
      injection hdropped
  | ok job =>
    have hends := service.enqueueNotification_of_new floatText redis hnew
    constructor
    . intro hclassified
      by_contra hnot
      have hqueueable : ¬Queueable floatText channel address text category metadata := by
        intro h
        exact hnot (Or.inl h)
      rcases (hclassified.invalid hqueueable).1 with ⟨error, herror⟩
      exact hends.1 error herror
    . intro htold
      have hqueueable := queueable_of_told hnew htold
      have hqueue := hends.2.1 (dumpable_of_queueable hnew hqueueable)
      constructor
      . intro hnot
        exact absurd hqueueable hnot
      . exact hqueue
      . intro hpool hdropped
        rcases hends.2.2 hpool hdropped with ⟨message, hmessage⟩
        exact ⟨⟨message, hmessage⟩, hqueue message hmessage⟩

end

section

def called (metadata : Value)
    : BackgroundNotificationService × Except EnqueueError (NotificationJob × JobBytes) :=
  BackgroundNotificationService.enqueueNotification (fun _ => []) {} ⟨true⟩
    (.str (ofString "telegram")) (.str (ofString "42")) (.str (ofString "Hello"))
    (.str (ofString "event")) metadata

def dueJob : NotificationJob :=
  { unconfiguredJob with metadata := [(.str (ofString "due"), .object 0 (ofString "datetime"))] }

def due : Value :=
  .dict dueJob.metadata

/--
A date that cannot be serialized is told as a failure of the queue, and the pool is dropped; a list
that is empty is queued as if it were no metadata.
-/
theorem due_not_classified
    : called due
          = (⟨false⟩, .error (.notificationQueue
            ("could not enqueue notification job (" ++ "SerializationError" ++ ")")))
        ∧ ¬Redis.Unreachable {} ⟨true⟩
        ∧ (called (.list [])).2.isOk = true
        ∧ ¬Classified (fun _ => []) (.str (ofString "telegram")) (.str (ofString "42"))
          (.str (ofString "Hello")) (.str (ofString "event")) due {} ⟨true⟩ (called due).1
          (called due).2 := by
  have hcalled : called due
      = (⟨false⟩, .error (.notificationQueue
        ("could not enqueue notification job (" ++ "SerializationError" ++ ")"))) :=
    BackgroundNotificationService.enqueueNotification_of_not_dumpable
      (NotificationJob.new_eq_ok dueJob) (by decide)
  have hnot : ¬Queueable (fun _ => []) (.str (ofString "telegram")) (.str (ofString "42"))
      (.str (ofString "Hello")) (.str (ofString "event")) due := by
    intro h
    rcases h.dumpable with ⟨items, hitems, hdumpable⟩
    have hdue := hdumpable (.dict items) (by simp)
    injection hitems with hitems
    rw [← hitems] at hdue
    revert hdue
    decide
  have hlist : (called (.list [])).2.isOk = true := by decide +kernel
  refine ⟨hcalled, by simp [Redis.Unreachable], hlist, ?_⟩
  intro h
  rcases (h.invalid hnot).1 with ⟨error, herror⟩
  rw [hcalled] at herror
  injection herror with herror
  injection herror

end

end Api
