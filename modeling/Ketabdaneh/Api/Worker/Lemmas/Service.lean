import Ketabdaneh.Api.Worker.Service
import Ketabdaneh.Library.Python.JsonRoundTrip

namespace Api

open Python Text

variable {floatText : PyFloat → Str}

theorem jsonJobSerializer_eq_ok {data : Value} {bytes : JobBytes}
    : jsonJobSerializer floatText data = .ok bytes
        ↔
      Json.dumps floatText jsonDefault data = .ok bytes.document := by
  rcases bytes with ⟨document, hencodable⟩
  unfold jsonJobSerializer
  cases Json.dumps floatText jsonDefault data with
  | error e => simp
  | ok doc =>
    dsimp only
    split
    . next h => simp
    . next h =>
      simp only [reduceCtorEq, Except.ok.injEq, false_iff]
      intro heq
      rw [heq] at h
      contradiction

theorem exists_jsonJobSerializer {data : Value}
    : (∃ bytes, jsonJobSerializer floatText data = .ok bytes)
        ↔
      Json.dumpable floatText jsonDefault data = true := by
  rw [← Json.dumps_iff]
  constructor
  . rintro ⟨bytes, h⟩
    exact ⟨bytes.document, jsonJobSerializer_eq_ok.mp h, bytes.encodable⟩
  . rintro ⟨doc, hdoc, hencodable⟩
    exact ⟨⟨doc, hencodable⟩, jsonJobSerializer_eq_ok.mpr hdoc⟩

namespace NotificationJob

theorem dumpable_toPayload (job : NotificationJob)
    : Json.dumpable floatText jsonDefault job.toPayload = true
        ↔
      encodable job.channel = true ∧ encodable job.address = true ∧ encodable job.text = true
        ∧ encodable job.category = true
        ∧ Json.dumpable floatText jsonDefault (.dict job.metadata) = true := by
  have hnames : ∀ name ∈ payloadKeys, encodable name = true := by decide
  simp only [payloadKeys, mandatoryKeys, List.cons_append, List.nil_append, List.forall_mem_cons,
    List.not_mem_nil, false_imp_iff, implies_true, and_true] at hnames
  rcases hnames with ⟨hchannel, haddress, htext, hcategory, hmetadata⟩
  rw [toPayload, Json.dumpable]
  simp only [Json.dumpableItems, Json.keyText_str, Json.textOk_ok, hchannel, haddress, htext,
    hcategory, hmetadata, Bool.true_and, Bool.and_true, Bool.and_eq_true]
  rfl

theorem loads_dumps_toPayload {job : NotificationJob} {doc : Json}
    (h : Json.dumps floatText jsonDefault job.toPayload = .ok doc)
    : ∃ metadata items, Json.dumps floatText jsonDefault (.dict job.metadata) = .ok metadata
        ∧ Json.loads metadata = .dict items
        ∧ Json.loads doc = toPayload { job with metadata := items } := by
  rw [toPayload, Json.dumps] at h
  rcases Except.map_eq_ok.mp h with ⟨members, hmembers, hdoc⟩
  simp only [Json.dumpsItems_cons_eq_ok, Json.keyText_str, Json.dumps_str, Json.dumpsItems_nil,
    Except.ok.injEq] at hmembers
  rcases hmembers with ⟨_, _, _, rfl, rfl, ⟨_, _, _, rfl, rfl, ⟨_, _, _, rfl, rfl,
    ⟨_, _, _, rfl, rfl, ⟨_, metadata, _, rfl, hmetadata, rfl, rfl⟩, rfl⟩, rfl⟩, rfl⟩, rfl⟩
  rcases Json.loads_dumps_dict hmetadata with ⟨items, hitems⟩
  refine ⟨metadata, items, hmetadata, hitems, ?_⟩
  rw [← hdoc, Json.loads]
  simp only [Json.loadsMembers, Json.loads, hitems]
  have hnodup : payloadKeys.Nodup := by decide
  rw [Json.dictOf_of_nodup]
  . rfl
  . exact hnodup

end NotificationJob

def nonBlank : Value → Bool
  | .str s => strip s ≠ []
  | _ => false

theorem nonEmptyString_eq_ok {fieldName : String} {value : Value} {s : { s : Str // strip s ≠ [] }}
    : nonEmptyString fieldName value = .ok s ↔ value = .str s := by
  cases value with
  | str t =>
    unfold nonEmptyString
    dsimp only
    split
    . next h =>
      simp only [reduceCtorEq, Value.str.injEq, false_iff]
      intro heq
      exact s.2 (by rw [← heq, h])
    . next h => simp [Subtype.ext_iff]
  | _ => simp [nonEmptyString]

theorem nonBlank_iff {value : Value}
    : nonBlank value = true ↔ ∃ s, strip s ≠ [] ∧ value = .str s := by
  cases value with
  | str t => simp [nonBlank]
  | _ => simp [nonBlank]

theorem mapping_eq_ok {value : Value} {items : Items}
    : mapping value = .ok items ↔ value = .dict items := by
  cases value with
  | dict items' => simp [mapping]
  | _ => simp [mapping]

namespace NotificationJob

theorem new_eq_ok_iff {channel address text category metadata : Value} {job : NotificationJob}
    : new channel address text category metadata = .ok job
        ↔
      channel = .str job.channel ∧ address = .str job.address ∧ text = .str job.text
        ∧ category = .str job.category ∧ metadata = .dict job.metadata := by
  constructor
  . intro h
    simp only [new, Except.bind_eq_ok, Except.pure_eq_ok, nonEmptyString_eq_ok,
      mapping_eq_ok] at h
    rcases h with ⟨_, hchannel, _, haddress, _, htext, _, hcategory, _, hmetadata, hjob⟩
    rw [← hjob]
    exact ⟨hchannel, haddress, htext, hcategory, hmetadata⟩
  . rintro ⟨rfl, rfl, rfl, rfl, rfl⟩
    exact new_eq_ok job

theorem exists_new {channel address text category : Value} {metadata : Items}
    : (∃ job, new channel address text category (.dict metadata) = .ok job)
        ↔
      nonBlank channel = true ∧ nonBlank address = true ∧ nonBlank text = true
        ∧ nonBlank category = true := by
  constructor
  . rintro ⟨job, h⟩
    rcases new_eq_ok_iff.mp h with ⟨rfl, rfl, rfl, rfl, -⟩
    simp [nonBlank, job.channel_ne, job.address_ne, job.text_ne, job.category_ne]
  . rintro ⟨hchannel, haddress, htext, hcategory⟩
    rcases nonBlank_iff.mp hchannel with ⟨channel, hchannel_ne, rfl⟩
    rcases nonBlank_iff.mp haddress with ⟨address, haddress_ne, rfl⟩
    rcases nonBlank_iff.mp htext with ⟨text, htext_ne, rfl⟩
    rcases nonBlank_iff.mp hcategory with ⟨category, hcategory_ne, rfl⟩
    exact ⟨⟨channel, address, text, category, metadata, hchannel_ne, haddress_ne, htext_ne,
      hcategory_ne⟩, new_eq_ok_iff.mpr ⟨rfl, rfl, rfl, rfl, rfl⟩⟩

end NotificationJob

def Restores (bytes : JobBytes) (channel address text category : Value) (metadata : Items) : Prop :=
  ∃ job message, NotificationJob.fromPayload (jsonJobDeserializer bytes) = .ok job
    ∧ job.toMessage = .ok message
    ∧ channel.eq (.str message.recipient.channel.value) = true
    ∧ address.eq (.str message.recipient.address) = true
    ∧ text.eq (.str message.text) = true
    ∧ category.eq (.str message.category) = true
    ∧ Value.eq (.dict metadata) (.dict message.metadata) = true

/-- The inputs that the call returns normally on. -/
structure Accepts (floatText : PyFloat → Str) (redis : Redis)
    (service : BackgroundNotificationService) (channel address text category : Value)
    (metadata : Items) : Prop where
  nonBlank : ∀ value ∈ [channel, address, text, category], nonBlank value = true
  dumpable : ∀ value ∈ [channel, address, text, category, .dict metadata],
    Json.dumpable floatText jsonDefault value = true
  connects : service.pool = true ∨ redis.connect = none
  enqueues : redis.enqueue = none

/-- The inputs that survive the queue: a channel of the enumeration, and plain JSON metadata. -/
def Restorable (channel : Value) (metadata : Items) : Prop :=
  (∃ member : NotificationChannel, channel = .str member.value)
    ∧ Json.native (.dict metadata) = true

def metadataArgument : Option Dict → Value
  | none => .None
  | some metadata => .dict metadata.items

def metadataItems : Option Dict → Items
  | none => []
  | some metadata => metadata.items

theorem metadataArgument_or (metadata : Option Dict)
    : (if (metadataArgument metadata).truthy then metadataArgument metadata else .dict [])
        =
      .dict (metadataItems metadata) := by
  cases metadata with
  | none => rfl
  | some metadata =>
    rw [metadataArgument, metadataItems, Value.truthy]
    cases metadata.items with
    | nil => rfl
    | cons item items => rfl

theorem wellFormed_metadataItems (metadata : Option Dict)
    : (Value.dict (metadataItems metadata)).wellFormed = true := by
  rw [Value.wellFormed]
  cases metadata with
  | none => rfl
  | some metadata => exact metadata.wellFormed

namespace BackgroundNotificationService

theorem getPool_eq_ok {service service' : BackgroundNotificationService} {redis : Redis}
    : service.getPool redis = .ok service'
        ↔
      (service.pool = true ∨ redis.connect = none) ∧ service' = ⟨true⟩ := by
  rcases service with ⟨pool⟩
  rcases redis with ⟨connect, _⟩
  cases pool with
  | true => simp [getPool, eq_comm]
  | false =>
    cases connect with
    | none => simp [getPool, eq_comm]
    | some name => simp [getPool]

theorem enqueueJob_eq_ok {redis : Redis} {payload : Value} {bytes : JobBytes}
    : enqueueJob floatText redis payload = .ok bytes
        ↔
      jsonJobSerializer floatText payload = .ok bytes ∧ redis.enqueue = none := by
  unfold enqueueJob
  cases jsonJobSerializer floatText payload with
  | error e => simp
  | ok bytes' =>
    cases redis.enqueue with
    | none => simp
    | some name => simp

theorem enqueueNotification_eq_ok {redis : Redis}
    {service service' : BackgroundNotificationService} {channel address text category : Value}
    {metadata : Option Dict} {job : NotificationJob} {bytes : JobBytes}
    : enqueueNotification floatText redis service channel address text category
        (metadataArgument metadata) = (service', .ok (job, bytes))
        ↔
      NotificationJob.new channel address text category (.dict (metadataItems metadata)) = .ok job
        ∧ ((service.pool = true ∨ redis.connect = none) ∧ service' = ⟨true⟩)
        ∧ jsonJobSerializer floatText job.toPayload = .ok bytes ∧ redis.enqueue = none := by
  unfold enqueueNotification
  dsimp only
  rw [metadataArgument_or, ← getPool_eq_ok, ← enqueueJob_eq_ok]
  cases NotificationJob.new channel address text category (.dict (metadataItems metadata)) with
  | error e => simp
  | ok job' =>
    cases service.getPool redis with
    | error e => simp
    | ok service'' =>
      dsimp only
      constructor
      . intro h
        cases hjob : enqueueJob floatText redis job'.toPayload with
        | error name => simp [hjob] at h
        | ok bytes' =>
          simp only [hjob, Prod.mk.injEq, Except.ok.injEq] at h
          rcases h with ⟨rfl, rfl, rfl⟩
          exact ⟨rfl, rfl, hjob⟩
      . rintro ⟨hnew, hpool, hjob⟩
        injection hnew with hnew
        injection hpool with hpool
        rw [hnew, hpool, hjob]

end BackgroundNotificationService

theorem accepts_iff {redis : Redis} {service : BackgroundNotificationService}
    {channel address text category : Value} {metadata : Option Dict}
    : (∃ service' job bytes, service.enqueueNotification floatText redis channel address text
        category (metadataArgument metadata) = (service', .ok (job, bytes)))
        ↔
      Accepts floatText redis service channel address text category (metadataItems metadata) := by
  simp only [BackgroundNotificationService.enqueueNotification_eq_ok]
  constructor
  . rintro ⟨service', job, bytes, hnew, hpool, hbytes, henqueue⟩
    have hdumpable := exists_jsonJobSerializer.mp ⟨bytes, hbytes⟩
    rw [NotificationJob.dumpable_toPayload] at hdumpable
    rcases NotificationJob.new_eq_ok_iff.mp hnew with ⟨rfl, rfl, rfl, rfl, hmetadata⟩
    refine ⟨?_, ?_, hpool.1, henqueue⟩
    . simp [nonBlank, job.channel_ne, job.address_ne, job.text_ne, job.category_ne]
    . rw [hmetadata]
      simp only [List.forall_mem_cons, List.not_mem_nil, false_imp_iff, implies_true, and_true]
      exact hdumpable
  . rintro ⟨hblank, hdumpable, hconnects, henqueues⟩
    simp only [List.forall_mem_cons, List.not_mem_nil, false_imp_iff, implies_true,
      and_true] at hblank hdumpable
    rcases NotificationJob.exists_new.mpr hblank with ⟨job, hnew⟩
    rcases NotificationJob.new_eq_ok_iff.mp hnew with ⟨rfl, rfl, rfl, rfl, hmetadata⟩
    rw [hmetadata] at hdumpable
    rcases exists_jsonJobSerializer.mpr (job.dumpable_toPayload.mpr hdumpable) with ⟨bytes, hbytes⟩
    exact ⟨⟨true⟩, job, bytes, hnew, ⟨hconnects, rfl⟩, hbytes, henqueues⟩

theorem restores_iff {job : NotificationJob} {bytes : JobBytes}
    (hwf : (Value.dict job.metadata).wellFormed = true)
    (hbytes : jsonJobSerializer floatText job.toPayload = .ok bytes)
    : Restores bytes (.str job.channel) (.str job.address) (.str job.text) (.str job.category)
        job.metadata
        ↔
      Restorable (.str job.channel) job.metadata := by
  rw [jsonJobSerializer_eq_ok] at hbytes
  rcases NotificationJob.loads_dumps_toPayload hbytes with ⟨doc, items, hdoc, hitems, hloads⟩
  unfold Restores Restorable
  rw [jsonJobDeserializer, hloads, NotificationJob.fromPayload_toPayload,
    ← Json.eq_loads_iff hwf hdoc, hitems]
  constructor
  . rintro ⟨job', message, hjob, hmessage, -, -, -, -, hmetadata⟩
    injection hjob with hjob
    rw [← hjob, NotificationJob.toMessage_eq_ok] at hmessage
    rcases hmessage with ⟨hchannel, -, -, -, hitems'⟩
    rw [hitems'] at hmetadata
    refine ⟨⟨message.recipient.channel, ?_⟩, hmetadata⟩
    rw [NotificationChannel.ofValue_eq_some hchannel]
  . rintro ⟨⟨member, hmember⟩, hmetadata⟩
    injection hmember with hmember
    refine ⟨_, ⟨⟨member, job.address, job.address_ne⟩, job.text, job.category, items, job.text_ne,
      job.category_ne⟩, rfl, ?_, ?_, ?_, ?_, ?_, hmetadata⟩
    . rw [NotificationJob.toMessage_eq_ok]
      exact ⟨by rw [hmember, NotificationChannel.ofValue_value], rfl, rfl, rfl, rfl⟩
    . rw [hmember, Value.str_eq_iff]
    . rw [Value.str_eq_iff]
    . rw [Value.str_eq_iff]
    . rw [Value.str_eq_iff]

theorem restores_iff_of_eq_ok {redis : Redis} {service service' : BackgroundNotificationService}
    {channel address text category : Value} {metadata : Option Dict} {job : NotificationJob}
    {bytes : JobBytes}
    (h : service.enqueueNotification floatText redis channel address text category
      (metadataArgument metadata) = (service', .ok (job, bytes)))
    : Restores bytes channel address text category (metadataItems metadata)
        ↔
      Restorable channel (metadataItems metadata) := by
  rw [BackgroundNotificationService.enqueueNotification_eq_ok] at h
  rcases h with ⟨hnew, -, hbytes, -⟩
  rcases NotificationJob.new_eq_ok_iff.mp hnew with ⟨rfl, rfl, rfl, rfl, hmetadata⟩
  injection hmetadata with hmetadata
  rw [hmetadata]
  apply restores_iff ?_ hbytes
  rw [← hmetadata]
  exact wellFormed_metadataItems metadata

/--
A call is faithful, so that what it stores is restored whenever it returns normally, exactly when
it raises or its channel and its metadata are restorable.
-/
theorem enqueueNotification_restores_iff (floatText : PyFloat → Str) (redis : Redis)
    (service : BackgroundNotificationService) (channel address text category : Value)
    (metadata : Option Dict)
    : (∀ service' job bytes, service.enqueueNotification floatText redis channel address text
        category (metadataArgument metadata) = (service', .ok (job, bytes)) →
          Restores bytes channel address text category (metadataItems metadata))
        ↔
      ¬Accepts floatText redis service channel address text category (metadataItems metadata)
        ∨ Restorable channel (metadataItems metadata) := by
  rw [← accepts_iff]
  constructor
  . intro h
    by_cases hcase : ∃ service' job bytes, service.enqueueNotification floatText redis channel
        address text category (metadataArgument metadata) = (service', .ok (job, bytes))
    . rcases hcase with ⟨service', job, bytes, henqueue⟩
      exact Or.inr ((restores_iff_of_eq_ok henqueue).mp (h _ _ _ henqueue))
    . apply Or.inl
      assumption
  . intro h service' job bytes henqueue
    rw [restores_iff_of_eq_ok henqueue]
    cases h with
    | inl h => exact absurd ⟨service', job, bytes, henqueue⟩ h
    | inr h => exact h

def Loses (channel : Str) (metadata : Option Dict) : Prop :=
  ∃ service' job bytes,
    BackgroundNotificationService.enqueueNotification (fun _ => []) {} ⟨true⟩ (.str channel)
      (.str (ofString "42")) (.str (ofString "Hello")) (.str (ofString "event"))
      (metadataArgument metadata) = (service', .ok (job, bytes))
    ∧ ¬Restores bytes (.str channel) (.str (ofString "42")) (.str (ofString "Hello"))
        (.str (ofString "event")) (metadataItems metadata)

theorem loses_of_not_restorable {channel : Str} {metadata : Option Dict}
    (haccepts : Accepts (fun _ => []) {} ⟨true⟩ (.str channel) (.str (ofString "42"))
      (.str (ofString "Hello")) (.str (ofString "event")) (metadataItems metadata))
    (h : ¬Restorable (.str channel) (metadataItems metadata)) : Loses channel metadata := by
  rcases accepts_iff.mpr haccepts with ⟨service', job, bytes, henqueue⟩
  refine ⟨service', job, bytes, henqueue, ?_⟩
  rwa [restores_iff_of_eq_ok henqueue]

def single (key value : Value) (h : Value.wellFormedItems [(key, value)] = true) : Option Dict :=
  some ⟨[(key, value)], h⟩

/--
Lost without an error are a channel that is no member of the enumeration, the tuple-ness of a
tuple, a key that is no string, and an exception.
-/
theorem enqueueNotification_loses :
    Loses (ofString "sms") none
      ∧ Loses (ofString "telegram")
          (single (.str (ofString "pair")) (.tuple [.int 1, .int 2]) rfl)
      ∧ Loses (ofString "telegram") (single (.int 1) (.str (ofString "a")) rfl)
      ∧ Loses (ofString "telegram")
          (single (.str (ofString "error"))
            (.exception 0 (ofString "ValueError") (ofString "no")) rfl) := by
  refine ⟨?_, ?_, ?_, ?_⟩
  . apply loses_of_not_restorable
    . exact ⟨by decide, by decide, Or.inl rfl, rfl⟩
    . rintro ⟨⟨member, h⟩, -⟩
      injection h with h
      revert h
      cases member with
      | telegram => decide
      | bale => decide
  all_goals
    apply loses_of_not_restorable
    . exact ⟨by decide, by decide, Or.inl rfl, rfl⟩
    . rintro ⟨-, h⟩
      revert h
      decide

end Api
