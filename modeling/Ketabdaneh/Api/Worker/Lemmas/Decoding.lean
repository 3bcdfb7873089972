import Ketabdaneh.Api.Worker.Lemmas.Service

namespace Api

open Python Text

/-- The payloads that are taken: these keys and no others, and what their values are. -/
def Decodable (payload : Value) : Prop :=
  ∃ items, payload = .dict items
    ∧ (∀ item ∈ items, ∃ key ∈ payloadKeys, item.1 = .str key)
    ∧ (∀ key ∈ mandatoryKeys, ∃ s, Value.get? items key = some (.str s) ∧ strip s ≠ [])
    ∧ (Value.get? items (ofString "metadata") = none
      ∨ ∃ metadata, Value.get? items (ofString "metadata") = some (.dict metadata))

theorem unknownKeys_eq_nil {items : Items}
    : NotificationJob.unknownKeys items = []
        ↔
      ∀ item ∈ items, ∃ key ∈ payloadKeys, item.1 = .str key := by
  unfold NotificationJob.unknownKeys
  rw [List.filter_eq_nil_iff, List.forall_mem_map]
  simp only [List.all_eq_true, Bool.not_eq_true', not_forall, Bool.not_eq_false, exists_prop,
    Value.eq_str_iff]

theorem missingKeys_eq_nil {items : Items}
    : NotificationJob.missingKeys items = []
        ↔
      ∀ key ∈ mandatoryKeys, (Value.get? items key).isSome = true := by
  unfold NotificationJob.missingKeys
  rw [List.filter_eq_nil_iff]
  simp only [Bool.not_eq_true, Option.isNone_eq_false_iff]

theorem forall_mandatoryKeys {P : Str → Prop}
    : (∀ key ∈ mandatoryKeys, P key)
        ↔
      P (ofString "channel") ∧ P (ofString "address") ∧ P (ofString "text")
        ∧ P (ofString "category") := by
  simp only [mandatoryKeys, List.forall_mem_cons, List.not_mem_nil, false_imp_iff, implies_true,
    and_true]

theorem getD_None_eq_str {found : Option Value} {s : Str}
    : found.getD .None = .str s ↔ found = some (.str s) := by
  cases found with
  | none => simp
  | some value => simp

theorem fromPayload_eq_ok {payload : Value} {job : NotificationJob}
    : NotificationJob.fromPayload payload = .ok job
        ↔
      ∃ items, payload = .dict items
        ∧ (∀ item ∈ items, ∃ key ∈ payloadKeys, item.1 = .str key)
        ∧ Value.get? items (ofString "channel") = some (.str job.channel)
        ∧ Value.get? items (ofString "address") = some (.str job.address)
        ∧ Value.get? items (ofString "text") = some (.str job.text)
        ∧ Value.get? items (ofString "category") = some (.str job.category)
        ∧ (Value.get? items (ofString "metadata")).getD (.dict []) = .dict job.metadata := by
  unfold NotificationJob.fromPayload
  cases payload with
  | dict items =>
    dsimp only
    split
    . next hkeys =>
      simp only [reduceCtorEq, Value.dict.injEq, false_iff, not_exists, not_and]
      rintro _ rfl hknown hchannel haddress htext hcategory
      rw [← unknownKeys_eq_nil] at hknown
      have hmissing : NotificationJob.missingKeys items = [] := by
        rw [missingKeys_eq_nil, forall_mandatoryKeys, hchannel, haddress, htext, hcategory]
        simp
      simp [hknown, hmissing] at hkeys
    . next hkeys =>
      rw [not_or, not_ne_iff, not_ne_iff, unknownKeys_eq_nil] at hkeys
      simp only [Except.bind_eq_ok, mapping_eq_ok, NotificationJob.new_eq_ok_iff, getD_None_eq_str,
        Value.dict.injEq]
      constructor
      . rintro ⟨metadata, hmetadata, hchannel, haddress, htext, hcategory, heq⟩
        exact ⟨items, rfl, hkeys.1, hchannel, haddress, htext, hcategory, by rw [hmetadata, heq]⟩
      . rintro ⟨_, rfl, -, hchannel, haddress, htext, hcategory, hmetadata⟩
        exact ⟨_, hmetadata, hchannel, haddress, htext, hcategory, rfl⟩
  | _ => simp

theorem exists_fromPayload {payload : Value}
    : (∃ job, NotificationJob.fromPayload payload = .ok job) ↔ Decodable payload := by
  constructor
  . rintro ⟨job, h⟩
    rcases fromPayload_eq_ok.mp h with ⟨items, rfl, hknown, hchannel, haddress, htext, hcategory,
      hmetadata⟩
    refine ⟨items, rfl, hknown, ?_, ?_⟩
    . rw [forall_mandatoryKeys]
      exact ⟨⟨_, hchannel, job.channel_ne⟩, ⟨_, haddress, job.address_ne⟩, ⟨_, htext, job.text_ne⟩,
        ⟨_, hcategory, job.category_ne⟩⟩
    . cases hfound : Value.get? items (ofString "metadata") with
      | none => exact Or.inl rfl
      | some value =>
        rw [hfound, Option.getD_some] at hmetadata
        exact Or.inr ⟨_, by rw [hmetadata]⟩
  . rintro ⟨items, rfl, hknown, hmandatory, hmetadata⟩
    rw [forall_mandatoryKeys] at hmandatory
    rcases hmandatory with ⟨⟨channel, hchannel, hchannel_ne⟩, ⟨address, haddress, haddress_ne⟩,
      ⟨text, htext, htext_ne⟩, ⟨category, hcategory, hcategory_ne⟩⟩
    have hdict : ∃ metadata, (Value.get? items (ofString "metadata")).getD (.dict []) = .dict metadata := by
      rcases hmetadata with hmetadata | ⟨metadata, hmetadata⟩
      . exact ⟨[], by rw [hmetadata, Option.getD_none]⟩
      . exact ⟨metadata, by rw [hmetadata, Option.getD_some]⟩
    rcases hdict with ⟨metadata, hdict⟩
    exact ⟨⟨channel, address, text, category, metadata, hchannel_ne, haddress_ne, htext_ne,
      hcategory_ne⟩, fromPayload_eq_ok.mpr ⟨items, rfl, hknown, hchannel, haddress, htext, hcategory,
        hdict⟩⟩

/-- The payload with the default in the place of metadata that are absent. -/
def withMetadata (items : Items) : Items :=
  if (Value.get? items (ofString "metadata")).isNone then
    items ++ [(.str (ofString "metadata"), .dict [])]
  else
    items

def NotificationJob.entries (job : NotificationJob) : List (Str × Value) :=
  [(ofString "channel", .str job.channel), (ofString "address", .str job.address),
    (ofString "text", .str job.text), (ofString "category", .str job.category),
    (ofString "metadata", .dict job.metadata)]

theorem NotificationJob.toPayload_eq (job : NotificationJob)
    : job.toPayload = .dict (job.entries.map Json.item) := rfl

theorem NotificationJob.nodup_entries (job : NotificationJob)
    : (job.entries.map Prod.fst).Nodup :=
  (by decide : payloadKeys.Nodup)

theorem perm_of_subset {entries full : List (Str × Value)} (hentries : (entries.map Prod.fst).Nodup)
    (hfull : (full.map Prod.fst).Nodup) (hsub : ∀ x ∈ entries, x ∈ full)
    (hnames : ∀ x ∈ full, x.1 ∈ entries.map Prod.fst) : entries.Perm full := by
  rw [List.perm_ext_iff_of_nodup hentries.of_map hfull.of_map]
  intro x
  constructor
  . exact hsub x
  . intro hx
    rcases List.mem_map.mp (hnames x hx) with ⟨y, hy, heq⟩
    rwa [← List.inj_on_of_nodup_map hfull (hsub y hy) hx heq]

/-- The payload of what was decoded is the one that was, but for the order of its members. -/
theorem perm_of_fromPayload {doc : Json} {job : NotificationJob} {items : Items}
    (hdoc : Json.loads doc = .dict items)
    (h : NotificationJob.fromPayload (.dict items) = .ok job)
    : (job.entries.map Json.item).Perm (withMetadata items) := by
  rcases fromPayload_eq_ok.mp h with ⟨_, hitems, hknown, hchannel, haddress, htext, hcategory,
    hmetadata⟩
  injection hitems with hitems
  rw [← hitems] at hknown hchannel haddress htext hcategory hmetadata
  rcases Json.exists_pairs_of_loads hdoc with ⟨pairs, rfl, hnodup⟩
  rw [Json.get?_map_item hnodup] at hchannel haddress htext hcategory
  rw [List.forall_mem_map] at hknown
  have hnames : ∀ x ∈ pairs, x.1 ∈ payloadKeys := by
    intro x hx
    rcases hknown x hx with ⟨key, hkey, heq⟩
    injection heq with heq
    rwa [heq]
  unfold withMetadata
  cases hfound : Value.get? (pairs.map Json.item) (ofString "metadata") with
  | none =>
    rw [hfound, Option.getD_none] at hmetadata
    injection hmetadata with hmetadata
    have habsent : ofString "metadata" ∉ pairs.map Prod.fst := by
      intro hmem
      rcases List.mem_map.mp hmem with ⟨x, hx, heq⟩
      have := (Json.get?_map_item hnodup).mpr (show (x.1, x.2) ∈ pairs from hx)
      rw [heq, hfound] at this
      injection this
    have hfull : ((pairs ++ [(ofString "metadata", Value.dict [])]).map Prod.fst).Nodup := by
      rw [List.map_append, List.map_singleton, ← List.concat_eq_append]
      exact List.Nodup.concat habsent hnodup
    have hperm : job.entries.Perm (pairs ++ [(ofString "metadata", Value.dict [])]) := by
      apply perm_of_subset job.nodup_entries hfull
      . simp only [NotificationJob.entries, List.forall_mem_cons, List.mem_append, hchannel,
          haddress, htext, hcategory, ← hmetadata]
        simp
      . simp only [List.forall_mem_append, List.forall_mem_singleton]
        exact ⟨hnames, (by decide : ofString "metadata" ∈ payloadKeys)⟩
    have := hperm.map Json.item
    rwa [List.map_append] at this
  | some value =>
    rw [hfound, Option.getD_some] at hmetadata
    rw [Json.get?_map_item hnodup, hmetadata] at hfound
    apply List.Perm.map
    apply perm_of_subset job.nodup_entries hnodup
    . simp only [NotificationJob.entries, List.forall_mem_cons, hchannel, haddress, htext, hcategory,
        hfound]
      simp
    . exact hnames

def Plain {α : Type} (x : Except InvalidNotificationError α) : Prop :=
  ∀ error, x = .error error → ∃ text, error = .message text

namespace Plain

theorem bind {α β : Type} {x : Except InvalidNotificationError α}
    {f : α → Except InvalidNotificationError β} (hx : Plain x) (hf : ∀ a, Plain (f a))
    : Plain (x >>= f) := by
  intro error h
  rw [Except.bind_eq_error] at h
  cases h with
  | inl h => exact hx error h
  | inr h =>
    rcases h with ⟨a, -, h⟩
    exact hf a error h

theorem nonEmptyString (fieldName : String) (value : Value)
    : Plain (Api.nonEmptyString fieldName value) := by
  intro error h
  unfold Api.nonEmptyString at h
  split at h
  . split at h
    . injection h with h
      exact ⟨_, h.symm⟩
    . injection h
  . injection h with h
    exact ⟨_, h.symm⟩

theorem mapping (value : Value) : Plain (Api.mapping value) := by
  intro error h
  unfold Api.mapping at h
  split at h
  . injection h
  . injection h with h
    exact ⟨_, h.symm⟩

theorem new (channel address text category metadata : Value)
    : Plain (NotificationJob.new channel address text category metadata) := by
  unfold NotificationJob.new
  refine bind (nonEmptyString _ _) fun channel => ?_
  refine bind (nonEmptyString _ _) fun address => ?_
  refine bind (nonEmptyString _ _) fun text => ?_
  refine bind (nonEmptyString _ _) fun category => ?_
  refine bind (mapping _) fun metadata => ?_
  intro error h
  injection h

end Plain

theorem fromPayload_eq_error {payload : Value} {error : InvalidNotificationError}
    (h : NotificationJob.fromPayload payload = .error error)
    : (∃ text, error = .message text)
        ∨ ∃ items, payload = .dict items
          ∧ error = .payloadKeys (NotificationJob.unknownKeys items)
            (NotificationJob.missingKeys items) := by
  unfold NotificationJob.fromPayload at h
  split at h
  . next items =>
    dsimp only at h
    split at h
    . injection h with h
      exact Or.inr ⟨items, rfl, h.symm⟩
    . left
      refine Plain.bind (Plain.mapping _) ?_ error h
      intro metadata
      apply Plain.new
  . injection h with h
    exact Or.inl ⟨_, h.symm⟩

theorem mapM_str? (names : List Str) : (names.map Value.str).mapM Value.str? = some names := by
  rw [List.mapM_eq_some_iff, List.map_map]
  rfl

theorem isSome_sortedKeys (pairs : List (Str × Value))
    : (sortedKeys (NotificationJob.unknownKeys (pairs.map Json.item))).isSome = true := by
  have hkeys : (pairs.map Json.item).map Prod.fst = (pairs.map Prod.fst).map .str := by
    rw [List.map_map, List.map_map]
    rfl
  rw [sortedKeys, Option.isSome_map, Option.isSome_iff_exists, NotificationJob.unknownKeys, hkeys,
    List.filter_map]
  exact ⟨_, mapM_str? _⟩

variable {repr : Str → Str}

theorem decode_eq_error {doc : Json} {undecoded : Undecoded}
    (h : NotificationJob.decode repr (Json.loads doc) = .error undecoded)
    : ∃ text, undecoded = .invalidNotification text := by
  rw [NotificationJob.decode, Except.mapError_eq_error] at h
  rcases h with ⟨error, herror, rfl⟩
  rcases fromPayload_eq_error herror with ⟨text, rfl⟩ | ⟨items, hitems, rfl⟩
  . exact ⟨_, rfl⟩
  . rcases Json.exists_pairs_of_loads hitems with ⟨pairs, rfl, -⟩
    rcases Option.isSome_iff_exists.mp (isSome_sortedKeys pairs) with ⟨names, hnames⟩
    rw [InvalidNotificationError.raised, hnames]
    exact ⟨_, rfl⟩

theorem decode_eq_ok {payload : Value} {job : NotificationJob}
    : NotificationJob.decode repr payload = .ok job
        ↔
      NotificationJob.fromPayload payload = .ok job := by
  unfold NotificationJob.decode
  cases NotificationJob.fromPayload payload with
  | ok job' => simp [Except.mapError]
  | error error => simp [Except.mapError]

theorem toMessage_fromMessage (message : NotificationMessage)
    : ∃ job, NotificationJob.fromMessage message = .ok job ∧ job.toMessage = .ok message := by
  have hchannel : strip message.recipient.channel.value ≠ [] := by
    cases message.recipient.channel with
    | telegram => decide
    | bale => decide
  let job : NotificationJob := ⟨message.recipient.channel.value, message.recipient.address,
    message.text, message.category, message.metadata, hchannel, message.recipient.address_ne,
    message.text_ne, message.category_ne⟩
  refine ⟨job, NotificationJob.new_eq_ok job, ?_⟩
  rw [NotificationJob.toMessage_eq_ok]
  exact ⟨NotificationChannel.ofValue_value _, rfl, rfl, rfl, rfl⟩

/--
A JSON value is decoded exactly when it is one of a job, and is otherwise refused by the one error;
the payload of what it is decoded to is the value again, and a message survives the way there and back.
-/
theorem decode_strict (repr : Str → Str) (doc : Json)
    : ((∃ job, NotificationJob.decode repr (Json.loads doc) = .ok job) ↔ Decodable (Json.loads doc))
        ∧ (¬Decodable (Json.loads doc) →
          ∃ text, NotificationJob.decode repr (Json.loads doc) = .error (.invalidNotification text))
        ∧ (∀ job, NotificationJob.decode repr (Json.loads doc) = .ok job →
          ∃ items entries, Json.loads doc = .dict items ∧ job.toPayload = .dict entries
            ∧ entries.Perm (withMetadata items))
        ∧ ∀ message, ∃ job, NotificationJob.fromMessage message = .ok job
          ∧ job.toMessage = .ok message := by
  have hdecodable : (∃ job, NotificationJob.decode repr (Json.loads doc) = .ok job)
      ↔ Decodable (Json.loads doc) := by
    simp only [decode_eq_ok]
    exact exists_fromPayload
  refine ⟨hdecodable, ?_, ?_, toMessage_fromMessage⟩
  . intro hnot
    cases hdecode : NotificationJob.decode repr (Json.loads doc) with
    | ok job => exact absurd (hdecodable.mp ⟨job, hdecode⟩) hnot
    | error undecoded =>
      rcases decode_eq_error hdecode with ⟨text, rfl⟩
      exact ⟨text, rfl⟩
  . intro job hjob
    rw [decode_eq_ok] at hjob
    rcases fromPayload_eq_ok.mp hjob with ⟨items, hitems, -⟩
    rw [hitems] at hjob
    exact ⟨items, _, hitems, job.toPayload_eq, perm_of_fromPayload hitems hjob⟩

end Api
