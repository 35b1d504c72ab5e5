import FieldTags.Proofs.Json.DistinctKeys
import FieldTags.Service.Exchange

/-!
# Outcomes of replies

The code of a reply decides first. If it is not zero, the reply is rejected with its message,
whatever value its data have: they need not be what was asked for. Only for code zero the data are
looked at. The data have to be a value, though, since they are kept as one until the code is known.
Data that are none, such as a number beyond the finite ones, make the reply malformed whatever its
code is, and the message of a rejection is lost.
-/

namespace FieldTags

open JsonDocument (HasDistinctKeys ReadsValue)
open JsonDocument.Record (defaulted_of_lookup defaulted_of_saidAlike readsValue_of
  required_of_lookup required_of_saidAlike)

/-! ## What the data of replies are read as -/

theorem TagRow.readsValue_ofDocument? : ReadsValue ofDocument? := by
  refine readsValue_of fun r tidied hslots ↦ ?_
  rw [required_of_saidAlike (hslots "field" (by decide)) JsonDocument.readsValue_string?,
    required_of_saidAlike (hslots "tag" (by decide)) JsonDocument.readsValue_string?]

theorem PermissionSet.readsValue_ofDocument? : ReadsValue ofDocument? :=
  JsonDocument.readsValue_string?.list?.map PermissionSet.mk

theorem RecordPage.readsValue_ofDocument? : ReadsValue ofDocument? := by
  refine readsValue_of fun r tidied hslots ↦ ?_
  rw [required_of_saidAlike (hslots "list" (by decide)) JsonDocument.readsValue_freeValue?.list?,
    required_of_saidAlike (hslots "total" (by decide))
      ((JsonDocument.readsValue_int? 0 maxUInt64).map fun n ↦ UInt64.ofNat n.toNat)]

theorem RecordId.readsValue_ofDocument? : ReadsValue ofDocument? :=
  JsonDocument.readsValue_of_plain (fun _ ↦ rfl) fun _ ↦ rfl

theorem FieldOption.readsValue_ofDocument? : ReadsValue ofDocument? := by
  refine readsValue_of fun r tidied hslots ↦ ?_
  have hdisabled : ReadsValue (JsonDocument.nullable? JsonDocument.bool?) :=
    JsonDocument.readsValue_of_plain (fun _ ↦ rfl) fun _ ↦ rfl
  have hcolor : ReadsValue (JsonDocument.nullable? JsonDocument.string?) :=
    JsonDocument.readsValue_of_plain (fun _ ↦ rfl) fun _ ↦ rfl
  rw [required_of_saidAlike (hslots "value" (by decide)) RecordId.readsValue_ofDocument?,
    required_of_saidAlike (hslots "label" (by decide)) JsonDocument.readsValue_string?,
    defaulted_of_saidAlike (hslots "disabled" (by decide)) hdisabled,
    defaulted_of_saidAlike (hslots "color" (by decide)) hcolor]

/-- What the service is asked for. -/
inductive PayloadKind where
  | rows
  | permissions
  | page
  | options
  | free

namespace PayloadKind

def Data : PayloadKind → Type
  | .rows => List TagRow
  | .permissions => PermissionSet
  | .page => RecordPage
  | .options => List FieldOption
  | .free => Json

/-- What data that are missing stand for. -/
def missing : (kind : PayloadKind) → kind.Data
  | .rows => []
  | .permissions => PermissionSet.empty
  | .page => RecordPage.empty
  | .options => []
  | .free => Json.null

def read : (kind : PayloadKind) → JsonDocument → Option kind.Data
  | .rows => JsonDocument.list? TagRow.ofDocument?
  | .permissions => PermissionSet.ofDocument?
  | .page => RecordPage.ofDocument?
  | .options => JsonDocument.list? FieldOption.ofDocument?
  | .free => JsonDocument.freeValue?

/-- How the data are read from their value. Free data have been read with it. -/
def data? : (kind : PayloadKind) → JsonDocument → Option kind.Data
  | .free => JsonDocument.value?
  | kind => kind.read

/-- The envelope of success in the body of a reply. -/
def decode (kind : PayloadKind) (body : String) : Except ServiceError (Envelope kind.Data) :=
  Envelope.decode kind.missing kind.data? body

/-- Every exchange decodes its reply as one of these kinds. -/
theorem receive_eq_decode (body : String) :
    (∀ model, (Exchange.tags model).receive (.ok body) = (rows.decode body).map Envelope.data) ∧
    Exchange.permissions.receive (.ok body) = (permissions.decode body).map Envelope.data ∧
    (∀ query, (Exchange.page query).receive (.ok body) = (page.decode body).map Envelope.data) ∧
    (∀ path params method, (Exchange.options path params method).receive (.ok body) =
      (options.decode body).map Envelope.data) ∧
    ∀ request, (Exchange.forEnvelope request).receive (.ok body) = free.decode body :=
  ⟨fun _ ↦ rfl, rfl, fun _ ↦ rfl, fun _ _ _ ↦ rfl, fun _ ↦ rfl⟩

variable {kind : PayloadKind} {document : JsonDocument} {members : List (String × JsonDocument)}

theorem readsValue_read : (kind : PayloadKind) → ReadsValue kind.read
  | .rows => TagRow.readsValue_ofDocument?.list?
  | .permissions => PermissionSet.readsValue_ofDocument?
  | .page => RecordPage.readsValue_ofDocument?
  | .options => FieldOption.readsValue_ofDocument?.list?
  | .free => JsonDocument.readsValue_freeValue?

def payload? (kind : PayloadKind) (document : JsonDocument) : Option kind.Data :=
  document.freeValue?.bind fun value ↦ kind.data? (.ofValue value)

/-- Data without repeated keys hold what can be read from them directly. -/
theorem payload?_eq_read (hkeys : document.HasDistinctKeys)
    (hvalue : document.value?.isSome = true) : kind.payload? document = kind.read document := by
  obtain ⟨value, hvalue⟩ := Option.isSome_iff_exists.mp hvalue
  have hfree := JsonDocument.freeValue?_of_value? hvalue
  have hread := readsValue_read kind document value.canonical hkeys hfree
  rw [payload?, hfree, Option.bind_some]
  cases kind with
  | free => exact (JsonDocument.value?_ofValue value.canonical).trans hfree.symm
  | rows | permissions | page | options => exact hread

/-! ## Envelopes -/

/-- The members are those of an envelope with a code and a message, whatever its data are. -/
structure Heads (members : List (String × JsonDocument)) (code : Int64) (message : String) :
    Prop where
  /-- There is a code, which is an integer of 64 bits. -/
  code : ∃ inRange, members.lookup "code" = some (.number (.integer code.toInt inRange))
  /-- There is no message or it is a text. -/
  message : (members.lookup "msg" = none ∧ message = "") ∨
    members.lookup "msg" = some (.string message)

theorem code?_eq_some_iff {code : Int64} :
    Envelope.code? document = some code ↔
      ∃ inRange, document = .number (.integer code.toInt inRange) := by
  constructor
  · intro h
    obtain ⟨n, hn, rfl⟩ := Option.map_eq_some_iff.mp h
    cases document with
    | number value =>
      cases value with
      | integer m inRange =>
        rw [JsonDocument.int?] at hn
        split at hn
        next hbounds =>
          cases hn
          have hround : (Int64.ofInt n).toInt = n := by
            simp only [minInt64, maxInt64] at hbounds
            exact Int64.toInt_ofInt_of_le (by omega) (by omega)
          rw [hround]
          exact ⟨inRange, rfl⟩
        · cases hn
      | float x hfinite => cases hn
    | _ => cases hn
  · rintro ⟨inRange, rfl⟩
    have hbounds : minInt64 ≤ code.toInt ∧ code.toInt ≤ maxInt64 := by
      have hlow := code.le_toInt
      have hhigh := code.toInt_lt
      simp only [minInt64, maxInt64]
      omega
    rw [Envelope.code?, JsonDocument.int?, if_pos hbounds, Option.map_some, Int64.ofInt_toInt]

theorem heads_iff {code : Int64} {message : String} :
    Heads members code message ↔
      (members.lookup "code").bind Envelope.code? = some code ∧
        (members.lookup "msg").elim (some "") JsonDocument.string? = some message := by
  have hcode : (members.lookup "code").bind Envelope.code? = some code ↔
      ∃ inRange, members.lookup "code" = some (.number (.integer code.toInt inRange)) := by
    rw [Option.bind_eq_some_iff]
    simp only [code?_eq_some_iff]
    constructor
    · rintro ⟨document, hlookup, inRange, rfl⟩
      exact ⟨inRange, hlookup⟩
    · rintro ⟨inRange, hlookup⟩
      exact ⟨_, hlookup, inRange, rfl⟩
  have hmessage : (members.lookup "msg").elim (some "") JsonDocument.string? = some message ↔
      (members.lookup "msg" = none ∧ message = "") ∨
        members.lookup "msg" = some (.string message) := by
    cases members.lookup "msg" with
    | none => simp [eq_comm]
    | some document => cases document <;> simp [JsonDocument.string?]
  rw [hcode, hmessage]
  exact ⟨fun h ↦ ⟨h.code, h.message⟩, fun h ↦ ⟨h.1, h.2⟩⟩

/-- Without repeated keys, an envelope is read from what its three members are. -/
theorem free?_eq (hkeys : (members.map Prod.fst).Nodup) :
    Envelope.free? (.object members) =
      ((members.lookup "code").bind Envelope.code?).bind fun code ↦
        ((members.lookup "data").elim (some .null) JsonDocument.freeValue?).bind fun data ↦
          ((members.lookup "msg").elim (some "") JsonDocument.string?).bind fun message ↦
            some ⟨code, data, message⟩ := by
  obtain ⟨r, hr, hslot⟩ :=
    JsonDocument.Record.exists_of?_of_nodup hkeys ["code", "data", "msg"]
  rw [Envelope.free?, Envelope.ofDocument?_of_record hr,
    required_of_lookup (hslot "code" (by decide)), defaulted_of_lookup (hslot "data" (by decide)),
    defaulted_of_lookup (hslot "msg" (by decide))]

/-- What the members of an envelope decide about the outcome of a reply. -/
structure Decides (kind : PayloadKind) (members : List (String × JsonDocument))
    (outcome : Except ServiceError (Envelope kind.Data)) : Prop where
  /-- A code that is not zero is reported with the message, whatever value the data have. -/
  rejected : ∀ code message, Heads members code message → code ≠ 0 →
    (∀ document, members.lookup "data" = some document → document.value?.isSome = true) →
    outcome = .error (.rejected code message)
  /-- In a success, absent data and null stand for the default. -/
  missing : ∀ message, Heads members 0 message →
    (members.lookup "data" = none ∨ members.lookup "data" = some .null) →
    outcome = .ok ⟨0, kind.missing, message⟩
  /-- Other data of a success are given if they hold what was asked for. -/
  given : ∀ message document payload, Heads members 0 message →
    members.lookup "data" = some document → document ≠ .null →
    kind.payload? document = some payload → outcome = .ok ⟨0, payload, message⟩
  /-- Data of a success that do not hold it are malformed. -/
  mistyped : ∀ message document, Heads members 0 message →
    members.lookup "data" = some document → document ≠ .null → kind.payload? document = none →
    outcome = .error .malformed
  /-- Data that have no value are malformed, whatever the code is. -/
  valueless : ∀ document, members.lookup "data" = some document → document.value? = none →
    outcome = .error .malformed
  /-- Without a code, or with a message that is no text, the reply is malformed. -/
  headless : (∀ code message, ¬ Heads members code message) → outcome = .error .malformed
  /-- Data of a success without repeated keys are given as they can be read directly. -/
  direct : ∀ message document, Heads members 0 message → members.lookup "data" = some document →
    document ≠ .null → document.HasDistinctKeys → document.value?.isSome = true →
    outcome = match kind.read document with
      | some payload => .ok ⟨0, payload, message⟩
      | none => .error .malformed

section Outcomes

variable {body message : String} {code : Int64}

theorem decode_of_free? {document : JsonDocument} (h : Json.readDocument body = some document) :
    kind.decode body = match Envelope.free? document with
      | some e => e.checked.bind (Envelope.readData kind.missing kind.data?)
      | none => .error .malformed := by
  rw [decode, Envelope.decode, h, Option.bind_some]
  cases Envelope.free? document with
  | none => rfl
  | some e => rfl

theorem free?_of_heads (hkeys : (members.map Prod.fst).Nodup) (h : Heads members code message) :
    Envelope.free? (.object members) =
      ((members.lookup "data").elim (some .null) JsonDocument.freeValue?).map
        fun data ↦ ⟨code, data, message⟩ := by
  obtain ⟨hcode, hmessage⟩ := heads_iff.mp h
  rw [free?_eq hkeys, hcode, hmessage, Option.bind_some, Option.map_eq_bind]
  rfl

theorem free?_of_headless (hkeys : (members.map Prod.fst).Nodup)
    (h : ∀ code message, ¬ Heads members code message) :
    Envelope.free? (.object members) = none := by
  rw [free?_eq hkeys, Option.bind_eq_none_iff]
  intro code hcode
  rw [Option.bind_eq_none_iff]
  intro data _
  rw [Option.bind_eq_none_iff]
  intro message hmessage
  exact absurd (heads_iff.mpr ⟨hcode, hmessage⟩) (h code message)

/-- A rejection is reported before its data are read. -/
theorem checked_bind_of_ne {e : Envelope Json} (h : e.code ≠ 0) :
    e.checked.bind (Envelope.readData kind.missing kind.data?) =
      .error (.rejected e.code e.message) := by
  rw [Envelope.checked, if_neg h]
  rfl

theorem checked_bind_of_success (data : Json) (message : String) :
    (⟨0, data, message⟩ : Envelope Json).checked.bind
      (Envelope.readData kind.missing kind.data?) =
    Envelope.readData kind.missing kind.data? ⟨0, data, message⟩ := by
  rw [Envelope.checked, if_pos rfl]
  rfl

theorem readData_of_ne_null {data : Json} (h : data ≠ .null) :
    Envelope.readData kind.missing kind.data? ⟨code, data, message⟩ =
      match kind.data? (.ofValue data) with
      | some payload => .ok ⟨code, payload, message⟩
      | none => .error .malformed := by
  unfold Envelope.readData
  dsimp only
  split
  · exact absurd rfl h
  · cases kind.data? (.ofValue data) with
    | none => rfl
    | some payload => rfl

theorem ne_null_of_freeValue? {document : JsonDocument} {value : Json}
    (h : document.freeValue? = some value) (hne : document ≠ .null) : value ≠ .null := by
  rintro rfl
  obtain ⟨given, hgiven, hcanonical⟩ := Option.map_eq_some_iff.mp h
  cases given with
  | null => exact hne (JsonDocument.ofValue_of_value? document hgiven).symm
  | _ => cases hcanonical

/-- The data of a success that are not null are given as what they hold. -/
theorem decode_of_data (hbody : Json.readDocument body = some (.object members))
    (hkeys : (members.map Prod.fst).Nodup) (hheads : Heads members 0 message)
    {document : JsonDocument} (hdata : members.lookup "data" = some document)
    (hne : document ≠ .null) :
    kind.decode body = match kind.payload? document with
      | some payload => .ok ⟨0, payload, message⟩
      | none => .error .malformed := by
  rw [decode_of_free? hbody, free?_of_heads hkeys hheads, hdata, Option.elim_some, payload?]
  cases hvalue : document.freeValue? with
  | none => rfl
  | some value =>
    rw [Option.map_some, Option.bind_some]
    exact (checked_bind_of_success value message).trans
      (readData_of_ne_null (ne_null_of_freeValue? hvalue hne))

theorem decides (hbody : Json.readDocument body = some (.object members))
    (hkeys : (members.map Prod.fst).Nodup) : kind.Decides members (kind.decode body) where
  rejected code message hheads hcode hvalues := by
    rw [decode_of_free? hbody, free?_of_heads hkeys hheads]
    cases hdata : members.lookup "data" with
    | none => exact checked_bind_of_ne hcode
    | some document =>
      obtain ⟨value, hvalue⟩ := Option.isSome_iff_exists.mp (hvalues document hdata)
      rw [Option.elim_some, JsonDocument.freeValue?_of_value? hvalue]
      exact checked_bind_of_ne hcode
  missing message hheads hdata := by
    rw [decode_of_free? hbody, free?_of_heads hkeys hheads]
    rcases hdata with hdata | hdata
    · rw [hdata]
      exact checked_bind_of_success .null message
    · rw [hdata]
      exact checked_bind_of_success .null message
  given message document payload hheads hdata hne hpayload := by
    rw [decode_of_data hbody hkeys hheads hdata hne, hpayload]
  mistyped message document hheads hdata hne hpayload := by
    rw [decode_of_data hbody hkeys hheads hdata hne, hpayload]
  valueless document hdata hvalue := by
    have hnone : Envelope.free? (.object members) = none := by
      rw [free?_eq hkeys, hdata, Option.elim_some, JsonDocument.freeValue?, hvalue]
      cases (members.lookup "code").bind Envelope.code? with
      | none => rfl
      | some code => rfl
    rw [decode_of_free? hbody, hnone]
  headless h := by
    rw [decode_of_free? hbody, free?_of_headless hkeys h]
  direct message document hheads hdata hne hdistinct hvalue := by
    rw [decode_of_data hbody hkeys hheads hdata hne, payload?_eq_read hdistinct hvalue]

end Outcomes

/-- The members of an object without repeated keys decide what a reply gives. A body that is neither
an object nor an array, also one that is no JSON, is malformed. -/
theorem decode_decides (kind : PayloadKind) (body : String) :
    (∀ members, Json.readDocument body = some (.object members) → (members.map Prod.fst).Nodup →
      kind.Decides members (kind.decode body)) ∧
    ((∀ members, Json.readDocument body ≠ some (.object members)) →
      (∀ items, Json.readDocument body ≠ some (.array items)) →
      kind.decode body = .error .malformed) := by
  refine ⟨fun members hbody hkeys ↦ decides hbody hkeys, fun hobject harray ↦ ?_⟩
  cases hbody : Json.readDocument body with
  | none =>
    rw [decode, Envelope.decode, hbody]
    rfl
  | some document =>
    rw [decode_of_free? hbody]
    cases document with
    | object members => exact absurd hbody (hobject members)
    | array items => exact absurd hbody (harray items)
    | null | bool _ | number _ | string _ | valueless => rfl

def denial (data : JsonDocument) : List (String × JsonDocument) :=
  [("code", .ofValue (.ofUInt32 7)), ("msg", .string "denied"), ("data", data)]

theorem heads_denial (data : JsonDocument) : Heads (denial data) 7 "denied" where
  code := ⟨by decide, rfl⟩
  message := .inr rfl

theorem nodup_denial (data : JsonDocument) : ((denial data).map Prod.fst).Nodup := by
  change ["code", "msg", "data"].Nodup
  decide

/-- A denial with a text for its data. -/
def deniedText : String := r#"{"code":7,"msg":"denied","data":"none"}"#

/-- A denial whose data are beyond the finite numbers. -/
def deniedHuge : String := r#"{"code":7,"msg":"denied","data":1e400}"#

theorem readDocument_deniedText :
    Json.readDocument deniedText = some (.object (denial (.string "none"))) := by
  have hlexemes : Json.readLexemes deniedText.toList = some ([.objectStart, .string "code", .colon,
      .number (.integer 7 (by decide)), .comma, .string "msg", .colon, .string "denied", .comma,
      .string "data", .colon, .string "none", .objectEnd].map .token) := by decide +kernel
  rw [Json.readDocument, hlexemes]
  rfl

theorem readDocument_deniedHuge :
    Json.readDocument deniedHuge = some (.object (denial .valueless)) := by
  have hlexemes : Json.readLexemes deniedHuge.toList = some ([.objectStart, .string "code", .colon,
      .number (.integer 7 (by decide)), .comma, .string "msg", .colon, .string "denied", .comma,
      .string "data", .colon].map .token ++ [.hugeNumber, .token .objectEnd]) := by decide +kernel
  rw [Json.readDocument, hlexemes]
  rfl

/-- A denial with a text where permissions are asked for is reported with its message, and a body
that is no JSON is malformed. -/
theorem decode_deniedText_empty :
    permissions.decode deniedText = .error (.rejected 7 "denied") ∧
      permissions.decode "" = .error .malformed := by
  constructor
  · have hdecides := (decode_decides permissions deniedText).1 _ readDocument_deniedText
      (nodup_denial _)
    refine hdecides.rejected 7 "denied" (heads_denial _) (by decide) fun document hdata ↦ ?_
    cases hdata
    rfl
  · have hlexemes : Json.readLexemes "".toList = some [] := by decide +kernel
    have hnone : Json.readDocument "" = none := by
      rw [Json.readDocument, hlexemes]
      rfl
    refine (decode_decides permissions "").2 (fun members h ↦ ?_) fun items h ↦ ?_
    · cases hnone.symm.trans h
    · cases hnone.symm.trans h

/-- A denial whose data have no value is not reported. -/
theorem not_forall_rejected :
    ¬ ∀ (kind : PayloadKind) (body : String) (members : List (String × JsonDocument))
      (code : Int64) (message : String), Json.readDocument body = some (.object members) →
      (JsonDocument.object members).HasDistinctKeys → Heads members code message → code ≠ 0 →
      kind.decode body = .error (.rejected code message) := by
  intro h
  have hdistinct : (JsonDocument.object (denial .valueless)).HasDistinctKeys := by
    refine .object (nodup_denial _) fun member hmember ↦ ?_
    simp only [denial, List.mem_cons, List.not_mem_nil, or_false] at hmember
    rcases hmember with rfl | rfl | rfl
    · exact .number _
    · exact .string "denied"
    · exact .valueless
  have hreported := h permissions deniedHuge _ 7 "denied" readDocument_deniedHuge hdistinct
    (heads_denial _) (by decide)
  have hmalformed : permissions.decode deniedHuge = .error .malformed :=
    (decides readDocument_deniedHuge (nodup_denial _)).valueless .valueless rfl rfl
  rw [hmalformed] at hreported
  cases hreported

end PayloadKind

end FieldTags
