import FieldTags.Project.TagFile
import FieldTags.Proofs.Json.RecordFields
import FieldTags.Service.Exchange

/-!
# Envelopes in tag files

A tag file may hold an envelope as the service sends it. A reply is read in two steps: the code is
looked at first, and only the data of a success has to be rows. A file is read in one step, so its
data have to be rows from the start. Where they are, the file gives the same as the reply. Every
other file is malformed, even if the reply reports a failure or has null for no rows.
-/

namespace FieldTags

open JsonDocument (ReadsCanonical Record)

/-! ## Rows -/

namespace TagRow

variable {document : JsonDocument} {r : Record}

/-- A row is read from what the document says about its two fields. -/
theorem ofDocument?_of_record (h : Record.of? ["field", "tag"] document = some r) :
    ofDocument? document =
      (r.required "field" JsonDocument.string?).bind fun field ↦
        (r.required "tag" JsonDocument.string?).bind fun tag ↦ some ⟨field, tag⟩ := by
  rw [ofDocument?, h]
  rfl

theorem readsCanonical_ofDocument? : ReadsCanonical ofDocument? := by
  intro document value row hvalue hrow
  obtain ⟨r, hr, -⟩ := Option.bind_eq_some_iff.mp hrow
  rw [ofDocument?_of_record hr] at hrow
  obtain ⟨field, hfield, htail⟩ := Option.bind_eq_some_iff.mp hrow
  obtain ⟨tag, htag, hmade⟩ := Option.bind_eq_some_iff.mp htail
  obtain ⟨tidied, htidied, hslot⟩ := Record.exists_of?_ofValue hvalue hr
  have hslotField := hslot "field" (by decide)
  have hslotTag := hslot "tag" (by decide)
  have hread := JsonDocument.readsCanonical_string?
  rw [ofDocument?_of_record htidied, Record.required_of_tidied hslotField hread hfield,
    Option.bind_some, Record.required_of_tidied hslotTag hread htag, Option.bind_some, hmade]

end TagRow

theorem TagFile.readsCanonical_rows? : ReadsCanonical rows? :=
  TagRow.readsCanonical_ofDocument?.list?

/-! ## Envelopes -/

namespace TagFile

/-- Every part of the object has a value, and all data that it names are rows. -/
structure HoldsRows (members : List (String × JsonDocument)) : Prop where
  whole : (JsonDocument.object members).whole?.isSome = true
  rows : ∀ member ∈ members, member.1 = "data" → (rows? member.2).isSome = true

/-- The object is an envelope with a code that is not zero and a message. Its data may be anything
that has a value. -/
structure Fails (members : List (String × JsonDocument)) (code : Int64) (message : String) :
    Prop where
  once : ∀ field ∈ ["code", "data", "msg"], (members.filter (·.1 = field)).length ≤ 1
  code_ne : code ≠ 0
  code : ∃ document, ("code", document) ∈ members ∧ Envelope.code? document = some code
  message : ("msg", .string message) ∈ members
  data : ∀ document, ("data", document) ∈ members → document.value?.isSome = true

variable {text model : String} {members : List (String × JsonDocument)}

theorem data_mem_fields : "data" ∈ ["code", "data", "msg"] := by
  decide

/-- What is read from the document of a file. -/
def ofEnvelope (document : JsonDocument) : Except ServiceError (List TagRow) :=
  match Envelope.ofDocument? [] rows? document with
  | some envelope => envelope.result
  | none => .error .malformed

theorem readRows_of_whole (h : Json.readDocument text = some (.object members))
    (hwhole : (JsonDocument.object members).whole?.isSome = true) :
    readRows text = ofEnvelope (.object members) := by
  obtain ⟨other, hother⟩ := Option.isSome_iff_exists.mp hwhole
  obtain ⟨-, rfl⟩ := JsonDocument.whole?_eq_some_iff.mp hother
  rw [readRows, h, Option.bind_some, hother]
  rfl

/-- What is read from the document of a reply. -/
def ofReply (document : JsonDocument) : Except ServiceError (List TagRow) :=
  match Envelope.free? document with
  | none => .error .malformed
  | some e => (e.checked.bind (Envelope.readData [] rows?)).map Envelope.data

theorem receive_tags {document : JsonDocument} (h : Json.readDocument text = some document) :
    (Exchange.tags model).receive (.ok text) = ofReply document := by
  have hreceive : (Exchange.tags model).receive (.ok text) =
      (Envelope.decode [] rows? text).map Envelope.data := rfl
  rw [hreceive, Envelope.decode, h, Option.bind_some, ofReply]
  cases Envelope.free? document with
  | none => rfl
  | some e => rfl

/-- Where the data of a reply give the rows that they are directly, both readings agree. -/
theorem ofEnvelope_eq_ofReply {document : JsonDocument} {r : Record} {rows : List TagRow}
    {data : Json} (hr : Record.of? ["code", "data", "msg"] document = some r)
    (hrows : r.defaulted "data" [] rows? = some rows)
    (hdata : r.defaulted "data" .null JsonDocument.freeValue? = some data)
    (hread : ∀ code message, Envelope.readData [] rows? ⟨code, data, message⟩ =
      .ok ⟨code, rows, message⟩) : ofEnvelope document = ofReply document := by
  rw [ofEnvelope, ofReply, Envelope.free?, Envelope.ofDocument?_of_record hr,
    Envelope.ofDocument?_of_record hr, hrows, hdata]
  cases r.required "code" Envelope.code? with
  | none => rfl
  | some code =>
    cases r.defaulted "msg" "" JsonDocument.string? with
    | none => rfl
    | some message =>
      simp only [Option.bind_some, Envelope.result, Envelope.checked]
      by_cases hcode : code = 0
      · rw [if_pos hcode, if_pos hcode, Except.bind, hread]
      · rw [if_neg hcode, if_neg hcode]
        rfl

theorem ofEnvelope_of_no_record {document : JsonDocument}
    (hr : Record.of? ["code", "data", "msg"] document = none) :
    ofEnvelope document = .error .malformed := by
  rw [ofEnvelope, Envelope.ofDocument?, hr]
  rfl

theorem ofReply_of_no_record {document : JsonDocument}
    (hr : Record.of? ["code", "data", "msg"] document = none) :
    ofReply document = .error .malformed := by
  rw [ofReply, Envelope.free?, Envelope.ofDocument?, hr]
  rfl

/-- Rows that are the data of a reply are read as rows. -/
theorem readData_of_rows {data : Json} {rows : List TagRow}
    (h : rows? (.ofValue data) = some rows) (code : Int64) (message : String) :
    Envelope.readData [] rows? ⟨code, data, message⟩ = .ok ⟨code, rows, message⟩ := by
  unfold Envelope.readData
  dsimp only
  split
  · cases h
  · rw [h]

theorem HoldsRows.exists_value? (h : HoldsRows members) {key : String} {document : JsonDocument}
    (hmem : (key, document) ∈ members) : ∃ value, document.value? = some value := by
  obtain ⟨other, hother⟩ := Option.isSome_iff_exists.mp h.whole
  obtain ⟨hvalue, -⟩ := JsonDocument.whole?_eq_some_iff.mp hother
  rw [JsonDocument.value?, Option.isSome_map] at hvalue
  obtain ⟨values, hvalues⟩ := Option.isSome_iff_exists.mp hvalue
  exact JsonDocument.exists_value?_of_mem hvalues hmem

/-- A file with rows for data gives what the reply with the same body gives. -/
theorem HoldsRows.ofEnvelope_eq_ofReply (h : HoldsRows members) :
    ofEnvelope (.object members) = ofReply (.object members) := by
  cases hr : Record.of? ["code", "data", "msg"] (.object members) with
  | none => rw [ofEnvelope_of_no_record hr, ofReply_of_no_record hr]
  | some r =>
    rcases Record.slot_cases hr data_mem_fields with hunnamed | ⟨document, hmem, hgiven⟩
    · have hrows : r.defaulted "data" [] rows? = some [] :=
        Record.defaulted_of_unnamed hunnamed
      have hdata : r.defaulted "data" .null JsonDocument.freeValue? = some .null :=
        Record.defaulted_of_unnamed hunnamed
      exact TagFile.ofEnvelope_eq_ofReply hr hrows hdata fun _ _ ↦ rfl
    · obtain ⟨rows, hread⟩ := Option.isSome_iff_exists.mp (h.rows _ hmem rfl)
      obtain ⟨value, hvalue⟩ := h.exists_value? hmem
      have hfree := JsonDocument.freeValue?_of_value? hvalue
      have hrows : r.defaulted "data" [] rows? = some rows :=
        (Record.defaulted_of_slot hgiven).trans hread
      have hdata : r.defaulted "data" .null JsonDocument.freeValue? = some value.canonical :=
        (Record.defaulted_of_slot hgiven).trans hfree
      exact TagFile.ofEnvelope_eq_ofReply hr hrows hdata
        (readData_of_rows (readsCanonical_rows? _ _ _ hfree hread))

/-- Data that are no rows make the file malformed, whatever its code is. -/
theorem ofEnvelope_of_not_rows {document : JsonDocument} (hmem : ("data", document) ∈ members)
    (hrows : rows? document = none) : ofEnvelope (.object members) = .error .malformed := by
  cases hr : Record.of? ["code", "data", "msg"] (.object members) with
  | none => exact ofEnvelope_of_no_record hr
  | some r =>
    have hgiven := Record.slot_of_mem hr data_mem_fields hmem
    have hmissing : r.defaulted "data" [] rows? = none :=
      (Record.defaulted_of_slot hgiven).trans hrows
    rw [ofEnvelope, Envelope.ofDocument?_of_record hr, hmissing]
    cases r.required "code" Envelope.code? <;> rfl

/-- The message of a failure is reported by the reply, whatever form its data has. -/
theorem Fails.ofReply_eq {code : Int64} {message : String} (h : Fails members code message) :
    ofReply (.object members) = .error (.rejected code message) := by
  obtain ⟨r, hr⟩ := Record.exists_of?_object fun field hfield ↦
    Record.isSome_slotOfMembers_iff.mpr (h.once field hfield)
  obtain ⟨document, hmem, hdocument⟩ := h.code
  have hcode : r.required "code" Envelope.code? = some code :=
    (Record.required_of_slot (Record.slot_of_mem hr (by decide) hmem)).trans hdocument
  have hmessage : r.defaulted "msg" "" JsonDocument.string? = some message :=
    Record.defaulted_of_slot (Record.slot_of_mem hr (by decide) h.message)
  obtain ⟨data, hdata⟩ : ∃ data, r.defaulted "data" .null JsonDocument.freeValue? = some data := by
    rcases Record.slot_cases hr data_mem_fields with hunnamed | ⟨document, hmem, hgiven⟩
    · exact ⟨.null, Record.defaulted_of_unnamed hunnamed⟩
    · obtain ⟨value, hvalue⟩ := Option.isSome_iff_exists.mp (h.data document hmem)
      have hfree := JsonDocument.freeValue?_of_value? hvalue
      exact ⟨_, (Record.defaulted_of_slot hgiven).trans hfree⟩
  rw [ofReply, Envelope.free?, Envelope.ofDocument?_of_record hr, hcode, hdata, hmessage]
  simp only [Option.bind_some, Envelope.checked, if_neg h.code_ne]
  rfl

/-- A file gives what the reply with the same text gives if it has rows for its data. Every other
file is malformed, also where the reply reports a failure. -/
theorem readRows_eq_receive_tags (h : Json.readDocument text = some (.object members)) :
    (HoldsRows members → readRows text = (Exchange.tags model).receive (.ok text)) ∧
    (¬ HoldsRows members → readRows text = .error .malformed) ∧
    ∀ code message, Fails members code message →
      (Exchange.tags model).receive (.ok text) = .error (.rejected code message) := by
  rw [receive_tags h]
  refine ⟨fun hrows ↦ ?_, fun hrows ↦ ?_, fun code message hfails ↦ ?_⟩
  · rw [readRows_of_whole h hrows.whole, hrows.ofEnvelope_eq_ofReply]
  · by_cases hwhole : (JsonDocument.object members).whole?.isSome = true
    · obtain ⟨document, hmem, hnone⟩ :
          ∃ document, ("data", document) ∈ members ∧ rows? document = none := by
        by_contra hall
        apply hrows
        refine ⟨hwhole, fun member hmem hdata ↦ ?_⟩
        obtain ⟨key, document⟩ := member
        cases hdata
        by_contra hnone
        exact hall ⟨document, hmem, Option.not_isSome_iff_eq_none.mp hnone⟩
      rw [readRows_of_whole h hwhole, ofEnvelope_of_not_rows hmem hnone]
    · have hnone := Option.not_isSome_iff_eq_none.mp hwhole
      rw [readRows, h, Option.bind_some, hnone]
  · exact hfails.ofReply_eq

/-- The members of a reply with one row. -/
def listed : List (String × Json) :=
  [("code", .ofUInt32 0), ("data", .array [.object [("field", .string "Name"),
    ("tag", .string "label:Name")]])]

/-- The members of a reply that denies a request and has null for data. -/
def denied : List (String × Json) :=
  [("code", .ofUInt32 7), ("data", .null), ("msg", .string "denied")]

theorem readDocument_compact_listed : Json.readDocument (Json.object listed).compact =
    some (.object (JsonDocument.ofMembers listed)) := by
  have hlexemes : Json.readLexemes (Json.object listed).compact.toList =
      some ((Json.object listed).tokens.map .token) := by decide +kernel
  rw [Json.readDocument, hlexemes]
  rfl

theorem readDocument_compact_denied : Json.readDocument (Json.object denied).compact =
    some (.object (JsonDocument.ofMembers denied)) := by
  have hlexemes : Json.readLexemes (Json.object denied).compact.toList =
      some ((Json.object denied).tokens.map .token) := by decide +kernel
  rw [Json.readDocument, hlexemes]
  rfl

theorem holdsRows_listed : HoldsRows (JsonDocument.ofMembers listed) where
  whole := by decide +kernel
  rows := by decide +kernel

theorem fails_denied : Fails (JsonDocument.ofMembers denied) 7 "denied" where
  once := by decide +kernel
  code_ne := by decide
  code := ⟨.ofValue (.ofUInt32 7), List.mem_cons_self, by decide⟩
  message := List.mem_cons_of_mem _ (List.mem_cons_of_mem _ List.mem_cons_self)
  data document hmem := by
    have hall : ∀ member ∈ JsonDocument.ofMembers denied, member.2.value?.isSome = true := by
      decide +kernel
    exact hall _ hmem

/-- A list of rows is read from a file as from a reply, and a denial is reported by the reply. -/
theorem readRows_listed_receive_denied :
    readRows (Json.object listed).compact =
      (Exchange.tags "User").receive (.ok (Json.object listed).compact) ∧
    (Exchange.tags "User").receive (.ok (Json.object denied).compact) =
      .error (.rejected 7 "denied") :=
  ⟨(readRows_eq_receive_tags readDocument_compact_listed).1 holdsRows_listed,
    (readRows_eq_receive_tags readDocument_compact_denied).2.2 7 "denied" fails_denied⟩

/-- A file with a denial that has null for data does not report it. -/
theorem not_forall_readRows_eq_receive_tags :
    ¬ ∀ (text model : String) (members : List (String × JsonDocument)),
      Json.readDocument text = some (.object members) →
      (∀ rows, readRows text = .ok rows ↔ (Exchange.tags model).receive (.ok text) = .ok rows) ∧
      ∀ code message, Fails members code message →
        readRows text = .error (.rejected code message) ∧
        (Exchange.tags model).receive (.ok text) = .error (.rejected code message) := by
  intro h
  have hreported := ((h _ "User" _ readDocument_compact_denied).2 7 "denied" fails_denied).1
  have hmalformed : readRows (Json.object denied).compact = .error .malformed := by decide +kernel
  rw [hmalformed] at hreported
  cases hreported

end TagFile

end FieldTags
