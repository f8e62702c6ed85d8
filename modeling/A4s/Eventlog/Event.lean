/-
The events of the log as the JSON package writes and reads them (`control.Event`,
`control.Evidence`).

Strings are byte strings and times are wall clocks, since what is lost on the way through a JSON
text is bytes that are not UTF-8 and seconds of an offset.

* `Event.marshal`, `Event.unmarshal`: `json.Marshal` and `json.Unmarshal` at the type, with the
  fields and tags of the source.
* `Event.reread`: an event after it was written and read; `unmarshal_marshal`: this is what is
  read.
* `Event.Settled`: all strings are UTF-8, and no offset is under a minute and not zero;
  `marshal_reread_iff`: then, and only then, the event that was read is written as before.
-/
import A4s.Go.JsonStruct
import A4s.Eventlog.Chain

namespace A4s.Eventlog

open Go Go.Json

/-- `control.Evidence`, as it stands in an event. -/
structure Evidence where
  kind : Go.Bytes := []
  target : Go.Bytes := []
  source : Go.Bytes := []
  observedAt : Clock := .zero
  expiresAt : Clock := .zero
  observed : Option StringMap := none

/-- `control.Event`. -/
structure Event where
  sequence : UInt64 := 0
  atTime : Clock := .zero
  type : Go.Bytes := []
  actor : Go.Bytes := []
  goalID : Go.Bytes := []
  proposalID : Go.Bytes := []
  actionID : Go.Bytes := []
  target : Go.Bytes := []
  kind : Go.Bytes := []
  worldRevision : UInt64 := 0
  message : Go.Bytes := []
  evidence : Option Evidence := none

/-! ### Writing -/

/-- A time as a value, or the error of its `MarshalJSON`. -/
def writeTime (t : Clock) : Result Json := do
  let text ← wrapError "json: error calling MarshalJSON for type time.Time: " t.marshal
  return .string text

/-- The object of an evidence, with its times as they are written. -/
def Evidence.object (e : Evidence) (observedAt expiresAt : Json) : Json :=
  .object <|
    member "kind" (text e.kind) ::
    member "target" (text e.target) ::
    (omitEmpty "source" e.source ++
    [member "observed_at" observedAt,
     member "expires_at" expiresAt,
     member "observed" (textMap e.observed)])

def Evidence.write (e : Evidence) : Result Json := do
  let observedAt ← writeTime e.observedAt
  let expiresAt ← writeTime e.expiresAt
  return e.object observedAt expiresAt

/-- `omitempty` on the pointer. -/
def writeEvidence : Option Evidence → Result (List (List Char × Json))
  | none => return []
  | some e => do
      let x ← e.write
      return [member "evidence" x]

/-- The object of an event, with its time and its evidence as they are written. -/
def Event.object (e : Event) (atTime : Json) (evidence : List (List Char × Json)) : Json :=
  .object <|
    member "sequence" (ofNat e.sequence.toNat) ::
    member "at" atTime ::
    member "type" (text e.type) ::
    member "actor" (text e.actor) ::
    member "goal_id" (text e.goalID) ::
    (omitEmpty "proposal_id" e.proposalID ++
    (omitEmpty "action_id" e.actionID ++
    (omitEmpty "target" e.target ++
    (omitEmpty "kind" e.kind ++
    member "world_revision" (ofNat e.worldRevision.toNat) ::
    member "message" (text e.message) ::
    evidence))))

def Event.write (e : Event) : Result Json := do
  let atTime ← writeTime e.atTime
  let evidence ← writeEvidence e.evidence
  return e.object atTime evidence

/-- `json.Marshal` on an event. -/
def Event.marshal (e : Event) : Result Go.Bytes := do
  let x ← e.write
  return encode x.print

/-! ### Reading -/

/-- The fields of an evidence. -/
def Evidence.fields : List (StructField Evidence) :=
  [("kind".toList, stringField fun s e => { e with kind := s }),
   ("target".toList, stringField fun s e => { e with target := s }),
   ("source".toList, stringField fun s e => { e with source := s }),
   ("observed_at".toList, timeField fun t e => { e with observedAt := t }),
   ("expires_at".toList, timeField fun t e => { e with expiresAt := t }),
   ("observed".toList, mapField Evidence.observed fun m e => { e with observed := m })]

/-- The fields of an event. -/
def Event.fields : List (StructField Event) :=
  [("sequence".toList, uint64Field fun n e => { e with sequence := n }),
   ("at".toList, timeField fun t e => { e with atTime := t }),
   ("type".toList, stringField fun s e => { e with type := s }),
   ("actor".toList, stringField fun s e => { e with actor := s }),
   ("goal_id".toList, stringField fun s e => { e with goalID := s }),
   ("proposal_id".toList, stringField fun s e => { e with proposalID := s }),
   ("action_id".toList, stringField fun s e => { e with actionID := s }),
   ("target".toList, stringField fun s e => { e with target := s }),
   ("kind".toList, stringField fun s e => { e with kind := s }),
   ("world_revision".toList, uint64Field fun n e => { e with worldRevision := n }),
   ("message".toList, stringField fun s e => { e with message := s }),
   ("evidence".toList, pointerField Evidence.fields {} Event.evidence
      fun v e => { e with evidence := v })]

/-- `json.Unmarshal` into a fresh event. The texts of the package's errors are left out. -/
def Event.unmarshal (bytes : Go.Bytes) : Result Event := do
  let x ← require (parse (runes bytes)) "syntax error in JSON text"
  require (decodeStruct Event.fields x {}) "JSON value does not fit an event"

/-! ### An event that was written and read -/

def Evidence.reread (e : Evidence) : Evidence where
  kind := repair e.kind
  target := repair e.target
  source := repair e.source
  observedAt := e.observedAt.read
  expiresAt := e.expiresAt.read
  observed := e.observed.map Json.reread

def Event.reread (e : Event) : Event where
  sequence := e.sequence
  atTime := e.atTime.read
  type := repair e.type
  actor := repair e.actor
  goalID := repair e.goalID
  proposalID := repair e.proposalID
  actionID := repair e.actionID
  target := repair e.target
  kind := repair e.kind
  worldRevision := e.worldRevision
  message := repair e.message
  evidence := e.evidence.map Evidence.reread

lemma writeTime_eq_ok {t : Clock} {x : Json} :
    writeTime t = .ok x ↔ t.Writable ∧ x = .string t.format := by
  rw [writeTime, bind_ok]
  simp only [wrapError_ok, Clock.marshal_eq_ok, pure_ok]
  constructor
  · rintro ⟨text, ⟨hwritable, rfl⟩, rfl⟩
    exact ⟨hwritable, rfl⟩
  · rintro ⟨hwritable, rfl⟩
    exact ⟨_, ⟨hwritable, rfl⟩, rfl⟩

/-- The times of an evidence can be written. -/
def Evidence.Writable (e : Evidence) : Prop := e.observedAt.Writable ∧ e.expiresAt.Writable

/-- An evidence as it is written. -/
def Evidence.value (e : Evidence) : Json :=
  e.object (.string e.observedAt.format) (.string e.expiresAt.format)

lemma Evidence.write_eq_ok {e : Evidence} {x : Json} :
    e.write = .ok x ↔ e.Writable ∧ x = e.value := by
  simp only [Evidence.write, bind_ok, writeTime_eq_ok, pure_ok]
  constructor
  · rintro ⟨_, ⟨hobserved, rfl⟩, _, ⟨hexpires, rfl⟩, rfl⟩
    exact ⟨⟨hobserved, hexpires⟩, rfl⟩
  · rintro ⟨⟨hobserved, hexpires⟩, rfl⟩
    exact ⟨_, ⟨hobserved, rfl⟩, _, ⟨hexpires, rfl⟩, rfl⟩

/-- The times of an event can be written. -/
def Event.Writable (e : Event) : Prop := e.atTime.Writable ∧ ∀ v ∈ e.evidence, v.Writable

/-- The member of an evidence, if there is one. -/
def evidenceMember (e : Option Evidence) : List (List Char × Json) :=
  (e.map fun v => member "evidence" v.value).toList

/-- An event as it is written. -/
def Event.value (e : Event) : Json :=
  e.object (.string e.atTime.format) (evidenceMember e.evidence)

lemma writeEvidence_eq_ok {e : Option Evidence} {members : List (List Char × Json)} :
    writeEvidence e = .ok members ↔ (∀ v ∈ e, v.Writable) ∧ members = evidenceMember e := by
  cases e with
  | none =>
    rw [writeEvidence, pure_ok]
    simp [evidenceMember, eq_comm]
  | some v =>
    simp only [writeEvidence, bind_ok, Evidence.write_eq_ok, pure_ok]
    constructor
    · rintro ⟨_, ⟨hwritable, rfl⟩, rfl⟩
      exact ⟨fun v' hv' => by rwa [← Option.some.inj hv'], rfl⟩
    · rintro ⟨hwritable, rfl⟩
      exact ⟨_, ⟨hwritable v rfl, rfl⟩, rfl⟩

lemma Event.marshal_eq_ok {e : Event} {bytes : Go.Bytes} :
    e.marshal = .ok bytes ↔ e.Writable ∧ bytes = encode e.value.print := by
  simp only [Event.marshal, Event.write, bind_ok, writeTime_eq_ok, writeEvidence_eq_ok, pure_ok]
  constructor
  · rintro ⟨_, ⟨_, ⟨htime, rfl⟩, _, ⟨hevidence, rfl⟩, rfl⟩, rfl⟩
    exact ⟨⟨htime, hevidence⟩, rfl⟩
  · rintro ⟨⟨htime, hevidence⟩, rfl⟩
    exact ⟨_, ⟨_, ⟨htime, rfl⟩, _, ⟨hevidence, rfl⟩, rfl⟩, rfl⟩

/-! ### What is read -/

lemma Evidence.decode_value {e : Evidence} (h : e.Writable) :
    decodeStruct Evidence.fields e.value {} = some e.reread := by
  obtain ⟨hobserved, hexpires⟩ := h
  rw [Evidence.value, Evidence.object, decodeStruct,
    decodeFields_text Evidence.fields "kind" rfl rfl,
    decodeFields_text Evidence.fields "target" rfl rfl,
    decodeFields_omitEmpty Evidence.fields "source" rfl rfl rfl,
    decodeFields_time Evidence.fields "observed_at" rfl rfl hobserved,
    decodeFields_time Evidence.fields "expires_at" rfl rfl hexpires,
    decodeFields_map Evidence.fields "observed" rfl rfl rfl]
  rfl

/-- The member of the evidence, into an event that has none. -/
lemma decodeFields_evidence {e : Event} (he : e.evidence = none) {v : Option Evidence}
    (h : ∀ w ∈ v, w.Writable) : decodeFields Event.fields (evidenceMember v) e =
      some { e with evidence := v.map Evidence.reread } := by
  cases v with
  | none =>
    cases e
    subst he
    rfl
  | some v =>
    have hvalue : decodeStruct Evidence.fields v.value (e.evidence.getD {}) = some v.reread := by
      rw [he]
      exact Evidence.decode_value (h v rfl)
    change decodeFields Event.fields [member "evidence" v.value] e = _
    rw [decodeFields_member Event.fields "evidence" rfl rfl, pointerField]
    · rw [hvalue]
      rfl
    · intro hnull
      cases hnull

lemma Event.decode_value {e : Event} (h : e.Writable) :
    decodeStruct Event.fields e.value {} = some e.reread := by
  obtain ⟨htime, hevidence⟩ := h
  rw [Event.value, Event.object, decodeStruct,
    decodeFields_uint64 Event.fields "sequence" rfl rfl,
    decodeFields_time Event.fields "at" rfl rfl htime,
    decodeFields_text Event.fields "type" rfl rfl,
    decodeFields_text Event.fields "actor" rfl rfl,
    decodeFields_text Event.fields "goal_id" rfl rfl,
    decodeFields_omitEmpty Event.fields "proposal_id" rfl rfl rfl,
    decodeFields_omitEmpty Event.fields "action_id" rfl rfl rfl,
    decodeFields_omitEmpty Event.fields "target" rfl rfl rfl,
    decodeFields_omitEmpty Event.fields "kind" rfl rfl rfl,
    decodeFields_uint64 Event.fields "world_revision" rfl rfl,
    decodeFields_text Event.fields "message" rfl rfl,
    decodeFields_evidence rfl hevidence]
  rfl

lemma Evidence.wellFormed_value (e : Evidence) : WellFormed e.value := by
  refine wellFormedMembers_iff.mpr ?_
  simp only [List.forall_mem_cons, List.forall_mem_append]
  refine ⟨?_, ?_, ?_, ?_, ?_, ?_, List.forall_mem_nil _⟩
  · exact wellFormed_member (by decide) (wellFormed_text e.kind)
  · exact wellFormed_member (by decide) (wellFormed_text e.target)
  · exact wellFormed_omitEmpty (by decide) e.source
  · exact wellFormed_member (by decide) (stringLiteral_format e.observedAt)
  · exact wellFormed_member (by decide) (stringLiteral_format e.expiresAt)
  · exact wellFormed_member (by decide) (wellFormed_textMap e.observed)

lemma wellFormed_evidenceMember (v : Option Evidence) :
    ∀ m ∈ evidenceMember v, StringLiteral m.1 ∧ WellFormed m.2 := by
  cases v with
  | none => exact List.forall_mem_nil _
  | some v =>
    refine List.forall_mem_singleton.mpr ?_
    exact wellFormed_member (by decide) v.wellFormed_value

lemma Event.wellFormed_value (e : Event) : WellFormed e.value := by
  refine wellFormedMembers_iff.mpr ?_
  simp only [List.forall_mem_cons, List.forall_mem_append]
  refine ⟨?_, ?_, ?_, ?_, ?_, ?_, ?_, ?_, ?_, ?_, ?_, wellFormed_evidenceMember e.evidence⟩
  · exact wellFormed_member (by decide) (wellFormed_ofNat e.sequence.toNat)
  · exact wellFormed_member (by decide) (stringLiteral_format e.atTime)
  · exact wellFormed_member (by decide) (wellFormed_text e.type)
  · exact wellFormed_member (by decide) (wellFormed_text e.actor)
  · exact wellFormed_member (by decide) (wellFormed_text e.goalID)
  · exact wellFormed_omitEmpty (by decide) e.proposalID
  · exact wellFormed_omitEmpty (by decide) e.actionID
  · exact wellFormed_omitEmpty (by decide) e.target
  · exact wellFormed_omitEmpty (by decide) e.kind
  · exact wellFormed_member (by decide) (wellFormed_ofNat e.worldRevision.toNat)
  · exact wellFormed_member (by decide) (wellFormed_text e.message)

/-- **What is read of an event that was written is the event with its strings repaired and its
offsets in whole minutes.** -/
theorem Event.unmarshal_marshal {e : Event} {bytes : Go.Bytes} (h : e.marshal = .ok bytes) :
    Event.unmarshal bytes = .ok e.reread := by
  obtain ⟨hwritable, rfl⟩ := Event.marshal_eq_ok.mp h
  rw [Event.unmarshal, runes_encode, parse_print e.wellFormed_value, require_some_bind,
    Event.decode_value hwritable]
  rfl

/-! ### What is written again -/

/-- The strings of an evidence are UTF-8 and its offsets are zero or a minute at least. -/
@[mk_iff]
structure Evidence.Settled (e : Evidence) : Prop where
  kind : ValidUtf8 e.kind
  target : ValidUtf8 e.target
  source : ValidUtf8 e.source
  observedAt : e.observedAt.Settled
  expiresAt : e.expiresAt.Settled
  observed : ∀ m ∈ e.observed, ValidMap m

/-- The strings of an event are UTF-8 and its offsets are zero or a minute at least. -/
@[mk_iff]
structure Event.Settled (e : Event) : Prop where
  atTime : e.atTime.Settled
  type : ValidUtf8 e.type
  actor : ValidUtf8 e.actor
  goalID : ValidUtf8 e.goalID
  proposalID : ValidUtf8 e.proposalID
  actionID : ValidUtf8 e.actionID
  target : ValidUtf8 e.target
  kind : ValidUtf8 e.kind
  message : ValidUtf8 e.message
  evidence : ∀ v ∈ e.evidence, v.Settled

lemma Evidence.value_reread_iff {e : Evidence} : e.reread.value = e.value ↔ e.Settled := by
  simp only [Evidence.value, Evidence.object, Evidence.reread, Json.object.injEq,
    List.cons.injEq, member, Prod.mk.injEq, true_and, text_repair_iff, omitEmpty_repair_iff,
    Json.string.injEq, Clock.format_read_iff, textMap_reread_iff, and_true, Evidence.settled_iff]

lemma evidenceMember_reread_iff {v : Option Evidence} :
    evidenceMember (v.map Evidence.reread) = evidenceMember v ↔ ∀ w ∈ v, w.Settled := by
  cases v with
  | none => simp [evidenceMember]
  | some v => simp [evidenceMember, member, Evidence.value_reread_iff]

lemma Event.value_reread_iff {e : Event} : e.reread.value = e.value ↔ e.Settled := by
  simp only [Event.value, Event.object, Event.reread, Json.object.injEq,
    List.cons.injEq, member, Prod.mk.injEq, true_and, text_repair_iff, omitEmpty_repair_iff,
    Json.string.injEq, Clock.format_read_iff, evidenceMember_reread_iff, Event.settled_iff]

lemma Event.Writable.reread {e : Event} (h : e.Writable) : e.reread.Writable := by
  refine ⟨h.1.read, fun v hv => ?_⟩
  obtain ⟨w, hw, rfl⟩ := Option.map_eq_some_iff.mp hv
  exact ⟨(h.2 w hw).1.read, (h.2 w hw).2.read⟩

/-- **The event that was read is written as before exactly if it is settled.** -/
theorem Event.marshal_reread_iff {e : Event} {bytes : Go.Bytes} (h : e.marshal = .ok bytes) :
    e.reread.marshal = .ok bytes ↔ e.Settled := by
  obtain ⟨hwritable, rfl⟩ := Event.marshal_eq_ok.mp h
  rw [Event.marshal_eq_ok, ← Event.value_reread_iff]
  constructor
  · rintro ⟨-, hsame⟩
    exact print_inj e.reread.wellFormed_value e.wellFormed_value (encode_inj hsame).symm
  · intro hsame
    rw [hsame]
    exact ⟨hwritable.reread, rfl⟩

/-- The events of the log and a digest. -/
def eventCodec (sum : Go.Bytes → Go.Bytes) (sum_ne : ∀ bytes, sum bytes ≠ []) : Codec Event where
  sequence e := e.sequence.toNat
  marshal := Event.marshal
  unmarshal := Event.unmarshal
  sum := sum
  sum_ne := sum_ne

end A4s.Eventlog
