/-
A log that only `File.Append` has written, read back (`eventlog/store.go`, `eventlog/backup.go`).

The hash of a record is that of the event in memory. Everything that verifies the log derives it
again, from the event that is decoded from the row.

* `backup`: `File.Backup` up to the copy of the database.
* `Rereads`: an event that is encoded as before after it was decoded.
* `Written`: what accepted appends leave behind; `verify_written_iff`: such a log verifies
  exactly if its events reread.
-/
import A4s.Eventlog.Event
import A4s.Server.Standby

namespace A4s.Eventlog

open Go
open Journal (Head Anchor Writing openAnchor)

/-- What `BackupManifest` says of the chain. -/
structure BackupManifest where
  records : ℕ
  headSequence : ℕ := 0
  headHash : String := ""

section Written

variable {ε : Type} (c : Codec ε)

/-- The manifest of the records. -/
def manifest (records : List (Record ε)) : BackupManifest :=
  match records.getLast? with
  | none => { records := records.length }
  | some head =>
    { records := records.length, headSequence := head.sequence, headHash := head.hash }

/-- `File.Backup`, to a destination that is absolute or not; `copied` is what becomes of the
files. -/
def backup (absolute : Bool) (copied : Result Unit) (f : File) : Result BackupManifest := do
  refuseIf (absolute = false) "backup path must be absolute"
  refuseIf (f.closed = true) "event log is closed"
  let records ← readRecords c f
  wrapError "refusing to back up a corrupt log: " (verifyChain c records)
  copied
  return manifest records

/-- An append that goes through. -/
def accept (f : File) (input : Result Unit × ε) : Result File :=
  match append c input.1 input.2 f with
  | (.ok (), f') => .ok f'
  | (.error e, _) => .error e

/-- The event is encoded as before after it was decoded. -/
def Rereads (event : ε) : Prop :=
  ∃ payload event', c.marshal event = .ok payload ∧ c.unmarshal payload = .ok event' ∧
    c.marshal event' = .ok payload ∧ c.sequence event' = c.sequence event

/-- A log whose records were made of the events. -/
structure Written (events : List ε) (f : File) (records : List (Record ε)) : Prop where
  mirrors : Mirrors f
  chain : (links c).Linked "" records
  events_eq : records.map Record.event = events
  rows : List.Forall₂ (RowOf c) f.database.rows records
  head_eq : f.head = (records.getLast?.map Record.head).getD {}

variable {c} {f f' : File} {events : List ε} {records : List (Record ε)}

lemma accept_eq_ok {input : Result Unit × ε} : accept c f input = .ok f' ↔
    input.1 = .ok () ∧
      ∃ hash payload, Appends c f input.2 hash payload ∧ f' = f.extended hash payload := by
  rw [← append_returns, Proc.Returns, accept]
  split <;> rename_i heq <;> simp [heq]

lemma written_empty : Written c [] {} [] where
  mirrors := ⟨rfl, rfl, rfl, rfl⟩
  chain := trivial
  events_eq := rfl
  rows := .nil
  head_eq := rfl

/-- One accepted append. -/
lemma Written.accept (h : Written c events f records) {input : Result Unit × ε}
    (hstep : accept c f input = .ok f') :
    ∃ r, Written c (events ++ [input.2]) f' (records ++ [r]) := by
  obtain ⟨-, hash, payload, happends, rfl⟩ := accept_eq_ok.mp hstep
  let r : Record ε :=
    { sequence := f.count + 1, previousHash := f.head.hash, hash := hash, event := input.2 }
  have hcount : f.count = records.length := h.mirrors.count_eq.trans h.rows.length_eq
  have htip : (links c).tipOf "" records = f.head.hash := by
    rw [h.head_eq, Links.tipOf]
    cases records.getLast? <;> rfl
  refine ⟨r, ⟨h.mirrors.extended _ _, ?_, ?_, ?_, ?_⟩⟩
  · refine Links.linked_snoc.mpr ⟨h.chain, ?_⟩
    rw [htip, ← hcount]
    exact ⟨rfl, happends.sequence_eq, rfl, happends.hash_eq⟩
  · rw [List.map_append, h.events_eq]
    rfl
  · exact List.rel_append h.rows (.cons ⟨rfl, rfl, rfl, happends.payload_eq⟩ .nil)
  · rw [List.getLast?_concat]
    rfl

/-- A run of accepted appends. -/
lemma written_of_run {inputs : List (Result Unit × ε)} (h : Run (accept c) {} inputs f) :
    ∃ records, Written c (inputs.map Prod.snd) f records := by
  refine Run.invariant_history (I := fun history t => ∃ records,
    Written c (history.map Prod.snd) t records) (Q := fun _ _ => True) ⟨[], written_empty⟩ ?_ h
    fun _ _ _ _ _ _ => trivial
  rintro history t u i - ⟨records, hwritten⟩ - hstep
  obtain ⟨r, hnext⟩ := hwritten.accept hstep
  rw [List.map_append, List.map_singleton]
  exact ⟨records ++ [r], hnext⟩

/-! ### Verifying what was written -/

/-- The record that is decoded fits where the record that was written fits exactly if its event
rereads: the digest tells two payloads apart. -/
lemma decoded_fits_iff (hsum : c.CollisionFree) {n : ℕ} {previous : String} {row : Row}
    {r : Record ε} (hprevious : Hex previous) (hfits : Fits c n previous r) (hrow : RowOf c row r) :
    (∃ r', decodeRow c row = .ok r' ∧ Fits c n previous r') ↔ Rereads c r.event := by
  constructor
  · rintro ⟨r', hdecode, hfits'⟩
    obtain ⟨hsequence, -, hhash, hevent⟩ := decodeRow_eq_ok.mp hdecode
    refine ⟨row.event, r'.event, hrow.event_eq, hevent, ?_, ?_⟩
    · have hsame : eventHash c previous r'.event = .ok r.hash := by
        rw [hfits'.hash_eq, hhash, hrow.hash_eq]
      rw [← (eq_of_eventHash hsum hprevious hprevious hfits.hash_eq hsame).2, hrow.event_eq]
    · rw [hfits'.event_eq, hfits'.sequence_eq, hfits.event_eq, hfits.sequence_eq]
  · rintro ⟨payload, event', hmarshal, hunmarshal, hagain, hsequence⟩
    cases hrow.event_eq.symm.trans hmarshal
    refine ⟨{ r with event := event' }, decodeRow_eq_ok.mpr ⟨?_, ?_, ?_, hunmarshal⟩, ?_⟩
    · exact hrow.sequence_eq.symm
    · exact hrow.previous_eq.symm
    · exact hrow.hash_eq.symm
    · refine ⟨hfits.sequence_eq, hsequence.trans hfits.event_eq, hfits.previous_eq, ?_⟩
      obtain ⟨payload, hpayload, hhash⟩ := eventHash_eq_ok.mp hfits.hash_eq
      cases hmarshal.symm.trans hpayload
      exact eventHash_eq_ok.mpr ⟨_, hagain, hhash⟩

/-- From a record on. -/
lemma decoded_linked_iff (hsum : c.CollisionFree) {rows : List Row}
    (hrows : List.Forall₂ (RowOf c) rows records) {n : ℕ} {previous : String}
    (hprevious : Hex previous) (hchain : (links c).LinkedFrom n previous records) :
    (∃ records', List.Forall₂ (fun row r => decodeRow c row = .ok r) rows records' ∧
      (links c).LinkedFrom n previous records') ↔ ∀ r ∈ records, Rereads c r.event := by
  induction hrows generalizing n previous with
  | nil => simp [Links.LinkedFrom]
  | @cons row r rows records hrow _ ih =>
    obtain ⟨hfits, hrest⟩ := hchain
    have hnext := ih (hex_eventHash hfits.hash_eq) hrest
    rw [List.forall_mem_cons, ← decoded_fits_iff hsum hprevious hfits hrow, ← hnext]
    constructor
    · rintro ⟨_, hdecode, hlinked⟩
      cases hdecode with
      | @cons _ r' _ records' hr' hrecords' =>
        have htip : r'.hash = r.hash :=
          (decodeRow_eq_ok.mp hr').2.2.1.trans hrow.hash_eq
        refine ⟨⟨r', hr', hlinked.1⟩, records', hrecords', ?_⟩
        rw [← htip]
        exact hlinked.2
    · rintro ⟨⟨r', hr', hfits'⟩, records', hrecords', hlinked⟩
      have htip : r'.hash = r.hash :=
        (decodeRow_eq_ok.mp hr').2.2.1.trans hrow.hash_eq
      refine ⟨r' :: records', .cons hr' hrecords', hfits', ?_⟩
      change (links c).LinkedFrom (n + 1) r'.hash records'
      rw [htip]
      exact hlinked

/-- **A log that only appends have written verifies exactly if its events reread.** -/
theorem verify_written_iff (hsum : c.CollisionFree) (h : Written c events f records) :
    verify c f = .ok () ↔ ∀ e ∈ events, Rereads c e := by
  have hlinked := decoded_linked_iff hsum h.rows hex_empty h.chain
  rw [← h.events_eq, List.forall_mem_map, ← hlinked, verify_eq_ok]
  simp only [readRecords_eq_ok, h.mirrors.opened, true_and, verifyChain_eq_ok]
  rfl

/-! ### Backing up, reopening and promoting -/

lemma backup_iff (hopened : f.closed = false) :
    (∃ manifest, backup c true (.ok ()) f = .ok manifest) ↔ verify c f = .ok () := by
  rw [verify_eq_ok]
  constructor
  · rintro ⟨manifest, h⟩
    rw [backup, refuseIf_bind_ok, refuseIf_bind_ok] at h
    obtain ⟨-, -, h⟩ := h
    obtain ⟨records, hread, h⟩ := bind_ok.mp h
    exact ⟨records, hread, wrapError_ok.mp (check_bind_ok.mp h).1⟩
  · rintro ⟨records, hread, hchain⟩
    refine ⟨manifest records, ?_⟩
    rw [backup, refuseIf_bind_ok, refuseIf_bind_ok]
    refine ⟨by decide, by simp [hopened], bind_ok.mpr ⟨records, hread, ?_⟩⟩
    exact check_bind_ok.mpr ⟨wrapError_ok.mpr hchain, check_bind_ok.mpr ⟨rfl, rfl⟩⟩

/-- An open log is determined by its database. -/
lemma Mirrors.eq (h : Mirrors f) :
    ({ database := f.database, head := f.database.chainHead,
       count := f.database.rows.length } : File) = f := by
  cases f with
  | mk database closed head count =>
    obtain ⟨hopened, hhead, -, hcount⟩ := h
    simp only at hopened hhead hcount
    rw [hopened, hhead, hcount]

lemma reopen_iff (h : Mirrors f) : openFile c f.database = .ok f' ↔
    verify c f = .ok () ∧ f' = f := by
  have hcount : f.database.rows.length = f.database.chainHead.sequence := by
    rw [h.head_eq, h.head_sequence, h.count_eq]
  rw [openFile_eq_ok, h.eq]
  constructor
  · rintro ⟨-, hverify, rfl⟩
    exact ⟨hverify, rfl⟩
  · rintro ⟨hverify, rfl⟩
    exact ⟨hcount, hverify, rfl⟩

/-- The anchor has witnessed nothing, or a head of the log. -/
def Anchors (a : Anchor) (f : File) : Prop := a.last = {} ∨ a.last ∈ f.heads

variable (h : Written c events f records)

include h

lemma Written.heads_eq : f.heads = records.map Record.head := by
  have hrows : ∀ {rows : List Row} {records : List (Record ε)},
      List.Forall₂ (RowOf c) rows records → rows.map Row.head = records.map Record.head := by
    intro rows records hrows
    induction hrows with
    | nil => rfl
    | cons hrow _ ih =>
      rw [List.map_cons, List.map_cons, ih, Row.head, Record.head, hrow.sequence_eq, hrow.hash_eq]
  exact hrows h.rows

/-- Two heads of the log with the same number are the same. -/
lemma Written.eq_of_sequence {x y : Head} (hx : x ∈ f.heads)
    (hy : y ∈ f.heads) (hsame : x.sequence = y.sequence) : x = y := by
  rw [h.heads_eq] at hx hy
  obtain ⟨r, hr, rfl⟩ := List.mem_map.mp hx
  obtain ⟨r', hr', rfl⟩ := List.mem_map.mp hy
  rw [Links.eq_of_sequence h.chain hr hr' hsame]

/-- The head of a log is empty, or one of its heads. -/
lemma Written.head_mem : f.head = {} ∨ f.head ∈ f.heads := by
  rw [h.head_eq, h.heads_eq]
  cases hlast : records.getLast? with
  | none => exact .inl rfl
  | some r => exact .inr (List.mem_map_of_mem (List.mem_of_getLast? hlast))

/-- What an anchor has witnessed is not ahead of the log, and at its head it is the head. -/
lemma Written.anchors {a : Anchor} (ha : Anchors a f) :
    a.last.sequence ≤ f.head.sequence ∧
      (f.head.sequence = a.last.sequence → f.head.hash = a.last.hash) := by
  have hcount : f.head.sequence = records.length := by
    rw [h.mirrors.head_sequence, h.mirrors.count_eq, h.rows.length_eq]
  have hheads : ∀ x ∈ f.heads, 1 ≤ x.sequence ∧ x.sequence ≤ f.head.sequence := by
    intro x hx
    rw [h.heads_eq] at hx
    obtain ⟨r, hr, rfl⟩ := List.mem_map.mp hx
    rw [hcount]
    exact ⟨(Links.getElem?_of_mem h.chain hr).1, Links.sequence_le_length h.chain hr⟩
  rcases ha with hnothing | hmem
  · rw [hnothing]
    refine ⟨Nat.zero_le _, fun hzero => ?_⟩
    rcases h.head_mem with hempty | hhead
    · rw [hempty]
    · have hpositive := (hheads _ hhead).1
      rw [hzero] at hpositive
      exact absurd hpositive (by decide)
  · refine ⟨(hheads _ hmem).2, fun hsame => ?_⟩
    rcases h.head_mem with hempty | hhead
    · have hpositive := (hheads _ hmem).1
      rw [← hsame, hempty] at hpositive
      exact absurd hpositive (by decide)
    · rw [h.eq_of_sequence hhead hmem hsame]

/-- The check against an anchor passes on a log that can be read. -/
lemma Written.check {a : Anchor} (ha : Anchors a f)
    {decoded : List (Record ε)} (hread : readRecords c f = .ok decoded) :
    check c a f = .ok () := by
  obtain ⟨hle, hsame⟩ := h.anchors ha
  rw [Eventlog.check]
  split_ifs with hnothing hequal
  · rfl
  · rw [refuseIf_bind_ok, refuseIf_ok, not_not]
    exact ⟨by omega, hsame hequal⟩
  · have hmem : a.last ∈ f.heads := by
      rcases ha with hempty | hmem
      · rw [hempty] at hnothing
        exact absurd rfl hnothing
      · exact hmem
    have hdecoded : f.heads = decoded.map Record.head := (heads_of_readRecords hread).symm
    obtain ⟨r, hr, hhead⟩ := List.mem_map.mp (hdecoded ▸ hmem)
    -- the record that is found is not known to be this one, but it has the same number
    have hfound : (decoded.find? fun r => r.sequence = a.last.sequence).isSome := by
      rw [List.find?_isSome]
      exact ⟨r, hr, by rw [← hhead]; simp [Record.head]⟩
    obtain ⟨r', hfind⟩ := Option.isSome_iff_exists.mp hfound
    have hsequence : r'.sequence = a.last.sequence := by simpa using List.find?_some hfind
    have hr' : r'.head ∈ f.heads := by
      rw [hdecoded]
      exact List.mem_map_of_mem (List.mem_of_find?_eq_some hfind)
    have hhash : r'.hash = a.last.hash := by
      rw [← h.eq_of_sequence hr' hmem hsequence]
      rfl
    rw [refuseIf_bind_ok, hread, ok_bind, hfind, require_some_bind, refuseIf_ok, not_not]
    exact ⟨by omega, hhash⟩

/-- A standby that holds the log, with an anchor and an anchor file that go with it. -/
structure Standby.Attends (s : Standby) (f : File) (file : List (Option Head)) : Prop where
  log_eq : s.log = f
  held : s.released = false
  path : s.config.eventLog ≠ ""
  anchored : Anchors s.anchor f
  file_anchored : ∃ a, openAnchor file = .ok a ∧ Anchors a f

variable {s : Standby} {file : List (Option Head)}
  {rebuild : World → List (Record ε) → Result World}

/-- The recovered head can be witnessed. -/
lemma Written.witnessRecovered {anchor : Option Anchor}
    (ha : ∀ a ∈ anchor, Anchors a f) : ∃ a', witnessRecovered .whole f anchor = .ok a' := by
  cases anchor with
  | none => exact ⟨none, rfl⟩
  | some a =>
    obtain ⟨hle, hsame⟩ := h.anchors (ha a rfl)
    rw [Eventlog.witnessRecovered]
    split_ifs with hempty
    · exact ⟨some a, rfl⟩
    · have hcan : Journal.Witnessable a f.head := ⟨hempty, hle, hsame⟩
      have hdone : (Journal.witness .whole f.head a).1 = .ok () :=
        witness_succeeds_iff.mpr ⟨hcan, fun _ => rfl⟩
      split
      · exact ⟨_, rfl⟩
      · rename_i heq
        rw [heq] at hdone
        cases hdone

/-- A server opens on a log that verifies. -/
lemma Written.openServer (hs : s.Attends f file)
    (hrebuild : ∀ base records, ∃ w, rebuild base records = .ok w) (hverify : verify c f = .ok ()) :
    ∃ served, openServer c rebuild s.config f.database file .whole = .ok served := by
  obtain ⟨decoded, hread, -⟩ := verify_eq_ok.mp hverify
  obtain ⟨a, hfile, ha⟩ := hs.file_anchored
  have hchecked : ∃ anchor, checkedAnchor c s.config f file = .ok anchor ∧
      ∀ a ∈ anchor, Anchors a f := by
    rw [checkedAnchor]
    split_ifs with hnone
    · exact ⟨none, rfl, fun a hmem => by cases hmem⟩
    · refine ⟨some a, ?_, fun a' hmem => by cases hmem; exact ha⟩
      exact bind_ok.mpr ⟨a, hfile,
        check_bind_ok.mpr ⟨wrapError_ok.mpr (h.check ha hread), rfl⟩⟩
  obtain ⟨anchor, hanchor, hall⟩ := hchecked
  obtain ⟨w, hw⟩ := hrebuild s.config.base decoded
  obtain ⟨anchor', hanchor'⟩ := h.witnessRecovered hall
  refine ⟨{ log := f, anchor := anchor', world := w }, ?_⟩
  rw [Eventlog.openServer, refuseIf_bind_ok]
  refine ⟨hs.path, bind_ok.mpr ⟨f, (reopen_iff h.mirrors).mpr ⟨hverify, rfl⟩, ?_⟩⟩
  refine bind_ok.mpr ⟨anchor, hanchor, bind_ok.mpr ⟨decoded, ?_, ?_⟩⟩
  · exact wrapError_ok.mpr hread
  · exact bind_ok.mpr ⟨w, wrapError_ok.mpr hw, bind_ok.mpr ⟨anchor', hanchor', rfl⟩⟩

/-- A promotion goes through exactly if the log verifies. -/
lemma Written.promote_iff (hs : s.Attends f file)
    (hrebuild : ∀ base records, ∃ w, rebuild base records = .ok w) :
    (∃ served s', Proc.Returns (promote c rebuild (.ok ()) file .whole) s served s') ↔
      verify c f = .ok () := by
  constructor
  · rintro ⟨served, s', hreturns⟩
    have hopen := (openServer_eq_ok (promote_eq_ok hreturns)).1
    rw [hs.log_eq] at hopen
    exact ((reopen_iff h.mirrors).mp hopen).1
  · intro hverify
    obtain ⟨served, hserved⟩ := h.openServer hs hrebuild hverify
    obtain ⟨decoded, hread, -⟩ := verify_eq_ok.mp hverify
    have hbehind : ¬ s.log.head.sequence < s.anchor.last.sequence := by
      rw [hs.log_eq]
      exact not_lt.mpr (h.anchors hs.anchored).1
    have hchecked : Eventlog.check c s.anchor s.log = .ok () := by
      rw [hs.log_eq]
      exact h.check hs.anchored hread
    rw [← hs.log_eq] at hverify hserved
    refine ⟨served, { s with log := { s.log with closed := true }, released := true }, ?_⟩
    unfold promote
    refine returns_bind.mpr ⟨s, s, returns_read.mpr ⟨rfl, rfl⟩, ?_⟩
    refine returns_bind.mpr ⟨(), s, returns_guard.mpr ⟨by simp [hs.held], rfl⟩, ?_⟩
    refine returns_bind.mpr
      ⟨(), s, returns_lift.mpr ⟨wrapError_ok.mpr hverify, rfl⟩, ?_⟩
    refine returns_bind.mpr ⟨(), s, returns_guard.mpr ⟨hbehind, rfl⟩, ?_⟩
    refine returns_bind.mpr
      ⟨(), s, returns_lift.mpr ⟨wrapError_ok.mpr hchecked, rfl⟩, ?_⟩
    refine returns_bind.mpr ⟨(), _, returns_modify.mpr rfl, ?_⟩
    refine returns_bind.mpr ⟨(), _, returns_lift.mpr ⟨rfl, rfl⟩, ?_⟩
    refine returns_bind.mpr ⟨(), _, returns_modify.mpr rfl, ?_⟩
    exact returns_lift.mpr ⟨wrapError_ok.mpr hserved, rfl⟩

end Written

/-! ### The events of the log -/

section Events

variable {sum : Bytes → Bytes} {sum_ne : ∀ bytes, sum bytes ≠ []}

lemma rereads_iff {e : Event} {payload : Bytes} (h : e.marshal = .ok payload) :
    Rereads (eventCodec sum sum_ne) e ↔ e.Settled := by
  rw [← Event.marshal_reread_iff h]
  constructor
  · rintro ⟨payload', e', hmarshal, hunmarshal, hagain, -⟩
    cases h.symm.trans hmarshal
    cases (Event.unmarshal_marshal h).symm.trans hunmarshal
    exact hagain
  · intro hagain
    exact ⟨payload, e.reread, h, Event.unmarshal_marshal h, hagain, rfl⟩

/-- **For every sequence of events that the log accepts, the log verifies, can be backed up,
reopens as it is and lets a standby be promoted on it exactly if all strings of the events are
UTF-8 and no offset of a time is under a minute and not zero.** -/
theorem written_log_verifies_iff (hsum : (eventCodec sum sum_ne).CollisionFree)
    {inputs : List (Result Unit × Event)} {f : File}
    (hrun : Run (accept (eventCodec sum sum_ne)) {} inputs f) :
    (verify (eventCodec sum sum_ne) f = .ok () ↔ ∀ input ∈ inputs, input.2.Settled) ∧
    ((∃ manifest, backup (eventCodec sum sum_ne) true (.ok ()) f = .ok manifest) ↔
      ∀ input ∈ inputs, input.2.Settled) ∧
    (openFile (eventCodec sum sum_ne) f.database = .ok f ↔ ∀ input ∈ inputs, input.2.Settled) ∧
    ∀ (rebuild : World → List (Record Event) → Result World) (s : Standby)
      (file : List (Option Head)), s.Attends f file →
      (∀ base records, ∃ w, rebuild base records = .ok w) →
      ((∃ served s', Proc.Returns
        (promote (eventCodec sum sum_ne) rebuild (.ok ()) file .whole) s served s') ↔
        ∀ input ∈ inputs, input.2.Settled) := by
  obtain ⟨records, hwritten⟩ := written_of_run hrun
  have hverify : verify (eventCodec sum sum_ne) f = .ok () ↔
      ∀ input ∈ inputs, input.2.Settled := by
    rw [verify_written_iff hsum hwritten, List.forall_mem_map]
    refine forall₂_congr fun input hinput => ?_
    have hevent : input.2 ∈ records.map Record.event := by
      rw [hwritten.events_eq]
      exact List.mem_map_of_mem hinput
    obtain ⟨r, hr, hsame⟩ := List.mem_map.mp hevent
    obtain ⟨_, hfits⟩ := Links.fits_of_mem hwritten.chain hr
    obtain ⟨payload, hpayload, -⟩ := eventHash_eq_ok.mp hfits.hash_eq
    rw [← hsame]
    exact rereads_iff hpayload
  refine ⟨hverify, ?_, ?_, fun rebuild s file hs hrebuild => ?_⟩
  · rw [backup_iff hwritten.mirrors.opened, hverify]
  · rw [reopen_iff hwritten.mirrors, hverify]
    simp
  · rw [hwritten.promote_iff hs hrebuild, hverify]

lemma tally_ne (bytes : Go.Bytes) : 1 :: bytes ≠ [] := List.cons_ne_nil _ _

/-- The events with a digest that keeps everything. -/
def tallyCodec : Codec Event := eventCodec (fun bytes => 1 :: bytes) tally_ne

/-- The first event of a log. -/
def firstEvent (message : Bytes) (offset : ℤ) : Event :=
  { sequence := 1, atTime := { Clock.zero with offset := offset }, message := message }

/-- The log that accepted it. -/
def firstLog (message : Bytes) (offset : ℤ) : Result File :=
  accept tallyCodec {} (.ok (), firstEvent message offset)

theorem written_log_verifies_first :
    firstLog [104, 105] 3600 = .ok ((firstLog [104, 105] 3600).toOption.getD {}) ∧
      verify tallyCodec ((firstLog [104, 105] 3600).toOption.getD {}) = .ok () := by
  have hstep : firstLog [104, 105] 3600 = .ok ((firstLog [104, 105] 3600).toOption.getD {}) := by
    decide +kernel
  have hsum : tallyCodec.CollisionFree := fun bytes bytes' h => (List.cons.inj h).2
  refine ⟨hstep, (written_log_verifies_iff hsum (.cons hstep (.nil _))).1.mpr ?_⟩
  intro input hinput
  rw [List.mem_singleton.mp hinput]
  exact { atTime := by decide, type := by decide, actor := by decide, goalID := by decide,
          proposalID := by decide, actionID := by decide, target := by decide, kind := by decide,
          message := by decide, evidence := fun v hv => by cases hv }

/-- A byte that is no UTF-8, or an offset of half a minute, is accepted, and the log then fails
to verify. -/
theorem stray_byte_unverified :
    (firstLog [255] 0).toOption.isSome = true ∧
    (firstLog [255] 0 >>= verify tallyCodec) = fail "record 1 has invalid hash" ∧
    (firstLog [] 30).toOption.isSome = true ∧
    (firstLog [] 30 >>= verify tallyCodec) = fail "record 1 has invalid hash" := by
  decide +kernel

end Events

end A4s.Eventlog
