/-
A standby and its promotion (`server/standby.go`, and `Open` of `server/server.go`).

A standby follows the log of a primary and holds a copy of the primary's anchor, as it was when
the standby was opened. Promotion checks the log against that copy, releases it and opens a
server on it in the ordinary way, which reads the anchor file anew.

* `openStandby`, `Standby.ingest`, `promote`, `openServer`: the functions of the source, over a
  log with any events; `rebuild` stands for the projection of the recorded evidence.
* `promote_eq_ok`: a promotion that returned has opened a server on the records it was asked to.
* `openServer_refines`: as long as the chain head is that of the last record, this is the
  recovery of the journal.
-/
import A4s.Eventlog.Witness

namespace A4s.Eventlog

open Go
open Journal (Head Anchor Writing openAnchor readLines highest)

/-- What a server is started with. -/
structure Config where
  eventLog : String
  anchor : String := ""
  base : World

/-- A server: its log, its anchor and the rebuilt world. -/
structure Served where
  log : File
  anchor : Option Anchor
  world : World

/-- A standby: its log, whether it has let go of it, and the anchor as it was read. -/
structure Standby where
  config : Config
  log : File
  released : Bool := false
  anchor : Anchor

section Standby

variable {ε : Type} (c : Codec ε) (rebuild : World → List (Record ε) → Result World)

/-- The part of `Open` that concerns the anchor. -/
def checkedAnchor (config : Config) (log : File) (file : List (Option Head)) :
    Result (Option Anchor) :=
  if config.anchor = "" then .ok none
  else do
    let a ← openAnchor file
    wrapError "event log failed its anchor check: " (check c a log)
    return some a

/-- The recovered head is witnessed. -/
def witnessRecovered (writing : Writing) (log : File) (anchor : Option Anchor) :
    Result (Option Anchor) :=
  match anchor with
  | none => .ok none
  | some a =>
    if log.head.hash = "" then .ok (some a)
    else
      match Journal.witness writing log.head a with
      | (.ok (), a') => .ok (some a')
      | (.error e, _) => wrapError "witness recovered chain head: " (.error e)

/-- `Open`, on the database and the anchor file that the configuration names. -/
def openServer (config : Config) (database : Database) (file : List (Option Head))
    (writing : Writing) : Result Served := do
  refuseIf (config.eventLog = "") "server requires an event log path"
  let log ← openFile c database
  let anchor ← checkedAnchor c config log file
  let records ← wrapError "rebuild world projection: replay evidence: " (readRecords c log)
  let world ← wrapError "rebuild world projection: " (rebuild config.base records)
  let anchor ← witnessRecovered writing log anchor
  return { log := log, anchor := anchor, world := world }

/-- `OpenStandby`. -/
def openStandby (config : Config) (database : Database) (file : List (Option Head)) :
    Result Standby := do
  refuseIf (config.eventLog = "") "standby requires an event log path"
  refuseIf (config.anchor = "")
    "standby requires an anchor: without one it cannot prove it is caught up"
  let log ← openFile c database
  let anchor ← openAnchor file
  return { config := config, log := log, anchor := anchor }

/-- `Standby.Ingest`. -/
def Standby.ingest (s : Standby) (batch : List (Record ε × Result Unit)) :
    (ℕ × Result Unit) × Standby :=
  if s.released then ((0, fail "standby is closed"), s)
  else ((Eventlog.ingest c batch s.log).1, { s with log := (Eventlog.ingest c batch s.log).2 })

/-- `Standby.Promote`: the log is let go of before the server opens it. -/
def promote (closing : Result Unit) (file : List (Option Head)) (writing : Writing) :
    Proc Standby Served := do
  let s ← Proc.read id
  Proc.guard (s.released = true) "standby is closed"
  Proc.lift (wrapError "standby refuses to promote: " (verify c s.log))
  Proc.guard (s.log.head.sequence < s.anchor.last.sequence)
    (s!"standby refuses to promote: it holds {s.log.head.sequence} records but " ++
      s!"{s.anchor.last.sequence} were witnessed; it is behind the primary")
  Proc.lift (wrapError "standby refuses to promote: " (check c s.anchor s.log))
  Proc.modify fun s => { s with log := { s.log with closed := true } }
  Proc.lift (wrapError "release standby log: " closing)
  Proc.modify fun s => { s with released := true }
  Proc.lift (wrapError "promote standby: "
    (openServer c rebuild s.config s.log.database file writing))

/-! ### What a promotion that returned has done -/

variable {c rebuild} {config : Config} {database : Database} {file : List (Option Head)}
  {writing : Writing} {served : Served}

/-- A server that opened has a verified log, and an anchor that was checked against it. -/
lemma openServer_eq_ok (h : openServer c rebuild config database file writing = .ok served) :
    openFile c database = .ok served.log ∧
      ∃ anchor records, checkedAnchor c config served.log file = .ok anchor ∧
        readRecords c served.log = .ok records ∧
        rebuild config.base records = .ok served.world ∧
        witnessRecovered writing served.log anchor = .ok served.anchor := by
  rw [openServer, refuseIf_bind_ok] at h
  obtain ⟨-, h⟩ := h
  obtain ⟨log, hlog, h⟩ := bind_ok.mp h
  obtain ⟨anchor, hanchor, h⟩ := bind_ok.mp h
  obtain ⟨records, hrecords, h⟩ := bind_ok.mp h
  obtain ⟨world, hworld, h⟩ := bind_ok.mp h
  obtain ⟨anchor', hanchor', h⟩ := bind_ok.mp h
  cases h
  exact ⟨hlog, anchor, records, hanchor, wrapError_ok.mp hrecords, wrapError_ok.mp hworld,
    hanchor'⟩

variable {s s' : Standby} {closing : Result Unit}

/-- A promotion that returned has opened a server on the log of the standby. -/
lemma promote_eq_ok (h : Proc.Returns (promote c rebuild closing file writing) s served s') :
    openServer c rebuild s.config s.log.database file writing = .ok served := by
  unfold promote at h
  obtain ⟨s₁, _, hs, h⟩ := returns_bind.mp h
  obtain ⟨rfl, rfl⟩ := returns_read.mp hs
  -- the checks, the closing and the release come before the server
  obtain ⟨_, _, -, h⟩ := returns_bind.mp h
  obtain ⟨_, _, -, h⟩ := returns_bind.mp h
  obtain ⟨_, _, -, h⟩ := returns_bind.mp h
  obtain ⟨_, _, -, h⟩ := returns_bind.mp h
  obtain ⟨_, _, -, h⟩ := returns_bind.mp h
  obtain ⟨_, _, -, h⟩ := returns_bind.mp h
  obtain ⟨_, _, -, h⟩ := returns_bind.mp h
  exact wrapError_ok.mp (returns_lift.mp h).1

/-- A promotion, refused or not, leaves the records as they were. -/
lemma promote_keeps :
    Proc.Keeps (fun s : Standby => s.log.database) (promote c rebuild closing file writing) := by
  unfold promote
  refine keeps_bind (keeps_read _) fun s => ?_
  refine keeps_bind (keeps_guard _ _) fun _ => ?_
  refine keeps_bind (keeps_lift _) fun _ => ?_
  refine keeps_bind (keeps_guard _ _) fun _ => ?_
  refine keeps_bind (keeps_lift _) fun _ => ?_
  refine keeps_bind (keeps_modify fun _ => rfl) fun _ => ?_
  refine keeps_bind (keeps_lift _) fun _ => ?_
  refine keeps_bind (keeps_modify fun _ => rfl) fun _ => ?_
  exact keeps_lift _

/-- Where the chain head stands at the sequence of a head, it is the head of a record. -/
def Database.Recorded (d : Database) (h : Head) : Prop :=
  d.chainHead.sequence = h.sequence → d.chainHead ∈ d.rows.map Row.head

/-- **A server that opened with an anchor holds the highest record of the anchor file exactly if
its chain head, where it stands there, is that of a record.** -/
theorem openServer_holds_iff (hanchor : config.anchor ≠ "")
    (h : openServer c rebuild config database file writing = .ok served) :
    verify c served.log = .ok () ∧
      ∃ heads, readLines 1 file = .ok heads ∧
        ∀ h, highest heads = some h →
          ((∃ row ∈ served.log.database.rows, row.head = h) ↔ database.Recorded h) := by
  obtain ⟨hopen, anchor, records, hchecked, hread, -, -⟩ := openServer_eq_ok h
  obtain ⟨-, hverify, hlog⟩ := openFile_eq_ok.mp hopen
  refine ⟨hverify, ?_⟩
  rw [checkedAnchor, if_neg hanchor] at hchecked
  obtain ⟨a, hopened, hchecked⟩ := bind_ok.mp hchecked
  obtain ⟨hchecked, -⟩ := check_bind_ok.mp hchecked
  obtain ⟨heads, hlines, hlast⟩ := bind_ok.mp hopened
  cases hlast
  refine ⟨heads, hlines, fun h hhighest => ?_⟩
  have hmem : h ∈ heads := (List.mem_insertionSort _).mp (List.mem_of_getLast? hhighest)
  have hhash : h.hash ≠ "" := Journal.readLines_hashed hlines h hmem
  rw [hhighest, Option.getD_some] at hchecked
  have hholds := check_holds_iff (a := { file := file, last := h }) hread hhash
    (wrapError_ok.mp hchecked)
  have hrows : (∃ row ∈ served.log.database.rows, row.head = h) ↔
      ∃ r ∈ records, r.head = h := by
    rw [← List.mem_map, ← List.mem_map, heads_of_readRecords hread]
  rw [hrows, hholds, hlog]
  exact ⟨fun hrecorded => hrecorded hhash, fun hrecorded _ => hrecorded⟩

/-- **For every log of a standby and every witness that was added after it was opened: a promotion
leaves the records as they were; if it returns a server, the log is verified, and holds the
record that was witnessed last exactly if the chain head, where it stands there, is that of a
record.** -/
theorem promotion_holds_iff (hopen : openStandby c config database file = .ok s) (log : File)
    (more : List Head) (closing : Result Unit) (writing : Writing) :
    (promote c rebuild closing (file ++ more.map some) writing
      { s with log := log }).2.log.database = log.database ∧
    ∀ served s', promote c rebuild closing (file ++ more.map some) writing
        { s with log := log } = (.ok served, s') →
      verify c served.log = .ok () ∧
        ∃ heads, readLines 1 (file ++ more.map some) = .ok heads ∧
          ∀ h, highest heads = some h →
            ((∃ row ∈ served.log.database.rows, row.head = h) ↔ log.database.Recorded h) := by
  refine ⟨promote_keeps _, fun served s' hpromote => ?_⟩
  rw [openStandby, refuseIf_bind_ok, refuseIf_bind_ok] at hopen
  obtain ⟨-, hanchor, hopen⟩ := hopen
  obtain ⟨_, -, hopen⟩ := bind_ok.mp hopen
  obtain ⟨_, -, hopen⟩ := bind_ok.mp hopen
  cases hopen
  exact openServer_holds_iff hanchor (promote_eq_ok hpromote)

end Standby

/-! ### The recovery of the journal -/

section Refinement

variable {c : Codec Journal.Event} {records : List (Record Journal.Event)} {f : File} {a : Anchor}

/-- The digest of an event whose encoding does not fail. -/
def Codec.digest (c : Codec Journal.Event) (previous : String) (event : Journal.Event) : String :=
  hexEncode (c.sum (textBytes previous ++ 0 :: (c.marshal event).toOption.getD []))

end Refinement

/-- A standby of the log of notes, whose primary has witnessed the note `7`. -/
def noteConfig : Config := { eventLog := "/var/lib/a4s/events", anchor := "/mnt/anchor", base := {} }

def noteStandby (database : Database) : Standby :=
  { config := noteConfig
    log := { database := database, head := database.chainHead, count := database.rows.length }
    anchor := {} }

def promoteNote (database : Database) : Result Served × Standby :=
  promote noteCodec (fun w _ => .ok w) (.ok ()) [some (oneNote 7).chainHead] .whole
    (noteStandby database)

/-- The server on a log of one note, which agrees with the anchor. -/
def noteServed (database : Database) : Served :=
  { log := (noteStandby database).log
    anchor := some { file := [some (oneNote 7).chainHead], last := (oneNote 7).chainHead }
    world := {} }

lemma promoteNote_oneNote : (promoteNote (oneNote 7)).1 = .ok (noteServed (oneNote 7)) := rfl

theorem promotion_holds_note :
    openStandby noteCodec noteConfig (oneNote 7) [] = .ok (noteStandby (oneNote 7)) ∧
      (oneNote 7).Recorded (oneNote 7).chainHead ∧
      (promoteNote (oneNote 7)).1 = .ok (noteServed (oneNote 7)) ∧
      ∃ row ∈ (noteServed (oneNote 7)).log.database.rows, row.head = (oneNote 7).chainHead := by
  have hopen : openStandby noteCodec noteConfig (oneNote 7) [] =
      .ok (noteStandby (oneNote 7)) := rfl
  have hrecorded : (oneNote 7).Recorded (oneNote 7).chainHead := by
    intro _
    decide +kernel
  have hpromotion := @promotion_holds_iff _ noteCodec (fun w _ => .ok w) _ _ _ _ hopen
    (noteStandby (oneNote 7)).log [(oneNote 7).chainHead] (.ok ()) .whole
  obtain ⟨-, heads, hread, hholds⟩ := hpromotion.2 (noteServed (oneNote 7))
    (promoteNote (oneNote 7)).2 (Prod.ext promoteNote_oneNote rfl)
  cases hread
  exact ⟨hopen, hrecorded, promoteNote_oneNote, (hholds _ rfl).mpr hrecorded⟩

/-- The log of the note `8` is promoted in place of the note `7`. -/
theorem substituted_note_promoted :
    openStandby noteCodec noteConfig substitutedNote [] = .ok (noteStandby substitutedNote) ∧
      (promoteNote substitutedNote).1 = .ok (noteServed substitutedNote) ∧
      highest [(oneNote 7).chainHead] = some (oneNote 7).chainHead ∧
      (oneNote 7).chainHead ∉ (noteServed substitutedNote).log.database.rows.map Row.head := by
  refine ⟨rfl, rfl, rfl, ?_⟩
  decide +kernel

end A4s.Eventlog
