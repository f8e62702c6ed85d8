/-
The event log in its database (`eventlog/store.go`, `eventlog/schema.go`).

The database has a table of records, whose events are JSON texts, and one row for the head of
the chain. An open log mirrors the head and the number of records in memory. What SQLite does
is a library: a transaction happens as a whole or fails.

* `openFile`, `append`, `readRecords`, `verify`: the functions of the source.
* `append_returns`, `append_error`: an append writes one record and moves the head, or writes
  nothing.
* `readRecords_eq_ok`, `verify_eq_ok`, `openFile_eq_ok`: when reading, verifying and opening
  succeed, and with what.
-/
import A4s.Go.Proc
import A4s.Eventlog.Chain
import A4s.Server.Journal

namespace A4s.Eventlog

open Go
open Journal (Head)

/-- A row of the table `records`. -/
structure Row where
  sequence : ℕ
  previousHash : String
  hash : String
  event : Bytes
  deriving DecidableEq

/-- What the chain head says of a record. -/
def Row.head (row : Row) : Head := ⟨row.sequence, row.hash⟩

def Record.head {ε : Type} (r : Record ε) : Head := ⟨r.sequence, r.hash⟩

/-- The tables of the log: the records in the order of their numbers, and the one row of
`chain_head`. -/
structure Database where
  rows : List Row := []
  chainHead : Head := {}
  deriving DecidableEq

/-- An event log: its database, and what is mirrored of it in memory. -/
structure File where
  database : Database := {}
  closed : Bool := false
  head : Head := {}
  count : ℕ := 0
  deriving DecidableEq

section Store

variable {ε : Type} (c : Codec ε)

/-- One round of the loop of `readRecords`. -/
def decodeRow (row : Row) : Result (Record ε) := do
  let event ← wrapError s!"decode event {row.sequence}: " (c.unmarshal row.event)
  return { sequence := row.sequence, previousHash := row.previousHash, hash := row.hash
           event := event }

/-- `File.readRecords`. -/
def readRecords (f : File) : Result (List (Record ε)) := do
  refuseIf (f.closed = true) "event log is closed"
  f.database.rows.mapM (decodeRow c)

/-- `File.Verify`. -/
def verify (f : File) : Result Unit := do
  let records ← readRecords c f
  verifyChain c records

/-- `File.loadHead`: the head and the number of records must agree. -/
def loadHead (database : Database) : Result File := do
  refuseIf (database.rows.length ≠ database.chainHead.sequence)
    (s!"event log holds {database.rows.length} records but its chain head is at " ++
      s!"{database.chainHead.sequence}: history was modified outside a4s")
  return { database := database, head := database.chainHead, count := database.rows.length }

/-- `Open`: the chain is verified before the log is used. -/
def openFile (database : Database) : Result File := do
  let f ← loadHead database
  wrapError "event log failed verification: " (verify c f)
  return f

/-- `File.NextSequence`. -/
def File.nextSequence (f : File) : ℕ := f.count + 1

/-- The log with one more record. -/
def File.extended (f : File) (hash : String) (payload : Bytes) : File where
  database :=
    { rows := f.database.rows ++
        [{ sequence := f.count + 1, previousHash := f.head.hash, hash := hash
           event := payload }]
      chainHead := ⟨f.count + 1, hash⟩ }
  closed := f.closed
  head := ⟨f.count + 1, hash⟩
  count := f.count + 1

/-- `File.Append`: the record and the head in one transaction. -/
def append (transaction : Result Unit) (event : ε) : Proc File Unit := do
  let f ← Proc.read id
  Proc.guard (f.closed = true) "event log is closed"
  Proc.guard (c.sequence event ≠ f.count + 1)
    s!"event sequence {c.sequence event}, want {f.count + 1}"
  let hash ← Proc.lift (eventHash c f.head.hash event)
  let payload ← Proc.lift (wrapError "encode event: " (c.marshal event))
  Proc.lift transaction
  Proc.guard (f.database.chainHead.sequence ≠ f.head.sequence)
    "event log chain head moved underneath this append"
  Proc.modify fun f => f.extended hash payload

/-- What an append that goes through has found. -/
structure Appends (f : File) (event : ε) (hash : String) (payload : Bytes) : Prop where
  opened : f.closed = false
  sequence_eq : c.sequence event = f.count + 1
  hash_eq : eventHash c f.head.hash event = .ok hash
  payload_eq : c.marshal event = .ok payload
  unmoved : f.database.chainHead.sequence = f.head.sequence

variable {c} {f f' : File} {event : ε} {transaction : Result Unit}

lemma append_returns : Proc.Returns (append c transaction event) f () f' ↔
    transaction = .ok () ∧
      ∃ hash payload, Appends c f event hash payload ∧ f' = f.extended hash payload := by
  unfold append
  simp only [returns_bind, returns_read, returns_guard, returns_lift,
    returns_modify, id_eq, wrapError_ok]
  constructor
  · rintro ⟨_, _, ⟨rfl, rfl⟩, _, _, ⟨hopened, rfl⟩, _, _, ⟨hsequence, rfl⟩, hash, _,
      ⟨hhash, rfl⟩, payload, _, ⟨hpayload, rfl⟩, _, _, ⟨htransaction, rfl⟩, _, _,
      ⟨hunmoved, rfl⟩, rfl⟩
    exact ⟨htransaction, hash, payload, ⟨by simpa using hopened, not_not.mp hsequence, hhash,
      hpayload, not_not.mp hunmoved⟩, rfl⟩
  · rintro ⟨htransaction, hash, payload, h, rfl⟩
    exact ⟨f, _, ⟨rfl, rfl⟩, (), _, ⟨by simp [h.opened], rfl⟩, (), _,
      ⟨not_not.mpr h.sequence_eq, rfl⟩, hash, _, ⟨h.hash_eq, rfl⟩, payload, _,
      ⟨h.payload_eq, rfl⟩, (), _, ⟨htransaction, rfl⟩, (), _, ⟨not_not.mpr h.unmoved, rfl⟩, rfl⟩

/-- An append that fails has written nothing. -/
lemma append_failsClean : Proc.FailsClean id (append c transaction event) := by
  unfold append
  refine failsClean_bind (keeps_read _) fun f => ?_
  refine failsClean_bind (keeps_guard _ _) fun _ => ?_
  refine failsClean_bind (keeps_guard _ _) fun _ => ?_
  refine failsClean_bind (keeps_lift _) fun hash => ?_
  refine failsClean_bind (keeps_lift _) fun payload => ?_
  refine failsClean_bind (keeps_lift _) fun _ => ?_
  refine failsClean_bind (keeps_guard _ _) fun _ => ?_
  exact failsClean_modify _

lemma append_error {e : Fault} (h : append c transaction event f = (.error e, f')) : f' = f := by
  have hclean : Proc.FailsClean id (append c transaction event) := append_failsClean
  rcases hclean f with hsame | ⟨_, hreturns⟩
  · rw [h] at hsame
    exact hsame
  · rw [Proc.Returns, h] at hreturns
    cases hreturns

/-! ### Reading back -/

variable {records : List (Record ε)}

lemma decodeRow_eq_ok {row : Row} {r : Record ε} : decodeRow c row = .ok r ↔
    r.sequence = row.sequence ∧ r.previousHash = row.previousHash ∧ r.hash = row.hash ∧
      c.unmarshal row.event = .ok r.event := by
  simp only [decodeRow, bind_ok, wrapError_ok, pure_ok]
  constructor
  · rintro ⟨event, hevent, rfl⟩
    exact ⟨rfl, rfl, rfl, hevent⟩
  · rintro ⟨hsequence, hprevious, hhash, hevent⟩
    refine ⟨r.event, hevent, ?_⟩
    rw [← hsequence, ← hprevious, ← hhash]

lemma readRecords_eq_ok : readRecords c f = .ok records ↔ f.closed = false ∧
    List.Forall₂ (fun row r => decodeRow c row = .ok r) f.database.rows records := by
  rw [readRecords, refuseIf_bind_ok, mapM_ok, Bool.not_eq_true]

lemma verify_eq_ok : verify c f = .ok () ↔
    ∃ records, readRecords c f = .ok records ∧ verifyChain c records = .ok () := by
  rw [verify, bind_ok]

/-- The records that are read have the heads of the rows. -/
lemma heads_of_decode {rows : List Row}
    (h : List.Forall₂ (fun row r => decodeRow c row = .ok r) rows records) :
    records.map Record.head = rows.map Row.head := by
  induction h with
  | nil => rfl
  | cons hrow _ ih =>
    obtain ⟨hsequence, -, hhash, -⟩ := decodeRow_eq_ok.mp hrow
    rw [List.map_cons, List.map_cons, ih, Record.head, Row.head, hsequence, hhash]

lemma heads_of_readRecords (h : readRecords c f = .ok records) :
    records.map Record.head = f.database.rows.map Row.head :=
  heads_of_decode (readRecords_eq_ok.mp h).2

lemma openFile_eq_ok {database : Database} : openFile c database = .ok f ↔
    database.rows.length = database.chainHead.sequence ∧ verify c f = .ok () ∧
      f = { database := database, head := database.chainHead, count := database.rows.length } := by
  simp only [openFile, loadHead, bind_ok, refuseIf_ok, pure_ok, wrapError_ok, ne_eq, not_not]
  constructor
  · rintro ⟨g, ⟨_, hcount, rfl⟩, _, hverify, rfl⟩
    exact ⟨hcount, hverify, rfl⟩
  · rintro ⟨hcount, hverify, rfl⟩
    exact ⟨_, ⟨(), hcount, rfl⟩, (), hverify, rfl⟩

end Store

end A4s.Eventlog
