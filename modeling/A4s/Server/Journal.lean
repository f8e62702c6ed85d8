/-
Durable history and its recovery (`eventlog/store.go`, `eventlog/chain.go`,
`eventlog/anchor.go`, `control/durable.go`, and `Open` of `server/server.go`).

The event log is a hash chain of records; the anchor is a file outside of it that witnesses
heads of the chain. A server that starts verifies the chain, checks it against the anchor and
replays the evidence of the log over its base world. Sequence numbers are natural numbers
here; the digest of an event is a library.

* `append`, `witness`: the two ways history grows, with the ways they may fail.
* `open_`: recovery; `open_succeeds` says that it gives back the world that the log replays
  to, if the log is chained and the anchor has witnessed nothing else.
-/
import A4s.Go.Proc
import A4s.Go.Chain
import A4s.Control.Effect

namespace A4s.Journal

open Go

/-! ### The event log -/

inductive EventType where
  | goalAccepted
  | proposalCreated
  | proposalApproved
  | proposalDenied
  | actionDispatched
  | actionCompleted
  | observationRecorded
  | goalAchieved
  | goalBlocked
  | goalCompensating
  deriving DecidableEq

def EventType.text : EventType → String
  | .goalAccepted => "goal.accepted"
  | .proposalCreated => "proposal.created"
  | .proposalApproved => "proposal.approved"
  | .proposalDenied => "proposal.denied"
  | .actionDispatched => "action.dispatched"
  | .actionCompleted => "action.completed"
  | .observationRecorded => "observation.recorded"
  | .goalAchieved => "goal.achieved"
  | .goalBlocked => "goal.blocked"
  | .goalCompensating => "goal.compensating"

structure Event where
  sequence : ℕ := 0
  at_ : Time := 0
  type_ : EventType
  actor : String
  goalID : String
  proposalID : String := ""
  actionID : String := ""
  target : String := ""
  kind : String := ""
  worldRevision : UInt64 := 0
  message : String
  evidence : Option Evidence := none
  deriving DecidableEq

/-- One entry of the chain. -/
structure Record where
  sequence : ℕ
  previousHash : String
  hash : String
  event : Event
  deriving DecidableEq

/-- The tip of the chain; an empty log has none. -/
structure Head where
  sequence : ℕ := 0
  hash : String := ""
  deriving DecidableEq

def Record.head (r : Record) : Head := ⟨r.sequence, r.hash⟩

/-- `File.Head`. -/
def head (records : List Record) : Head := (records.getLast?.map Record.head).getD {}

/-- `File.NextSequence`. -/
def nextSequence (records : List Record) : ℕ := records.length + 1

section Chain

variable (eventHash : String → Event → String)

/-- `File.Append`: the next event in sequence, in one transaction of the database. -/
def append (database : Result Unit) (event : Event) : Proc (List Record) Unit := do
  let records ← Proc.read id
  Proc.guard (event.sequence ≠ nextSequence records)
    s!"event sequence {event.sequence}, want {nextSequence records}"
  Proc.lift database
  let hash := eventHash (head records).hash event
  Proc.modify fun records => records ++
    [{ sequence := nextSequence records, previousHash := (head records).hash, hash := hash
       event := event }]

/-- `verifyChain` from a record on: every hash is derived again. -/
def verifyChainFrom : ℕ → String → List Record → Result Unit
  | _, _, [] => .ok ()
  | index, previous, r :: rest => do
      refuseIf (r.sequence ≠ index + 1 ∨ r.event.sequence ≠ r.sequence)
        s!"record {index + 1} has invalid sequence"
      refuseIf (r.previousHash ≠ previous) s!"record {index + 1} breaks the hash chain"
      refuseIf (eventHash previous r.event ≠ r.hash) s!"record {index + 1} has invalid hash"
      verifyChainFrom (index + 1) r.hash rest

def verifyChain (records : List Record) : Result Unit := verifyChainFrom eventHash 0 "" records

end Chain

/-- `ReplayEvidence`. -/
def evidenceOf (records : List Record) : List Evidence :=
  records.filterMap fun r => r.event.evidence

/-- The loop of `NewDurableProjector`. -/
def replayFrom : ℕ → World → List Evidence → Result World
  | _, w, [] => .ok w
  | index, w, e :: rest => do
      let next ← wrapError
        s!"replay evidence {index + 1} ({e.kind.text} for {quote e.target}): " (project w e)
      replayFrom (index + 1) next rest

/-- `NewDurableProjector`: the recorded evidence over the base world. -/
def replay (base : World) (records : List Record) : Result World :=
  replayFrom 0 base (evidenceOf records)

/-! ### The anchor -/

/-- The lines of the anchor file, one of which may be damaged, and the highest head that is
known to be witnessed. -/
structure Anchor where
  file : List (Option Head) := []
  last : Head := {}
  deriving DecidableEq

/-- How the file takes a line: as it should, not at all, without being known to be on disk, or
in part. -/
inductive Writing where
  | whole
  | nothing
  | unsynced
  | torn
  deriving DecidableEq

/-- `Anchor.Witness`: going backwards is refused. -/
def witness (writing : Writing) (h : Head) : Proc Anchor Unit := do
  let a ← Proc.read id
  Proc.guard (h.hash = "") "anchor requires a chain hash"
  Proc.guard (h.sequence < a.last.sequence)
    (s!"anchor already witnessed sequence {a.last.sequence}, refusing to record " ++
      s!"{h.sequence}")
  Proc.guard (h.sequence = a.last.sequence ∧ h.hash ≠ a.last.hash)
    s!"anchor witnessed a different hash at sequence {h.sequence}"
  if h.sequence = a.last.sequence then
    return ()
  match writing with
  | .whole => Proc.modify fun a => { file := a.file ++ [some h], last := h }
  | .nothing => Proc.lift (fail "append anchor record")
  | .unsynced => do
      Proc.modify fun a => { a with file := a.file ++ [some h] }
      Proc.lift (fail "sync anchor")
  | .torn => do
      Proc.modify fun a => { a with file := a.file ++ [none] }
      Proc.lift (fail "append anchor record")

/-- The lines of an anchor file that can be read. -/
def readLines : ℕ → List (Option Head) → Result (List Head)
  | _, [] => .ok []
  | line, entry :: rest => do
      let h ← require entry s!"anchor line {line} is malformed"
      refuseIf (h.hash = "") s!"anchor line {line} has no hash"
      let heads ← readLines (line + 1) rest
      return h :: heads

/-- The last head in the order of their sequence numbers. -/
def highest (heads : List Head) : Option Head :=
  (heads.insertionSort fun x y => x.sequence ≤ y.sequence).getLast?

/-- `OpenAnchor`: the highest sequence is the witness that matters. -/
def openAnchor (file : List (Option Head)) : Result Anchor := do
  let heads ← readLines 1 file
  return { file := file, last := (highest heads).getD {} }

/-- `Anchor.Check`: the log still holds what was witnessed. -/
def check (a : Anchor) (records : List Record) : Result Unit :=
  if a.last.hash = "" then .ok ()
  else do
    refuseIf ((head records).sequence < a.last.sequence)
      (s!"event log is at sequence {(head records).sequence} but the anchor witnessed " ++
        s!"{a.last.sequence}: the log was truncated or replaced")
    if (head records).sequence = a.last.sequence then
      refuseIf ((head records).hash ≠ a.last.hash)
        (s!"event log hash at sequence {a.last.sequence} does not match the anchor: " ++
          "history was rewritten")
    else do
      let r ← require (records.find? fun r => r.sequence = a.last.sequence)
        s!"event log has no record at anchored sequence {a.last.sequence}"
      refuseIf (r.hash ≠ a.last.hash)
        (s!"event log hash at sequence {a.last.sequence} does not match the anchor: " ++
          "history was rewritten")

/-! ### Recovery -/

/-- What a server holds: the base world, the live projection, the log and the anchor. -/
structure Store where
  base : World
  world : World
  records : List Record := []
  anchor : Option Anchor := none
  deriving DecidableEq

/-- The part of `Open` that concerns the anchor: it is checked before the world is rebuilt. -/
def checkedAnchor (records : List Record) (file : Option (List (Option Head))) :
    Result (Option Anchor) :=
  match file with
  | none => .ok none
  | some lines => do
      let a ← openAnchor lines
      wrapError "event log failed its anchor check: " (check a records)
      return some a

/-- The recovered head is witnessed. -/
def witnessRecovered (writing : Writing) (records : List Record) (anchor : Option Anchor) :
    Result (Option Anchor) :=
  match anchor with
  | none => .ok none
  | some a =>
    if (head records).hash = "" then .ok (some a)
    else
      match witness writing (head records) a with
      | (.ok (), a') => .ok (some a')
      | (.error e, _) => wrapError "witness recovered chain head: " (.error e)

/-- `Open` on the log and the anchor file. -/
def open_ (eventHash : String → Event → String) (base : World) (records : List Record)
    (file : Option (List (Option Head))) (writing : Writing) : Result Store := do
  wrapError "event log failed verification: " (verifyChain eventHash records)
  let anchor ← checkedAnchor records file
  let world ← wrapError "rebuild world projection: " (replay base records)
  let anchor ← witnessRecovered writing records anchor
  return { base := base, world := world, records := records, anchor := anchor }

/-! ### Chains -/

section Chained

variable {eventHash : String → Event → String} {records : List Record} {r r' : Record}

/-- A record fits after a chain. -/
structure Fits (eventHash : String → Event → String) (sequence : ℕ) (previous : String)
    (r : Record) : Prop where
  sequence_eq : r.sequence = sequence
  event_eq : r.event.sequence = r.sequence
  previous_eq : r.previousHash = previous
  hash_eq : eventHash previous r.event = r.hash

lemma verifyChainFrom_cons {index : ℕ} {previous : String} {rest : List Record} :
    verifyChainFrom eventHash index previous (r :: rest) = .ok () ↔
      Fits eventHash (index + 1) previous r ∧
        verifyChainFrom eventHash (index + 1) r.hash rest = .ok () := by
  rw [verifyChainFrom]
  simp only [refuseIf_bind_ok, not_or, not_not, ne_eq]
  constructor
  · rintro ⟨⟨hsequence, hevent⟩, hprevious, hhash, hrest⟩
    exact ⟨⟨hsequence, hevent, hprevious, hhash⟩, hrest⟩
  · rintro ⟨⟨hsequence, hevent, hprevious, hhash⟩, hrest⟩
    exact ⟨⟨hsequence, hevent⟩, hprevious, hhash, hrest⟩

/-- The records of a log as the records of a chain. -/
def links (eventHash : String → Event → String) : Links Record String where
  sequence := Record.sequence
  tip := Record.hash
  Fits := Fits eventHash
  sequence_eq h := h.sequence_eq

lemma verifyChainFrom_eq_ok {index : ℕ} {previous : String} :
    verifyChainFrom eventHash index previous records = .ok () ↔
      (links eventHash).LinkedFrom index previous records := by
  induction records generalizing index previous with
  | nil => simp [verifyChainFrom, Links.LinkedFrom]
  | cons first rest ih =>
    rw [verifyChainFrom_cons, ih]
    exact Iff.rfl

lemma verifyChain_eq_ok :
    verifyChain eventHash records = .ok () ↔ (links eventHash).Linked "" records :=
  verifyChainFrom_eq_ok

lemma head_hash (eventHash : String → Event → String) :
    (head records).hash = (links eventHash).tipOf "" records := by
  rw [head, Links.tipOf]
  cases records.getLast? <;> rfl

/-- A chain with one more record. -/
lemma verifyChain_snoc : verifyChain eventHash (records ++ [r]) = .ok () ↔
    verifyChain eventHash records = .ok () ∧
      Fits eventHash (nextSequence records) (head records).hash r := by
  rw [verifyChain_eq_ok, verifyChain_eq_ok, Links.linked_snoc, head_hash eventHash]
  exact Iff.rfl

/-- A record of a chain is known by its sequence number. -/
lemma eq_of_sequence (h : verifyChain eventHash records = .ok ()) (hr : r ∈ records)
    (hr' : r' ∈ records) (hsame : r.sequence = r'.sequence) : r = r' :=
  Links.eq_of_sequence (verifyChain_eq_ok.mp h) hr hr' hsame

/-- The head of a chain is at its length. -/
lemma head_sequence (h : verifyChain eventHash records = .ok ()) :
    (head records).sequence = records.length := by
  induction records using List.reverseRecOn with
  | nil => rfl
  | append_singleton rest last _ =>
    obtain ⟨-, hfits⟩ := verifyChain_snoc.mp h
    rw [head, List.getLast?_concat, List.length_append, List.length_singleton]
    exact hfits.sequence_eq

lemma sequence_le_head (h : verifyChain eventHash records = .ok ()) (hr : r ∈ records) :
    r.sequence ≤ (head records).sequence := by
  rw [head_sequence h]
  exact Links.sequence_le_length (verifyChain_eq_ok.mp h) hr

/-- The record at the sequence number of the head is the head. -/
lemma head_eq_of_sequence (h : verifyChain eventHash records = .ok ()) (hr : r ∈ records)
    (hsame : (head records).sequence = r.sequence) : head records = r.head := by
  cases hlast : records.getLast? with
  | none =>
    rw [List.getLast?_eq_none_iff] at hlast
    subst hlast
    cases hr
  | some last =>
    have hhead : head records = last.head := by rw [head, hlast]; rfl
    rw [hhead] at hsame ⊢
    rw [eq_of_sequence h (List.mem_of_getLast? hlast) hr hsame]

end Chained

/-! ### Replay -/

section Replay

variable {base w next : World} {records : List Record} {r : Record} {e : Evidence}

/-- A replay that succeeds projects the evidence in order. -/
lemma replayFrom_eq_ok {index : ℕ} {es : List Evidence} :
    replayFrom index base es = .ok w ↔ projectAll base es = .ok w := by
  induction es generalizing index base with
  | nil => exact Iff.rfl
  | cons e rest ih =>
    rw [replayFrom, projectAll, List.foldlM_cons]
    constructor
    · intro h
      obtain ⟨first, hfirst, hrest⟩ := bind_ok.mp h
      exact bind_ok.mpr ⟨first, wrapError_ok.mp hfirst, ih.mp hrest⟩
    · intro h
      obtain ⟨first, hfirst, hrest⟩ := bind_ok.mp h
      exact bind_ok.mpr ⟨first, wrapError_ok.mpr hfirst, ih.mpr hrest⟩

/-- An event without evidence replays to the same world. -/
lemma replay_snoc_none (hr : r.event.evidence = none) :
    replay base (records ++ [r]) = replay base records := by
  have hsame : evidenceOf (records ++ [r]) = evidenceOf records := by
    simp [evidenceOf, List.filterMap_append, hr]
  rw [replay, hsame, replay]

/-- One more piece of evidence is projected last. -/
lemma replay_snoc (h : replay base records = .ok w) (hr : r.event.evidence = some e)
    (hnext : project w e = .ok next) : replay base (records ++ [r]) = .ok next := by
  have hmore : evidenceOf (records ++ [r]) = evidenceOf records ++ [e] := by
    simp [evidenceOf, List.filterMap_append, hr]
  rw [replay, replayFrom_eq_ok] at h ⊢
  rw [hmore, projectAll, List.foldlM_append]
  exact bind_ok.mpr ⟨w, h, by rw [List.foldlM_cons, hnext]; rfl⟩

end Replay

/-! ### The highest head -/

section Highest

variable {heads : List Head}

lemma getLast?_orderedInsert (x : Head)
    (hsorted : heads.Pairwise fun x y => x.sequence ≤ y.sequence) :
    (heads.orderedInsert (fun x y => x.sequence ≤ y.sequence) x).getLast? =
      match heads.getLast? with
      | none => some x
      | some y => if x.sequence ≤ y.sequence then some y else some x := by
  induction heads with
  | nil => rfl
  | cons first rest ih =>
    obtain ⟨hfirst, hrest⟩ := List.pairwise_cons.mp hsorted
    rw [List.orderedInsert_cons]
    cases hlast : (first :: rest).getLast? with
    | none => simp at hlast
    | some last =>
      dsimp only
      by_cases hbefore : x.sequence ≤ first.sequence
      · have hmem := List.mem_cons.mp (List.mem_of_getLast? hlast)
        have hle : x.sequence ≤ last.sequence := by
          rcases hmem with rfl | hmem
          · exact hbefore
          · exact hbefore.trans (hfirst last hmem)
        rw [if_pos hbefore, if_pos hle, List.getLast?_cons_cons, hlast]
      · rw [if_neg hbefore, List.getLast?_cons, ih hrest]
        cases hlast' : rest.getLast? with
        | none =>
          rw [List.getLast?_eq_none_iff.mp hlast', List.getLast?_singleton] at hlast
          cases hlast
          rw [if_neg hbefore]
          rfl
        | some last' =>
          rw [List.getLast?_cons, hlast'] at hlast
          cases hlast
          dsimp only [Option.getD_some]
          split_ifs <;> rfl

lemma highest_cons (x : Head) : highest (x :: heads) =
    match highest heads with
    | none => some x
    | some y => if x.sequence ≤ y.sequence then some y else some x :=
  getLast?_orderedInsert x (List.pairwise_insertionSort _ heads)

/-- One more line is the highest, or leaves the highest as it was. -/
lemma highest_snoc (h : Head) : highest (heads ++ [h]) =
    match highest heads with
    | none => some h
    | some y => if y.sequence ≤ h.sequence then some h else some y := by
  induction heads with
  | nil => rfl
  | cons x rest ih =>
    rw [List.cons_append, highest_cons, highest_cons, ih]
    cases highest rest with
    | none => rfl
    | some y =>
      dsimp only
      by_cases hy : y.sequence ≤ h.sequence
      · rw [if_pos hy]
        by_cases hxy : x.sequence ≤ y.sequence
        · simp only [if_pos hxy, if_pos hy, if_pos (hxy.trans hy)]
        · simp only [if_neg hxy]
      · rw [if_neg hy]
        by_cases hxy : x.sequence ≤ y.sequence
        · simp only [if_pos hxy, if_neg hy]
        · have hx : ¬ x.sequence ≤ h.sequence := by omega
          simp only [if_neg hxy, if_neg hx]

end Highest

/-! ### Recovery of a sound store -/

/-- The log is a chain; the anchor file can be read, and the highest head in it is that of a
record. -/
structure Sound (eventHash : String → Event → String) (s : Store) : Prop where
  chained : verifyChain eventHash s.records = .ok ()
  witnessed : ∀ a, s.anchor = some a → ∃ heads, readLines 1 a.file = .ok heads ∧
    ∀ h, highest heads = some h → ∃ r ∈ s.records, h = r.head

section Recovery

variable {a : Anchor} {h : Head} {s : Store}

variable {eventHash : String → Event → String} {records : List Record}

/-- What an anchor knows that has been opened: nothing, or a head of the log. -/
lemma openAnchor_ok {file : List (Option Head)} {heads : List Head}
    (hread : readLines 1 file = .ok heads)
    (h : ∀ h, highest heads = some h → ∃ r ∈ records, h = r.head) :
    ∃ last, openAnchor file = .ok { file := file, last := last } ∧
      (last = {} ∨ ∃ r ∈ records, last = r.head) := by
  refine ⟨(highest heads).getD {}, by rw [openAnchor, hread]; rfl, ?_⟩
  cases hhighest : highest heads with
  | none => exact .inl rfl
  | some x => exact .inr (h x hhighest)

/-- A log that holds what was witnessed passes the check. -/
lemma check_ok (hchain : verifyChain eventHash records = .ok ())
    (h : a.last = {} ∨ ∃ r ∈ records, a.last = r.head) : check a records = .ok () := by
  rcases h with hnothing | ⟨r, hr, hlast⟩
  · rw [check, hnothing, if_pos rfl]
  · have hbelow := sequence_le_head hchain hr
    rw [check]
    split_ifs with hempty hsame
    · rfl
    · rw [refuseIf_bind_ok, refuseIf_ok, hlast]
      rw [hlast] at hsame
      refine ⟨not_lt.mpr hbelow, not_not.mpr ?_⟩
      rw [head_eq_of_sequence hchain hr hsame]
    · have hfound : ∃ x, records.find? (fun r => r.sequence = a.last.sequence) = some x := by
        rw [← Option.isSome_iff_exists, List.find?_isSome]
        exact ⟨r, hr, by rw [hlast]; exact decide_eq_true rfl⟩
      obtain ⟨x, hx⟩ := hfound
      have hsequence : x.sequence = r.sequence := by
        have hfits := List.find?_some hx
        rw [decide_eq_true_eq, hlast] at hfits
        exact hfits
      have hxr := eq_of_sequence hchain (List.mem_of_find?_eq_some hx) hr hsequence
      rw [refuseIf_bind_ok, hx, require_some_bind, refuseIf_ok, hxr, hlast]
      exact ⟨not_lt.mpr hbelow, not_not.mpr rfl⟩

/-- A head can be witnessed unless the anchor is ahead of it, or at it with another hash. -/
structure Witnessable (a : Anchor) (h : Head) : Prop where
  hashed : h.hash ≠ ""
  forward : a.last.sequence ≤ h.sequence
  same : h.sequence = a.last.sequence → h.hash = a.last.hash

/-- What `witness` comes to, once its guards have been passed. -/
def writeLine (writing : Writing) (h : Head) (a : Anchor) : Result Unit × Anchor :=
  if h.sequence = a.last.sequence then (.ok (), a)
  else
    match writing with
    | .whole => (.ok (), { file := a.file ++ [some h], last := h })
    | .nothing => (fail "append anchor record", a)
    | .unsynced => (fail "sync anchor", { a with file := a.file ++ [some h] })
    | .torn => (fail "append anchor record", { a with file := a.file ++ [none] })

lemma witness_of_witnessable (writing : Writing) (hw : Witnessable a h) :
    witness writing h a = writeLine writing h a := by
  have hdiffers : ¬ (h.sequence = a.last.sequence ∧ h.hash ≠ a.last.hash) :=
    fun hdiffers => hdiffers.2 (hw.same hdiffers.1)
  simp only [witness, Proc.guard, refuseIf, bind, Proc.read, Proc.lift, id_eq, if_neg hw.hashed,
    if_neg (not_lt.mpr hw.forward), if_neg hdiffers, writeLine]
  split_ifs with hsame
  · rfl
  · cases writing <;> rfl

lemma witness_of_not_witnessable (writing : Writing)
    (hw : ¬ Witnessable a h) : ∃ e, witness writing h a = (.error e, a) := by
  simp only [witness, Proc.guard, refuseIf, bind, Proc.read, Proc.lift, id_eq]
  by_cases hhash : h.hash = ""
  · exact ⟨_, by rw [if_pos hhash]; rfl⟩
  · rw [if_neg hhash]
    by_cases hback : h.sequence < a.last.sequence
    · exact ⟨_, by simp only [if_pos hback]; rfl⟩
    · simp only [if_neg hback]
      by_cases hdiffers : h.sequence = a.last.sequence ∧ h.hash ≠ a.last.hash
      · exact ⟨_, by simp only [if_pos hdiffers]; rfl⟩
      · refine absurd ⟨hhash, not_lt.mp hback, fun hsame => ?_⟩ hw
        exact not_not.mp fun hne => hdiffers ⟨hsame, hne⟩

/-- A witness that tears no line leaves whole lines. -/
lemma witness_file {writing : Writing}
    (hwriting : writing = .torn → (witness writing h a).1 = .ok ()) :
    (witness writing h a).2.file = a.file ∨
      (h.hash ≠ "" ∧ (witness writing h a).2.file = a.file ++ [some h]) := by
  by_cases hw : Witnessable a h
  · rw [witness_of_witnessable writing hw] at hwriting ⊢
    unfold writeLine at hwriting ⊢
    split_ifs at hwriting ⊢
    · exact .inl rfl
    · cases writing with
      | whole => exact .inr ⟨hw.hashed, rfl⟩
      | nothing => exact .inl rfl
      | unsynced => exact .inr ⟨hw.hashed, rfl⟩
      | torn => cases hwriting rfl
  · obtain ⟨e, he⟩ := witness_of_not_witnessable writing hw
    rw [he]
    exact .inl rfl

lemma readLines_snoc {file : List (Option Head)} {heads : List Head} {line : ℕ}
    (hread : readLines line file = .ok heads) (hhash : h.hash ≠ "") :
    readLines line (file ++ [some h]) = .ok (heads ++ [h]) := by
  induction file generalizing line heads with
  | nil =>
    cases hread
    simp only [List.nil_append, readLines, require_some_bind, refuseIf_bind_ok, ok_bind]
    exact ⟨hhash, rfl⟩
  | cons entry rest ih =>
    simp only [readLines, require_bind_ok, refuseIf_bind_ok] at hread
    obtain ⟨x, rfl, hx, hread⟩ := hread
    obtain ⟨heads', hrest, hheads⟩ := bind_ok.mp hread
    cases hheads
    simp only [List.cons_append, readLines, require_some_bind, refuseIf_bind_ok, ih hrest, ok_bind]
    exact ⟨hx, rfl⟩

/-- A witness of a record keeps a store sound, also if it fails, unless it tears a line. -/
lemma Sound.witness (hsound : Sound eventHash s) {writing : Writing}
    (hwriting : writing = .torn → (Journal.witness writing h a).1 = .ok ())
    (hhead : h.hash = "" ∨ ∃ r ∈ s.records, h = r.head) (ha : s.anchor = some a) :
    Sound eventHash { s with anchor := some (Journal.witness writing h a).2 } := by
  refine ⟨hsound.chained, ?_⟩
  rintro _ ⟨⟩
  obtain ⟨heads, hread, hhighest⟩ := hsound.witnessed a ha
  rcases witness_file hwriting with hsame | ⟨hhash, hmore⟩
  · rw [hsame]
    exact ⟨heads, hread, hhighest⟩
  · rw [hmore]
    refine ⟨heads ++ [h], readLines_snoc hread hhash, fun x hx => ?_⟩
    have hx' : x = h ∨ highest heads = some x := by
      rw [highest_snoc] at hx
      cases hlast : highest heads with
      | none =>
        rw [hlast] at hx
        exact .inl (Option.some.inj hx).symm
      | some y =>
        rw [hlast] at hx
        dsimp only at hx
        split_ifs at hx
        · exact .inl (Option.some.inj hx).symm
        · exact .inr hx
    rcases hx' with rfl | hold
    · exact hhead.resolve_left hhash
    · exact hhighest x hold

/-- What an append leaves: one more record, or the log as it was. -/
lemma append_cases (eventHash : String → Event → String) (records : List Record)
    (database : Result Unit) (event : Event) :
    (∃ r : Record, r.event = event ∧ Fits eventHash (nextSequence records) (head records).hash r ∧
      event.sequence = nextSequence records ∧ database = .ok () ∧
      append eventHash database event records = (.ok (), records ++ [r])) ∨
    ∃ fault, append eventHash database event records = (.error fault, records) ∧
      ¬ (event.sequence = nextSequence records ∧ database = .ok ()) := by
  by_cases hsequence : event.sequence = nextSequence records
  · cases database with
    | ok u =>
      refine .inl ⟨{ sequence := nextSequence records, previousHash := (head records).hash
                     hash := eventHash (head records).hash event, event := event }, rfl,
        ⟨rfl, hsequence, rfl, rfl⟩, hsequence, rfl, ?_⟩
      simp only [append, Proc.guard, refuseIf, bind, Proc.read, Proc.lift, id_eq, hsequence,
        ne_eq, not_true_eq_false, if_false]
      rfl
    | error fault =>
      refine .inr ⟨fault, ?_, fun h => by cases h.2⟩
      simp only [append, Proc.guard, refuseIf, bind, Proc.read, Proc.lift, id_eq, hsequence,
        ne_eq, not_true_eq_false, if_false]
  · refine .inr ⟨.error s!"event sequence {event.sequence}, want {nextSequence records}", ?_,
      fun h => hsequence h.1⟩
    simp only [append, Proc.guard, refuseIf, bind, Proc.read, Proc.lift, id_eq, hsequence,
      ne_eq, not_false_eq_true, if_true]
    rfl

/-- An append keeps a store sound. -/
lemma Sound.append (hsound : Sound eventHash s) {r : Record}
    (hfits : Fits eventHash (nextSequence s.records) (head s.records).hash r) :
    Sound eventHash { s with records := s.records ++ [r] } := by
  refine ⟨verifyChain_snoc.mpr ⟨hsound.chained, hfits⟩, fun a ha => ?_⟩
  obtain ⟨heads, hread, hhighest⟩ := hsound.witnessed a ha
  refine ⟨heads, hread, fun h hh => ?_⟩
  obtain ⟨x, hx, rfl⟩ := hhighest h hh
  exact ⟨x, List.mem_append_left _ hx, rfl⟩

/-- The head of a log can be witnessed, if nothing but records of the log has been. -/
lemma witnessRecovered_ok {anchor : Option Anchor} (hchain : verifyChain eventHash records = .ok ())
    (h : ∀ a, anchor = some a → a.last = {} ∨ ∃ r ∈ records, a.last = r.head) :
    ∃ anchor', witnessRecovered .whole records anchor = .ok anchor' := by
  cases anchor with
  | none => exact ⟨none, rfl⟩
  | some a =>
    by_cases hempty : (head records).hash = ""
    · exact ⟨some a, if_pos hempty⟩
    · have hw : Witnessable a (head records) := by
        rcases h a rfl with hnothing | ⟨r, hr, hlast⟩
        · refine ⟨hempty, ?_, fun hzero => absurd ?_ hempty⟩
          · rw [hnothing]
            exact Nat.zero_le _
          · rw [hnothing, head_sequence hchain] at hzero
            rw [List.length_eq_zero_iff.mp hzero]
            rfl
        · refine ⟨hempty, ?_, fun hsame => ?_⟩
          · rw [hlast]
            exact sequence_le_head hchain hr
          · rw [hlast] at hsame ⊢
            rw [head_eq_of_sequence hchain hr hsame]
      have hwritten : ∃ a', witness .whole (head records) a = (.ok (), a') := by
        rw [witness_of_witnessable .whole hw, writeLine]
        split_ifs
        · exact ⟨_, rfl⟩
        · exact ⟨_, rfl⟩
      obtain ⟨a', ha'⟩ := hwritten
      exact ⟨some a', by rw [witnessRecovered, if_neg hempty, ha']⟩

/-- **Recovery of a sound store**: the log and the anchor file are accepted, and the server
starts with the world that the log replays to. -/
theorem open_succeeds (hsound : Sound eventHash s) {w : World}
    (hreplay : replay s.base s.records = .ok w) :
    ∃ s', open_ eventHash s.base s.records (s.anchor.map Anchor.file) .whole = .ok s' ∧
      s'.world = w ∧ s'.records = s.records := by
  have hanchor : ∃ anchor, checkedAnchor s.records (s.anchor.map Anchor.file) = .ok anchor ∧
      ∀ a, anchor = some a → a.last = {} ∨ ∃ r ∈ s.records, a.last = r.head := by
    cases ha : s.anchor with
    | none => exact ⟨none, rfl, by simp⟩
    | some a =>
      obtain ⟨heads, hread, hhighest⟩ := hsound.witnessed a ha
      obtain ⟨last, hopen, hlast⟩ := openAnchor_ok hread hhighest
      refine ⟨some { file := a.file, last := last }, ?_, ?_⟩
      · simp only [Option.map_some, checkedAnchor, hopen, ok_bind,
          check_ok hsound.chained (a := { file := a.file, last := last }) hlast, wrapError]
        rfl
      · rintro _ ⟨⟩
        exact hlast
  obtain ⟨anchor, hchecked, hlast⟩ := hanchor
  obtain ⟨anchor', hwitnessed⟩ := witnessRecovered_ok hsound.chained hlast
  refine ⟨{ base := s.base, world := w, records := s.records, anchor := anchor' }, ?_, rfl, rfl⟩
  simp only [open_, hsound.chained, hchecked, hreplay, hwitnessed, wrapError, ok_bind]
  rfl

/-- A head that was checked is that of a record. -/
lemma check_holds (h : check a records = .ok ()) (hhash : a.last.hash ≠ "") :
    ∃ r ∈ records, a.last = r.head := by
  rw [check, if_neg hhash, refuseIf_bind_ok] at h
  obtain ⟨-, h⟩ := h
  split_ifs at h with hsame
  · rw [refuseIf_ok, not_not] at h
    have hlast : a.last = head records := by
      rw [Head.mk.injEq]
      exact ⟨hsame.symm, h.symm⟩
    cases hrecords : records.getLast? with
    | none =>
      rw [hlast, head, hrecords] at hhash
      exact absurd rfl hhash
    | some r =>
      refine ⟨r, List.mem_of_getLast? hrecords, ?_⟩
      rw [hlast, head, hrecords]
      rfl
  · obtain ⟨r, hfound, hr⟩ := require_bind_ok.mp h
    rw [refuseIf_ok, not_not] at hr
    have hsequence := List.find?_some hfound
    rw [decide_eq_true_eq] at hsequence
    refine ⟨r, List.mem_of_find?_eq_some hfound, ?_⟩
    rw [Record.head, Head.mk.injEq]
    exact ⟨hsequence.symm, hr.symm⟩

lemma readLines_hashed {file : List (Option Head)} {heads : List Head} {line : ℕ}
    (h : readLines line file = .ok heads) : ∀ x ∈ heads, x.hash ≠ "" := by
  induction file generalizing line heads with
  | nil =>
    cases h
    simp
  | cons entry rest ih =>
    simp only [readLines, require_bind_ok, refuseIf_bind_ok] at h
    obtain ⟨x, rfl, hx, h⟩ := h
    obtain ⟨heads', hrest, hheads⟩ := bind_ok.mp h
    cases hheads
    intro y hy
    rcases List.mem_cons.mp hy with rfl | hy
    · exact hx
    · exact ih hrest y hy

/-- **A server that has been opened is sound**, and its world is the one the log replays to. -/
theorem open_sound {base : World} {file : Option (List (Option Head))} {writing : Writing}
    (h : open_ eventHash base records file writing = .ok s) :
    Sound eventHash s ∧ s.base = base ∧ replay base s.records = .ok s.world := by
  obtain ⟨_, hchain, h⟩ := bind_ok.mp h
  obtain ⟨anchor, hanchor, h⟩ := bind_ok.mp h
  obtain ⟨w, hreplay, h⟩ := bind_ok.mp h
  obtain ⟨anchor', hwitnessed, h⟩ := bind_ok.mp h
  cases h
  have hchain := wrapError_ok.mp hchain
  refine ⟨?_, rfl, wrapError_ok.mp hreplay⟩
  have hsound : Sound eventHash
      { base := base, world := w, records := records, anchor := anchor } := by
    refine ⟨hchain, ?_⟩
    rintro a rfl
    cases file with
    | none => cases hanchor
    | some lines =>
      obtain ⟨a', hopened, hanchor⟩ := bind_ok.mp hanchor
      obtain ⟨_, hchecked, hanchor⟩ := bind_ok.mp hanchor
      cases hanchor
      obtain ⟨heads, hread, hopened⟩ := bind_ok.mp hopened
      cases hopened
      refine ⟨heads, hread, fun x hx => ?_⟩
      have hmem : x ∈ heads := (List.mem_insertionSort _).mp (List.mem_of_getLast? hx)
      have hholds := check_holds (wrapError_ok.mp hchecked)
      rw [hx] at hholds
      exact hholds (readLines_hashed hread x hmem)
  cases anchor with
  | none =>
    cases hwitnessed
    exact hsound
  | some a =>
    rw [witnessRecovered] at hwitnessed
    split_ifs at hwitnessed with hempty
    · cases hwitnessed
      exact hsound
    · have hhead : ∃ r ∈ records, head records = r.head := by
        cases hlast : records.getLast? with
        | none =>
          rw [head, hlast] at hempty
          exact absurd rfl hempty
        | some r =>
          refine ⟨r, List.mem_of_getLast? hlast, ?_⟩
          rw [head, hlast]
          rfl
      cases hresult : Journal.witness writing (head records) a with
      | mk outcome a' =>
        rw [hresult] at hwitnessed
        cases outcome with
        | ok u =>
          cases hwitnessed
          have hwhole : writing = .torn →
              (Journal.witness writing (head records) a).1 = .ok () :=
            fun _ => by rw [hresult]
          have hkept := hsound.witness hwhole (.inr hhead) rfl
          rwa [hresult] at hkept
        | error e => cases e <;> cases hwitnessed

end Recovery

end A4s.Journal
