/-
The anchor against the log (`Anchor.Check` of `eventlog/anchor.go`).

The anchor witnesses heads of the chain outside of the store. The check compares what was
witnessed with the log as it is now: with the record at the witnessed sequence if the log has
grown since, and with the mirrored chain head if it has not. The chain head is a row of its own
in the database; opening compares its sequence with the number of records, and nothing compares
its hash with the last of them.

* `check`: the function of the source.
* `HeadRecorded`: the chain head, if the check reads it, is the head of a record.
* `check_holds_iff`: what a passed check is worth.
* `check_substituted`: a log of the same length passes for the witnessed one, if the chain head
  is left as it was.
-/
import A4s.Eventlog.Store

namespace A4s.Eventlog

open Go
open Journal (Head Anchor)

section Check

variable {ε : Type} (c : Codec ε)

/-- `Anchor.Check`. -/
def check (a : Anchor) (f : File) : Result Unit :=
  if a.last.hash = "" then .ok ()
  else do
    refuseIf (f.head.sequence < a.last.sequence)
      (s!"event log is at sequence {f.head.sequence} but the anchor witnessed " ++
        s!"{a.last.sequence}: the log was truncated or replaced")
    if f.head.sequence = a.last.sequence then
      refuseIf (f.head.hash ≠ a.last.hash)
        (s!"event log hash at sequence {a.last.sequence} does not match the anchor: " ++
          "history was rewritten")
    else do
      let records ← readRecords c f
      let r ← require (records.find? fun r => r.sequence = a.last.sequence)
        s!"event log has no record at anchored sequence {a.last.sequence}"
      refuseIf (r.hash ≠ a.last.hash)
        (s!"event log hash at sequence {a.last.sequence} does not match the anchor: " ++
          "history was rewritten")

/-- Where the anchor has witnessed the sequence that the chain head is at, the chain head is the
head of one of the records. -/
def HeadRecorded (a : Anchor) (f : File) : Prop :=
  a.last.hash ≠ "" → f.head.sequence = a.last.sequence →
    f.head ∈ f.database.rows.map Row.head

instance (a : Anchor) (f : File) : Decidable (HeadRecorded a f) :=
  inferInstanceAs (Decidable (_ → _ → _))

/-- The anchor has witnessed nothing, or a record of the log. -/
def Witnesses (a : Anchor) (log : List (Record ε)) : Prop :=
  a.last = {} ∨ ∃ r ∈ log, a.last = r.head

variable {c} {a : Anchor} {f : File} {records log : List (Record ε)}

/-- A check that passed found the witnessed hash: in the chain head if the log is where it was,
in the record otherwise. -/
lemma check_eq_ok (hread : readRecords c f = .ok records) (hlast : a.last.hash ≠ "")
    (h : check c a f = .ok ()) :
    (f.head.sequence = a.last.sequence → f.head = a.last) ∧
      (f.head.sequence ≠ a.last.sequence → ∃ r ∈ records, r.head = a.last) := by
  rw [check, if_neg hlast, refuseIf_bind_ok] at h
  obtain ⟨-, h⟩ := h
  constructor
  · intro hsame
    rw [if_pos hsame, refuseIf_ok, not_not] at h
    cases hhead : f.head with
    | mk sequence hash =>
      rw [hhead] at hsame h
      rw [show a.last = ⟨a.last.sequence, a.last.hash⟩ from rfl, ← hsame, ← h]
  · intro hgrown
    rw [if_neg hgrown, hread, ok_bind, require_bind_ok] at h
    obtain ⟨r, hfind, hhash⟩ := h
    rw [refuseIf_ok, not_not] at hhash
    have hsequence := List.find?_some hfind
    rw [decide_eq_true_eq] at hsequence
    exact ⟨r, List.mem_of_find?_eq_some hfind, by rw [Record.head, hsequence, hhash]⟩

/-- **After a check that passed, the log holds the witnessed record exactly if the chain head is
that of a record.** -/
theorem check_holds_iff (hread : readRecords c f = .ok records) (hlast : a.last.hash ≠ "")
    (h : check c a f = .ok ()) : (∃ r ∈ records, r.head = a.last) ↔ HeadRecorded a f := by
  obtain ⟨hsame, hgrown⟩ := check_eq_ok hread hlast h
  have hheads := heads_of_readRecords hread
  constructor
  · rintro ⟨r, hr, hhead⟩ - hsequence
    rw [hsame hsequence, ← hheads, ← hhead]
    exact List.mem_map_of_mem hr
  · intro hrecorded
    by_cases hsequence : f.head.sequence = a.last.sequence
    · have hmem := hrecorded hlast hsequence
      rw [← hheads, hsame hsequence] at hmem
      exact List.mem_map.mp hmem
    · exact hgrown hsequence

/-- A record of the log is among the records up to its sequence. -/
lemma mem_take_sequence {r : Record ε} (hlog : verifyChain c log = .ok ()) (hr : r ∈ log) :
    r ∈ log.take r.sequence := by
  have htake := Links.take_sequence (verifyChain_eq_ok.mp hlog) hr
  change log.take r.sequence = _ at htake
  rw [htake]
  simp

/-! ### A substituted log -/

end Check

/-! ### A log of notes -/

/-- An event that is a number and a note. -/
structure Note where
  sequence : ℕ
  text : UInt8
  deriving DecidableEq

/-- Notes in a log whose digest is the pre-image itself. -/
def noteCodec : Codec Note where
  sequence := Note.sequence
  marshal note := .ok (note.text :: List.replicate note.sequence 1)
  unmarshal
    | [] => fail "unexpected end of JSON input"
    | text :: rest => .ok ⟨rest.length, text⟩
  sum bytes := 1 :: bytes
  sum_ne bytes := List.cons_ne_nil 1 bytes

/-- A log of one note, in its database. -/
def oneNote (text : UInt8) : Database :=
  (append noteCodec (.ok ()) ⟨1, text⟩ {}).2.database

lemma noteCodec_collisionFree : noteCodec.CollisionFree := by
  intro x y h
  exact (List.cons.inj h).2

lemma noteCodec_injective : noteCodec.Injective := by
  intro e e' payload h h'
  have hsame : e.text :: List.replicate e.sequence 1 = e'.text :: List.replicate e'.sequence 1 :=
    Except.ok.inj (h.trans h'.symm)
  obtain ⟨htext, hcopies⟩ := List.cons.inj hsame
  have hsequence := congrArg List.length hcopies
  rw [List.length_replicate, List.length_replicate] at hsequence
  cases e
  cases e'
  exact congrArg₂ Note.mk hsequence htext

/-- The record of the note `7`, and a log of the note `8` with its chain head. -/
def witnessedNote : List (Record Note) :=
  [{ sequence := 1, previousHash := "", hash := (oneNote 7).chainHead.hash, event := ⟨1, 7⟩ }]

def substitutedNote : Database := { oneNote 8 with chainHead := (oneNote 7).chainHead }

def noteAnchor : Anchor := { last := (oneNote 7).chainHead }

/-- **Two logs with the same last hash are equal; a log that passes the check agrees with the
witnessed one up to the witnessed sequence exactly if its chain head is that of a record.** -/
theorem anchored_agreement_iff {ε : Type} {c : Codec ε} (hsum : c.CollisionFree)
    (hencode : c.Injective) :
    (∀ records records' : List (Record ε), verifyChain c records = .ok () →
      verifyChain c records' = .ok () →
      (records.getLast?.map Record.hash).getD "" = (records'.getLast?.map Record.hash).getD "" →
      records = records') ∧
    ∀ (log records : List (Record ε)) (a : Anchor) (f : File), verifyChain c log = .ok () →
      Witnesses a log → readRecords c f = .ok records → verify c f = .ok () →
      check c a f = .ok () →
      (records.take a.last.sequence = log.take a.last.sequence ↔ HeadRecorded a f) := by
  have hbinding := Codec.binding hsum hencode
  constructor
  · intro records records' h h' hsame
    exact hbinding.eq_of_tipOf (verifyChain_eq_ok.mp h) (verifyChain_eq_ok.mp h') hsame
  · intro log records a f hlog hwitness hread hverify hcheck
    obtain ⟨_, hread', hchain⟩ := verify_eq_ok.mp hverify
    cases hread.symm.trans hread'
    rcases hwitness with hnothing | ⟨r', hr', hlast⟩
    · -- nothing is witnessed, and nothing is compared
      rw [hnothing]
      simp [HeadRecorded, hnothing]
    · have hhash : a.last.hash ≠ "" := by
        rw [hlast]
        exact hash_ne_empty hlog hr'
      rw [← check_holds_iff hread hhash hcheck, hlast]
      constructor
      · intro hagree
        have hmem : r' ∈ records.take r'.sequence := by
          rw [show r'.sequence = r'.head.sequence from rfl, hagree]
          exact mem_take_sequence hlog hr'
        exact ⟨r', List.mem_of_mem_take hmem, rfl⟩
      · rintro ⟨r, hr, hhead⟩
        have hsequence : r.sequence = r'.sequence := congrArg Head.sequence hhead
        have htip : r.hash = r'.hash := congrArg Head.hash hhead
        have hagree := hbinding.take_eq_of_tip (verifyChain_eq_ok.mp hchain)
          (verifyChain_eq_ok.mp hlog) hr hr' htip
        change records.take r.sequence = log.take r'.sequence at hagree
        rw [hsequence] at hagree
        exact hagree

theorem anchored_agreement_note :
    noteCodec.CollisionFree ∧ noteCodec.Injective ∧
      ∃ f records, openFile noteCodec (oneNote 7) = .ok f ∧
        readRecords noteCodec f = .ok records ∧ check noteCodec noteAnchor f = .ok () ∧
        HeadRecorded noteAnchor f ∧
        records.take noteAnchor.last.sequence = witnessedNote.take noteAnchor.last.sequence := by
  refine ⟨noteCodec_collisionFree, noteCodec_injective,
    { database := oneNote 7, head := (oneNote 7).chainHead, count := 1 }, witnessedNote,
    by decide +kernel, by decide +kernel, by decide +kernel, by decide +kernel, ?_⟩
  refine ((anchored_agreement_iff noteCodec_collisionFree noteCodec_injective).2 witnessedNote
    witnessedNote noteAnchor
    { database := oneNote 7, head := (oneNote 7).chainHead, count := 1 } (by decide +kernel)
    (.inr ⟨_, List.mem_singleton.mpr rfl, by decide +kernel⟩) (by decide +kernel)
    (by decide +kernel) (by decide +kernel)).mpr ?_
  decide +kernel

/-- The log of the note `8` passes for the one of the note `7`. -/
theorem substituted_note_passes :
    noteCodec.CollisionFree ∧ noteCodec.Injective ∧
      verifyChain noteCodec witnessedNote = .ok () ∧ Witnesses noteAnchor witnessedNote ∧
      ∃ f records, openFile noteCodec substitutedNote = .ok f ∧
        readRecords noteCodec f = .ok records ∧ verify noteCodec f = .ok () ∧
        check noteCodec noteAnchor f = .ok () ∧
        records.take noteAnchor.last.sequence ≠ witnessedNote.take noteAnchor.last.sequence := by
  refine ⟨noteCodec_collisionFree, noteCodec_injective, by decide +kernel,
    .inr ⟨_, List.mem_singleton.mpr rfl, by decide +kernel⟩,
    { database := substitutedNote, head := substitutedNote.chainHead, count := 1 },
    [{ sequence := 1, previousHash := "", hash := (oneNote 8).chainHead.hash, event := ⟨1, 8⟩ }],
    ?_⟩
  decide +kernel

end A4s.Eventlog
