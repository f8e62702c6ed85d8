/-
Witnessing heads of a log that goes on (`Server.witnessHead`, `Server.Reconcile` and
`Server.appendObservation` of `server/server.go`, with `Anchor.Witness`).

A caller reads the head of the log, and only then passes it to the anchor; other callers append
and witness in between. `Anchored` is the log, its anchor and the heads that callers have read;
`move` is one step of a caller.

* `Kept`: what was read and what was witnessed are heads of records.
* `Timely`: no newer head has been witnessed since; `witness_ok_iff`: a call succeeds exactly
  then.
-/
import A4s.Eventlog.Follower

namespace A4s.Eventlog

open Go
open Journal (Head Anchor Writing Witnessable writeLine witness_of_witnessable
  witness_of_not_witnessable)

/-- A log, its anchor, and the heads that callers have read and not forgotten. -/
structure Anchored where
  log : File := {}
  anchor : Anchor := {}
  read : List Head := []

/-- What a caller does next. -/
inductive Move (ε : Type) where
  | append (transaction : Result Unit) (event : ε)
  | readHead
  | witness (writing : Writing) (h : Head)

/-- The heads of the records. -/
def File.heads (f : File) : List Head := f.database.rows.map Row.head

section Witness

variable {ε : Type} (c : Codec ε)

/-- One step: a caller appends, reads the head, or witnesses a head that it has read; an empty
head is not witnessed. -/
def move (s : Anchored) : Move ε → Result Anchored
  | .append transaction event => .ok { s with log := (append c transaction event s.log).2 }
  | .readHead => .ok { s with read := s.log.head :: s.read }
  | .witness writing h => do
      refuseIf (h ∉ s.read ∨ h.hash = "") "no caller carries this head"
      return { s with anchor := (Journal.witness writing h s.anchor).2 }

/-- What was read and what was witnessed are heads of records. -/
structure Kept (s : Anchored) : Prop where
  mirrors : Mirrors s.log
  numbered : s.log.database.rows.map Row.sequence = List.range' 1 s.log.database.rows.length
  head_mem : s.log.head.hash = "" ∨ s.log.head ∈ s.log.heads
  read_mem : ∀ h ∈ s.read, h.hash = "" ∨ h ∈ s.log.heads
  last_mem : s.anchor.last = {} ∨ s.anchor.last ∈ s.log.heads
  file_mem : ∀ h, some h ∈ s.anchor.file → h ∈ s.log.heads

/-- The call of the anchor succeeds. -/
def Succeeds (s : Anchored) : Move ε → Prop
  | .append _ _ => True
  | .readHead => True
  | .witness writing h => (Journal.witness writing h s.anchor).1 = .ok ()

/-- The head is not behind what the anchor has witnessed, and a new one reaches the file. -/
def Timely (s : Anchored) : Move ε → Prop
  | .append _ _ => True
  | .readHead => True
  | .witness writing h => s.anchor.last.sequence ≤ h.sequence ∧
      (s.anchor.last.sequence < h.sequence → writing = .whole)

variable {c} {s t : Anchored} {a : Anchor} {h x : Head} {writing : Writing}

/-! ### One call of the anchor -/

/-- What a call leaves: the witness goes on to the head or stays, and the file gains its line at
most. -/
lemma witness_after (writing : Writing) (h : Head) (a : Anchor) :
    ((Journal.witness writing h a).2.last = a.last ∨
      (a.last.sequence ≤ h.sequence ∧ (Journal.witness writing h a).2.last = h)) ∧
    ∀ x, some x ∈ (Journal.witness writing h a).2.file → some x ∈ a.file ∨ x = h := by
  by_cases hw : Witnessable a h
  · rw [witness_of_witnessable writing hw]
    unfold writeLine
    split_ifs with hsame
    · exact ⟨.inl rfl, fun x hx => .inl hx⟩
    · cases writing with
      | whole => exact ⟨.inr ⟨hw.forward, rfl⟩, by simp⟩
      | nothing => exact ⟨.inl rfl, fun x hx => .inl hx⟩
      | unsynced => exact ⟨.inl rfl, by simp⟩
      | torn => exact ⟨.inl rfl, fun x hx => .inl (by simpa using hx)⟩
  · obtain ⟨e, he⟩ := witness_of_not_witnessable writing hw
    rw [he]
    exact ⟨.inl rfl, fun x hx => .inl hx⟩

lemma witness_succeeds_iff : (Journal.witness writing h a).1 = .ok () ↔
    Witnessable a h ∧ (a.last.sequence < h.sequence → writing = .whole) := by
  by_cases hw : Witnessable a h
  · rw [witness_of_witnessable writing hw]
    unfold writeLine
    split_ifs with hsame
    · simp only [hw, true_and, true_iff]
      intro hlt
      omega
    · have hlt : a.last.sequence < h.sequence := lt_of_le_of_ne hw.forward (Ne.symm hsame)
      cases writing <;> simp [hw, hlt]
  · obtain ⟨e, he⟩ := witness_of_not_witnessable writing hw
    simp [he, hw]

/-! ### Steps -/

/-- An append adds heads at most. -/
lemma heads_append (transaction : Result Unit) (event : ε) (f : File) :
    (append c transaction event f).2 = f ∨
      ∃ hash payload, Appends c f event hash payload ∧
        (append c transaction event f).2 = f.extended hash payload := by
  cases happend : append c transaction event f with
  | mk outcome left =>
    cases outcome with
    | error e => exact .inl (append_error happend)
    | ok u =>
      obtain ⟨-, hash, payload, happends, rfl⟩ := append_returns.mp happend
      exact .inr ⟨hash, payload, happends, rfl⟩

lemma heads_extended (f : File) (hash : String) (payload : Bytes) :
    (f.extended hash payload).heads = f.heads ++ [⟨f.count + 1, hash⟩] := by
  simp [File.heads, File.extended, Row.head]

/-- A head with a number that was witnessed is the one that was witnessed. -/
lemma Kept.witnessable_iff (hs : Kept s) (hmem : h ∈ s.log.heads) (hhash : h.hash ≠ "") :
    Witnessable s.anchor h ↔ s.anchor.last.sequence ≤ h.sequence := by
  refine ⟨fun hw => hw.forward, fun hle => ⟨hhash, hle, fun hsame => ?_⟩⟩
  obtain ⟨row, hrow, rfl⟩ := List.mem_map.mp hmem
  have hnumber := List.mem_map_of_mem (f := Row.sequence) hrow
  rw [hs.numbered, List.mem_range'_1] at hnumber
  rcases hs.last_mem with hlast | hlast
  · rw [hlast] at hsame
    have hzero : row.sequence = 0 := hsame
    omega
  · obtain ⟨row', hrow', hhead'⟩ := List.mem_map.mp hlast
    have hnodup : (s.log.database.rows.map Row.sequence).Nodup := by
      rw [hs.numbered]
      exact List.nodup_range'
    have hsequence : row.sequence = row'.sequence := by
      rw [← hhead'] at hsame
      exact hsame
    rw [← hhead', List.inj_on_of_nodup_map hnodup hrow hrow' hsequence]

/-- A head that a caller carries can be witnessed exactly if it is timely. -/
lemma succeeds_iff (hs : Kept s) {m : Move ε} (hstep : move c s m = .ok t) :
    Succeeds s m ↔ Timely s m := by
  cases m with
  | append => exact Iff.rfl
  | readHead => exact Iff.rfl
  | witness writing h =>
    obtain ⟨hcarried, -⟩ := refuseIf_bind_ok.mp hstep
    rw [not_or, not_not] at hcarried
    have hmem := (hs.read_mem h hcarried.1).resolve_left hcarried.2
    rw [Succeeds, Timely, witness_succeeds_iff, hs.witnessable_iff hmem hcarried.2]

/-- **Every step keeps what was read and witnessed among the records, and the witness does not
go back.** -/
theorem move_kept (hs : Kept s) {m : Move ε} (hstep : move c s m = .ok t) :
    Kept t ∧ s.anchor.last.sequence ≤ t.anchor.last.sequence := by
  cases m with
  | append transaction event =>
    obtain rfl := (Except.ok.inj hstep).symm
    refine ⟨?_, le_rfl⟩
    rcases heads_append (c := c) transaction event s.log with hsame | ⟨hash, payload, -, hlog⟩
    · rw [hsame]
      exact hs
    · rw [hlog]
      have hmore : ∀ x ∈ s.log.heads, x ∈ (s.log.extended hash payload).heads := by
        intro x hx
        rw [heads_extended]
        exact List.mem_append_left _ hx
      refine ⟨hs.mirrors.extended _ _, ?_, .inr ?_, ?_, ?_, ?_⟩
      · change (s.log.database.rows ++ [_]).map Row.sequence =
          List.range' 1 (s.log.database.rows ++ [_]).length
        rw [List.map_append, hs.numbered, List.length_append, List.length_singleton,
          List.range'_concat, Nat.one_mul, Nat.add_comm 1, List.map_singleton, hs.mirrors.count_eq]
      · rw [heads_extended]
        exact List.mem_append_right _ (List.mem_singleton.mpr rfl)
      · exact fun h hmem => (hs.read_mem h hmem).imp_right (hmore h)
      · exact hs.last_mem.imp_right (hmore _)
      · exact fun h hmem => hmore h (hs.file_mem h hmem)
  | readHead =>
    obtain rfl := (Except.ok.inj hstep).symm
    refine ⟨⟨hs.mirrors, hs.numbered, hs.head_mem, ?_, hs.last_mem, hs.file_mem⟩, le_rfl⟩
    exact List.forall_mem_cons.mpr ⟨hs.head_mem, hs.read_mem⟩
  | witness writing h =>
    obtain ⟨hcarried, hnext⟩ := refuseIf_bind_ok.mp hstep
    rw [not_or, not_not] at hcarried
    obtain rfl := (Except.ok.inj hnext).symm
    have hmem := (hs.read_mem h hcarried.1).resolve_left hcarried.2
    obtain ⟨hlast, hfile⟩ := witness_after writing h s.anchor
    refine ⟨⟨hs.mirrors, hs.numbered, hs.head_mem, hs.read_mem, ?_, ?_⟩, ?_⟩
    · rcases hlast with hsame | ⟨-, hnew⟩
      · rw [hsame]
        exact hs.last_mem
      · rw [hnew]
        exact .inr hmem
    · intro x hx
      rcases hfile x hx with hold | rfl
      · exact hs.file_mem x hold
      · exact hmem
    · rcases hlast with hsame | ⟨hle, hnew⟩
      · rw [hsame]
      · rw [hnew]
        exact hle

lemma run_kept {moves : List (Move ε)} (hrun : Run (move c) s moves t) (hs : Kept s) :
    Kept t ∧ s.anchor.last.sequence ≤ t.anchor.last.sequence := by
  induction hrun with
  | nil => exact ⟨hs, le_rfl⟩
  | cons hstep _ ih =>
    obtain ⟨hnext, hle⟩ := move_kept hs hstep
    obtain ⟨hlast, hle'⟩ := ih hnext
    exact ⟨hlast, hle.trans hle'⟩

/-- **In every interleaving, every call of the anchor succeeds exactly if every head is passed on
before a newer one is witnessed; the witness never goes back, and what is witnessed are heads of
records of the log.** -/
theorem witness_interleaving_iff {moves : List (Move ε)} (hs : Kept s)
    (hrun : Run (move c) s moves t) :
    (Run.Throughout (move c) Succeeds s moves ↔ Run.Throughout (move c) Timely s moves) ∧
      s.anchor.last.sequence ≤ t.anchor.last.sequence ∧
      ∀ h, some h ∈ t.anchor.file → ∃ row ∈ t.log.database.rows, row.head = h := by
  obtain ⟨ht, hle⟩ := run_kept hrun hs
  refine ⟨?_, hle, fun h hmem => List.mem_map.mp (ht.file_mem h hmem)⟩
  -- every step of the run is taken in a state that is kept
  have hpoint : ∀ before m after u, moves = before ++ m :: after →
      Run (move c) s before u → (Succeeds u m ↔ Timely u m) := by
    intro before m after u hsplit hbefore
    rw [hsplit] at hrun
    obtain ⟨u', hbefore', hrest⟩ := hrun.split
    cases hbefore.unique hbefore'
    cases hrest with
    | cons hstep _ => exact succeeds_iff (run_kept hbefore hs).1 hstep
  constructor
  · intro hall before m after u hsplit hbefore
    exact (hpoint before m after u hsplit hbefore).mp (hall before m after u hsplit hbefore)
  · intro hall before m after u hsplit hbefore
    exact (hpoint before m after u hsplit hbefore).mpr (hall before m after u hsplit hbefore)

end Witness

lemma kept_empty : Kept {} :=
  ⟨⟨rfl, rfl, rfl, rfl⟩, rfl, .inl rfl, by simp, .inl rfl, by simp⟩

/-- Two notes, and the log after each of them. -/
def firstNote : Move Note := .append (.ok ()) ⟨1, 7⟩

def secondNote : Move Note := .append (.ok ()) ⟨2, 8⟩

def noteLog : File := (append noteCodec (.ok ()) ⟨1, 7⟩ {}).2

def twoNoteLog : File := (append noteCodec (.ok ()) ⟨2, 8⟩ noteLog).2

/-- One caller appends, reads and witnesses. -/
theorem witness_interleaving_note :
    Kept {} ∧ Run (move noteCodec) {} [firstNote, .readHead, .witness .whole noteLog.head]
        { log := noteLog, anchor := { file := [some noteLog.head], last := noteLog.head }
          read := [noteLog.head] } ∧
      ∃ row ∈ noteLog.database.rows, row.head = noteLog.head := by
  have hrun : Run (move noteCodec) {} [firstNote, .readHead, .witness .whole noteLog.head]
      { log := noteLog, anchor := { file := [some noteLog.head], last := noteLog.head }
        read := [noteLog.head] } := by
    refine .cons rfl (.cons rfl (.cons ?_ (.nil _)))
    refine refuseIf_bind_ok.mpr ⟨by decide +kernel, ?_⟩
    rw [show Journal.witness .whole noteLog.head {} =
      (.ok (), { file := [some noteLog.head], last := noteLog.head }) by decide +kernel]
    rfl
  exact ⟨kept_empty, hrun, (witness_interleaving_iff kept_empty hrun).2.2 noteLog.head
    (List.mem_singleton.mpr rfl)⟩

/-- A caller reads the head after the first note; another one appends, reads and witnesses before
the first caller gets to the anchor. -/
def overtaken : Anchored :=
  { log := twoNoteLog, anchor := { file := [some twoNoteLog.head], last := twoNoteLog.head }
    read := [twoNoteLog.head, noteLog.head] }

theorem overtaken_head_refused :
    Kept {} ∧
      Run (move noteCodec) {}
        [firstNote, .readHead, secondNote, .readHead, .witness .whole twoNoteLog.head]
        overtaken ∧
      noteLog.head ∈ overtaken.read ∧
      (Journal.witness .whole noteLog.head overtaken.anchor).1 =
        fail "anchor already witnessed sequence 2, refusing to record 1" := by
  refine ⟨kept_empty, ?_, by decide +kernel, by decide +kernel⟩
  refine .cons rfl (.cons rfl (.cons rfl (.cons rfl (.cons ?_ (.nil _)))))
  refine refuseIf_bind_ok.mpr ⟨by decide +kernel, ?_⟩
  rw [show Journal.witness .whole twoNoteLog.head {} =
    (.ok (), { file := [some twoNoteLog.head], last := twoNoteLog.head }) by decide +kernel]
  rfl

end A4s.Eventlog
