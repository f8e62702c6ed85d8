/-
A follower of the event log (`File.Ingest` and `confirmRecord` of `eventlog/store.go`).

A follower is fed batches of records. A record that it holds already is compared with what it
holds; any other one is appended, which derives its hash anew, and only then compared with the
hash that came with it.

* `ingestRecord`, `ingest`: the functions of the source; `Ingested`: what one record may do.
* `Follows`: the log is a prefix of that of its primary.
* `FailsAgreeing`: a call that fails leaves what an accepted part of its batch left.
* `Honest`: a record that is due next carries the hash that its event derives;
  `failsAgreeing_iff`: this is what it takes.
-/
import A4s.Go.Run
import A4s.Eventlog.Anchor

namespace A4s.Eventlog

open Go
open Journal (Head)

section Ingest

variable {ε : Type} (c : Codec ε)

/-- `File.confirmRecord`. -/
def confirmRecord (r : Record ε) (f : File) : Result Unit := do
  let held ← readRecords c f
  if r.sequence = 0 ∨ held.length < r.sequence then .ok ()
  else
    match held[r.sequence - 1]? with
    | none => crash "index out of range"
    | some mine =>
      refuseIf (mine.hash ≠ r.hash)
        s!"record {r.sequence} differs from the primary: histories have diverged"

/-- One round of the loop of `File.Ingest`; whether the record was appended. -/
def ingestRecord (transaction : Result Unit) (r : Record ε) : Proc File Bool := do
  let f ← Proc.read id
  if r.sequence ≤ f.nextSequence - 1 then do
    Proc.lift (confirmRecord c r f)
    return false
  else do
    Proc.wrapped s!"ingest record {r.sequence}: " (append c transaction r.event)
    let head ← Proc.read File.head
    Proc.guard (head.hash ≠ r.hash)
      (s!"ingested record {r.sequence} derives hash {head.hash} but the primary recorded " ++
        s!"{r.hash}: histories have diverged")
    return true

/-- `File.Ingest`: how many records were appended, and the error. Every record comes with what
the transaction does that may append it. -/
def ingest : List (Record ε × Result Unit) → File → (ℕ × Result Unit) × File
  | [], f => ((0, .ok ()), f)
  | (r, transaction) :: rest, f =>
    match ingestRecord c transaction r f with
    | (.ok appended, f') =>
      let (outcome, left) := ingest rest f'
      ((outcome.1 + appended.toNat, outcome.2), left)
    | (.error e, f') => ((0, .error e), f')

/-- What one record may do: it is held, it is refused, it is taken, or it is written and found
to differ. -/
inductive Ingested (f : File) (transaction : Result Unit) (r : Record ε) :
    Result Bool → File → Prop
  | held (hheld : r.sequence ≤ f.count) (hconfirmed : confirmRecord c r f = .ok ()) :
      Ingested f transaction r (.ok false) f
  | refused (e : Fault) (hrefused : f.count < r.sequence → transaction = .ok () →
      ∀ hash payload, ¬ Appends c f r.event hash payload) :
      Ingested f transaction r (.error e) f
  | taken {hash : String} {payload : Bytes} (hnext : f.count < r.sequence)
      (htransaction : transaction = .ok ()) (happends : Appends c f r.event hash payload)
      (hsame : r.hash = hash) : Ingested f transaction r (.ok true) (f.extended hash payload)
  | diverged {hash : String} {payload : Bytes} (e : Fault) (hnext : f.count < r.sequence)
      (htransaction : transaction = .ok ()) (happends : Appends c f r.event hash payload)
      (hdiffer : r.hash ≠ hash) :
      Ingested f transaction r (.error e) (f.extended hash payload)

variable {c} {f g : File} {r : Record ε} {transaction : Result Unit}

/-- A record that is held is confirmed. -/
lemma ingested_of_held (hheld : r.sequence ≤ f.count) :
    Ingested c f transaction r (ingestRecord c transaction r f).1
      (ingestRecord c transaction r f).2 := by
  have hbranch : ingestRecord c transaction r f =
      (Proc.lift (confirmRecord c r f) >>= fun _ => pure false : Proc File Bool) f := by
    change (if r.sequence ≤ f.count + 1 - 1 then _ else _ : Proc File Bool) f = _
    rw [if_pos (by omega)]
    rfl
  rw [hbranch]
  rcases bind_cases (Proc.lift (confirmRecord c r f)) (fun _ => (pure false : Proc File Bool))
    f with ⟨e, _, hstop, hend⟩ | ⟨_, _, hreturns, hend⟩
  · obtain ⟨-, rfl⟩ := Prod.mk.inj hstop
    rw [hend]
    exact .refused e fun hnext => absurd hheld (not_le.mpr hnext)
  · obtain ⟨hconfirmed, rfl⟩ := returns_lift.mp hreturns
    rw [hend]
    exact .held hheld hconfirmed

/-- A record that is not held is appended and then compared. -/
lemma ingested_of_next (hnext : f.count < r.sequence) :
    Ingested c f transaction r (ingestRecord c transaction r f).1
      (ingestRecord c transaction r f).2 := by
  set compare : Unit → Proc File Bool := fun _ => do
    let head ← Proc.read File.head
    Proc.guard (head.hash ≠ r.hash)
      (s!"ingested record {r.sequence} derives hash {head.hash} but the primary recorded " ++
        s!"{r.hash}: histories have diverged")
    return true with hcompare
  have hbranch : ingestRecord c transaction r f =
      (Proc.wrapped s!"ingest record {r.sequence}: " (append c transaction r.event) >>= compare)
        f := by
    change (if r.sequence ≤ f.count + 1 - 1 then _ else _ : Proc File Bool) f = _
    rw [if_neg (by omega)]
  rw [hbranch]
  rcases bind_cases (Proc.wrapped s!"ingest record {r.sequence}: "
    (append c transaction r.event)) compare f with ⟨e, g, hstop, hend⟩ | ⟨_, g, hreturns, hend⟩
  · obtain ⟨hfailed, rfl⟩ := Prod.mk.inj hstop
    rw [hend]
    cases happend : append c transaction r.event f with
    | mk outcome left =>
      rw [happend] at hfailed
      cases outcome with
      | ok u => cases hfailed
      | error e' =>
        rw [show (left : File) = f from append_error happend]
        refine .refused e fun _ htransaction hash payload happends => ?_
        have hreturns := append_returns.mpr ⟨htransaction, hash, payload, happends, rfl⟩
        rw [Proc.Returns, happend] at hreturns
        cases hreturns
  · rw [returns_wrapped] at hreturns
    obtain ⟨htransaction, hash, payload, happends, rfl⟩ := append_returns.mp hreturns
    rw [hend]
    by_cases hsame : r.hash = hash
    · have hend' : compare () (f.extended hash payload) = (.ok true, f.extended hash payload) := by
        refine returns_bind.mpr ⟨_, _, returns_read.mpr ⟨rfl, rfl⟩, ?_⟩
        refine returns_bind.mpr ⟨(), _, returns_guard.mpr ⟨?_, rfl⟩, rfl⟩
        exact not_not.mpr hsame.symm
      rw [hend']
      exact .taken hnext htransaction happends hsame
    · have hdiffer : (f.extended hash payload).head.hash ≠ r.hash := fun h => hsame h.symm
      have hend' : ∃ e, compare () (f.extended hash payload) =
          (.error e, f.extended hash payload) := by
        rw [hcompare]
        change ∃ e, (Proc.guard ((f.extended hash payload).head.hash ≠ r.hash) _ >>= _)
          (f.extended hash payload) = (.error e, _)
        unfold Proc.guard refuseIf
        rw [if_pos hdiffer]
        exact ⟨_, rfl⟩
      obtain ⟨e, hend'⟩ := hend'
      rw [hend']
      exact .diverged e hnext htransaction happends hsame

/-- What one record does. -/
lemma ingestRecord_ingested (c : Codec ε) (f : File) (transaction : Result Unit)
    (r : Record ε) : Ingested c f transaction r (ingestRecord c transaction r f).1
      (ingestRecord c transaction r f).2 := by
  rcases Nat.lt_or_ge f.count r.sequence with hnext | hheld
  · exact ingested_of_next hnext
  · exact ingested_of_held hheld

end Ingest

/-! ### Calls as runs -/

section Runs

variable {ε : Type} (c : Codec ε)

/-- A record that is accepted. -/
def takeRecord (f : File) (input : Record ε × Result Unit) : Result File :=
  match ingestRecord c input.2 input.1 f with
  | (.ok _, f') => .ok f'
  | (.error e, _) => .error e

/-- A call, which leaves a log whether it fails or not. -/
def call (f : File) (batch : List (Record ε × Result Unit)) : Result File :=
  .ok (ingest c batch f).2

/-- An open log mirrors its database. -/
structure Mirrors (f : File) : Prop where
  opened : f.closed = false
  head_eq : f.database.chainHead = f.head
  head_sequence : f.head.sequence = f.count
  count_eq : f.count = f.database.rows.length

/-- A record that is due next, and that the database takes, carries the hash that its event
derives after the head of the log. -/
def Honest (f : File) (input : Record ε × Result Unit) : Prop :=
  input.2 = .ok () → f.count < input.1.sequence → c.sequence input.1.event = f.count + 1 →
    ∀ hash, eventHash c f.head.hash input.1.event = .ok hash → input.1.hash = hash

/-- A call that fails leaves the log as an accepted part of its batch would. -/
def FailsAgreeing (f : File) (batch : List (Record ε × Result Unit)) : Prop :=
  ∀ n e f', ingest c batch f = ((n, .error e), f') →
    ∃ accepted m, accepted <+: batch ∧ ingest c accepted f = ((m, .ok ()), f')

variable {c} {f f' g : File} {input : Record ε × Result Unit}
  {batch : List (Record ε × Result Unit)}

lemma Mirrors.extended (h : Mirrors f) (hash : String) (payload : Bytes) :
    Mirrors (f.extended hash payload) where
  opened := h.opened
  head_eq := rfl
  head_sequence := rfl
  count_eq := by
    change f.count + 1 = (f.database.rows ++ [_]).length
    rw [List.length_append, List.length_singleton, h.count_eq]

/-- Whatever a record does, the log mirrors its database and does not shrink. -/
lemma Ingested.mirrors {outcome : Result Bool}
    (h : Ingested c f input.2 input.1 outcome f') (hf : Mirrors f) :
    Mirrors f' ∧ f.count ≤ f'.count := by
  cases h with
  | held => exact ⟨hf, le_rfl⟩
  | refused => exact ⟨hf, le_rfl⟩
  | taken => exact ⟨hf.extended _ _, Nat.le_succ _⟩
  | diverged => exact ⟨hf.extended _ _, Nat.le_succ _⟩

lemma takeRecord_eq_ok : takeRecord c f input = .ok f' ↔
    ∃ appended, ingestRecord c input.2 input.1 f = (.ok appended, f') := by
  unfold takeRecord
  cases ingestRecord c input.2 input.1 f with
  | mk outcome left => cases outcome <;> simp

/-- A record that is accepted was held, or is taken with its own hash. -/
lemma takeRecord_cases (h : takeRecord c f input = .ok f') :
    (input.1.sequence ≤ f.count ∧ f' = f) ∨
      ∃ payload, f.count < input.1.sequence ∧ Appends c f input.1.event input.1.hash payload ∧
        f' = f.extended input.1.hash payload := by
  obtain ⟨appended, hrecord⟩ := takeRecord_eq_ok.mp h
  have hingested := ingestRecord_ingested c f input.2 input.1
  rw [hrecord] at hingested
  cases hingested with
  | held hheld => exact .inl ⟨hheld, rfl⟩
  | taken hnext _ happends hsame =>
    subst hsame
    exact .inr ⟨_, hnext, happends, rfl⟩

lemma takeRecord_mirrors (hf : Mirrors f) (h : takeRecord c f input = .ok f') : Mirrors f' := by
  rcases takeRecord_cases h with ⟨-, rfl⟩ | ⟨payload, -, -, rfl⟩
  · exact hf
  · exact hf.extended _ _

lemma takeRecord_count (h : takeRecord c f input = .ok f') : f.count ≤ f'.count := by
  rcases takeRecord_cases h with ⟨-, rfl⟩ | ⟨payload, -, -, rfl⟩
  · exact le_rfl
  · exact Nat.le_succ _

lemma run_count (h : Run (takeRecord c) f batch g) : f.count ≤ g.count := by
  induction h with
  | nil => exact le_rfl
  | cons hstep _ ih => exact (takeRecord_count hstep).trans ih

lemma ingest_cons_ok {rest : List (Record ε × Result Unit)} {appended : Bool}
    (h : ingestRecord c input.2 input.1 f = (.ok appended, f')) :
    ingest c (input :: rest) f = (((ingest c rest f').1.1 + appended.toNat,
      (ingest c rest f').1.2), (ingest c rest f').2) := by
  rw [ingest, h]

lemma ingest_cons_error {rest : List (Record ε × Result Unit)} {e : Fault}
    (h : ingestRecord c input.2 input.1 f = (.error e, f')) :
    ingest c (input :: rest) f = ((0, .error e), f') := by
  rw [ingest, h]

/-- A call accepts its batch if it accepts every record in turn. -/
lemma run_iff_ingest :
    Run (takeRecord c) f batch g ↔ ∃ n, ingest c batch f = ((n, .ok ()), g) := by
  induction batch generalizing f with
  | nil =>
    constructor
    · intro h
      cases h
      exact ⟨0, rfl⟩
    · rintro ⟨n, h⟩
      obtain ⟨-, rfl⟩ := Prod.mk.inj h
      exact .nil _
  | cons input rest ih =>
    constructor
    · intro h
      cases h with
      | cons hstep hrest =>
        obtain ⟨appended, hrecord⟩ := takeRecord_eq_ok.mp hstep
        obtain ⟨n, hn⟩ := ih.mp hrest
        exact ⟨n + appended.toNat, by rw [ingest_cons_ok hrecord, hn]⟩
    · rintro ⟨n, h⟩
      cases hrecord : ingestRecord c input.2 input.1 f with
      | mk outcome left =>
        cases outcome with
        | error e =>
          rw [ingest_cons_error hrecord] at h
          cases h
        | ok appended =>
          rw [ingest_cons_ok hrecord] at h
          obtain ⟨houtcome, hleft⟩ := Prod.mk.inj h
          obtain ⟨-, hok⟩ := Prod.mk.inj houtcome
          refine .cons (takeRecord_eq_ok.mpr ⟨appended, hrecord⟩)
            (ih.mpr ⟨(ingest c rest left).1.1, ?_⟩)
          rw [← hok, ← hleft]

/-- A record that is honest does not fail after it was written. -/
lemma Honest.keeps {e : Fault} (h : Honest c f input)
    (hrecord : ingestRecord c input.2 input.1 f = (.error e, f')) : f' = f := by
  have hingested := ingestRecord_ingested c f input.2 input.1
  rw [hrecord] at hingested
  cases hingested with
  | refused => rfl
  | diverged _ hnext htransaction happends hdiffer =>
    exact absurd (h htransaction hnext happends.sequence_eq _ happends.hash_eq) hdiffer

/-- A record that is not honest is written, and then the call fails. -/
lemma exists_diverged (hf : Mirrors f) (h : ¬ Honest c f input) :
    ∃ e hash payload, ingestRecord c input.2 input.1 f = (.error e, f.extended hash payload) := by
  unfold Honest at h
  push Not at h
  obtain ⟨htransaction, hnext, hsequence, hash, hhash, hdiffer⟩ := h
  obtain ⟨payload, hpayload, -⟩ := eventHash_eq_ok.mp hhash
  have happends : Appends c f input.1.event hash payload :=
    ⟨hf.opened, hsequence, hhash, hpayload, by rw [hf.head_eq]⟩
  have hingested := ingestRecord_ingested c f input.2 input.1
  cases hrecord : ingestRecord c input.2 input.1 f with
  | mk outcome left =>
    rw [hrecord] at hingested
    cases hingested with
    | held hheld => exact absurd hheld (not_le.mpr hnext)
    | refused e hrefused => exact absurd happends (hrefused hnext htransaction hash payload)
    | taken _ _ happends' hsame =>
      cases happends'.hash_eq.symm.trans hhash
      exact absurd hsame hdiffer
    | diverged e => exact ⟨e, _, _, rfl⟩

/-- A call stops at the first record that fails, with what that record left. -/
lemma ingest_stops {before after : List (Record ε × Result Unit)} {e : Fault}
    (h : Run (takeRecord c) f before g)
    (hrecord : ingestRecord c input.2 input.1 g = (.error e, f')) :
    ∃ n, ingest c (before ++ input :: after) f = ((n, .error e), f') := by
  induction h with
  | nil s => exact ⟨0, ingest_cons_error hrecord⟩
  | cons hstep _ ih =>
    obtain ⟨appended, hfirst⟩ := takeRecord_eq_ok.mp hstep
    obtain ⟨n, hn⟩ := ih hrecord
    exact ⟨n + appended.toNat, by rw [List.cons_append, ingest_cons_ok hfirst, hn]⟩

/-- **A call that fails leaves what an accepted part of its batch left, exactly if every record
that comes up is honest.** -/
theorem failsAgreeing_iff (hf : Mirrors f) :
    FailsAgreeing c f batch ↔ Run.Throughout (takeRecord c) (Honest c) f batch := by
  constructor
  · intro hagrees before input after g hsplit hrun
    by_contra hdishonest
    have hg : Mirrors g := hrun.invariant takeRecord_mirrors hf
    obtain ⟨e, hash, payload, hrecord⟩ := exists_diverged hg hdishonest
    obtain ⟨n, hn⟩ : ∃ n, ingest c (before ++ input :: after) f =
        ((n, .error e), g.extended hash payload) := ingest_stops hrun hrecord
    rw [← hsplit] at hn
    obtain ⟨accepted, m, hprefix, haccepted⟩ := hagrees n e _ hn
    have hrun' := run_iff_ingest.mpr ⟨m, haccepted⟩
    rw [hsplit] at hprefix
    -- the accepted part ends before the record, or runs through it
    rcases List.prefix_or_prefix_of_prefix hprefix (List.prefix_append before (input :: after))
      with ⟨rest, rfl⟩ | ⟨rest, rfl⟩
    · obtain ⟨t, hfirst, hrest⟩ := hrun.split
      cases hfirst.unique hrun'
      have hgrown : g.count + 1 ≤ g.count := run_count hrest
      omega
    · obtain ⟨t, hfirst, hrest⟩ := hrun'.split
      cases hfirst.unique hrun
      generalize hleft : g.extended hash payload = left at hrest
      cases hrest with
      | nil =>
        have hgrown : g.count + 1 = g.count := congrArg File.count hleft
        omega
      | cons hstep _ =>
        have hnext := (List.prefix_append_right_inj before).mp hprefix
        obtain ⟨rfl, -⟩ := List.cons_prefix_cons.mp hnext
        obtain ⟨appended, hok⟩ := takeRecord_eq_ok.mp hstep
        rw [hrecord] at hok
        cases hok
  · intro hall
    induction batch generalizing f with
    | nil =>
      intro n e f' h
      cases h
    | cons input rest ih =>
      intro n e f' h
      cases hrecord : ingestRecord c input.2 input.1 f with
      | mk outcome left =>
        cases outcome with
        | error e' =>
          rw [ingest_cons_error hrecord] at h
          obtain ⟨-, rfl⟩ := Prod.mk.inj h
          exact ⟨[], 0, List.nil_prefix, by rw [hall.head.keeps hrecord]; rfl⟩
        | ok appended =>
          have hstep := takeRecord_eq_ok.mpr ⟨appended, hrecord⟩
          rw [ingest_cons_ok hrecord] at h
          obtain ⟨houtcome, rfl⟩ := Prod.mk.inj h
          obtain ⟨-, hfailed⟩ := Prod.mk.inj houtcome
          obtain ⟨accepted, m, hprefix, haccepted⟩ :=
            ih (takeRecord_mirrors hf hstep) (hall.tail hstep) (ingest c rest left).1.1 e
              (ingest c rest left).2 (by rw [← hfailed])
          refine ⟨input :: accepted, m + appended.toNat, ?_, ?_⟩
          · exact (List.prefix_cons_inj input).mpr hprefix
          · rw [ingest_cons_ok hrecord, haccepted]

/-! ### A follower of its primary -/

variable (c) in
/-- A row that holds a record. -/
structure RowOf (row : Row) (r : Record ε) : Prop where
  sequence_eq : row.sequence = r.sequence
  previous_eq : row.previousHash = r.previousHash
  hash_eq : row.hash = r.hash
  event_eq : c.marshal r.event = .ok row.event

variable (c) in
/-- The log holds the first records of the primary. -/
structure Follows (primary : List (Record ε)) (f : File) : Prop where
  mirrors : Mirrors f
  rows : List.Forall₂ (RowOf c) f.database.rows (primary.take f.count)
  tip : f.head.hash = (links c).tipOf "" (primary.take f.count)

variable {primary : List (Record ε)}

/-- The record of the primary that is due next fits where it is put. -/
lemma Follows.next (hprimary : verifyChain c primary = .ok ()) (h : Follows c primary f)
    {r : Record ε} (hr : r ∈ primary) (hdue : c.sequence r.event = f.count + 1) :
    primary.take (f.count + 1) = primary.take f.count ++ [r] ∧
      Fits c (f.count + 1) f.head.hash r := by
  have hlinked := verifyChain_eq_ok.mp hprimary
  obtain ⟨_, hfits⟩ := Links.fits_of_mem hlinked hr
  have hsequence : (links c).sequence r = f.count + 1 := hfits.event_eq.symm.trans hdue
  have htake := Links.take_sequence hlinked hr
  rw [hsequence, Nat.add_sub_cancel] at htake
  have hupTo := hlinked.take (f.count + 1)
  rw [htake] at hupTo
  obtain ⟨-, hplace⟩ := Links.linked_snoc.mp hupTo
  have hlength : (primary.take f.count).length = f.count := by
    rw [← h.rows.length_eq, ← h.mirrors.count_eq]
  rw [hlength, ← h.tip] at hplace
  exact ⟨htake, hplace⟩

/-- **Whatever a record of the primary does, the follower stays a prefix.** -/
theorem Follows.ingested (hprimary : verifyChain c primary = .ok ()) (h : Follows c primary f)
    (hinput : input.1 ∈ primary) {outcome : Result Bool}
    (hingested : Ingested c f input.2 input.1 outcome f') : Follows c primary f' := by
  cases hingested with
  | held => exact h
  | refused => exact h
  | taken hnext htransaction happends hsame =>
    obtain ⟨htake, hfits⟩ := h.next hprimary hinput happends.sequence_eq
    refine ⟨h.mirrors.extended _ _, ?_, ?_⟩
    · change List.Forall₂ (RowOf c) (f.database.rows ++ [_]) (primary.take (f.count + 1))
      rw [htake]
      refine List.rel_append h.rows (.cons ⟨?_, ?_, ?_, ?_⟩ .nil)
      · exact hfits.sequence_eq.symm
      · exact hfits.previous_eq.symm
      · exact hsame.symm
      · exact happends.payload_eq
    · change _ = (links c).tipOf "" (primary.take (f.count + 1))
      rw [htake, Links.tipOf_snoc]
      exact hsame.symm
  | diverged _ hnext htransaction happends hdiffer =>
    obtain ⟨-, hfits⟩ := h.next hprimary hinput happends.sequence_eq
    cases hfits.hash_eq.symm.trans happends.hash_eq
    exact absurd rfl hdiffer

/-- What every record keeps, a call keeps, whether it fails or not. -/
lemma ingest_invariant {I : File → Prop}
    (hI : ∀ {f f' : File} {input : Record ε × Result Unit} {outcome : Result Bool}, I f →
      input ∈ batch → Ingested c f input.2 input.1 outcome f' → I f')
    (hf : I f) : I (ingest c batch f).2 := by
  induction batch generalizing f with
  | nil => exact hf
  | cons input rest ih =>
    have hingested := ingestRecord_ingested c f input.2 input.1
    cases hrecord : ingestRecord c input.2 input.1 f with
    | mk outcome left =>
      rw [hrecord] at hingested
      have hleft := hI hf List.mem_cons_self hingested
      cases outcome with
      | error e =>
        rw [ingest_cons_error hrecord]
        exact hleft
      | ok appended =>
        rw [ingest_cons_ok hrecord]
        exact ih (fun hf hmem => hI hf (List.mem_cons_of_mem input hmem)) hleft

lemma call_mirrors (hf : Mirrors f) (h : call c f batch = .ok f') : Mirrors f' := by
  cases h
  exact ingest_invariant (fun hf _ hingested => (hingested.mirrors hf).1) hf

/-! ### The same batch again -/

/-- The records of an accepted batch are below the head afterwards, or their events are. -/
lemma past_of_run (h : Run (takeRecord c) f batch g) :
    ∀ input ∈ batch, input.1.sequence ≤ g.count ∨ c.sequence input.1.event ≤ g.count := by
  induction h with
  | nil => simp
  | cons hstep hrest ih =>
    rw [List.forall_mem_cons]
    refine ⟨?_, ih⟩
    have hgrown := run_count hrest
    rcases takeRecord_cases hstep with ⟨hheld, rfl⟩ | ⟨payload, -, happends, rfl⟩
    · exact .inl (hheld.trans hgrown)
    · have hcount : c.sequence _ = _ := happends.sequence_eq
      exact .inr (hcount.le.trans hgrown)

/-- What is past leaves the log as it is. -/
lemma ingest_past
    (h : ∀ input ∈ batch, input.1.sequence ≤ f.count ∨ c.sequence input.1.event ≤ f.count) :
    (ingest c batch f).2 = f := by
  refine ingest_invariant (I := fun g => g = f) ?_ rfl
  rintro g g' input outcome rfl hmem hingested
  have hpast := h input hmem
  cases hingested with
  | held => rfl
  | refused => rfl
  | taken hnext _ happends _ =>
    have hdue := happends.sequence_eq
    omega
  | diverged _ hnext _ happends _ =>
    have hdue := happends.sequence_eq
    omega

/-! ### What calls leave behind -/

variable (c) in
/-- The rows that were added hold records of the batch, with the hashes that were sent. -/
def AddsSent (f : File) (batch : List (Record ε × Result Unit)) (f' : File) : Prop :=
  ∃ added taken, f'.database.rows = f.database.rows ++ added ∧
    taken.Sublist (batch.map Prod.fst) ∧
    List.Forall₂ (fun row r => row.hash = r.hash ∧ c.marshal r.event = .ok row.event) added taken

/-- An accepted batch adds what was sent. -/
lemma addsSent_of_run (h : Run (takeRecord c) f batch g) : AddsSent c f batch g := by
  induction h with
  | nil f => exact ⟨[], [], by simp, List.nil_sublist _, .nil⟩
  | @cons f _ _ input _ hstep _ ih =>
    obtain ⟨added, taken, hrows, hsublist, hsent⟩ := ih
    rcases takeRecord_cases hstep with ⟨-, rfl⟩ | ⟨payload, -, happends, rfl⟩
    · exact ⟨added, taken, hrows, hsublist.cons _, hsent⟩
    · refine ⟨⟨f.count + 1, f.head.hash, input.1.hash, payload⟩ :: added, input.1 :: taken, ?_,
        hsublist.cons_cons _, .cons ⟨rfl, happends.payload_eq⟩ hsent⟩
      rw [hrows]
      exact List.append_assoc _ _ _

/-- **Whatever batches a follower is fed, in any number of calls: the calls that fail leave what
accepted parts of their batches left exactly if every record that comes up is honest; what is
accepted has the hashes that were sent; records of the primary keep the follower a prefix of it;
and an accepted batch changes nothing when it comes again.** -/
theorem ingest_agrees_iff (hprimary : verifyChain c primary = .ok ())
    (hf : Follows c primary f) (calls : List (List (Record ε × Result Unit))) :
    (Run.Throughout (call c) (FailsAgreeing c) f calls ↔
      Run.Throughout (call c) (Run.Throughout (takeRecord c) (Honest c)) f calls) ∧
    (∀ g batch n g', Run (call c) f calls g → ingest c batch g = ((n, .ok ()), g') →
      AddsSent c g batch g' ∧
      ∀ again, again.map Prod.fst = batch.map Prod.fst → (ingest c again g').2 = g') ∧
    ∀ g, Run (call c) f calls g → (∀ batch ∈ calls, ∀ input ∈ batch, input.1 ∈ primary) →
      Follows c primary g := by
  refine ⟨?_, ?_, ?_⟩
  · have hreached : ∀ {before : List (List (Record ε × Result Unit))} {g : File},
        Run (call c) f before g → Mirrors g := fun hrun =>
      hrun.invariant call_mirrors hf.mirrors
    constructor
    · intro hall before batch after g hsplit hrun
      exact (failsAgreeing_iff (hreached hrun)).mp (hall before batch after g hsplit hrun)
    · intro hall before batch after g hsplit hrun
      exact (failsAgreeing_iff (hreached hrun)).mpr (hall before batch after g hsplit hrun)
  · intro g batch n g' _ haccepted
    have hrun := run_iff_ingest.mpr ⟨n, haccepted⟩
    refine ⟨addsSent_of_run hrun, fun again hsame => ingest_past fun input hinput => ?_⟩
    have hmem : input.1 ∈ batch.map Prod.fst := by
      rw [← hsame]
      exact List.mem_map_of_mem hinput
    obtain ⟨input', hinput', heq⟩ := List.mem_map.mp hmem
    rw [← heq]
    exact past_of_run hrun input' hinput'
  · intro g hrun hfed
    induction hrun with
    | nil => exact hf
    | cons hstep _ ih =>
      rw [List.forall_mem_cons] at hfed
      cases hstep
      refine ih (ingest_invariant (fun h hmem hingested => ?_) hf) hfed.2
      exact h.ingested hprimary (hfed.1 _ hmem) hingested

end Runs

/-- The log of the note `7`, an empty follower, and the note `8` with the hash of the note `7`. -/
def strayNote : Record Note :=
  { sequence := 1, previousHash := "", hash := (oneNote 7).chainHead.hash, event := ⟨1, 8⟩ }

lemma follows_empty {ε : Type} (c : Codec ε) (primary : List (Record ε)) :
    Follows c primary {} :=
  ⟨⟨rfl, rfl, rfl, rfl⟩, .nil, rfl⟩

theorem ingest_agrees_note :
    verifyChain noteCodec witnessedNote = .ok () ∧ Follows noteCodec witnessedNote {} ∧
      Follows noteCodec witnessedNote
        (ingest noteCodec (witnessedNote.map fun r => (r, .ok ())) {}).2 := by
  have hchain : verifyChain noteCodec witnessedNote = .ok () := by decide +kernel
  refine ⟨hchain, follows_empty _ _, ?_⟩
  refine (ingest_agrees_iff hchain (follows_empty _ _)
    [witnessedNote.map fun r => (r, .ok ())]).2.2 _ (.cons rfl (.nil _)) ?_
  simp

/-- A record whose hash is not its own is reported, and stays: the primary's own record is
refused from then on. -/
theorem diverged_note_stays :
    verifyChain noteCodec witnessedNote = .ok () ∧ Follows noteCodec witnessedNote {} ∧
      (ingest noteCodec [(strayNote, .ok ())] {}).1 =
        (0, fail ("ingested record 1 derives hash " ++ (oneNote 8).chainHead.hash ++
          " but the primary recorded " ++ (oneNote 7).chainHead.hash ++
          ": histories have diverged")) ∧
      (ingest noteCodec [(strayNote, .ok ())] {}).2.database.rows.map Row.hash =
        [(oneNote 8).chainHead.hash] ∧
      (ingest noteCodec (witnessedNote.map fun r => (r, .ok ()))
        (ingest noteCodec [(strayNote, .ok ())] {}).2).1 =
        (0, fail "record 1 differs from the primary: histories have diverged") ∧
      ¬ FailsAgreeing noteCodec {} [(strayNote, .ok ())] := by
  refine ⟨by decide +kernel, follows_empty _ _, by decide +kernel, by decide +kernel,
    by decide +kernel, ?_⟩
  intro hagrees
  have hmirrors : Mirrors {} := ⟨rfl, rfl, rfl, rfl⟩
  have hhonest := ((failsAgreeing_iff hmirrors).mp hagrees).head rfl Nat.zero_lt_one rfl
    (oneNote 8).chainHead.hash (by decide +kernel)
  exact absurd hhonest (by decide +kernel)

end A4s.Eventlog
