/-
The hash chain of the event log (`eventlog/chain.go`).

The log is generic in its events: `Codec` is what it uses of them, their sequence number, the
JSON package on them and SHA-256.

* `eventHash`, `verifyChain`: the functions of the source, with an encoding that may fail.
* `verifyChain_eq_ok`: what passes the verification is a chain in the sense of the library.
* `Codec.binding`: as long as the digest does not collide and the encoding of events is
  injective, a hash commits to the event and to the hash before it. The hash before it is in
  hexadecimal digits, so the zero byte after it is the first one of the pre-image.
-/
import A4s.Go.Result
import A4s.Go.Bytes
import A4s.Go.Chain

namespace A4s.Eventlog

open Go

/-- What the log uses of its events: `event.Sequence`, `json.Marshal`, `json.Unmarshal`, and
`sha256.Sum256`, which is not empty. -/
structure Codec (ε : Type) where
  sequence : ε → ℕ
  marshal : ε → Result Bytes
  unmarshal : Bytes → Result ε
  sum : Bytes → Bytes
  sum_ne : ∀ bytes, sum bytes ≠ []

/-- One entry of the chain. -/
structure Record (ε : Type) where
  sequence : ℕ
  previousHash : String
  hash : String
  event : ε
  deriving DecidableEq

section Chain

variable {ε : Type} (c : Codec ε)

/-- `eventHash`: the hash before, a zero byte and the payload. -/
def eventHash (previous : String) (event : ε) : Result String := do
  let payload ← wrapError "encode event hash payload: " (c.marshal event)
  return hexEncode (c.sum (textBytes previous ++ 0 :: payload))

/-- `verifyChain` from a record on. -/
def verifyChainFrom : ℕ → String → List (Record ε) → Result Unit
  | _, _, [] => .ok ()
  | index, previous, r :: rest => do
      refuseIf (r.sequence ≠ index + 1 ∨ c.sequence r.event ≠ r.sequence)
        s!"record {index + 1} has invalid sequence"
      refuseIf (r.previousHash ≠ previous) s!"record {index + 1} breaks the hash chain"
      let hash ← eventHash c previous r.event
      refuseIf (hash ≠ r.hash) s!"record {index + 1} has invalid hash"
      verifyChainFrom (index + 1) r.hash rest

/-- `verifyChain`: every hash is derived again. -/
def verifyChain (records : List (Record ε)) : Result Unit := verifyChainFrom c 0 "" records

/-- A record fits at a place of the chain. -/
structure Fits (sequence : ℕ) (previous : String) (r : Record ε) : Prop where
  sequence_eq : r.sequence = sequence
  event_eq : c.sequence r.event = r.sequence
  previous_eq : r.previousHash = previous
  hash_eq : eventHash c previous r.event = .ok r.hash

/-- The records of a log as the records of a chain. -/
def links : Links (Record ε) String where
  sequence := Record.sequence
  tip := Record.hash
  Fits := Fits c
  sequence_eq h := h.sequence_eq

variable {c} {records : List (Record ε)}

lemma verifyChainFrom_eq_ok {index : ℕ} {previous : String} :
    verifyChainFrom c index previous records = .ok () ↔
      (links c).LinkedFrom index previous records := by
  induction records generalizing index previous with
  | nil => simp [verifyChainFrom, Links.LinkedFrom]
  | cons r rest ih =>
    rw [verifyChainFrom, Links.LinkedFrom]
    rw [refuseIf_bind_ok, refuseIf_bind_ok, bind_ok]
    simp only [refuseIf_bind_ok, not_or, not_not, ne_eq]
    constructor
    · rintro ⟨⟨hsequence, hevent⟩, hprevious, hash, hhash, hsame, hrest⟩
      exact ⟨⟨hsequence, hevent, hprevious, by rw [hhash, hsame]⟩, ih.mp hrest⟩
    · rintro ⟨⟨hsequence, hevent, hprevious, hhash⟩, hrest⟩
      exact ⟨⟨hsequence, hevent⟩, hprevious, r.hash, hhash, rfl, ih.mpr hrest⟩

/-- What the verification accepts is a chain. -/
lemma verifyChain_eq_ok : verifyChain c records = .ok () ↔ (links c).Linked "" records :=
  verifyChainFrom_eq_ok

/-! ### What a hash commits to -/

lemma eventHash_eq_ok {previous hash : String} {event : ε} :
    eventHash c previous event = .ok hash ↔ ∃ payload, c.marshal event = .ok payload ∧
      hexEncode (c.sum (textBytes previous ++ 0 :: payload)) = hash := by
  simp only [eventHash, bind_ok, wrapError_ok, pure_ok]

/-- SHA-256 is free of collisions. -/
def Codec.CollisionFree (c : Codec ε) : Prop := Function.Injective c.sum

/-- The encoding of events is injective. -/
def Codec.Injective (c : Codec ε) : Prop :=
  ∀ {e e' : ε} {payload : Bytes}, c.marshal e = .ok payload → c.marshal e' = .ok payload → e = e'

/-- A text of hexadecimal digits. -/
def Hex (text : String) : Prop := ∃ bytes, text = hexEncode bytes

lemma hex_empty : Hex "" := ⟨[], rfl⟩

lemma hex_eventHash {previous hash : String} {event : ε}
    (h : eventHash c previous event = .ok hash) : Hex hash := by
  obtain ⟨payload, -, rfl⟩ := eventHash_eq_ok.mp h
  exact ⟨_, rfl⟩

lemma eventHash_ne_empty {previous hash : String} {event : ε}
    (h : eventHash c previous event = .ok hash) : hash ≠ "" := by
  obtain ⟨payload, -, rfl⟩ := eventHash_eq_ok.mp h
  intro hempty
  exact c.sum_ne _ (hexEncode_inj (hempty.trans (show "" = hexEncode [] from rfl)))

lemma hash_ne_empty {r : Record ε} (h : verifyChain c records = .ok ()) (hr : r ∈ records) :
    r.hash ≠ "" := by
  obtain ⟨_, hfits⟩ := Links.fits_of_mem (verifyChain_eq_ok.mp h) hr
  exact eventHash_ne_empty hfits.hash_eq

/-- Behind hashes, the same hash has the same pre-image. -/
lemma eq_of_eventHash (hsum : c.CollisionFree) {p p' hash : String} {e e' : ε} (hp : Hex p)
    (hp' : Hex p') (h : eventHash c p e = .ok hash) (h' : eventHash c p' e' = .ok hash) :
    p = p' ∧ c.marshal e = c.marshal e' := by
  obtain ⟨bytes, rfl⟩ := hp
  obtain ⟨bytes', rfl⟩ := hp'
  obtain ⟨payload, hpayload, hhash⟩ := eventHash_eq_ok.mp h
  obtain ⟨payload', hpayload', hhash'⟩ := eventHash_eq_ok.mp h'
  have himage := hsum (hexEncode_inj (hhash.trans hhash'.symm))
  obtain ⟨hfirst, hrest⟩ :=
    framed_inj (zero_notMem_hexEncode bytes) (zero_notMem_hexEncode bytes') himage
  exact ⟨by rw [textBytes_hexEncode_inj hfirst], by rw [hpayload, hpayload', hrest]⟩

/-- **A hash commits to the record and to the hash before it.** -/
theorem Codec.binding (hsum : c.CollisionFree) (hencode : c.Injective) :
    (links c).Binding "" Hex where
  start_reached := hex_empty
  tip_reached h := hex_eventHash h.hash_eq
  tip_ne h := eventHash_ne_empty h.hash_eq
  eq_of_tip {n n' p p' r r'} hp hp' h h' hsame := by
    have hhash : eventHash c p' r'.event = .ok r.hash := by
      rw [h'.hash_eq]
      exact congrArg Except.ok hsame.symm
    obtain ⟨hprevious, hpayload⟩ := eq_of_eventHash hsum hp hp' h.hash_eq hhash
    obtain ⟨payload, hmarshal, -⟩ := eventHash_eq_ok.mp h.hash_eq
    have hevent : r.event = r'.event := hencode hmarshal (hpayload.symm.trans hmarshal)
    refine ⟨hprevious, ?_⟩
    have hsequence : r.sequence = r'.sequence := by rw [← h.event_eq, ← h'.event_eq, hevent]
    have hlink : r.previousHash = r'.previousHash := by
      rw [h.previous_eq, h'.previous_eq, hprevious]
    cases r
    cases r'
    simp_all [links]

end Chain

end A4s.Eventlog
