/-
Signed operator requests (`server/apiauth.go`, `API.authenticated` of `server/api.go`).

A handler reads the clock once, checks the request against that time and calls the ledger of
nonces with it. Only the call of the ledger is under a lock.

* `verifyRequest`, `NonceLedger.observe`, `authenticate`: the functions of the source.
* `Move`, `move`: handlers that interleave at these two points, with a clock that does not go
  back.
* `Remembers`: the ledger holds the nonce of every accepted envelope that no call was too late
  for; `accepted_once`: as long as no handler calls the ledger after another one has called it
  with a time past the expiry of its request, no envelope is accepted twice.
-/
import A4s.Go.Run
import A4s.Node.Envelope

namespace A4s.Api

open Go

/-! ### Requests -/

/-- `RequestVersion`. -/
def requestVersion : Int64 := 1

/-- `MaxRequestLifetime`. -/
def maxRequestLifetime : Duration := 5 * minute

/-- `clockSkewTolerance`. -/
def clockSkewTolerance : Duration := 30 * second

/-- `MaxRequestBody`. -/
def maxRequestBody : ℕ := 2 ^ 20

/-- `MaxSignatureHeader`. -/
def maxSignatureHeader : ℕ := 8 * 2 ^ 10

/-- `RequestEnvelope`: what an operator states when calling the API. -/
structure RequestEnvelope where
  version : Int64 := requestVersion
  nonce : String
  method : String
  path : String
  bodyDigest : String := ""
  issuedBy : String
  keyID : String
  issuedAt : Time
  expiresAt : Time
  deriving DecidableEq

/-- `SignedRequest`: the bytes that were signed. -/
structure SignedRequest where
  envelopeBytes : Bytes
  keyID : String
  signature : String
  deriving DecidableEq

/-- The libraries under a signed request. The decoder of envelopes refuses unknown fields and says
whether more input follows. -/
structure Wire where
  verify : Bytes → Bytes → Bytes → Bool
  stdBase64 : String → Option Bytes
  sha256Hex : Bytes → String
  decodeHeader : String → Option SignedRequest
  decodeEnvelope : Bytes → Option (RequestEnvelope × Bool)
  rfc3339 : Time → String

/-- `validateRequestEnvelope`. -/
def validateRequestEnvelope (e : RequestEnvelope) : Result Unit := do
  refuseIf (e.version ≠ requestVersion) s!"unsupported request version {sprintInt e.version}"
  refuseIf (e.nonce = "") "request requires a nonce"
  refuseIf (e.method = "" ∨ e.path = "") "request must name a method and path"
  refuseIf (e.issuedBy = "") "request must name the operator that issued it"
  refuseIf (e.issuedAt = 0 ∨ e.expiresAt = 0) "request requires an issue time and expiry"
  refuseIf (¬ e.issuedAt < e.expiresAt) "request expiry must follow its issue time"
  refuseIf (maxRequestLifetime < e.expiresAt - e.issuedAt) "request lifetime exceeds 5m0s"

/-- An HTTP request, as far as it is read; a body that could not be read is `none`. -/
structure Call where
  method : String
  path : String
  body : Option Bytes := some []
  header : String
  deriving DecidableEq

section Verification

variable (wire : Wire)

/-- `BodyDigest`. -/
def bodyDigest (body : Bytes) : String := if body = [] then "" else wire.sha256Hex body

/-- `VerifyRequest`: the signature is checked before the envelope is decoded. -/
def verifyRequest (signed : SignedRequest) (keys : Table Bytes) (method path : String)
    (body : Bytes) (now : Time) : Result RequestEnvelope := do
  refuseIf (keys.isEmpty = true) "no operator keys are configured"
  refuseIf (signed.envelopeBytes = []) "signed request carries no envelope"
  let publicKey := keys[signed.keyID]?.getD []
  refuseIf (publicKey.length ≠ Daemon.publicKeySize) "request is not signed by a known operator key"
  let signature ← require (wire.stdBase64 signed.signature) "request signature is malformed"
  refuseIf (wire.verify publicKey signed.envelopeBytes signature = false)
    "request is not signed by a known operator key"
  let (envelope, more) ← require (wire.decodeEnvelope signed.envelopeBytes)
    "request envelope is malformed"
  refuseIf (more = true) "request envelope has trailing content"
  validateRequestEnvelope envelope
  refuseIf (envelope.keyID ≠ signed.keyID) "request key id does not match the signed envelope"
  refuseIf (envelope.method ≠ method ∨ envelope.path ≠ path)
    s!"request signature does not cover {method} {path}"
  refuseIf (envelope.bodyDigest ≠ bodyDigest wire body)
    "request body does not match its signed digest"
  refuseIf (envelope.expiresAt < now) s!"request expired at {wire.rfc3339 envelope.expiresAt}"
  refuseIf (now + clockSkewTolerance < envelope.issuedAt) "request was issued in the future"
  return envelope

/-- What a refused request is answered with. -/
structure Response where
  status : ℕ
  text : String
  deriving DecidableEq

/-- A request whose signature was verified. -/
structure Verified where
  signed : SignedRequest
  envelope : RequestEnvelope
  now : Time
  deriving DecidableEq

/-- `API.authenticated` up to the ledger. -/
def authenticate (keys : Table Bytes) (call : Call) (now : Time) : Except Response Verified :=
  match call.body with
  | none => .error ⟨400, "request body could not be read"⟩
  | some body =>
    if maxRequestBody < body.length then .error ⟨413, "request body exceeds limit"⟩
    else if call.header = "" then .error ⟨401, "request is not signed"⟩
    else if maxSignatureHeader < call.header.utf8ByteSize then
      .error ⟨413, "signature header exceeds limit"⟩
    else
      match wire.decodeHeader call.header with
      | none => .error ⟨401, "signature header is malformed"⟩
      | some signed =>
        match verifyRequest wire signed keys call.method call.path body now with
        | .error _ => .error ⟨401, "unauthorized"⟩
        | .ok envelope => .ok { signed := signed, envelope := envelope, now := now }

end Verification

/-! ### The ledger -/

/-- `nonceLedger`. -/
structure NonceLedger where
  seen : Table Time := ∅

/-- A nonce, scoped to the key that signed it. -/
def scopedNonce (keyID nonce : String) : String := keyID ++ "\x00" ++ nonce

/-- `nonceLedger.observe`: what has expired by the caller's time is dropped, and a nonce that is
left was used before. -/
def NonceLedger.observe (l : NonceLedger) (keyID nonce : String) (expiresAt now : Time) :
    Bool × NonceLedger :=
  let seen := l.seen.filter fun _ expiry => decide (now ≤ expiry)
  if seen[scopedNonce keyID nonce]?.isSome then (false, { seen := seen })
  else (true, { seen := seen.insert (scopedNonce keyID nonce) expiresAt })

/-! ### Handlers that interleave -/

/-- The API and what has happened in it: the clock that was read last, the handlers between their
verification and the ledger, the ledger, the times with which it was called, and the envelopes
that were accepted. -/
structure State where
  clock : Time := 0
  waiting : List Verified := []
  ledger : NonceLedger := {}
  calls : List Time := []
  accepted : List Bytes := []

/-- A handler takes a request at a time, under the keys of that moment, or a handler that waits
calls the ledger. -/
inductive Move where
  | verify (now : Time) (keys : Table Bytes) (call : Call)
  | observe (handler : ℕ)

/-- A handler's call of the ledger, with the time that it has read. -/
def Verified.observe (v : Verified) (l : NonceLedger) : Bool × NonceLedger :=
  l.observe v.envelope.keyID v.envelope.nonce v.envelope.expiresAt v.now

/-- What the call leaves: the envelope is accepted if its nonce was new. -/
def State.observed (s : State) (handler : ℕ) (v : Verified) : State where
  clock := s.clock
  waiting := s.waiting.eraseIdx handler
  ledger := (v.observe s.ledger).2
  calls := s.calls ++ [v.now]
  accepted :=
    if (v.observe s.ledger).1 then s.accepted ++ [v.signed.envelopeBytes] else s.accepted

/-- One step of a handler. -/
def move (wire : Wire) (s : State) : Move → Result State
  | .verify now keys call => do
      refuseIf (now < s.clock) "the clock does not go back"
      match authenticate wire keys call now with
      | .error _ => return { s with clock := now }
      | .ok verified => return { s with clock := now, waiting := s.waiting ++ [verified] }
  | .observe handler => do
      let v ← require s.waiting[handler]? "no handler waits there"
      return s.observed handler v

/-- A handler is in time: the ledger was not called yet with a time past the expiry of its
request. -/
def InTime (s : State) : Move → Prop
  | .verify _ _ _ => True
  | .observe handler => ∀ v, s.waiting[handler]? = some v → ∀ t ∈ s.calls, t ≤ v.envelope.expiresAt

/-! ### What a verification and a call of the ledger leave -/

section Ledger

variable {wire : Wire}

/-- A verified envelope is what its bytes decode to, and has not expired. -/
lemma verifyRequest_ok {signed : SignedRequest} {keys : Table Bytes} {method path : String}
    {body : Bytes} {now : Time} {e : RequestEnvelope}
    (h : verifyRequest wire signed keys method path body now = .ok e) :
    wire.decodeEnvelope signed.envelopeBytes = some (e, false) ∧ now ≤ e.expiresAt := by
  rw [verifyRequest, refuseIf_bind_ok, refuseIf_bind_ok] at h
  obtain ⟨-, -, h⟩ := h
  simp only [refuseIf_bind_ok, require_bind_ok] at h
  obtain ⟨-, _, -, -, ⟨envelope, more⟩, hdecode, hmore, h⟩ := h
  obtain ⟨-, h⟩ := check_bind_ok.mp h
  simp only [refuseIf_bind_ok, pure_ok] at h
  obtain ⟨-, -, -, hfresh, -, rfl⟩ := h
  have hwhole : more = false := by simpa using hmore
  rw [hwhole] at hdecode
  exact ⟨hdecode, not_lt.mp hfresh⟩

lemma authenticate_ok {keys : Table Bytes} {call : Call} {now : Time} {v : Verified}
    (h : authenticate wire keys call now = .ok v) :
    wire.decodeEnvelope v.signed.envelopeBytes = some (v.envelope, false) ∧
      v.now ≤ v.envelope.expiresAt := by
  unfold authenticate at h
  split at h
  · cases h
  · split_ifs at h
    split at h
    · cases h
    · split at h
      · cases h
      · rename_i hverify
        cases h
        exact verifyRequest_ok hverify

variable {l : NonceLedger} {v : Verified} {expiry : Time} {key : String}

/-- What has not expired by the caller's time is not dropped. -/
lemma filter_kept (h : l.seen[key]? = some expiry) {now : Time} (hnow : now ≤ expiry) :
    (l.seen.filter fun _ expiry => decide (now ≤ expiry))[key]? = some expiry := by
  rw [Std.ExtTreeMap.getElem?_filter', h]
  simp [hnow]

/-- A nonce that has not expired by the caller's time is refused. -/
lemma observe_remembered (h : l.seen[scopedNonce v.envelope.keyID v.envelope.nonce]? = some expiry)
    (hnow : v.now ≤ expiry) : (v.observe l).1 = false := by
  simp [Verified.observe, NonceLedger.observe, filter_kept h hnow]

/-- What was remembered, and has not expired by the caller's time, stays as it is. -/
lemma observe_keeps (h : l.seen[key]? = some expiry) (hnow : v.now ≤ expiry) :
    (v.observe l).2.seen[key]? = some expiry := by
  have hkept := filter_kept h hnow
  unfold Verified.observe NonceLedger.observe
  dsimp only
  split_ifs with hseen
  · exact hkept
  · have hne : key ≠ scopedNonce v.envelope.keyID v.envelope.nonce := by
      rintro rfl
      rw [hkept] at hseen
      exact hseen rfl
    rw [get_insert_of_ne hne]
    exact hkept

/-- A nonce that was accepted is remembered. -/
lemma observe_accepted (h : (v.observe l).1 = true) :
    (v.observe l).2.seen[scopedNonce v.envelope.keyID v.envelope.nonce]? =
      some v.envelope.expiresAt := by
  unfold Verified.observe NonceLedger.observe at h ⊢
  dsimp only at h ⊢
  split_ifs at h ⊢
  rw [get_insert, if_pos rfl]

end Ledger

/-! ### No envelope twice -/

/-- The ledger holds the nonce of every accepted envelope that no call was too late for. -/
structure Remembers (wire : Wire) (s : State) : Prop where
  waiting : ∀ v ∈ s.waiting, wire.decodeEnvelope v.signed.envelopeBytes = some (v.envelope, false) ∧
    v.now ≤ v.envelope.expiresAt
  nodup : s.accepted.Nodup
  remembered : ∀ bytes ∈ s.accepted, ∃ e, wire.decodeEnvelope bytes = some (e, false) ∧
    ((∀ t ∈ s.calls, t ≤ e.expiresAt) →
      s.ledger.seen[scopedNonce e.keyID e.nonce]? = some e.expiresAt)

variable {wire : Wire} {s t : State} {m : Move}

lemma remembers_start (clock : Time) : Remembers wire { clock := clock } where
  waiting := fun v hv => by cases hv
  nodup := List.nodup_nil
  remembered := fun bytes hbytes => by cases hbytes

/-- The call of a handler that is in time. -/
lemma Remembers.observed (hs : Remembers wire s) {handler : ℕ} {v : Verified}
    (hv : s.waiting[handler]? = some v) (hm : ∀ t ∈ s.calls, t ≤ v.envelope.expiresAt) :
    Remembers wire (s.observed handler v) := by
  obtain ⟨hdecode, hfresh⟩ := hs.waiting v (List.mem_of_getElem? hv)
  have hold : ∀ bytes ∈ s.accepted, ∃ e, wire.decodeEnvelope bytes = some (e, false) ∧
      ((∀ t ∈ s.calls ++ [v.now], t ≤ e.expiresAt) →
        (v.observe s.ledger).2.seen[scopedNonce e.keyID e.nonce]? = some e.expiresAt) := by
    intro bytes hbytes
    obtain ⟨e, hdecode', hremembered⟩ := hs.remembered bytes hbytes
    refine ⟨e, hdecode', fun hcalls => ?_⟩
    rw [List.forall_mem_append, List.forall_mem_singleton] at hcalls
    exact observe_keeps (hremembered hcalls.1) hcalls.2
  have hwaiting : ∀ w ∈ s.waiting.eraseIdx handler,
      wire.decodeEnvelope w.signed.envelopeBytes = some (w.envelope, false) ∧
        w.now ≤ w.envelope.expiresAt :=
    fun w hw => hs.waiting w (List.mem_of_mem_eraseIdx hw)
  by_cases hnew : (v.observe s.ledger).1 = true
  · -- an envelope that was accepted before would still be remembered
    have hfirst : v.signed.envelopeBytes ∉ s.accepted := by
      intro hbytes
      obtain ⟨e, hdecode', hremembered⟩ := hs.remembered _ hbytes
      cases hdecode.symm.trans hdecode'
      rw [observe_remembered (hremembered hm) hfresh] at hnew
      cases hnew
    have haccepted : (s.observed handler v).accepted = s.accepted ++ [v.signed.envelopeBytes] :=
      if_pos hnew
    refine ⟨hwaiting, ?_, ?_⟩
    · rw [haccepted, ← List.concat_eq_append]
      exact (List.nodup_concat _ _).mpr ⟨hfirst, hs.nodup⟩
    · rw [haccepted]
      refine List.forall_mem_append.mpr ⟨hold, List.forall_mem_singleton.mpr ?_⟩
      exact ⟨v.envelope, hdecode, fun _ => observe_accepted hnew⟩
  · have haccepted : (s.observed handler v).accepted = s.accepted := if_neg hnew
    refine ⟨hwaiting, ?_, ?_⟩
    · rw [haccepted]
      exact hs.nodup
    · rw [haccepted]
      exact hold

/-- A step of a handler that is in time. -/
lemma Remembers.move (hs : Remembers wire s) (hm : InTime s m) (hstep : move wire s m = .ok t) :
    Remembers wire t := by
  cases m with
  | verify now keys call =>
    rw [Api.move, refuseIf_bind_ok] at hstep
    obtain ⟨-, hstep⟩ := hstep
    split at hstep
    · cases hstep
      exact ⟨hs.waiting, hs.nodup, hs.remembered⟩
    · rename_i verified hverified
      cases hstep
      refine ⟨?_, hs.nodup, hs.remembered⟩
      rw [List.forall_mem_append, List.forall_mem_singleton]
      exact ⟨hs.waiting, authenticate_ok hverified⟩
  | observe handler =>
    rw [Api.move, require_bind_ok] at hstep
    obtain ⟨v, hv, hstep⟩ := hstep
    cases hstep
    exact hs.observed hv (hm v hv)

/-- **For every interleaving of handlers in which each calls the ledger before any other has
called it with a time past the expiry of its request, no envelope is ever accepted twice.** -/
theorem accepted_once (clock : Time) {moves : List Move}
    (hrun : Run (move wire) { clock := clock } moves s)
    (hall : Run.Throughout (move wire) InTime { clock := clock } moves) : s.accepted.Nodup := by
  have hkept : Remembers wire s :=
    Run.invariant_throughout (fun hs hm hstep => hs.move hm hstep) hrun hall (remembers_start clock)
  exact hkept.nodup

/-- A wire that carries two envelopes by their positions and checks no signature. -/
def deskWire : Wire :=
  { verify := fun _ _ _ => true
    stdBase64 := fun _ => some []
    sha256Hex := fun _ => ""
    decodeHeader := fun header =>
      some { envelopeBytes := if header = "first" then [0] else [1], keyID := "op", signature := "" }
    decodeEnvelope := fun bytes =>
      some ({ nonce := if bytes = [0] then "n-1" else "n-2", method := "GET", path := "/v1/world"
              issuedBy := "operator", keyID := "op"
              issuedAt := if bytes = [0] then second else 60 * second
              expiresAt := if bytes = [0] then 30 * second else 90 * second }, false)
    rfc3339 := fun _ => "" }

def deskKeys : Table Bytes := Table.ofEntries [("op", List.replicate 32 7)]

/-- A handler takes one of the two requests. -/
def takes (header : String) (now : Time) : Move :=
  .verify now deskKeys { method := "GET", path := "/v1/world", header := header }

theorem accepted_once_replayed :
    ∃ s, Run (move deskWire) {} [takes "first" (10 * second), .observe 0,
      takes "first" (20 * second), .observe 0] s ∧ s.accepted = [[0]] ∧ s.accepted.Nodup := by
  have hlater : ∀ t ∈ [10 * second], t ≤ 30 * second := by decide
  have hrun : Run (move deskWire) {} [takes "first" (10 * second), .observe 0,
      takes "first" (20 * second), .observe 0] _ :=
    .cons rfl (.cons rfl (.cons rfl (.cons rfl (.nil _))))
  refine ⟨_, hrun, by decide +kernel, accepted_once 0 hrun ?_⟩
  refine Run.throughout_cons rfl trivial (Run.throughout_cons rfl ?_
    (Run.throughout_cons rfl trivial (Run.throughout_cons rfl ?_ (Run.throughout_nil _ _))))
  · intro v hv t ht
    cases ht
  · intro v hv
    cases hv
    exact hlater

/-- Two handlers take the same request; the first is accepted. A third handler calls the ledger
after the request has expired, and drops its nonce. Then the second handler is accepted too. -/
theorem replay_accepted_twice :
    ([takes "first" (10 * second), takes "first" (20 * second), .observe 0,
      takes "second" (70 * second), .observe 1, .observe 0].foldlM (move deskWire) {}).map
        State.accepted = .ok [[0], [1], [0]] := by
  decide +kernel

end A4s.Api
