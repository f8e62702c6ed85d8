/-
The controller's signing keys (`control/keyset.go`).

A key signs while it is active, is still trusted while it is accepted, and is kept on record once
it is retired. Rotation adds a key and demotes the active one; retirement takes trust away.

* `newKeySet`, `validate`, `rotate`, `retire`, `trustMap`: the functions of the source.
* `validate_eq_ok`: what a valid key set is.
* `Succeeds`: what can become of a key in one step; no key leaves the set.
* `trustMap_spec`: the trusted keys are those that are not retired.
* `untrusted_step_iff`: a step keeps the public keys of retired keys out of the trusted ones
  exactly if it neither brings one of them back nor retires one of two keys with the same bytes.
-/
import A4s.Go.Run
import A4s.Control.Types

namespace A4s

open Go

/-- `KeyState`: the three states, and any other text. -/
inductive KeyState where
  | active
  | accepted
  | retired
  | unknown (text : String)
  deriving DecidableEq

/-- `ControllerKey`. -/
structure ControllerKey where
  keyID : String
  publicKey : String
  state : KeyState
  createdAt : Time
  rotatedAt : Time := 0
  retiredAt : Time := 0
  deriving DecidableEq

/-- `KeySet`. -/
structure KeySet where
  version : Int64
  keys : List ControllerKey
  deriving DecidableEq

/-- `KeySetVersion`. -/
def keySetVersion : Int64 := 1

/-- `ed25519.PublicKeySize`. -/
def ed25519KeySize : ℕ := 32

/-- `base64.StdEncoding`. -/
structure Base64 where
  encode : Bytes → String
  decode : String → Option Bytes
  decode_encode : ∀ bytes, decode (encode bytes) = some bytes

section Keyset

variable {k : ControllerKey} {keys : List ControllerKey}

variable (b : Base64)

/-- `ControllerKey.Decode`. -/
def ControllerKey.decode (k : ControllerKey) : Result Bytes := do
  let raw ← require (b.decode k.publicKey) s!"key {quote k.keyID} is not valid base64"
  refuseIf (raw.length ≠ ed25519KeySize)
    s!"key {quote k.keyID} is not a valid ed25519 public key"
  return raw

/-- The check of a state, with the number of active keys that it adds. -/
def ControllerKey.activeCount (k : ControllerKey) : Result ℕ :=
  match k.state with
  | .active => .ok 1
  | .accepted => .ok 0
  | .retired => .ok 0
  | .unknown text => fail s!"key {quote k.keyID} has unknown state {quote text}"

/-- The loop of `KeySet.Validate`: the ids that were seen, and the active keys so far. -/
def validateKeys : List String → ℕ → List ControllerKey → Result ℕ
  | _, active, [] => .ok active
  | seen, active, k :: rest => do
      refuseIf (k.keyID = "") "keyset holds a key with no id"
      refuseIf (k.keyID ∈ seen) s!"keyset holds duplicate key id {quote k.keyID}"
      let n ← k.activeCount
      let _ ← k.decode b
      validateKeys (k.keyID :: seen) (active + n) rest

/-- `KeySet.Validate`. -/
def KeySet.validate (s : KeySet) : Result Unit := do
  refuseIf (s.version ≠ keySetVersion) s!"unsupported keyset version {sprintInt s.version}"
  refuseIf (s.keys.length = 0) "keyset holds no keys"
  let active ← validateKeys b [] 0 s.keys
  refuseIf (active ≠ 1) s!"keyset must hold exactly one active key, found {active}"

/-- A key that enters the set. -/
def newKey (keyID : String) (publicKey : Bytes) (now : Time) : ControllerKey :=
  { keyID := keyID, publicKey := b.encode publicKey, state := .active, createdAt := now }

/-- `NewKeySet`. -/
def newKeySet (keyID : String) (publicKey : Bytes) (now : Time) : Result KeySet := do
  refuseIf (keyID = "") "controller key requires an id"
  refuseIf (publicKey.length ≠ ed25519KeySize)
    s!"controller key {quote keyID} is not a valid ed25519 public key"
  return { version := keySetVersion, keys := [newKey b keyID publicKey now] }

/-- `KeySet.Active`. -/
def KeySet.active (s : KeySet) : Result ControllerKey :=
  require (s.keys.find? fun k => k.state = .active) "keyset holds no active key"

/-- The loop of `KeySet.TrustMap`. -/
def trustKeys : Table Bytes → List ControllerKey → Result (Table Bytes)
  | trusted, [] => .ok trusted
  | trusted, k :: rest =>
    if k.state = .retired then trustKeys trusted rest
    else do
      let publicKey ← k.decode b
      trustKeys (trusted.insert k.keyID publicKey) rest

/-- `KeySet.TrustMap`. -/
def KeySet.trustMap (s : KeySet) : Result (Table Bytes) := do
  let trusted ← trustKeys b ∅ s.keys
  refuseIf (trusted.size = 0) "keyset trusts no keys"
  return trusted

/-- The active key stops signing. -/
def ControllerKey.demoted (now : Time) (k : ControllerKey) : ControllerKey :=
  if k.state = .active then { k with state := .accepted, rotatedAt := now } else k

/-- `KeySet.Rotate`. -/
def KeySet.rotate (s : KeySet) (keyID : String) (publicKey : Bytes) (now : Time) :
    Result KeySet := do
  s.validate b
  refuseIf (keyID = "") "controller key requires an id"
  refuseIf (publicKey.length ≠ ed25519KeySize)
    s!"controller key {quote keyID} is not a valid ed25519 public key"
  refuseIf (∃ k ∈ s.keys, k.keyID = keyID) s!"key id {quote keyID} is already in the keyset"
  let rotated : KeySet :=
    { version := keySetVersion
      keys := s.keys.map (ControllerKey.demoted now) ++ [newKey b keyID publicKey now] }
  rotated.validate b
  return rotated

/-- The key stops being trusted; it keeps the time at which it first did. -/
def ControllerKey.retired (keyID : String) (now : Time) (k : ControllerKey) : ControllerKey :=
  if k.keyID = keyID ∧ k.state ≠ .retired then { k with state := .retired, retiredAt := now } else k

/-- `KeySet.Retire`. -/
def KeySet.retire (s : KeySet) (keyID : String) (now : Time) : Result KeySet := do
  s.validate b
  refuseIf (∃ k ∈ s.keys, k.keyID = keyID ∧ k.state = .active)
    s!"refusing to retire the active key {quote keyID}: rotate to a new key first"
  refuseIf (¬ ∃ k ∈ s.keys, k.keyID = keyID) s!"key {quote keyID} is not in the keyset"
  let retired : KeySet :=
    { version := keySetVersion, keys := s.keys.map (ControllerKey.retired keyID now) }
  retired.validate b
  return retired

/-- A change of the key set. -/
inductive KeyChange where
  | rotate (keyID : String) (publicKey : Bytes) (now : Time)
  | retire (keyID : String) (now : Time)
  deriving DecidableEq

/-- One change. -/
def KeySet.change (s : KeySet) : KeyChange → Result KeySet
  | .rotate keyID publicKey now => s.rotate b keyID publicKey now
  | .retire keyID now => s.retire b keyID now

/-! ### Valid key sets -/

/-- What the loop asks of a key. -/
structure ControllerKey.Valid (k : ControllerKey) : Prop where
  named : k.keyID ≠ ""
  known : ∀ text, k.state ≠ .unknown text
  decodes : ∃ raw, k.decode b = .ok raw

/-- A valid key set. -/
structure KeySet.Valid (s : KeySet) : Prop where
  version_eq : s.version = keySetVersion
  keys_valid : ∀ k ∈ s.keys, k.Valid b
  ids_nodup : (s.keys.map ControllerKey.keyID).Nodup
  one_active : s.keys.countP (fun k => k.state = .active) = 1

variable {b}

lemma activeCount_eq_ok {n : ℕ} : k.activeCount = .ok n ↔
    (∀ text, k.state ≠ .unknown text) ∧ n = if k.state = .active then 1 else 0 := by
  unfold ControllerKey.activeCount
  cases hstate : k.state with
  | active => simp [eq_comm]
  | accepted => simp [eq_comm]
  | retired => simp [eq_comm]
  | unknown text =>
    constructor
    · intro h
      cases h
    · rintro ⟨h, -⟩
      exact absurd rfl (h text)

lemma validateKeys_eq_ok {seen : List String} {active n : ℕ} :
    validateKeys b seen active keys = .ok n ↔
      (∀ k ∈ keys, k.Valid b) ∧ (keys.map ControllerKey.keyID).Nodup ∧
        (∀ k ∈ keys, k.keyID ∉ seen) ∧
        n = active + keys.countP (fun k => k.state = .active) := by
  induction keys generalizing seen active with
  | nil => simp [validateKeys, eq_comm]
  | cons k rest ih =>
    rw [validateKeys, refuseIf_bind_ok, refuseIf_bind_ok, bind_ok]
    simp only [activeCount_eq_ok, bind_ok, ih, List.forall_mem_cons, List.map_cons,
      List.nodup_cons, List.countP_cons, decide_eq_true_eq]
    constructor
    · rintro ⟨hnamed, hunseen, m, ⟨hknown, rfl⟩, raw, hraw, hrest, hnodup, hseen, rfl⟩
      refine ⟨⟨⟨hnamed, hknown, raw, hraw⟩, hrest⟩, ⟨?_, hnodup⟩, ⟨hunseen, ?_⟩, by omega⟩
      · intro hmem
        obtain ⟨k', hk', hsame⟩ := List.mem_map.mp hmem
        exact hseen k' hk' (hsame ▸ List.mem_cons_self)
      · exact fun k' hk' hmem => hseen k' hk' (List.mem_cons_of_mem _ hmem)
    · rintro ⟨⟨hk, hrest⟩, ⟨hfirst, hnodup⟩, ⟨hunseen, hseen⟩, rfl⟩
      obtain ⟨raw, hraw⟩ := hk.decodes
      refine ⟨hk.named, hunseen, _, ⟨hk.known, rfl⟩, raw, hraw, hrest, hnodup, ?_, by omega⟩
      intro k' hk' hmem
      rcases List.mem_cons.mp hmem with hsame | hmem
      · exact hfirst (List.mem_map.mpr ⟨k', hk', hsame⟩)
      · exact hseen k' hk' hmem

/-- What `KeySet.Validate` accepts. -/
lemma validate_eq_ok {s : KeySet} : s.validate b = .ok () ↔ s.Valid b := by
  rw [KeySet.validate, refuseIf_bind_ok, refuseIf_bind_ok, bind_ok]
  simp only [validateKeys_eq_ok, refuseIf_ok, not_not, ne_eq]
  constructor
  · rintro ⟨hversion, -, n, ⟨hkeys, hnodup, -, hn⟩, rfl⟩
    exact ⟨hversion, hkeys, hnodup, by omega⟩
  · rintro ⟨hversion, hkeys, hnodup, hactive⟩
    refine ⟨hversion, ?_, _, ⟨hkeys, hnodup, fun _ _ => by simp, rfl⟩, by omega⟩
    intro hempty
    rw [List.eq_nil_of_length_eq_zero hempty] at hactive
    cases hactive

/-! ### What a change can do -/

/-- What can become of a key: it goes from active to accepted, from accepted to retired, or
stays. -/
structure Succeeds (k k' : ControllerKey) : Prop where
  keyID_eq : k'.keyID = k.keyID
  publicKey_eq : k'.publicKey = k.publicKey
  createdAt_eq : k'.createdAt = k.createdAt
  state : k'.state = k.state ∨ (k.state = .active ∧ k'.state = .accepted) ∨
    (k.state = .accepted ∧ k'.state = .retired)

/-- What can become of a key set: every key is kept, and at most one is added, with an id of its
own, as the active one. -/
def Extends (s t : KeySet) : Prop :=
  ∃ kept added, t.keys = kept ++ added ∧ List.Forall₂ Succeeds s.keys kept ∧
    (added = [] ∨ ∃ k, added = [k] ∧ k.state = .active ∧ ∀ k' ∈ s.keys, k'.keyID ≠ k.keyID)

variable {s t : KeySet} {keyID : String} {publicKey : Bytes} {now : Time}

lemma rotate_ok (h : s.rotate b keyID publicKey now = .ok t) :
    s.Valid b ∧ t.Valid b ∧ publicKey.length = ed25519KeySize ∧ (∀ k ∈ s.keys, k.keyID ≠ keyID) ∧
      t.keys = s.keys.map (ControllerKey.demoted now) ++ [newKey b keyID publicKey now] := by
  rw [KeySet.rotate] at h
  obtain ⟨hvalid, h⟩ := check_bind_ok.mp h
  rw [refuseIf_bind_ok, refuseIf_bind_ok, refuseIf_bind_ok] at h
  obtain ⟨-, hlength, hnew, h⟩ := h
  obtain ⟨hrotated, h⟩ := check_bind_ok.mp h
  cases h
  refine ⟨validate_eq_ok.mp hvalid, validate_eq_ok.mp hrotated, not_not.mp hlength, ?_, rfl⟩
  exact fun k hk hsame => hnew ⟨k, hk, hsame⟩

lemma retire_ok (h : s.retire b keyID now = .ok t) :
    s.Valid b ∧ t.Valid b ∧ (∀ k ∈ s.keys, k.keyID = keyID → k.state ≠ .active) ∧
      (∃ k ∈ s.keys, k.keyID = keyID) ∧ t.keys = s.keys.map (ControllerKey.retired keyID now) := by
  rw [KeySet.retire] at h
  obtain ⟨hvalid, h⟩ := check_bind_ok.mp h
  rw [refuseIf_bind_ok, refuseIf_bind_ok] at h
  obtain ⟨hactive, hfound, h⟩ := h
  obtain ⟨hretired, h⟩ := check_bind_ok.mp h
  cases h
  refine ⟨validate_eq_ok.mp hvalid, validate_eq_ok.mp hretired, ?_, not_not.mp hfound, rfl⟩
  exact fun k hk hsame hstate => hactive ⟨k, hk, hsame, hstate⟩

lemma change_valid {c : KeyChange} (h : s.change b c = .ok t) : s.Valid b ∧ t.Valid b := by
  cases c with
  | rotate keyID publicKey now => exact ⟨(rotate_ok h).1, (rotate_ok h).2.1⟩
  | retire keyID now => exact ⟨(retire_ok h).1, (retire_ok h).2.1⟩

lemma succeeds_demoted (k : ControllerKey) : Succeeds k (k.demoted now) := by
  unfold ControllerKey.demoted
  split_ifs with hactive
  · exact ⟨rfl, rfl, rfl, .inr (.inl ⟨hactive, rfl⟩)⟩
  · exact ⟨rfl, rfl, rfl, .inl rfl⟩

lemma succeeds_retired (hk : k.Valid b)
    (hactive : k.keyID = keyID → k.state ≠ .active) : Succeeds k (k.retired keyID now) := by
  unfold ControllerKey.retired
  split_ifs with hretired
  · refine ⟨rfl, rfl, rfl, .inr (.inr ⟨?_, rfl⟩)⟩
    cases hstate : k.state with
    | active => exact absurd hstate (hactive hretired.1)
    | accepted => rfl
    | retired => exact absurd hstate hretired.2
    | unknown text => exact absurd hstate (hk.known text)
  · exact ⟨rfl, rfl, rfl, .inl rfl⟩

lemma forall₂_map_self {f : ControllerKey → ControllerKey}
    (h : ∀ k ∈ keys, Succeeds k (f k)) : List.Forall₂ Succeeds keys (keys.map f) := by
  rw [List.forall₂_map_right_iff]
  exact List.forall₂_same.mpr h

/-- **One change moves keys forward and adds at most one.** -/
theorem change_extends {c : KeyChange} (h : s.change b c = .ok t) : Extends s t := by
  cases c with
  | rotate keyID publicKey now =>
    obtain ⟨-, -, -, hnew, hkeys⟩ := rotate_ok h
    refine ⟨_, _, hkeys, forall₂_map_self fun k _ => succeeds_demoted k, .inr ?_⟩
    exact ⟨_, rfl, rfl, hnew⟩
  | retire keyID now =>
    obtain ⟨hvalid, -, hactive, -, hkeys⟩ := retire_ok h
    refine ⟨_, [], by rw [hkeys, List.append_nil], ?_, .inl rfl⟩
    exact forall₂_map_self fun k hk => succeeds_retired (hvalid.keys_valid k hk) (hactive k hk)

/-! ### The trusted keys -/

/-- The loop trusts the keys that are not retired. -/
lemma trustKeys_spec (hkeys : ∀ k ∈ keys, k.Valid b)
    (hids : (keys.map ControllerKey.keyID).Nodup) (trusted : Table Bytes) :
    ∃ trusted', trustKeys b trusted keys = .ok trusted' ∧ ∀ id raw, trusted'[id]? = some raw ↔
      (∃ k ∈ keys, k.keyID = id ∧ k.state ≠ .retired ∧ k.decode b = .ok raw) ∨
      (trusted[id]? = some raw ∧ ∀ k ∈ keys, k.state ≠ .retired → k.keyID ≠ id) := by
  induction keys generalizing trusted with
  | nil => exact ⟨trusted, rfl, by simp⟩
  | cons k rest ih =>
    rw [List.forall_mem_cons] at hkeys
    rw [List.map_cons, List.nodup_cons] at hids
    by_cases hretired : k.state = .retired
    · obtain ⟨trusted', htrust, hspec⟩ := ih hkeys.2 hids.2 trusted
      refine ⟨trusted', by rw [trustKeys, if_pos hretired, htrust], fun id raw => ?_⟩
      rw [hspec]
      simp [hretired]
    · obtain ⟨raw, hraw⟩ := hkeys.1.decodes
      obtain ⟨trusted', htrust, hspec⟩ := ih hkeys.2 hids.2 (trusted.insert k.keyID raw)
      refine ⟨trusted', ?_, fun id raw' => ?_⟩
      · rw [trustKeys, if_neg hretired, hraw, ok_bind, htrust]
      · have hother : ∀ k' ∈ rest, k'.keyID ≠ k.keyID :=
          fun k' hk' hsame => hids.1 (List.mem_map.mpr ⟨k', hk', hsame⟩)
        rw [hspec, get_insert]
        by_cases hid : id = k.keyID
        · -- no later key has this id
          subst hid
          rw [if_pos rfl]
          constructor
          · rintro (⟨k', hk', hsame, -⟩ | ⟨hsome, -⟩)
            · exact absurd hsame (hother k' hk')
            · cases hsome
              exact .inl ⟨k, List.mem_cons_self, rfl, hretired, hraw⟩
          · rintro (⟨k', hk', hsame, -, hraw'⟩ | ⟨-, hnone⟩)
            · rcases List.mem_cons.mp hk' with rfl | hk'
              · cases hraw.symm.trans hraw'
                exact .inr ⟨rfl, fun k' hk' _ => hother k' hk'⟩
              · exact absurd hsame (hother k' hk')
            · exact absurd rfl (hnone k List.mem_cons_self hretired)
        · rw [if_neg hid]
          simp [hretired, Ne.symm hid]

/-- **A valid key set trusts exactly the keys that are not retired.** -/
theorem trustMap_spec (h : s.Valid b) : ∃ trusted, s.trustMap b = .ok trusted ∧
    ∀ id raw, trusted[id]? = some raw ↔
      ∃ k ∈ s.keys, k.keyID = id ∧ k.state ≠ .retired ∧ k.decode b = .ok raw := by
  obtain ⟨trusted, htrust, hspec⟩ := trustKeys_spec h.keys_valid h.ids_nodup ∅
  have hspec' : ∀ id raw, trusted[id]? = some raw ↔
      ∃ k ∈ s.keys, k.keyID = id ∧ k.state ≠ .retired ∧ k.decode b = .ok raw := by
    intro id raw
    rw [hspec]
    simp
  refine ⟨trusted, ?_, hspec'⟩
  have hsome : 0 < s.keys.countP (fun k => k.state = .active) := by
    rw [h.one_active]
    exact Nat.one_pos
  obtain ⟨k, hk, hactive⟩ := List.countP_pos_iff.mp hsome
  rw [decide_eq_true_eq] at hactive
  obtain ⟨raw, hraw⟩ := (h.keys_valid k hk).decodes
  have hmem := (hspec' k.keyID raw).mpr ⟨k, hk, rfl, by rw [hactive]; decide, hraw⟩
  have hsize : trusted.size ≠ 0 := by
    intro hzero
    rw [Std.ExtTreeMap.eq_empty_iff_size_eq_zero.mpr hzero] at hmem
    simp at hmem
  rw [KeySet.trustMap, htrust, ok_bind, refuseIf_bind_ok]
  exact ⟨hsize, rfl⟩

/-- Neither the id nor the public key of a retired key is trusted. -/
def Untrusted (b : Base64) (s : KeySet) : Prop :=
  ∀ k ∈ s.keys, k.state = .retired → ∀ trusted, s.trustMap b = .ok trusted →
    trusted[k.keyID]? = none ∧
      ∀ (id : String) (raw : Bytes), trusted[id]? = some raw → k.decode b ≠ .ok raw

/-- A retired key and a key that is not retired have different public keys. -/
def KeysApart (b : Base64) (keys : List ControllerKey) : Prop :=
  ∀ k ∈ keys, k.state = .retired → ∀ k' ∈ keys, k'.state ≠ .retired →
    b.decode k.publicKey ≠ b.decode k'.publicKey

lemma decode_eq_ok {raw : Bytes} : k.decode b = .ok raw ↔
    b.decode k.publicKey = some raw ∧ raw.length = ed25519KeySize := by
  rw [ControllerKey.decode, require_bind_ok]
  simp only [refuseIf_bind_ok, not_not, pure_ok, ne_eq]
  constructor
  · rintro ⟨_, hraw, hlength, rfl⟩
    exact ⟨hraw, hlength⟩
  · rintro ⟨hraw, hlength⟩
    exact ⟨raw, hraw, hlength, rfl⟩

lemma eq_of_keyID (h : s.Valid b) {k' : ControllerKey} (hk : k ∈ s.keys) (hk' : k' ∈ s.keys)
    (hsame : k.keyID = k'.keyID) : k = k' :=
  List.inj_on_of_nodup_map h.ids_nodup hk hk' hsame

lemma untrusted_iff (h : s.Valid b) : Untrusted b s ↔ KeysApart b s.keys := by
  obtain ⟨trusted, htrust, hspec⟩ := trustMap_spec h
  constructor
  · intro huntrusted k hk hretired k' hk' hstate hsame
    obtain ⟨raw, hraw⟩ := (h.keys_valid k' hk').decodes
    have htrusted := (hspec k'.keyID raw).mpr ⟨k', hk', rfl, hstate, hraw⟩
    refine (huntrusted k hk hretired trusted htrust).2 _ _ htrusted ?_
    rw [decode_eq_ok] at hraw ⊢
    rw [hsame]
    exact hraw
  · intro hapart k hk hretired _ htrust'
    cases htrust.symm.trans htrust'
    constructor
    · by_contra hsome
      obtain ⟨raw, hraw⟩ := Option.ne_none_iff_exists'.mp hsome
      obtain ⟨k', hk', hsame, hstate, -⟩ := (hspec _ _).mp hraw
      rw [eq_of_keyID h hk' hk hsame] at hstate
      exact hstate hretired
    · intro id raw hraw hdecode
      obtain ⟨k', hk', -, hstate, hraw'⟩ := (hspec id raw).mp hraw
      refine hapart k hk hretired k' hk' hstate ?_
      rw [(decode_eq_ok.mp hdecode).1, (decode_eq_ok.mp hraw').1]

/-! ### Runs -/

/-- A rotation brings no public key of a retired key back, and a retirement leaves no other trusted
key with the same public key. -/
def Fresh (b : Base64) (s : KeySet) : KeyChange → Prop
  | .rotate _ publicKey _ =>
    ∀ k ∈ s.keys, k.state = .retired → b.decode k.publicKey ≠ some publicKey
  | .retire keyID _ =>
    ∀ k ∈ s.keys, k.keyID = keyID → ∀ k' ∈ s.keys, k'.keyID ≠ keyID → k'.state ≠ .retired →
      b.decode k.publicKey ≠ b.decode k'.publicKey

instance (b : Base64) (s : KeySet) (c : KeyChange) : Decidable (Fresh b s c) := by
  cases c <;> exact inferInstanceAs (Decidable (∀ k ∈ s.keys, _ → _))

lemma demoted_publicKey (now : Time) (k : ControllerKey) :
    (k.demoted now).publicKey = k.publicKey :=
  (succeeds_demoted k).publicKey_eq

lemma demoted_retired_iff : (k.demoted now).state = .retired ↔ k.state = .retired := by
  unfold ControllerKey.demoted
  split_ifs with hactive
  · simp [hactive]
  · rfl

lemma apart_rotated_iff (hkeys : KeysApart b keys) :
    KeysApart b (keys.map (ControllerKey.demoted now) ++ [newKey b keyID publicKey now]) ↔
      ∀ k ∈ keys, k.state = .retired → b.decode k.publicKey ≠ some publicKey := by
  have hencoded : b.decode (newKey b keyID publicKey now).publicKey = some publicKey :=
    b.decode_encode publicKey
  constructor
  · intro hapart k hk hretired
    rw [← hencoded, ← demoted_publicKey now k]
    refine hapart _ ?_ (demoted_retired_iff.mpr hretired) _ ?_ (by simp [newKey])
    · exact List.mem_append_left _ (List.mem_map_of_mem hk)
    · exact List.mem_append_right _ List.mem_cons_self
  · intro hfresh k hk hretired k' hk' hstate
    -- the new key is not retired, so the retired key is an old one
    rcases List.mem_append.mp hk with hk | hk
    · obtain ⟨old, hold, rfl⟩ := List.mem_map.mp hk
      rw [demoted_publicKey]
      rw [demoted_retired_iff] at hretired
      rcases List.mem_append.mp hk' with hk' | hk'
      · obtain ⟨old', hold', rfl⟩ := List.mem_map.mp hk'
        rw [demoted_publicKey]
        exact hkeys old hold hretired old' hold' fun h => hstate (demoted_retired_iff.mpr h)
      · rw [List.mem_singleton.mp hk', hencoded]
        exact hfresh old hold hretired
    · rw [List.mem_singleton.mp hk] at hretired
      cases hretired

lemma retired_publicKey (k : ControllerKey) : (k.retired keyID now).publicKey = k.publicKey := by
  unfold ControllerKey.retired
  split_ifs <;> rfl

lemma retired_state_iff :
    (k.retired keyID now).state = .retired ↔ k.keyID = keyID ∨ k.state = .retired := by
  unfold ControllerKey.retired
  split_ifs with h
  · simp [h.1]
  · rw [not_and, not_not] at h
    exact ⟨.inr, fun hor => hor.elim h id⟩

lemma apart_retired_iff (hkeys : KeysApart b keys) :
    KeysApart b (keys.map (ControllerKey.retired keyID now)) ↔
      ∀ k ∈ keys, k.keyID = keyID → ∀ k' ∈ keys, k'.keyID ≠ keyID → k'.state ≠ .retired →
        b.decode k.publicKey ≠ b.decode k'.publicKey := by
  constructor
  · intro hapart k hk hsame k' hk' hother hstate
    have hthere := hapart _ (List.mem_map_of_mem hk) (retired_state_iff.mpr (.inl hsame)) _
      (List.mem_map_of_mem hk') fun h => (retired_state_iff.mp h).elim hother hstate
    rw [retired_publicKey, retired_publicKey] at hthere
    exact hthere
  · intro hfresh _ hmem hretired _ hmem' hstate
    obtain ⟨k, hk, rfl⟩ := List.mem_map.mp hmem
    obtain ⟨k', hk', rfl⟩ := List.mem_map.mp hmem'
    rw [retired_publicKey, retired_publicKey]
    rw [retired_state_iff] at hretired
    rw [ne_eq, retired_state_iff, not_or] at hstate
    rcases hretired with hsame | hretired
    · exact hfresh k hk hsame k' hk' hstate.1 hstate.2
    · exact hkeys k hk hretired k' hk' hstate.2

/-- One change keeps the retired keys untrusted exactly if it is fresh. -/
lemma untrusted_step_iff {c : KeyChange} (hs : Untrusted b s) (h : s.change b c = .ok t) :
    Untrusted b t ↔ Fresh b s c := by
  obtain ⟨hvalid, hvalid'⟩ := change_valid h
  rw [untrusted_iff hvalid] at hs
  rw [untrusted_iff hvalid']
  cases c with
  | rotate keyID publicKey now =>
    obtain ⟨-, -, -, -, hkeys⟩ := rotate_ok h
    rw [hkeys]
    exact apart_rotated_iff hs
  | retire keyID now =>
    obtain ⟨-, -, -, -, hkeys⟩ := retire_ok h
    rw [hkeys]
    exact apart_retired_iff hs

lemma newKeySet_valid (h : newKeySet b keyID publicKey now = .ok s) : s.Valid b := by
  rw [newKeySet, refuseIf_bind_ok, refuseIf_bind_ok] at h
  obtain ⟨hnamed, hlength, h⟩ := h
  cases h
  refine ⟨rfl, List.forall_mem_singleton.mpr ⟨hnamed, fun text => by simp [newKey], ?_⟩, ?_, rfl⟩
  · exact ⟨publicKey, decode_eq_ok.mpr ⟨b.decode_encode publicKey, not_not.mp hlength⟩⟩
  · exact List.nodup_singleton _

lemma newKeySet_untrusted (h : newKeySet b keyID publicKey now = .ok s) : Untrusted b s := by
  rw [untrusted_iff (newKeySet_valid h)]
  rw [newKeySet, refuseIf_bind_ok, refuseIf_bind_ok] at h
  obtain ⟨-, -, h⟩ := h
  cases h
  intro k hk hretired
  rw [List.mem_singleton.mp hk] at hretired
  cases hretired

/-- **For every run of rotations and retirements from a new key set: exactly one key is active and
no id stands twice; every change only moves keys from active to accepted to retired, and adds at
most one key, under an id that was not there; and the retired keys are never trusted again, by id
or by public key, exactly if no rotation brings back the public key of a retired key and no
retirement leaves another trusted key with the same public key.** -/
theorem keyset_run_iff {changes : List KeyChange} {s₀ : KeySet}
    (hnew : newKeySet b keyID publicKey now = .ok s₀) (hrun : Run (KeySet.change b) s₀ changes s) :
    Run.Always (KeySet.change b) (fun t => t.keys.countP (fun k => k.state = .active) = 1 ∧
      (t.keys.map ControllerKey.keyID).Nodup) s₀ changes ∧
    (∀ before c after t u, changes = before ++ c :: after → Run (KeySet.change b) s₀ before t →
      t.change b c = .ok u → Extends t u) ∧
    (Run.Always (KeySet.change b) (Untrusted b) s₀ changes ↔
      Run.Throughout (KeySet.change b) (Fresh b) s₀ changes) := by
  have hvalid := newKeySet_valid hnew
  refine ⟨?_, fun _ _ _ _ _ _ _ hstep => change_extends hstep, ?_⟩
  · intro before after t _ hbefore
    have ht : t.Valid b := hbefore.invariant (fun _ hstep => (change_valid hstep).2) hvalid
    exact ⟨ht.one_active, ht.ids_nodup⟩
  · exact Run.always_iff (I := KeySet.Valid b) (fun _ hstep => (change_valid hstep).2)
      (fun _ hs hstep => untrusted_step_iff hs hstep) hrun hvalid (newKeySet_untrusted hnew)

end Keyset

/-- An encoding that writes every byte as the character with its number. -/
def plainText : Base64 where
  encode bytes := String.ofList (bytes.map fun x => Char.ofNat x.toNat)
  decode text := some (text.toList.map fun c => UInt8.ofNat c.toNat)
  decode_encode bytes := by
    have hchar : ∀ n < 256, (Char.ofNat n).toNat = n := by decide +kernel
    rw [String.toList_ofList, List.map_map]
    refine congrArg some ((List.map_congr_left fun x _ => ?_).trans (List.map_id bytes))
    rw [Function.comp_apply, hchar _ x.toNat_lt, UInt8.ofNat_toNat]
    rfl

/-- The public key that repeats a byte. -/
def keyOf (x : UInt8) : Bytes := List.replicate 32 x

/-- A rotation and the retirement of the first key. -/
def handedOver : List KeyChange := [.rotate "k2" (keyOf 2) 2, .retire "k1" 3]

/-- The first key, before the changes and between them. -/
def firstKey : ControllerKey := newKey plainText "k1" (keyOf 1) 1

def secondKey : ControllerKey := newKey plainText "k2" (keyOf 2) 2

theorem keyset_run_handedOver :
    Run.Always (KeySet.change plainText) (Untrusted plainText) ⟨1, [firstKey]⟩ handedOver := by
  have hnew : newKeySet plainText "k1" (keyOf 1) 1 = .ok ⟨1, [firstKey]⟩ := rfl
  have hrotate : KeySet.change plainText ⟨1, [firstKey]⟩ (.rotate "k2" (keyOf 2) 2) =
      .ok ⟨1, [firstKey.demoted 2, secondKey]⟩ := by decide +kernel
  have hretire : KeySet.change plainText ⟨1, [firstKey.demoted 2, secondKey]⟩ (.retire "k1" 3) =
      .ok ⟨1, [(firstKey.demoted 2).retired "k1" 3, secondKey]⟩ := by decide +kernel
  refine (keyset_run_iff hnew (.cons hrotate (.cons hretire (.nil _)))).2.2.mpr ?_
  refine Run.throughout_cons hrotate (by decide +kernel) ?_
  exact Run.throughout_cons hretire (by decide +kernel) (Run.throughout_nil _ _)

/-- The key set after a run, its states and what it trusts under an id. -/
def trustedAfter (changes : List KeyChange) (id : String) :
    Result (List (String × KeyState) × Option Bytes) := do
  let s ← newKeySet plainText "k1" (keyOf 1) 1
  let t ← changes.foldlM (KeySet.change plainText) s
  let trusted ← t.trustMap plainText
  return (t.keys.map fun k => (k.keyID, k.state), trusted[id]?)

/-- The public key of the retired key comes back under another id. -/
theorem retired_key_trusted :
    trustedAfter (handedOver ++ [.rotate "k3" (keyOf 1) 4]) "k3" =
      .ok ([("k1", .retired), ("k2", .accepted), ("k3", .active)], some (keyOf 1)) := by
  decide +kernel

end A4s
