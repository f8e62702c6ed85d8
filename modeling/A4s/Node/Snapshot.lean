/-
Writing over a volume (`node/snapshot.go`, `node/handoff.go` and `node/volume.go`):
restoring a snapshot, and adopting a volume that was moved to this node.

The disk is kept as the directory trees the node handles, by path; no two of the paths lie
in one another. Modes and empty directories are left out, as no checksum covers them. What
a file operation answers besides is read from a `Drive`; a failed one leaves the disk as
it was.

* `checksumTree`, `copyTree`: over the files of a directory.
* `Storage.restore`, `Storage.adopt`: the two ways to write over a volume.
* `Storage.swap_writes`: the staging swap puts the staged tree in place.
* `written_matches_iff`: **when what was written is what the world has a checksum of**.
-/
import A4s.Control.Kernel
import A4s.Node.Storage

namespace A4s.Daemon

open Go

/-! ### Trees -/

/-- A file as a walk finds it: what reading it answers, and whether it is a regular file. -/
structure File where
  content : Result Bytes
  regular : Bool := true
  deriving DecidableEq

/-- The files of a directory, by relative path. -/
abbrev Tree := Table File

/-- `[]byte(text)`. -/
def bytesOf (text : String) : Bytes := text.toList.flatMap String.utf8EncodeChar

/-- `checksumTree`: paths and contents in the order of the paths. -/
def checksumTree (digest : Bytes → String) (tree : Tree) : Result String := do
  let parts ← tree.toList.mapM fun (path, file) => do
    let content ← file.content
    return bytesOf path ++ [0] ++ content ++ [0]
  return digest parts.flatten

/-- `copyTree`: the copy holds what was read; a link or a device is refused. -/
def copyTree (tree : Tree) : Result Tree := do
  tree.toList.forM fun (path, file) => do
    refuseIf (file.regular = false) s!"volume contains a non-regular file {quote path}"
    let _ ← file.content
  return tree

lemma copyTree_eq {tree copy : Tree} (h : copyTree tree = .ok copy) : copy = tree := by
  obtain ⟨_, -, hcopy⟩ := bind_ok.mp h
  cases hcopy
  rfl

/-! ### The disk -/

/-- What one call reads from outside: SHA-256 in hex, whether file operations go through,
and the backup store. -/
structure Drive where
  digest : Bytes → String
  stat : String → Result Unit
  walk : String → Result Unit
  copy : String → String → Result Unit
  removeAll : String → Result Unit
  rename : String → String → Result Unit
  backups : Option (String → String → Result Tree)

/-- The durable storage of a node, with the directories it handles. -/
structure Storage where
  volumes : Volumes
  snapshots : String
  files : Table Tree := ∅
  deriving DecidableEq

namespace Storage

/-- `os.Stat(path)` without an error. -/
def exists_ (d : Drive) (path : String) : Proc Storage Bool :=
  Proc.read fun s => s.files[path]?.isSome && decide (d.stat path = .ok ())

/-- The tree at a path. -/
def tree (d : Drive) (path : String) : Proc Storage Tree := do
  let s ← Proc.read id
  Proc.lift (d.walk path)
  Proc.lift (require s.files[path]? s!"walk {quote path}: no such file or directory")

/-- `checksumTree(path)`. -/
def checksum (d : Drive) (path : String) : Proc Storage String := do
  let found ← tree d path
  Proc.lift (checksumTree d.digest found)

def removeAll (d : Drive) (path : String) : Proc Storage Unit := do
  Proc.lift (d.removeAll path)
  Proc.modify fun s => { s with files := s.files.erase path }

/-- `copyTree(source, destination)`, to a directory that is not there yet. -/
def copy (d : Drive) (source destination : String) : Proc Storage Unit := do
  let found ← tree d source
  let copied ← Proc.lift (copyTree found)
  Proc.lift (d.copy source destination)
  Proc.modify fun s => { s with files := s.files.insert destination copied }

def rename (d : Drive) (source destination : String) : Proc Storage Unit := do
  let s ← Proc.read id
  let found ← Proc.lift (require s.files[source]?
    s!"rename {source} {destination}: no such file or directory")
  Proc.lift (d.rename source destination)
  Proc.modify fun s => { s with files := (s.files.erase source).insert destination found }

/-- A directory is set aside under another name; one that does not exist is not missed. -/
def setAside (d : Drive) (path previous : String) : Proc Storage Unit := do
  let s ← Proc.read id
  Proc.when s.files[path]?.isSome (rename d path previous)

/-- The staged tree replaces the one at the path. The old one is put back if that fails. -/
def swap (d : Drive) (staging path asideText replaceText : String) : Proc Storage Unit := do
  let previous := path ++ ".replaced"
  Proc.ignore (removeAll d previous)
  Proc.wrapped asideText
    (Proc.onError (setAside d path previous) (Proc.ignore (removeAll d staging)))
  Proc.wrapped replaceText (Proc.onError (rename d staging path) (do
    Proc.ignore (rename d previous path)
    Proc.ignore (removeAll d staging)))
  Proc.ignore (removeAll d previous)

/-- `copyTreeReplacing`. -/
def copyTreeReplacing (d : Drive) (source destination : String) : Proc Storage Unit := do
  let staging := destination ++ ".adopting"
  removeAll d staging
  Proc.onError (copy d source staging) (Proc.ignore (removeAll d staging))
  swap d staging destination "" ""

/-! ### Restoring and adopting -/

/-- The end of `restore`, once it is known where the snapshot is. -/
def restoreFrom (d : Drive) (a : Action) (ref : VolumeRef) (record : VolumeRecord)
    (source origin : String) : Proc Storage Evidence := do
  let found ← checksum d source
  Proc.guard (ref.checksum ≠ "" ∧ ref.checksum ≠ found)
    (s!"snapshot {quote a.snapshot} of volume {quote record.name} failed verification: " ++
      s!"recorded {ref.checksum}, found {found}")
  let staging := record.path ++ ".restoring"
  Proc.wrapped "clear staging restore: " (removeAll d staging)
  Proc.wrapped s!"restore volume {quote record.name}: "
    (Proc.onError (copy d source staging) (Proc.ignore (removeAll d staging)))
  let s ← Proc.read id
  Proc.onError (Proc.guard ((checksum d staging s).1 ≠ .ok found)
      s!"restored copy of volume {quote record.name} does not match the snapshot")
    (Proc.ignore (removeAll d staging))
  swap d staging record.path s!"set aside volume {quote record.name}: "
    s!"replace volume {quote record.name}: "
  return volumeEvidence .volumeRestored record.name
    [("snapshot", a.snapshot), ("checksum", found), ("source", origin)]

/-- `Volumes.restore`: from the local snapshot, or from the backup store if that is gone. -/
def restore (d : Drive) (a : Action) (ref : VolumeRef) : Proc Storage Evidence := do
  let s ← Proc.read id
  let record ← Proc.lift (require s.volumes.volumes[ref.name]?
    s!"volume {quote ref.name} does not exist on this node")
  Proc.guard (record.owner ≠ "")
    (s!"volume {quote record.name} is attached to {quote record.owner}; " ++
      "detach it before restoring")
  Proc.guard (a.snapshot = "") "restore requires a snapshot id"
  let source := joinPath [s.snapshots, record.name, a.snapshot]
  let present ← exists_ d source
  if present then restoreFrom d a ref record source "local-snapshot"
  else do
    let fetch ← Proc.lift (require d.backups
      (s!"snapshot {quote a.snapshot} of volume {quote record.name} is not present on " ++
        "this node"))
    let fetched := joinPath [s.snapshots, record.name, a.snapshot ++ ".fetched"]
    let arrived ← Proc.lift (fetch record.name a.snapshot)
    Proc.modify fun s => { s with files := s.files.insert fetched arrived }
    Proc.deferred (Proc.ignore (removeAll d fetched))
      (restoreFrom d a ref record fetched "backup-store")

/-- `Volumes.adopt`: from the snapshot the node received. -/
def adopt (d : Drive) (a : Action) (ref : VolumeRef) : Proc Storage Evidence := do
  Proc.guard (a.snapshot = "") "adopt requires the transferred snapshot id"
  let s ← Proc.read id
  let source := joinPath [s.snapshots, ref.name, a.snapshot]
  let present ← exists_ d source
  Proc.guard (present = false)
    (s!"snapshot {quote a.snapshot} for volume {quote ref.name} was not transferred to " ++
      "this node")
  let found ← checksum d source
  Proc.guard (ref.checksum ≠ "" ∧ ref.checksum ≠ found)
    (s!"snapshot {quote a.snapshot} of volume {quote ref.name} failed verification at " ++
      "adoption")
  let record ← Proc.lift (require s.volumes.volumes[ref.name]?
    s!"volume {quote ref.name} was not transferred to this node")
  Proc.wrapped s!"materialize adopted volume {quote ref.name}: "
    (copyTreeReplacing d source record.path)
  return volumeEvidence .volumeAdopted ref.name
    [("node", a.node), ("snapshot", a.snapshot), ("checksum", found)]

/-- `Volumes.Execute`; the actions that write over no volume are left open. -/
def execute (d : Drive) (others : Action → VolumeRef → Proc Storage Evidence) (a : Action) :
    Proc Storage Evidence := do
  let ref ← Proc.lift (require a.volume s!"{a.kind.text} requires a volume reference")
  match a.kind with
  | .restoreSnapshot => restore d a ref
  | .adoptVolume => adopt d a ref
  | _ => others a ref

/-! ### What is written -/

section Writes

variable {d : Drive} {s s' : Storage} {a : Action} {ref : VolumeRef} {e : Evidence}
  {path source staging : String} {t found : Tree} {record : VolumeRecord}

lemma append_ne_append {path x y : String} (h : x ≠ y) : path ++ x ≠ path ++ y :=
  fun heq => h ((String.append_right_inj path).mp heq)

lemma append_ne_self {path x : String} (h : x ≠ "") : path ++ x ≠ path := by
  intro heq
  have hlength := congrArg String.length heq
  rw [String.length_append] at hlength
  have hzero : x.length = 0 := by omega
  exact h (String.length_eq_zero_iff.mp hzero)

lemma returns_tree : Proc.Returns (tree d path) s t s' ↔
    d.walk path = .ok () ∧ s.files[path]? = some t ∧ s = s' := by
  simp only [tree, returns_bind, returns_read, returns_lift, require_ok]
  constructor
  · rintro ⟨_, _, ⟨rfl, rfl⟩, _, _, ⟨hwalk, rfl⟩, hget, rfl⟩
    exact ⟨hwalk, hget, rfl⟩
  · rintro ⟨hwalk, hget, rfl⟩
    exact ⟨s, s, ⟨rfl, rfl⟩, (), s, ⟨hwalk, rfl⟩, hget, rfl⟩

lemma returns_checksum {text : String} : Proc.Returns (checksum d path) s text s' ↔
    d.walk path = .ok () ∧ (∃ t, s.files[path]? = some t ∧ checksumTree d.digest t = .ok text) ∧
      s = s' := by
  simp only [checksum, returns_bind, returns_tree, returns_lift]
  constructor
  · rintro ⟨t, _, ⟨hwalk, hget, rfl⟩, hsum, rfl⟩
    exact ⟨hwalk, ⟨t, hget, hsum⟩, rfl⟩
  · rintro ⟨hwalk, ⟨t, hget, hsum⟩, rfl⟩
    exact ⟨t, s, ⟨hwalk, hget, rfl⟩, hsum, rfl⟩

/-- A removal goes through or leaves everything. -/
lemma removeAll_ends (d : Drive) (s : Storage) (path : String) :
    ((removeAll d path) s).2 = s ∨
      ((removeAll d path) s).2 = { s with files := s.files.erase path } := by
  refine ends_bind (P := fun u => u = s ∨ u = { s with files := s.files.erase path })
    (.inl rfl) fun _ s₁ hlift => ?_
  obtain ⟨-, rfl⟩ := returns_lift.mp hlift
  exact .inr rfl

lemma removeAll_other (hne : path ≠ source) :
    ((removeAll d source) s).2.files[path]? = s.files[path]? := by
  rcases removeAll_ends d s source with hends | hends
  · rw [hends]
  · rw [hends]
    exact get_erase_of_ne hne

lemma removeAll_adds_nothing (h : ((removeAll d source) s).2.files[path]? = some t) :
    s.files[path]? = some t := by
  rcases removeAll_ends d s source with hends | hends
  · rwa [hends] at h
  · rw [hends, get_erase] at h
    split_ifs at h
    exact h

lemma returns_copy {destination : String} (h : Proc.Returns (copy d source destination) s () s') :
    ∃ t, s.files[source]? = some t ∧
      s' = { s with files := s.files.insert destination t } := by
  simp only [copy, returns_bind, returns_tree, returns_lift, returns_modify] at h
  obtain ⟨t, _, ⟨-, hget, rfl⟩, copied, _, ⟨hcopy, rfl⟩, _, _, ⟨-, rfl⟩, rfl⟩ := h
  cases copyTree_eq hcopy
  exact ⟨_, hget, rfl⟩

lemma returns_rename {destination : String}
    (h : Proc.Returns (rename d source destination) s () s') :
    ∃ t, s.files[source]? = some t ∧
      s' = { s with files := (s.files.erase source).insert destination t } := by
  simp only [rename, returns_bind, returns_read, returns_lift, require_ok, returns_modify] at h
  obtain ⟨_, _, ⟨rfl, rfl⟩, t, _, ⟨hget, rfl⟩, _, _, ⟨-, rfl⟩, rfl⟩ := h
  exact ⟨t, hget, rfl⟩

/-- Setting a directory aside touches two names. -/
lemma setAside_other {previous : String} (h : Proc.Returns (setAside d path previous) s () s')
    (hpath : staging ≠ path) (hprevious : staging ≠ previous) :
    s'.files[staging]? = s.files[staging]? := by
  simp only [setAside, returns_bind, returns_read, returns_when] at h
  obtain ⟨_, _, ⟨rfl, rfl⟩, ⟨-, hrename⟩ | ⟨-, rfl⟩⟩ := h
  · obtain ⟨t, -, rfl⟩ := returns_rename hrename
    rw [get_insert_of_ne hprevious, get_erase_of_ne hpath]
  · rfl

/-- **The staging swap puts the staged tree in place.** -/
lemma swap_writes {aside replace : String}
    (h : Proc.Returns (swap d staging path aside replace) s () s')
    (hstaged : s.files[staging]? = some t) (hpath : staging ≠ path)
    (hprevious : staging ≠ path ++ ".replaced") : s'.files[path]? = some t := by
  simp only [swap, returns_bind, returns_ignore, returns_wrapped, returns_onError] at h
  obtain ⟨_, s₁, hclear, _, s₂, haside, _, s₃, hrename, hleft⟩ := h
  have hkept : s₂.files[staging]? = some t := by
    rw [setAside_other haside hpath hprevious, ← hclear, removeAll_other hprevious, hstaged]
  obtain ⟨t', hget, hs₃⟩ := returns_rename hrename
  cases hkept.symm.trans hget
  have hself : path ≠ path ++ ".replaced" := (append_ne_self (by decide)).symm
  rw [← hleft, removeAll_other hself, hs₃, get_insert_self]

/-- A restore writes a tree with the checksum it found, and was told no other. -/
lemma restoreFrom_writes {origin : String}
    (h : Proc.Returns (restoreFrom d a ref record source origin) s e s') :
    ∃ held text, s.files[source]? = some held ∧ checksumTree d.digest held = .ok text ∧
      ¬(ref.checksum ≠ "" ∧ ref.checksum ≠ text) ∧
      ∃ t, s'.files[record.path]? = some t ∧ checksumTree d.digest t = .ok text := by
  simp only [restoreFrom, returns_bind, returns_checksum, returns_guard,
    returns_wrapped, returns_onError, returns_read, returns_pure] at h
  obtain ⟨text, _, ⟨-, ⟨held, hheld, hsum⟩, rfl⟩, _, _, ⟨htold, rfl⟩, _, s₁, -, _, s₂, hcopy, _, _,
    ⟨rfl, rfl⟩, _, _, ⟨hverified, rfl⟩, _, s₃, hswap, -, rfl⟩ := h
  obtain ⟨t, -, rfl⟩ := returns_copy hcopy
  refine ⟨held, text, hheld, hsum, htold, t, ?_, ?_⟩
  · exact swap_writes hswap (get_insert_self) (append_ne_self (by decide))
      (append_ne_append (by decide))
  · -- the copy was read again before the swap
    have hread : Proc.Returns (checksum d (record.path ++ ".restoring")) _ text _ :=
      Prod.ext (not_not.mp hverified) rfl
    obtain ⟨-, ⟨t', hget, hsum'⟩, -⟩ := returns_checksum.mp hread
    cases (get_insert_self).symm.trans hget
    exact hsum'

/-- The snapshot a call would write over the volume: the local one, or the one in the
backup store. -/
def snapshotHeld (d : Drive) (s : Storage) (name : String) (a : Action) : Option Tree :=
  let source := joinPath [s.snapshots, name, a.snapshot]
  if s.files[source]?.isSome && decide (d.stat source = .ok ()) then s.files[source]?
  else d.backups.bind fun fetch => (fetch name a.snapshot).toOption

/-- What a call that wrote over the directory of a volume found, was told and left there. -/
def Writes (d : Drive) (s : Storage) (a : Action) (ref : VolumeRef) (s' : Storage)
    (name path : String) : Prop :=
  ∃ held text, snapshotHeld d s name a = some held ∧ checksumTree d.digest held = .ok text ∧
    ¬(ref.checksum ≠ "" ∧ ref.checksum ≠ text) ∧
    ∀ t, s'.files[path]? = some t → checksumTree d.digest t = .ok text

lemma restore_writes (hrecord : s.volumes.volumes[ref.name]? = some record)
    (h : Proc.Returns (restore d a ref) s e s') : Writes d s a ref s' record.name record.path := by
  simp only [restore, returns_bind, returns_read, returns_lift, require_ok,
    returns_guard, exists_, id_eq] at h
  obtain ⟨_, _, ⟨rfl, rfl⟩, record', _, ⟨hget, rfl⟩, _, _, ⟨-, rfl⟩, _, _, ⟨-, rfl⟩, present, _,
    ⟨hpresent, rfl⟩, h⟩ := h
  cases hrecord.symm.trans hget
  subst hpresent
  split_ifs at h with hlocal
  · obtain ⟨held, text, hheld, hsum, htold, t, ht, htsum⟩ := restoreFrom_writes h
    refine ⟨held, text, ?_, hsum, htold, fun t' ht' => ?_⟩
    · rw [snapshotHeld, if_pos hlocal]
      exact hheld
    · cases ht.symm.trans ht'
      exact htsum
  · simp only [returns_bind, returns_lift, require_ok, returns_modify, returns_deferred] at h
    obtain ⟨fetch, _, ⟨hbackups, rfl⟩, arrived, _, ⟨hfetch, rfl⟩, _, _, rfl, s₁, hfrom, rfl⟩ := h
    obtain ⟨held, text, hheld, hsum, htold, t, ht, htsum⟩ := restoreFrom_writes hfrom
    rw [get_insert_self] at hheld
    cases hheld
    refine ⟨arrived, text, ?_, hsum, htold, fun t' ht' => ?_⟩
    · rw [snapshotHeld, if_neg hlocal, hbackups, Option.bind_some, hfetch]
      rfl
    · -- clearing the fetched copy away adds nothing
      cases ht.symm.trans (removeAll_adds_nothing ht')
      exact htsum

lemma adopt_writes (hrecord : s.volumes.volumes[ref.name]? = some record)
    (h : Proc.Returns (adopt d a ref) s e s') : Writes d s a ref s' ref.name record.path := by
  simp only [adopt, returns_bind, returns_read, returns_lift, require_ok, returns_guard, exists_,
    returns_checksum, returns_wrapped, copyTreeReplacing, returns_onError, returns_pure, id_eq] at h
  obtain ⟨_, _, ⟨-, rfl⟩, _, _, ⟨rfl, rfl⟩, present, _, ⟨hpresent, rfl⟩, _, _, ⟨hlocal, rfl⟩, text,
    _, ⟨-, ⟨held, hheld, hsum⟩, rfl⟩, _, _, ⟨htold, rfl⟩, record', _, ⟨hget, rfl⟩, _, s₃,
    ⟨_, s₁, hclear, _, s₂, hcopy, hswap⟩, -, rfl⟩ := h
  cases hrecord.symm.trans hget
  have hthere := hpresent.trans (Bool.not_eq_false _ ▸ hlocal)
  refine ⟨held, text, ?_, hsum, htold, fun t' ht' => ?_⟩
  · rw [snapshotHeld, if_pos hthere]
    exact hheld
  · obtain ⟨t, hsource, rfl⟩ := returns_copy hcopy
    have hwritten := swap_writes hswap (get_insert_self)
      (append_ne_self (by decide)) (append_ne_append (by decide))
    cases hwritten.symm.trans ht'
    -- the copy is of the tree that was checked
    have hcleared : ((removeAll d (record.path ++ ".adopting")) s).2 = s₁ :=
      congrArg Prod.snd hclear
    rw [← hcleared] at hsource
    cases hheld.symm.trans (removeAll_adds_nothing hsource)
    exact hsum

end Writes

end Storage

/-! ### What the world has recorded -/

/-- The checksum the world holds for what an action writes over a volume: the snapshot's
for a restore, the move's for an adoption. -/
def recordedChecksum (w : World) (a : Action) (name : String) : String :=
  match w.volumes[name]? with
  | none => ""
  | some volume => match a.kind with
    | .adoptVolume => (volume.handoff.map (·.checksum)).getD ""
    | _ => volume.snapshots[a.snapshot]?.getD ""

/-- The name the node files the snapshots of a volume under. -/
def snapshotName (a : Action) (ref : VolumeRef) (record : VolumeRecord) : String :=
  match a.kind with
  | .adoptVolume => ref.name
  | _ => record.name

/-- **What is written over a volume has the recorded checksum exactly when** the action
carries that checksum, or carries none and the snapshot the node holds has it. -/
theorem written_matches_iff {d : Drive} {others : Action → VolumeRef → Proc Storage Evidence}
    {a : Action} {ref : VolumeRef} {s s' : Storage} {e : Evidence} {record : VolumeRecord}
    {written : Tree} (w : World) (hk : a.kind = .restoreSnapshot ∨ a.kind = .adoptVolume)
    (href : a.volume = some ref) (hexec : Proc.Returns (Storage.execute d others a) s e s')
    (hrecord : s.volumes.volumes[ref.name]? = some record)
    (hwritten : s'.files[record.path]? = some written) :
    checksumTree d.digest written = .ok (recordedChecksum w a ref.name) ↔
      (ref.checksum ≠ "" ∧ ref.checksum = recordedChecksum w a ref.name) ∨
        (ref.checksum = "" ∧ ∃ held,
          Storage.snapshotHeld d s (snapshotName a ref record) a = some held ∧
            checksumTree d.digest held = .ok (recordedChecksum w a ref.name)) := by
  have hwrites : Storage.Writes d s a ref s' (snapshotName a ref record) record.path := by
    simp only [Storage.execute, returns_bind, returns_lift, require_ok] at hexec
    obtain ⟨_, _, ⟨href', rfl⟩, hexec⟩ := hexec
    cases href.symm.trans href'
    rcases hk with hk | hk
    · simp only [hk] at hexec
      simp only [snapshotName, hk]
      exact Storage.restore_writes hrecord hexec
    · simp only [hk] at hexec
      simp only [snapshotName, hk]
      exact Storage.adopt_writes hrecord hexec
  obtain ⟨held, text, hheld, hsum, htold, hleft⟩ := hwrites
  rw [hleft written hwritten, Except.ok.injEq]
  constructor
  · intro htext
    by_cases hnone : ref.checksum = ""
    · exact .inr ⟨hnone, held, hheld, by rw [hsum, htext]⟩
    · have htext' : ref.checksum = text := not_not.mp fun hne => htold ⟨hnone, hne⟩
      exact .inl ⟨hnone, htext'.trans htext⟩
  · rintro (⟨hsome, hsame⟩ | ⟨-, held', hheld', hsame⟩)
    · have htext' : ref.checksum = text := not_not.mp fun hne => htold ⟨hsome, hne⟩
      exact htext'.symm.trans hsame
    · cases hheld.symm.trans hheld'
      exact Except.ok.inj (hsum.symm.trans hsame)

/-! ### A snapshot that has changed is written over a volume -/

namespace Rotten

/-- A digest that tells the good content from any other. -/
def digest (bytes : Bytes) : String := if (7 : UInt8) ∈ bytes then "good" else "rotten"

def drive : Drive :=
  { digest := digest, stat := fun _ => .ok (), walk := fun _ => .ok (), copy := fun _ _ => .ok ()
    removeAll := fun _ => .ok (), rename := fun _ _ => .ok (), backups := none }

/-- A directory with one file. -/
def tree (content : Bytes) : Tree := Table.ofEntries [("rows", { content := .ok content })]

def ref : VolumeRef := { name := "data" }

def record : VolumeRecord := { name := "data", path := "/volumes/data" }

/-- The node's copy of the snapshot is no longer what was recorded. -/
def storage : Storage :=
  { volumes := { root := "/volumes", volumes := Table.ofEntries [("data", record)] }
    snapshots := "/snapshots"
    files := Table.ofEntries
      [("/volumes/data", tree [7]), ("/snapshots/data/s1", tree [1])] }

def goal : Goal := { id := "files", workload := { name := "files" } }

def approval : Approval :=
  { id := "again", goalID := "files", scope := "restore-volume", granted := true }

def volume : Volume :=
  { name := "data", node := "n1", lastSnapshot := "s1", snapshotOrder := ["s1"]
    snapshots := Table.ofEntries [("s1", "good")] }

def world : World :=
  { nodes := Table.ofEntries [("n1", { id := "n1", healthy := true })]
    volumes := Table.ofEntries [("data", volume)]
    approvals := Table.ofEntries [("again", approval)] }

/-- The action names the snapshot and carries no checksum. -/
def restore : Action :=
  { id := "restore", kind := .restoreSnapshot, node := "n1", snapshot := "s1",
    volume := some ref }

def proposal : Proposal :=
  { id := "p1", agentID := "storage-agent", goalID := "files", basedOnRevision := 0,
    actions := [restore] }

def others (_ : Action) (_ : VolumeRef) : Proc Storage Evidence := Proc.lift (fail "unsupported")

def restored : Evidence :=
  volumeEvidence .volumeRestored "data"
    [("snapshot", "s1"), ("checksum", "rotten"), ("source", "local-snapshot")]

def after : Storage := (Storage.execute drive others restore storage).2

lemma executed : Proc.Returns (Storage.execute drive others restore) storage restored after := by
  refine Prod.ext ?_ rfl
  decide

end Rotten

open Rotten

/-- A restore that the kernel accepts and the node carries out, of a snapshot whose
checksum is not the recorded one. -/
theorem restored_unverified :
    authorize quietHost ⟨defaultPolicy⟩ { id := "storage-agent" } goal world proposal = .ok () ∧
      restore ∈ proposal.actions ∧
      Proc.Returns (Storage.execute drive others restore) storage restored after ∧
      after.files["/volumes/data"]? = some (tree [1]) ∧
      checksumTree digest (tree [1]) = .ok "rotten" ∧
      recordedChecksum world restore "data" = "good" := by
  refine ⟨by decide, by decide, executed, by decide, by decide, by decide⟩

/-- The equivalence at that restore. -/
theorem written_matches_iff_restored :
    checksumTree drive.digest (tree [1]) = .ok (recordedChecksum world restore ref.name) ↔
      (ref.checksum ≠ "" ∧
          ref.checksum = recordedChecksum world restore ref.name) ∨
        (ref.checksum = "" ∧ ∃ held, Storage.snapshotHeld drive storage
              (snapshotName restore ref record) restore = some held ∧
            checksumTree drive.digest held = .ok (recordedChecksum world restore ref.name)) := by
  have href : restore.volume = some ref := rfl
  have hrecord : storage.volumes.volumes[ref.name]? = some record := by decide
  have hwritten : after.files[record.path]? = some (tree [1]) := by decide
  exact written_matches_iff world (.inl rfl) href executed hrecord hwritten

end A4s.Daemon
