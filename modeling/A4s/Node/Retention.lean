/-
Retention on a node (`Volumes.prune` of `node/snapshot.go` and
`ContainerRuntime.collectImages` of `node/container_runtime.go`).

The node decides what to remove from what it finds: snapshot directories by the time of their
last modification, images by the list that comes with the action. It reports what it removed,
and with a dry run what it would have removed, in the same words; the projection drops what is
reported.

* `Shelf.prune`, `collectImages`: the code, with their loops.
* `prune_reports`, `collectImages_reports`: what is reported.
* `Surveys`: a dry run of either executor, with what it finds to remove.
* `dry_run_preserves_iff`: **when a dry run leaves the world's records alone.**
* `prune_protects_iff`: **when a prune leaves the snapshots that are to be kept.**
-/
import A4s.Control.Kernel
import A4s.Control.Pruning
import A4s.Node.Storage

namespace A4s.Daemon

open Go

/-! ### Snapshot directories -/

/-- An entry of a directory, with the time of its last modification in nanoseconds. -/
structure DirEntry where
  isDir : Bool := true
  modTime : Int64
  deriving DecidableEq

/-- The volumes of a node and what lies in their snapshot directories. -/
structure Shelf where
  volumes : Volumes
  directories : Table (Table DirEntry) := ∅
  deriving DecidableEq

/-- What the file system answers, by volume and snapshot. -/
structure Disk where
  readDir : String → Result Unit
  stat : String → String → Result Unit
  removeAll : String → String → Result Unit

/-- `strings.HasSuffix`. -/
def hasSuffix (text suffix : String) : Bool := decide (suffix.toList <:+ text.toList)

/-- The ids of `listSnapshotDirs`: staging directories are ignored. -/
def snapshotDirs (entries : Table DirEntry) : List String :=
  ((entries.toList.filter fun (name, entry) =>
    entry.isDir && !hasSuffix name ".partial" && !hasSuffix name ".fetched").map
      (·.1)).insertionSort (· ≤ ·)

/-- Newest first; of two of one time the later name. -/
def newer (x y : String × Int64) : Prop := x.2 > y.2 ∨ (x.2 = y.2 ∧ x.1 ≥ y.1)

instance (x y : String × Int64) : Decidable (newer x y) := inferInstanceAs (Decidable (_ ∨ _))

/-- The ids `recentSnapshots` protects. -/
def recentSnapshots (entries : Table DirEntry) (ids : List String) (retain : Int64) :
    List String :=
  let dated := ids.map fun id => (id, (entries[id]?.map DirEntry.modTime).getD 0)
  ((dated.insertionSort newer).take retain.toInt.toNat).map (·.1)

namespace Shelf

/-- The entries in the snapshot directory of a volume. -/
def entries (s : Shelf) (name : String) : Table DirEntry := s.directories[name]?.getD ∅

/-- `os.RemoveAll` of one snapshot. -/
def removeAll (d : Disk) (name id : String) : Proc Shelf Unit := do
  Proc.lift (d.removeAll name id)
  Proc.modify fun s =>
    { s with directories := s.directories.insert name ((s.entries name).erase id) }

/-- The loop of `prune` over the ids that are left: the last snapshot on disk stays, whatever
retention says. -/
def pruneLoop (d : Disk) (dryRun : Bool) (name : String) (total : ℕ) (protected_ : List String) :
    List String → List String → Proc Shelf (List String)
  | [], removed => pure removed
  | id :: rest, removed =>
    if id ∈ protected_ then pruneLoop d dryRun name total protected_ rest removed
    else if total - removed.length ≤ 1 then pure removed
    else do
      Proc.when (!dryRun)
        (Proc.wrapped s!"remove snapshot {quote id}: " (removeAll d name id))
      pruneLoop d dryRun name total protected_ rest (removed ++ [id])

/-- The node's own floor: keeping zero is keeping one. -/
def floor (retain : Int64) : Int64 := if retain < 1 then 1 else retain

/-- `Volumes.prune`. -/
def prune (d : Disk) (a : Action) (ref : VolumeRef) : Proc Shelf Evidence := do
  let s ← Proc.read id
  let record ← Proc.lift (require s.volumes.volumes[ref.name]?
    s!"volume {quote ref.name} does not exist on this node")
  Proc.wrapped "read snapshot directory: " (Proc.lift (d.readDir record.name))
  let entries := s.entries record.name
  let present := snapshotDirs entries
  Proc.lift (present.forM fun id =>
    wrapError s!"stat snapshot {quote id}: " (d.stat record.name id))
  let protected_ := recentSnapshots entries present (floor a.retain)
  let removed ← pruneLoop d a.dryRun record.name present.length protected_ present []
  return volumeEvidence .snapshotsPruned record.name
    [("removed", String.intercalate "\n" (removed.insertionSort (· ≤ ·))),
     ("dry_run", boolText a.dryRun)]

/-- The directories a prune finds beyond the retained ones. -/
def beyond (entries : Table DirEntry) (retain : Int64) : List String :=
  (snapshotDirs entries).filter fun id =>
    decide (id ∉ recentSnapshots entries (snapshotDirs entries) (floor retain))

section Prune

variable {d : Disk} {s s' : Shelf} {a : Action} {ref : VolumeRef} {e : Evidence} {dryRun : Bool}
  {name : String} {total : ℕ} {protected_ rest removed out : List String}

/-- **The loop lists what is not protected**, if that is not everything. -/
lemma returns_pruneLoop
    (hroom : (rest.filter fun id => decide (id ∉ protected_)) = [] ∨
      removed.length + (rest.filter fun id => decide (id ∉ protected_)).length < total)
    (h : Proc.Returns (pruneLoop d dryRun name total protected_ rest removed) s out s') :
    out = removed ++ (rest.filter fun id => decide (id ∉ protected_)) ∧
      (dryRun = true → s' = s) := by
  induction rest generalizing removed s with
  | nil =>
    rw [pruneLoop, returns_pure] at h
    obtain ⟨rfl, rfl⟩ := h
    exact ⟨(List.append_nil _).symm, fun _ => rfl⟩
  | cons id rest ih =>
    rw [pruneLoop] at h
    by_cases hid : id ∈ protected_
    · rw [if_pos hid] at h
      rw [List.filter_cons_of_neg (by simpa using hid)] at hroom ⊢
      exact ih hroom h
    · rw [List.filter_cons_of_pos (by simpa using hid)] at hroom ⊢
      have hmore := hroom.resolve_left (List.cons_ne_nil _ _)
      rw [List.length_cons] at hmore
      rw [if_neg hid, if_neg (by omega), returns_bind] at h
      obtain ⟨_, s₁, hremoved, hrest⟩ := h
      have hnext : (removed ++ [id]).length +
          (rest.filter fun id => decide (id ∉ protected_)).length < total := by
        rw [List.length_append, List.length_singleton]
        omega
      obtain ⟨hout, hdry⟩ := ih (.inr hnext) hrest
      refine ⟨?_, fun hk => ?_⟩
      · rw [hout, List.append_assoc, List.singleton_append]
      · rw [hk, Bool.not_true, Proc.when, if_neg Bool.false_ne_true, returns_pure] at hremoved
        rw [hdry hk, hremoved.2]

lemma one_le_floor (retain : Int64) : 1 ≤ (floor retain).toInt.toNat := by
  have hone : (1 : Int64).toInt = 1 := rfl
  rw [floor]
  split_ifs with hlow
  · rfl
  · have hle := Int64.le_iff_toInt_le.mp (Int64.not_lt.mp hlow)
    omega

/-- Of the ids there are, at least one is protected. -/
lemma exists_recent {entries : Table DirEntry} {ids : List String} (retain : Int64)
    (h : ids ≠ []) : ∃ id ∈ ids, id ∈ recentSnapshots entries ids (floor retain) := by
  set dated := ids.map fun id => (id, (entries[id]?.map DirEntry.modTime).getD 0) with hdated
  obtain ⟨x, sorted, hsorted⟩ : ∃ x sorted, dated.insertionSort newer = x :: sorted := by
    refine List.exists_cons_of_ne_nil fun hnil => h ?_
    have hlength := congrArg List.length hnil
    rw [List.length_insertionSort, hdated, List.length_map, List.length_nil] at hlength
    exact List.length_eq_zero_iff.mp hlength
  obtain ⟨n, hn⟩ : ∃ n, (floor retain).toInt.toNat = n + 1 :=
    Nat.exists_eq_add_of_le' (one_le_floor retain)
  have hx : x ∈ dated := by
    rw [← List.mem_insertionSort newer, hsorted]
    exact List.mem_cons_self
  obtain ⟨id, hid, rfl⟩ := List.mem_map.mp hx
  refine ⟨id, hid, ?_⟩
  rw [recentSnapshots, ← hdated, hsorted, hn, List.take_succ_cons, List.map_cons]
  exact List.mem_cons_self

/-- **What a prune reports**: every directory beyond the retained ones. A dry run leaves the
disk alone. -/
lemma prune_reports (h : Proc.Returns (prune d a ref) s e s') :
    ∃ record, s.volumes.volumes[ref.name]? = some record ∧ e.kind = .snapshotsPruned ∧
      e.target = record.name ∧
      e.observe "removed" = String.intercalate "\n"
        ((beyond (s.entries record.name) a.retain).insertionSort (· ≤ ·)) ∧
      (a.dryRun = true → s' = s) := by
  simp only [prune, returns_bind, returns_read, returns_lift, returns_wrapped,
    returns_pure, require_ok] at h
  obtain ⟨_, _, ⟨rfl, rfl⟩, record, _, ⟨hrecord, rfl⟩, _, _, ⟨-, rfl⟩, _, _, ⟨-, rfl⟩, removed, _,
    hloop, rfl, rfl⟩ := h
  set present := snapshotDirs (s.entries record.name) with hpresent
  -- one directory is protected, so the loop never comes to the last one
  have hroom : (present.filter fun id =>
        decide (id ∉ recentSnapshots (s.entries record.name) present (floor a.retain))) = [] ∨
      ([] : List String).length + (present.filter fun id =>
        decide (id ∉ recentSnapshots (s.entries record.name) present (floor a.retain))).length <
        present.length := by
    by_cases hnone : present = []
    · rw [hnone]
      exact .inl rfl
    · obtain ⟨id, hid, hrecent⟩ := exists_recent a.retain hnone
      rw [List.length_nil, Nat.zero_add]
      exact .inr (List.length_filter_lt_length_iff_exists.mpr ⟨id, hid, by simpa using hrecent⟩)
  obtain ⟨hremoved, hdry⟩ := returns_pruneLoop hroom hloop
  refine ⟨record, hrecord, rfl, rfl, ?_, hdry⟩
  rw [hremoved]
  rfl

end Prune

end Shelf

/-! ### Images -/

/-- A backend that can enumerate and reclaim images. -/
structure Collector where
  listImages : Result (List String)
  removeImage : String → Result Bool

/-- The loop of `collectImages`, with what was reclaimed and what was skipped. -/
def collectLoop (c : Collector) (a : Action) :
    List String → List String → List String → Result (List String × List String)
  | [], reclaimed, skipped => .ok (reclaimed, skipped)
  | image :: rest, reclaimed, skipped =>
    if image ∈ a.protected_ then collectLoop c a rest reclaimed (skipped ++ [image])
    else if a.dryRun then collectLoop c a rest (reclaimed ++ [image]) skipped
    else do
      let removed ← wrapError s!"remove image {quote image}: " (c.removeImage image)
      collectLoop c a rest (if removed then reclaimed ++ [image] else reclaimed) skipped

/-- `ContainerRuntime.collectImages`, on a backend that may not be a collector. -/
def collectImages (backend : Option Collector) (a : Action) : Result Evidence := do
  let c ← require backend "runtime backend cannot collect images"
  let present ← wrapError "list images: " c.listImages
  let (reclaimed, skipped) ← collectLoop c a present [] []
  return { kind := .imagesCollected, target := a.node
           observed := Table.ofEntries
             [("reclaimed", String.intercalate "\n" (reclaimed.insertionSort (· ≤ ·))),
              ("protected", String.intercalate "\n" (skipped.insertionSort (· ≤ ·))),
              ("dry_run", boolText a.dryRun), ("scanned", toString present.length)] }

/-- The images that are not protected. -/
def unprotected (a : Action) (images : List String) : List String :=
  images.filter fun image => decide (image ∉ a.protected_)

section Images

variable {c : Collector} {a : Action} {images reclaimed skipped : List String} {e : Evidence}

/-- **A dry run lists every image that is not protected.** -/
lemma collectLoop_dryRun (hdry : a.dryRun = true) {out : List String × List String}
    (h : collectLoop c a images reclaimed skipped = .ok out) :
    out.1 = reclaimed ++ unprotected a images := by
  induction images generalizing reclaimed skipped with
  | nil =>
    cases h
    exact (List.append_nil _).symm
  | cons image images ih =>
    rw [collectLoop] at h
    by_cases himage : image ∈ a.protected_
    · rw [if_pos himage] at h
      rw [ih h, unprotected, unprotected, List.filter_cons_of_neg (by simpa using himage)]
    · rw [if_neg himage, if_pos hdry] at h
      rw [ih h, unprotected, unprotected, List.filter_cons_of_pos (by simpa using himage),
        List.append_assoc, List.singleton_append]

/-- What a dry run of the collection reports. -/
lemma collectImages_reports (hdry : a.dryRun = true) (h : collectImages (some c) a = .ok e) :
    ∃ present, c.listImages = .ok present ∧ e.kind = .imagesCollected ∧ e.target = a.node ∧
      e.observe "reclaimed" =
        String.intercalate "\n" ((unprotected a present).insertionSort (· ≤ ·)) := by
  simp only [collectImages, require_some_bind] at h
  obtain ⟨present, hlist, h⟩ := bind_ok.mp h
  obtain ⟨⟨reclaimed, skipped⟩, hloop, h⟩ := bind_ok.mp h
  cases h
  refine ⟨present, by simpa using hlist, rfl, rfl, ?_⟩
  have hreclaimed := collectLoop_dryRun hdry hloop
  rw [List.nil_append] at hreclaimed
  rw [← hreclaimed]
  rfl

end Images

/-! ### Dry runs -/

/-- What an executor finds to remove. -/
inductive Sweep where
  | snapshots (volume : String) (ids : List String)
  | images (node : String) (refs : List String)

namespace Sweep

/-- The evidence reports the sweep: its lines are those of what was found. -/
def Reported (e : Evidence) : Sweep → Prop
  | .snapshots volume ids => e.kind = .snapshotsPruned ∧ e.target = volume ∧
      ∀ line, line ∈ splitLines (e.observe "removed") ↔ line ∈ ids.flatMap splitLines
  | .images node refs => e.kind = .imagesCollected ∧ e.target = node ∧
      ∀ line, line ∈ splitLines (e.observe "reclaimed") ↔ line ∈ refs.flatMap splitLines

/-- Nothing of what was found is on record in the world. -/
def Unrecorded (w : World) : Sweep → Prop
  | .snapshots volume ids => ∀ v, w.volumes[volume]? = some v → Misses v (ids.flatMap splitLines)
  | .images node refs => ∀ n, w.nodes[node]? = some n →
      ∀ line ∈ refs.flatMap splitLines, n.images[line]? = none

end Sweep

/-- A dry run of the in-memory data plane or of a node, with what it finds to remove. -/
inductive Surveys : Action → Evidence → Sweep → Prop
  | memoryPrune {host : Host} {w : World} {v : Volume} {ref : VolumeRef} {a : Action} {e : Evidence}
      (hk : a.kind = .pruneSnapshots) (hdry : a.dryRun = true) (href : a.volume = some ref)
      (hv : w.volumes[ref.name]? = some v) (h : MemoryExecutor.execute host w a = .ok e) :
      Surveys a e (.snapshots ref.name (prunableSnapshots v a.retain))
  | memoryCollect {host : Host} {w : World} {a : Action} {e : Evidence}
      (hk : a.kind = .collectImages) (hdry : a.dryRun = true)
      (h : MemoryExecutor.execute host w a = .ok e) : Surveys a e (.images a.node [])
  | nodePrune {d : Disk} {s s' : Shelf} {record : VolumeRecord} {ref : VolumeRef} {a : Action}
      {e : Evidence} (hk : a.kind = .pruneSnapshots) (hdry : a.dryRun = true)
      (href : a.volume = some ref) (hrecord : s.volumes.volumes[ref.name]? = some record)
      (h : Proc.Returns (Shelf.prune d a ref) s e s') :
      Surveys a e (.snapshots record.name (Shelf.beyond (s.entries record.name) a.retain))
  | nodeCollect {c : Collector} {present : List String} {a : Action} {e : Evidence}
      (hk : a.kind = .collectImages) (hdry : a.dryRun = true)
      (hpresent : c.listImages = .ok present) (h : collectImages (some c) a = .ok e) :
      Surveys a e (.images a.node (unprotected a present))
  /-- what is reported is signed and dated on its way -/
  | stamped {a : Action} {e : Evidence} {sweep : Sweep} (h : Surveys a e sweep)
      (observedAt expiresAt : Time) (source : String) :
      Surveys a { e with observedAt := observedAt, expiresAt := expiresAt, source := source } sweep

/-- The copies of every volume and the images of every node are the same. -/
structure Preserved (w w' : World) : Prop where
  volumes : ∀ name : String,
    w'.volumes[name]?.map Volume.copies = w.volumes[name]?.map Volume.copies
  nodes : ∀ name : String, w'.nodes[name]?.map Node.images = w.nodes[name]?.map Node.images

section DryRun

variable {w w' : World} {a : Action} {e : Evidence} {sweep : Sweep}

lemma mem_lines_sorted {text : String} {ids : List String}
    (h : text = String.intercalate "\n" (ids.insertionSort (· ≤ ·))) (line : String) :
    line ∈ splitLines text ↔ line ∈ ids.flatMap splitLines := by
  rw [h, splitLines_join, List.mem_flatMap, List.mem_flatMap]
  simp only [List.mem_insertionSort]

/-- **A dry run reports what it found.** -/
lemma Surveys.reported (h : Surveys a e sweep) : sweep.Reported e := by
  induction h with
  | memoryPrune hk hdry href hv h =>
    simp only [MemoryExecutor.execute, hk, volumeRef, existingVolume, href, hv,
      require_some_bind, pure_ok] at h
    subst h
    refine ⟨rfl, rfl, fun line => ?_⟩
    rw [← splitLines_join]
    rfl
  | memoryCollect hk hdry h =>
    simp only [MemoryExecutor.execute, hk] at h
    cases h
    exact ⟨rfl, rfl, fun line => Iff.rfl⟩
  | nodePrune hk hdry href hrecord h =>
    obtain ⟨record, hrecord', hkind, htarget, hremoved, -⟩ := Shelf.prune_reports h
    cases hrecord.symm.trans hrecord'
    exact ⟨hkind, htarget, mem_lines_sorted hremoved⟩
  | nodeCollect hk hdry hpresent h =>
    obtain ⟨present, hpresent', hkind, htarget, hreclaimed⟩ := collectImages_reports hdry h
    cases hpresent.symm.trans hpresent'
    exact ⟨hkind, htarget, mem_lines_sorted hreclaimed⟩
  | @stamped a e sweep h observedAt expiresAt source ih =>
    cases sweep with
    | snapshots | images => exact ih

lemma misses_congr {v : Volume} {lines lines' : List String}
    (h : ∀ line, line ∈ lines ↔ line ∈ lines') : Misses v lines ↔ Misses v lines' := by
  constructor
  · rintro ⟨hsnapshots, hbackups, horder, hlast⟩
    exact ⟨fun line hline => hsnapshots line ((h line).mpr hline),
      fun line hline => hbackups line ((h line).mpr hline),
      fun line hline => horder line ((h line).mpr hline), hlast⟩
  · rintro ⟨hsnapshots, hbackups, horder, hlast⟩
    exact ⟨fun line hline => hsnapshots line ((h line).mp hline),
      fun line hline => hbackups line ((h line).mp hline),
      fun line hline => horder line ((h line).mp hline), hlast⟩

/-- One entry of a table was rewritten: what is read off the entries is the same exactly if it
is the same for this one. -/
lemma map_insert_eq_iff {α β : Type} {f : α → β} {t : Table α} {k : String} {x x' : α}
    (hget : t[k]? = some x) :
    (∀ j : String, (t.insert k x')[j]?.map f = t[j]?.map f) ↔ f x' = f x := by
  constructor
  · intro h
    have hk := h k
    rw [get_insert_self, hget, Option.map_some, Option.map_some] at hk
    exact Option.some.inj hk
  · intro h j
    exact Table.map_get_insert hget h j

/-- **Dry runs and the records of the world.** A dry run of a prune or a collection, on a node
or in the in-memory data plane, leaves every snapshot, backup and image on record exactly if
nothing of what it finds to remove is on record. -/
theorem dry_run_preserves_iff (hsurvey : Surveys a e sweep) (hproject : project w e = .ok w') :
    Preserved w w' ↔ sweep.Unrecorded w := by
  have hreported := hsurvey.reported
  cases sweep with
  | snapshots volume ids =>
    obtain ⟨hk, rfl, hlines⟩ := hreported
    obtain ⟨v, hv, hnodes, hvolumes⟩ := project_snapshotsPruned hk hproject
    have hunrecorded : (Sweep.snapshots e.target ids).Unrecorded w ↔
        (pruned v (splitLines (e.observe "removed"))).copies = v.copies := by
      rw [copies_pruned_iff, misses_congr hlines]
      refine ⟨fun h => h v hv, fun h v' hv' => ?_⟩
      cases hv.symm.trans hv'
      exact h
    rw [hunrecorded]
    constructor
    · intro h
      have hcopies := h.volumes
      rw [hvolumes] at hcopies
      exact (map_insert_eq_iff hv).mp hcopies
    · intro h
      refine ⟨?_, fun name => by rw [hnodes]⟩
      rw [hvolumes]
      exact (map_insert_eq_iff hv).mpr h
  | images node refs =>
    obtain ⟨hk, rfl, hlines⟩ := hreported
    obtain ⟨n, hn, hvolumes, hnodes⟩ := project_imagesCollected hk hproject
    have hunrecorded : (Sweep.images e.target refs).Unrecorded w ↔
        (splitLines (e.observe "reclaimed")).foldl (fun t image => t.erase image) n.images =
          n.images := by
      rw [Table.foldl_erase_eq_self_iff]
      constructor
      · intro h line hline
        exact h n hn line ((hlines line).mp hline)
      · intro h n' hn' line hline
        cases hn.symm.trans hn'
        exact h line ((hlines line).mpr hline)
    rw [hunrecorded]
    constructor
    · intro h
      have himages := h.nodes
      rw [hnodes] at himages
      exact (map_insert_eq_iff hn).mp himages
    · intro h
      refine ⟨fun name => by rw [hvolumes], ?_⟩
      rw [hnodes]
      exact (map_insert_eq_iff hn).mpr h

end DryRun

namespace Retention

def data : VolumeRef := { name := "data" }

/-- Two snapshots, the older of which is not kept. -/
def volume : Volume :=
  { name := "data", node := "n1", lastSnapshot := "s2", snapshotOrder := ["s1", "s2"]
    snapshots := Table.ofEntries [("s1", "sum-1"), ("s2", "sum-2")] }

def world : World :=
  { nodes := Table.ofEntries
      [("n1", { id := "n1", capacity := ⟨1000, 1000⟩, healthy := true
                images := Table.ofEntries [("web@1", true)] })]
    volumes := Table.ofEntries [("data", volume)] }

def prune : Action :=
  { id := "prune", kind := .pruneSnapshots, target := "data", volume := some data, retain := 1
    dryRun := true }

def collect : Action := { id := "collect", kind := .collectImages, node := "n1", dryRun := true }

def record : VolumeRecord := { name := "data", path := "/volumes/data" }

def volumes : Volumes :=
  { root := "/volumes", volumes := Table.ofEntries [("data", record)] }

/-- The node has the same snapshots. -/
def shelf : Shelf :=
  { volumes := volumes
    directories := Table.ofEntries
      [("data", Table.ofEntries [("s1", { modTime := 1 }), ("s2", { modTime := 2 })])] }

def disk : Disk :=
  { readDir := fun _ => .ok (), stat := fun _ _ => .ok (), removeAll := fun _ _ => .ok () }

def collector : Collector := { listImages := .ok ["web@1"], removeImage := fun _ => .ok true }

/-- What a prune reports; the in-memory data plane counts as well. -/
def pruned (counted : List (String × String)) : Evidence :=
  { kind := .snapshotsPruned, target := "data"
    observed := Table.ofEntries ([("removed", "s1")] ++ counted ++ [("dry_run", "true")]) }

def collected : Evidence :=
  { kind := .imagesCollected, target := "n1"
    observed := Table.ofEntries
      [("reclaimed", "web@1"), ("protected", ""), ("dry_run", "true"), ("scanned", "1")] }

/-- The world after one report. -/
def after (e : Evidence) : World := (project world e).toOption.getD world

lemma memory_prunes : MemoryExecutor.execute quietHost world prune =
    .ok (pruned [("retained", "1")]) := by decide +kernel

lemma node_prunes : Proc.Returns (Shelf.prune disk prune data) shelf (pruned []) shelf := by
  unfold Proc.Returns
  decide +kernel

lemma node_collects : collectImages (some collector) collect = .ok collected := by decide +kernel

end Retention

open Retention

/-- Dry runs make the world forget a snapshot that is on disk and an image that is there. -/
theorem dry_run_forgets :
    (MemoryExecutor.execute quietHost world prune = .ok (Retention.pruned [("retained", "1")]) ∧
      project world (Retention.pruned [("retained", "1")]) =
        .ok (after (Retention.pruned [("retained", "1")])) ∧
      ¬Preserved world (after (Retention.pruned [("retained", "1")]))) ∧
    (Proc.Returns (Shelf.prune disk prune data) shelf (Retention.pruned []) shelf ∧
      project world (Retention.pruned []) = .ok (after (Retention.pruned [])) ∧
      ¬Preserved world (after (Retention.pruned []))) ∧
    collectImages (some collector) collect = .ok collected ∧
    project world collected = .ok (after collected) ∧
    ¬Preserved world (after collected) := by
  refine ⟨⟨memory_prunes, by decide +kernel, fun h => ?_⟩,
    ⟨node_prunes, by decide +kernel, fun h => ?_⟩, node_collects,
    by decide +kernel, fun h => ?_⟩
  · exact absurd (h.volumes "data") (by decide +kernel)
  · exact absurd (h.volumes "data") (by decide +kernel)
  · exact absurd (h.nodes "n1") (by decide +kernel)

theorem dry_run_preserves_iff_images :
    Preserved world (after collected) ↔
      (Sweep.images "n1" ["web@1"]).Unrecorded world := by
  have hlist : collector.listImages = .ok ["web@1"] := rfl
  exact dry_run_preserves_iff (.nodeCollect rfl rfl hlist node_collects) (by decide +kernel)

/-! ### What a prune must keep -/

/-- The snapshots on record that are to be kept: the last one, those with a backup, and the
most recent ones of the order. -/
def Keeps (v : Volume) (retain : Int64) (id : String) : Prop :=
  v.snapshots[id]?.isSome ∧ (id = v.lastSnapshot ∨ v.backups[id]?.isSome ∨
    id ∈ v.snapshotOrder.reverse.take (Shelf.floor retain).toInt.toNat)

/-- The snapshot and its backup are on record as before. -/
def StillRecorded (w' : World) (name : String) (v : Volume) (id : String) : Prop :=
  ∃ v', w'.volumes[name]? = some v' ∧ v'.snapshots[id]? = v.snapshots[id]? ∧
    v'.backups[id]? = v.backups[id]?

lemma pruned_snapshots (v : Volume) (lines : List String) (id : String) :
    (pruned v lines).snapshots[id]? = (if id ∈ lines then none else v.snapshots[id]?) ∧
      (pruned v lines).backups[id]? = (if id ∈ lines then none else v.backups[id]?) := by
  have hleft : (pruned v lines).snapshots = lines.foldl (fun t id => t.erase id) v.snapshots ∧
      (pruned v lines).backups = lines.foldl (fun t id => t.erase id) v.backups := by
    rw [pruned, foldl_dropSnapshot]
    dsimp only
    split_ifs
    · exact ⟨rfl, rfl⟩
    · exact ⟨rfl, rfl⟩
  rw [hleft.1, hleft.2, Table.get_foldl_erase, Table.get_foldl_erase]
  exact ⟨rfl, rfl⟩

/-- **Protection on the node.** After a node pruned a volume and its report was projected, the
world still records every snapshot that is to be kept exactly if none of them is beyond the
most recently modified directories of the node. -/
theorem prune_protects_iff {d : Disk} {s s' : Shelf} {a : Action} {ref : VolumeRef}
    {record : VolumeRecord} {e : Evidence} {w w' : World} {v : Volume}
    (hrecord : s.volumes.volumes[ref.name]? = some record)
    (hexec : Proc.Returns (Shelf.prune d a ref) s e s') (hv : w.volumes[record.name]? = some v)
    (hproject : project w e = .ok w') :
    (∀ id, Keeps v a.retain id → StillRecorded w' record.name v id) ↔
      ∀ dir ∈ snapshotDirs (s.entries record.name),
        dir ∉ recentSnapshots (s.entries record.name) (snapshotDirs (s.entries record.name))
          (Shelf.floor a.retain) →
        ∀ line ∈ splitLines dir, ¬Keeps v a.retain line := by
  obtain ⟨record', hrecord', hk, htarget, hremoved, -⟩ := Shelf.prune_reports hexec
  cases hrecord.symm.trans hrecord'
  have hlines := mem_lines_sorted hremoved
  obtain ⟨v', hv', -, hvolumes⟩ := project_snapshotsPruned hk hproject
  rw [htarget, hv] at hv'
  cases hv'
  have hafter : w'.volumes[record.name]? =
      some (pruned v (splitLines (e.observe "removed"))) := by
    rw [hvolumes, htarget, get_insert_self]
  constructor
  · -- a line that names a snapshot to be kept would drop it
    intro h dir hdir hbeyond line hline hkeeps
    obtain ⟨v', hv', hsnapshot, -⟩ := h line hkeeps
    rw [hafter] at hv'
    cases hv'
    have hmem : line ∈ splitLines (e.observe "removed") :=
      (hlines line).mpr (List.mem_flatMap.mpr
        ⟨dir, List.mem_filter.mpr ⟨hdir, decide_eq_true hbeyond⟩, hline⟩)
    rw [(pruned_snapshots v _ line).1, if_pos hmem] at hsnapshot
    have hsome := hkeeps.1
    rw [← hsnapshot] at hsome
    cases hsome
  · intro h id hkeeps
    have hnot : id ∉ splitLines (e.observe "removed") := by
      intro hmem
      obtain ⟨dir, hdir, hline⟩ := List.mem_flatMap.mp ((hlines id).mp hmem)
      obtain ⟨hpresent, hbeyond⟩ := List.mem_filter.mp hdir
      exact h dir hpresent (of_decide_eq_true hbeyond) id hline hkeeps
    refine ⟨_, hafter, ?_, ?_⟩
    · rw [(pruned_snapshots v _ id).1, if_neg hnot]
    · rw [(pruned_snapshots v _ id).2, if_neg hnot]

namespace Retention

/-- The older snapshot was shipped off the host. -/
def shipped : Volume := { volume with backups := Table.ofEntries [("s1", "vault")] }

def stocked : World := { world with volumes := Table.ofEntries [("data", shipped)] }

/-- The same prune, for real. -/
def sweep : Action := { prune with dryRun := false }

def proposal : Proposal :=
  { id := "storage-agent-r0", agentID := "storage-agent", goalID := "files", basedOnRevision := 0
    actions := [sweep] }

def goal : Goal := { id := "files", workload := { name := "files" } }

/-- The same snapshots, the older of which was written to last. -/
def touched : Shelf :=
  { volumes := volumes
    directories := Table.ofEntries
      [("data", Table.ofEntries [("s1", { modTime := 3 }), ("s2", { modTime := 2 })])] }

def swept (id : String) : Evidence :=
  { kind := .snapshotsPruned, target := "data"
    observed := Table.ofEntries [("removed", id), ("dry_run", "false")] }

def left (id : String) : World := (project stocked (swept id)).toOption.getD stocked

/-- The shelf after one snapshot was removed. -/
def thinned (s : Shelf) (id : String) : Shelf :=
  { s with directories := s.directories.insert "data" ((s.entries "data").erase id) }

lemma sweeps : Proc.Returns (Shelf.prune disk sweep data) shelf (swept "s1") (thinned shelf "s1") ∧
    Proc.Returns (Shelf.prune disk sweep data) touched (swept "s2") (thinned touched "s2") := by
  unfold Proc.Returns
  decide +kernel

end Retention

/-- An accepted prune removes a snapshot that has a backup; and if the older snapshot was
written to last, it removes the last snapshot, the most recent of the order. -/
theorem prune_unprotected :
    authorize quietHost ⟨defaultPolicy⟩ { id := "storage-agent" } goal stocked proposal = .ok () ∧
      shipped.snapshots.toList.map (·.1) = snapshotDirs (shelf.entries "data") ∧
      shipped.snapshots.toList.map (·.1) = snapshotDirs (touched.entries "data") ∧
      (Proc.Returns (Shelf.prune disk sweep data) shelf (swept "s1") (thinned shelf "s1") ∧
        project stocked (swept "s1") = .ok (left "s1") ∧
        Keeps shipped sweep.retain "s1" ∧
        ¬StillRecorded (left "s1") "data" shipped "s1") ∧
      Proc.Returns (Shelf.prune disk sweep data) touched (swept "s2") (thinned touched "s2") ∧
      project stocked (swept "s2") = .ok (left "s2") ∧
      Keeps shipped sweep.retain "s2" ∧
      ¬StillRecorded (left "s2") "data" shipped "s2" := by
  have hgone (id : String) (hid : (left id).volumes["data"]?.bind (·.snapshots[id]?) ≠
        shipped.snapshots[id]?) :
      ¬StillRecorded (left id) "data" shipped id := by
    rintro ⟨v', hv', hsnapshot, -⟩
    rw [hv'] at hid
    exact hid hsnapshot
  exact ⟨by decide +kernel, by decide +kernel, by decide +kernel,
    ⟨sweeps.1, by decide +kernel, ⟨by decide +kernel, .inr (.inl (by decide +kernel))⟩,
      hgone "s1" (by decide +kernel)⟩,
    sweeps.2, by decide +kernel, ⟨by decide +kernel, .inl rfl⟩,
    hgone "s2" (by decide +kernel)⟩

theorem prune_protects_iff_shipped :
    (∀ id, Keeps shipped sweep.retain id →
        StillRecorded (left "s1") record.name shipped id) ↔
      ∀ dir ∈ snapshotDirs (shelf.entries record.name),
        dir ∉ recentSnapshots (shelf.entries record.name) (snapshotDirs (shelf.entries record.name))
          (Shelf.floor sweep.retain) →
        ∀ line ∈ splitLines dir, ¬Keeps shipped sweep.retain line := by
  have hrecord : shelf.volumes.volumes[data.name]? = some record := by
    decide +kernel
  have hvolume : stocked.volumes[record.name]? = some shipped := by
    decide +kernel
  have hproject : project stocked (swept "s1") = .ok (left "s1") := by
    decide +kernel
  exact prune_protects_iff hrecord sweeps.1 hvolume hproject

end A4s.Daemon
