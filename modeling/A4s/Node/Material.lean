/-
The files of mounted secrets (`node/secret.go`).

* `SecretStore.mount`: `Secrets.Execute` for one reference, with the file it writes.
* `SecretStore.Mounted`: what a list of mounts leaves.
* `secret_files_iff`: **after all secrets of an accepted goal are mounted, each file holds its
  own secret exactly if no two secrets with different material share a file**.
-/
import A4s.Go.Run
import A4s.Control.Shape
import A4s.Node.Storage

namespace A4s.Daemon

open Go

/-- The secrets of a node and the files under their root. -/
structure SecretStore where
  secrets : Secrets
  files : Table Bytes := ∅

namespace SecretStore

/-- A `mount_secret` action for one reference: `os.WriteFile` replaces what the file held. -/
def mount (m : Machine) (allocation : String) (s : SecretStore) (ref : SecretRef) :
    Result SecretStore := do
  let out := Secrets.execute m
    { id := "mount", kind := .mountSecret, target := allocation, secret := some ref } s.secrets
  let e ← out.1
  return { secrets := out.2
           files := match e.observed["repeated"]?, m.fetch ref with
             | some "false", .ok material =>
               s.files.insert (s.secrets.pathFor allocation ref) material
             | _, _ => s.files }

variable {m : Machine} {allocation : String} {s t : SecretStore} {ref : SecretRef}

/-- A secret that was not mounted is fetched, written and recorded. -/
lemma mount_new (h : mount m allocation s ref = .ok t)
    (hnew : (s.secrets.mountsOf allocation)[ref.name]? = none) :
    ∃ material, m.fetch ref = .ok material ∧ t.secrets.root = s.secrets.root ∧
      t.secrets.mountsOf allocation = (s.secrets.mountsOf allocation).insert ref.name
        ⟨ref.name, ref.version, s.secrets.pathFor allocation ref⟩ ∧
      t.files = s.files.insert (s.secrets.pathFor allocation ref) material := by
  simp only [mount] at h
  generalize hout : Secrets.execute m { id := "mount", kind := .mountSecret, target := allocation
                                        secret := some ref } s.secrets = out at h
  obtain ⟨r, secrets⟩ := out
  obtain ⟨e, rfl, h⟩ := bind_ok.mp h
  cases h
  have hreturns : Proc.Returns _ s.secrets e secrets := hout
  simp only [Secrets.execute, returns_bind, returns_read, returns_guard,
    returns_lift, require_ok, Option.some.injEq] at hreturns
  obtain ⟨_, _, ⟨rfl, rfl⟩, _, _, ⟨-, rfl⟩, _, _, ⟨rfl, rfl⟩, hreturns⟩ := hreturns
  simp only [id_eq, hnew, Option.filter_none, returns_bind, returns_lift,
    returns_guard, returns_modify, returns_pure, wrapError_ok] at hreturns
  obtain ⟨material, _, ⟨hfetch, rfl⟩, _, _, ⟨-, rfl⟩, _, _, ⟨-, rfl⟩, _, _, ⟨-, rfl⟩, _, _, rfl,
    rfl, rfl⟩ := hreturns
  refine ⟨material, hfetch, rfl, ?_, ?_⟩
  · simp [Secrets.mountsOf]
  · simp [Secrets.mountEvidence, hfetch]

/-- Where the node puts a secret. -/
def pathOf (root allocation : String) (ref : SecretRef) : String :=
  Secrets.pathFor { root := root } allocation ref

/-- Secrets that share a file have the same material. -/
def Apart (m : Machine) (root allocation : String) (refs : List SecretRef) : Prop :=
  ∀ r ∈ refs, ∀ r' ∈ refs, pathOf root allocation r = pathOf root allocation r' →
    m.fetch r = m.fetch r'

/-- What is there after a list of secrets was mounted for an allocation. -/
structure Mounted (m : Machine) (root allocation : String) (refs : List SecretRef)
    (t : SecretStore) : Prop where
  rooted : t.secrets.root = root
  known : ∀ name : String, (t.secrets.mountsOf allocation)[name]?.isSome →
    name ∈ refs.map (·.name)
  recorded : ∀ ref ∈ refs, (∃ material, m.fetch ref = .ok material) ∧
    (t.secrets.mountsOf allocation)[ref.name]? =
      some ⟨ref.name, ref.version, pathOf root allocation ref⟩
  files : Apart m root allocation refs → ∀ ref ∈ refs,
    t.files[pathOf root allocation ref]? = (m.fetch ref).toOption

/-- Mounting one more secret. -/
lemma Mounted.mount {root : String} {refs : List SecretRef} (hs : Mounted m root allocation refs s)
    (hnew : ref.name ∉ refs.map (·.name)) (h : SecretStore.mount m allocation s ref = .ok t) :
    Mounted m root allocation (refs ++ [ref]) t := by
  have habsent : (s.secrets.mountsOf allocation)[ref.name]? = none := by
    rw [← Option.not_isSome_iff_eq_none]
    exact fun hsome => hnew (hs.known _ hsome)
  obtain ⟨material, hfetch, hroot, hmounts, hfiles⟩ := mount_new h habsent
  have hpath : s.secrets.pathFor allocation ref = pathOf root allocation ref := by
    rw [pathOf, Secrets.pathFor, Secrets.pathFor, hs.rooted]
  rw [hpath] at hmounts hfiles
  refine ⟨hroot.trans hs.rooted, fun name hname => ?_, fun other hother => ?_,
    fun hapart other hother => ?_⟩
  · rw [hmounts, get_insert] at hname
    split_ifs at hname with heq
    · simp [heq]
    · rw [List.map_append]
      exact List.mem_append_left _ (hs.known name hname)
  · rw [hmounts]
    rcases List.mem_append.mp hother with hold | hlast
    · have hne : other.name ≠ ref.name := fun heq =>
        hnew (heq ▸ List.mem_map_of_mem hold)
      rw [get_insert_of_ne hne]
      exact hs.recorded other hold
    · cases List.mem_singleton.mp hlast
      exact ⟨⟨material, hfetch⟩, get_insert_self ..⟩
  · rw [hfiles, get_insert]
    split_ifs with heq
    · rw [hapart other hother ref (by simp) heq, hfetch]
      rfl
    · have hold : other ∈ refs := by
        rcases List.mem_append.mp hother with hold | hlast
        · exact hold
        · cases List.mem_singleton.mp hlast
          exact absurd rfl heq
      exact hs.files (fun r hr r' hr' => hapart r (by simp [hr]) r' (by simp [hr'])) other hold

/-- Mounting a list of secrets with distinct names. -/
lemma mounted {refs : List SecretRef} (hnodup : (refs.map (·.name)).Nodup)
    (hempty : s.secrets.mountsOf allocation = ∅) (hrun : Run (mount m allocation) s refs t) :
    Mounted m s.secrets.root allocation refs t := by
  induction refs using List.reverseRecOn generalizing t with
  | nil =>
    cases hrun
    exact ⟨rfl, by simp [hempty], nofun, nofun⟩
  | append_singleton refs ref ih =>
    obtain ⟨u, hbefore, hlast⟩ := hrun.split
    rw [List.map_append, List.nodup_append] at hnodup
    cases hlast with
    | cons hstep hnil =>
      cases hnil
      exact (ih hnodup.1 hbefore).mount (fun h => hnodup.2.2 _ h _ (by simp) rfl) hstep

end SecretStore

/-- **After all secrets of an accepted goal are mounted for an allocation, in any order, the
file of each holds its material exactly if secrets that share a file have the same material**:
the file is named after the last element of the mount path alone, and admission compares whole
paths. -/
theorem secret_files_iff (m : Machine) (order : Ranging) (goal : Goal) (w : World)
    (allocation : String) (start : SecretStore) (refs : List SecretRef) {s : SecretStore}
    (haccepted : normalizeAndValidate order goal w = .ok ())
    (hrefs : refs.Perm goal.workload.secrets) (hempty : start.secrets.mountsOf allocation = ∅)
    (hrun : Run (SecretStore.mount m allocation) start refs s) :
    (∀ ref ∈ goal.workload.secrets, ∃ mount material,
        (s.secrets.mountsOf allocation)[ref.name]? = some mount ∧ m.fetch ref = .ok material ∧
        s.files[mount.path]? = some material) ↔
      SecretStore.Apart m start.secrets.root allocation goal.workload.secrets := by
  obtain ⟨hadmissible, -, -⟩ := normalizeAndValidate_ok_iff.mp haccepted
  have hnodup : (refs.map (·.name)).Nodup :=
    (hrefs.map _).nodup_iff.mpr (checkMounts_nodup hadmissible.secrets).1
  have hmounted := SecretStore.mounted hnodup hempty hrun
  constructor
  · intro h r hr r' hr' hpath
    obtain ⟨mount, material, hget, hfetch, hfile⟩ := h r hr
    obtain ⟨mount', material', hget', hfetch', hfile'⟩ := h r' hr'
    cases hget.symm.trans (hmounted.recorded r (hrefs.mem_iff.mpr hr)).2
    cases hget'.symm.trans (hmounted.recorded r' (hrefs.mem_iff.mpr hr')).2
    rw [hpath] at hfile
    cases hfile.symm.trans hfile'
    exact hfetch.trans hfetch'.symm
  · intro h ref href
    have hmem := hrefs.mem_iff.mpr href
    obtain ⟨⟨material, hfetch⟩, hget⟩ := hmounted.recorded ref hmem
    have hfile := hmounted.files (fun r hr r' hr' => h r (hrefs.mem_iff.mp hr) r'
      (hrefs.mem_iff.mp hr')) ref hmem
    rw [hfetch] at hfile
    exact ⟨_, material, hget, hfetch, hfile⟩

/-- A broker with one byte for the secret `two` and another one for the rest. -/
def byteMachine : Machine :=
  { quietMachine with fetch := fun ref => .ok [if ref.name = "two" then 2 else 1] }

/-- One secret that is mounted. -/
theorem secret_files_iff_one : ∃ s,
    Run (SecretStore.mount byteMachine "web-0") { secrets := { root := "/run/a4s" } }
        Shaped.twins.workload.secrets s ∧
      ((∀ ref ∈ Shaped.twins.workload.secrets, ∃ mount material,
          (s.secrets.mountsOf "web-0")[ref.name]? = some mount ∧
          byteMachine.fetch ref = .ok material ∧ s.files[mount.path]? = some material) ↔
        SecretStore.Apart byteMachine "/run/a4s" "web-0" Shaped.twins.workload.secrets) := by
  cases h : SecretStore.mount byteMachine "web-0" { secrets := { root := "/run/a4s" } }
      { name := "token", version := "1", mountPath := "/run/token" } with
  | ok s =>
    exact ⟨s, .cons h (.nil _), secret_files_iff byteMachine Shaped.listed Shaped.twins
      Shaped.world "web-0" { secrets := { root := "/run/a4s" } } _ (by decide +kernel) (.refl _)
      (by decide +kernel) (.cons h (.nil _))⟩
  | error fault =>
    have hok : (SecretStore.mount byteMachine "web-0" { secrets := { root := "/run/a4s" } }
      { name := "token", version := "1", mountPath := "/run/token" }).toOption.isSome = true := by
      decide +kernel
    rw [h] at hok
    cases hok

/-- Two secrets for `/etc/a/key` and `/etc/b/key`. -/
def collidingGoal : Goal :=
  { Shaped.web with workload := { Shaped.web.workload with
      secrets := [{ name := "one", version := "1", mountPath := "/etc/a/key" },
        { name := "two", version := "1", mountPath := "/etc/b/key" }] } }

/-- The goal is accepted, and the first secret is recorded at a file that holds the second. -/
theorem secret_files_collide :
    normalizeAndValidate Shaped.listed collidingGoal Shaped.world = .ok () ∧
      (collidingGoal.workload.secrets.foldlM (SecretStore.mount byteMachine "web-0")
          { secrets := { root := "/run/a4s" } }).toOption.map (fun s =>
        ((s.secrets.mountsOf "web-0")["one"]?.map (·.path), s.files["/run/a4s/web-0/key"]?)) =
      some (some "/run/a4s/web-0/key", some [2]) :=
  ⟨by decide +kernel, by decide +kernel⟩

end A4s.Daemon
