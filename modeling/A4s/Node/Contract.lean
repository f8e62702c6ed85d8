/-
The node keeps the contract of executors.

What follows from acceptance is proved of every executor whose evidence `Reports` the
action. Here the node's dispatcher is shown to be one.

* `execute_reports`: each capability reports the action it carried out.
* `perform_reports`: **so does the dispatcher**, after it has attributed the evidence.
-/
import A4s.Node.Creation

namespace A4s.Daemon

open Go

section Contract

variable {wire : Wire} {config : Config} {c : Capabilities} {m : Machine} {a : Action}
  {d d' : NodeState} {e : Evidence}

/-- The kinds of actions that are about the allocation they target. -/
def aboutTarget : ActionKind → Bool
  | .startAllocation | .stopAllocation | .deleteAllocation | .attachNetwork | .mountSecret
  | .grantTools | .drainAllocation => true
  | _ => false

lemma reports_about (hk : aboutTarget a.kind = true)
    (hkind : e.kind ∈ a.kind.reports) (htarget : e.target = a.target) : Reports a e := by
  have hsubject : a.subject = some e.target := by
    rw [htarget]
    cases hkind : a.kind <;> simp_all [aboutTarget, Action.subject,
      ActionKind.onVolume]
  refine Reports.plain hkind hsubject ?_ ?_ ?_ <;>
  · intro hother
    rw [hother] at hk
    cases hk

lemma pullImage_reports (hk : a.kind = .pullImage) (h : pullImage m a = .ok e) :
    Reports a e := by
  obtain ⟨_, -, h⟩ := bind_ok.mp h
  obtain ⟨_, -, h⟩ := bind_ok.mp h
  simp only [refuseIf_bind_ok, pure_ok] at h
  obtain ⟨-, rfl⟩ := h
  exact Reports.plain (by simp [hk, ActionKind.reports])
    (by simp [Action.subject, hk, ActionKind.onVolume]) (by simp [hk]) (by simp [hk])
    (by simp [hk])

lemma startAllocation_spec (h : startAllocation m a = .ok e) :
    e.kind = .allocationRunning ∧ e.target = a.target := by
  simp only [startAllocation, refuseIf_bind_ok] at h
  obtain ⟨_, -, h⟩ := bind_ok.mp h.2
  cases h
  exact ⟨rfl, rfl⟩

lemma stopAllocation_spec (h : stopAllocation m a = .ok e) :
    e.kind = .allocationStopped ∧ e.target = a.target := by
  simp only [stopAllocation, refuseIf_bind_ok] at h
  obtain ⟨_, -, h⟩ := bind_ok.mp h.2
  cases h
  exact ⟨rfl, rfl⟩

lemma attachNetwork_spec (h : attachNetwork m a = .ok e) :
    e.kind = .networkAttached ∧ e.target = a.target := by
  simp only [attachNetwork, refuseIf_bind_ok] at h
  obtain ⟨_, -, h⟩ := bind_ok.mp h.2
  simp only [refuseIf_bind_ok, pure_ok] at h
  obtain ⟨-, -, rfl⟩ := h
  exact ⟨rfl, rfl⟩

lemma deleteAllocation_spec (h : Proc.Returns (deleteAllocation m a) d e d') :
    e.kind = .allocationDeleted ∧ e.target = a.target := by
  simp only [deleteAllocation, returns_bind, returns_pure] at h
  obtain ⟨_, _, -, _, _, -, _, _, -, rfl, -⟩ := h
  exact ⟨rfl, rfl⟩

/-- What a volume action's evidence is about. -/
lemma volume_subject {ref : VolumeRef} (hon : a.kind.onVolume = true)
    (href : a.volume = some ref) : a.subject = some ref.name := by
  simp [Action.subject, hon, href]

/-- **Each capability reports the action it carried out.** A creation is completed by
the dispatcher. -/
theorem execute_reports (hcreate : a.kind ≠ .createAllocation)
    (h : Proc.Returns (CompositeRuntime.execute c m a) d e d') : Reports a e := by
  unfold CompositeRuntime.execute at h
  cases hk : a.kind <;> simp only [hk] at h
  case createAllocation => exact absurd hk hcreate
  case publishRoute | applyPolicy | publishZone | databaseBackup | collectImages =>
    exact c.elsewhere_reports (returns_lift.mp h).1
  case snapshotVolume | restoreSnapshot | backupSnapshot | quiesceVolume | transferVolume
      | adoptVolume | pruneSnapshots | verifyBackup =>
    simp only [returns_bind, onVolumes, returns_onField] at h
    obtain ⟨_, _, -, _, hcontents, -⟩ := h
    exact c.contents_reports hcontents
  case createVolume =>
    simp only [returns_bind, onVolumes, returns_onField, volumeOf, returns_lift, require_ok] at h
    obtain ⟨ref, _, ⟨href, -⟩, _, hrun, -⟩ := h
    obtain ⟨hkind, htarget⟩ := (Volumes.create_spec hrun).1
    exact Reports.ofVolume href (by rw [hk]; rfl) (by simp [hk, hkind, ActionKind.reports]) htarget
      (by simp [hk]) (by simp [hk])
  case attachVolume =>
    simp only [returns_bind, onVolumes, returns_onField, volumeOf, returns_lift, require_ok] at h
    obtain ⟨ref, _, ⟨href, -⟩, _, hrun, -⟩ := h
    obtain ⟨hkind, htarget, hholder⟩ := (Volumes.attach_spec hrun).1
    refine ⟨by simp [hk, hkind, ActionKind.reports], ?_, by simp [hk], fun _ => ?_⟩
    · rw [volume_subject (by rw [hk]; rfl) href, htarget]
    · rw [Evidence.observe, hholder]
      rfl
  case detachVolume =>
    simp only [returns_bind, onVolumes, returns_onField, volumeOf, returns_lift, require_ok] at h
    obtain ⟨ref, _, ⟨href, -⟩, _, hrun, -⟩ := h
    obtain ⟨hkind, htarget, hholder⟩ := Volumes.detach_spec hrun
    refine ⟨by simp [hk, hkind, ActionKind.reports], ?_, by simp [hk], fun _ => ?_⟩
    · rw [volume_subject (by rw [hk]; rfl) href, htarget]
    · rw [Evidence.observe, hholder]
      rfl
  case pullImage => exact pullImage_reports hk (returns_lift.mp h).1
  case startAllocation =>
    obtain ⟨hkind, htarget⟩ := startAllocation_spec (returns_lift.mp h).1
    exact reports_about (by rw [hk]; rfl) (by simp [hk, hkind, ActionKind.reports]) htarget
  case stopAllocation =>
    obtain ⟨hkind, htarget⟩ := stopAllocation_spec (returns_lift.mp h).1
    exact reports_about (by rw [hk]; rfl) (by simp [hk, hkind, ActionKind.reports]) htarget
  case attachNetwork =>
    obtain ⟨hkind, htarget⟩ := attachNetwork_spec (returns_lift.mp h).1
    exact reports_about (by rw [hk]; rfl) (by simp [hk, hkind, ActionKind.reports]) htarget
  case deleteAllocation =>
    simp only [returns_bind, returns_pure] at h
    obtain ⟨_, _, hdelete, _, _, -, rfl, -⟩ := h
    obtain ⟨hkind, htarget⟩ := deleteAllocation_spec hdelete
    exact reports_about (by rw [hk]; rfl) (by simp [hk, hkind, ActionKind.reports]) htarget
  case mountSecret =>
    obtain ⟨_, _, -, hrun, -⟩ := returns_onSecrets h
    obtain ⟨hkind, htarget⟩ := (Secrets.execute_spec hrun).1
    exact reports_about (by rw [hk]; rfl) (by simp [hk, hkind, ActionKind.reports]) htarget
  case grantTools =>
    obtain ⟨_, _, -, hrun, -⟩ := returns_onAgents h
    obtain ⟨hkind, htarget⟩ := Agents.grant_spec hrun
    exact reports_about (by rw [hk]; rfl) (by simp [hk, hkind, ActionKind.reports]) htarget
  case drainAllocation =>
    obtain ⟨_, _, -, hrun, -⟩ := returns_onAgents h
    obtain ⟨-, htarget, hdrain⟩ := Agents.drain_spec hrun
    refine reports_about (by rw [hk]; rfl) ?_ htarget
    rcases hdrain with ⟨hkind, -⟩ | ⟨hkind, -⟩ <;> simp [hk, hkind, ActionKind.reports]
  all_goals exact (fail_ne_ok (returns_lift.mp h).1).elim

/-- Attribution adds to the evidence and takes nothing the contract asks for away. -/
lemma attribute_reports (hcreate : a.kind ≠ .createAllocation) (h : Reports a e) (now : Time) :
    Reports a (attribute_ config now e a) := by
  refine ⟨h.kind, h.subject, fun hk => absurd hk hcreate, fun hk => ?_⟩
  have hbase : (attribute_ config now e a).observed = e.observed.insert "node" config.nodeID := by
    rcases hk with hk | hk <;> simp only [attribute_, hk]
  rw [Evidence.observe, hbase, get_insert_of_ne (by decide)]
  exact h.holder hk

/-- **The dispatcher keeps the contract of executors.** -/
theorem perform_reports {attested : Option AttestedEvidence}
    (h : Proc.Returns (perform wire config c m a) d (e, attested) d') : Reports a e := by
  by_cases hk : a.kind = .createAllocation
  · obtain ⟨-, hbooks⟩ := perform_books hk h
    refine ⟨by simp [hk, hbooks.kind, ActionKind.reports], ?_,
      fun _ => ⟨hbooks.workload, hbooks.replica⟩, by simp [hk]⟩
    rw [hbooks.target]
    simp [Action.subject, hk, ActionKind.onVolume]
  · simp only [perform, returns_bind, returns_pure, Prod.mk.injEq] at h
    obtain ⟨_, _, hexecute, _, _, -, _, _, -, ⟨rfl, -⟩, -⟩ := h
    exact attribute_reports hk (execute_reports hk hexecute) m.now

end Contract

end A4s.Daemon
