/-
The payloads of compound actions.

`apply_policy` carries a whole firewall ruleset and `publish_zone` the whole set of
names a resolver answers. Both are meant to be derived: the ruleset from the network
policies the goal declares, the zone from the endpoints the world observed. The
validators check whom a payload is addressed to, not what it says.

* `compilePolicies_preamble`: a compiled ruleset starts from the fresh table.
* `payload_exact_iff`: **the kernel pins a payload to its derivation** exactly when it
  accepts no payload at all.
-/
import A4s.Control.Execution

namespace A4s

open Go

/-! ### Derived payloads -/

/-- The network policies a goal declares; one that names no workload is for the
goal's own. -/
def declaredPolicies (goal : Goal) : List NetworkPolicy :=
  match goal.workload.policy with
  | none => []
  | some policy =>
    [if policy.workload = "" then { policy with workload := goal.workload.name } else policy]

/-- The ruleset is compiled from the goal's policies in the world, for some table of
service ports. -/
def PolicyDerived (host : Host) (goal : Goal) (w : World) (a : Action) : Prop :=
  ∃ (ports : Table Int64) (compiled : CompiledPolicy), a.policy = some compiled ∧
    compilePolicies host w ports (declaredPolicies goal) a.node = .ok compiled

/-- The zone is the one the world resolves to on the node, for some table of service
ports. -/
def ZoneDerived (host : Host) (w : World) (a : Action) : Prop :=
  ∃ ports : Table Int64, a.zone = some (buildServiceZone host w ports a.node)

/-- Payloads of the proposal are derived from the goal and the world. -/
def PayloadsDerived (host : Host) (goal : Goal) (w : World) (p : Proposal) : Prop :=
  ∀ a ∈ p.actions, (a.kind = .applyPolicy → PolicyDerived host goal w a) ∧
    (a.kind = .publishZone → ZoneDerived host w a)

/-! ### What derived payloads look like -/

/-- A compiled ruleset starts from the fresh table. -/
lemma compilePolicies_preamble {host : Host} {w : World} {ports : Table Int64}
    {policies : List NetworkPolicy} {node : String} {compiled : CompiledPolicy}
    (h : compilePolicies host w ports policies node = .ok compiled) :
    policyPreamble <+: compiled.rules := by
  obtain ⟨_, -, h⟩ := bind_ok.mp h
  cases h
  exact List.prefix_append _ _

/-- A zone answers service names only. -/
lemma buildServiceZone_name {host : Host} {w : World} {ports : Table Int64} {node name : String}
    (h : (buildServiceZone host w ports node).records[name]?.isSome) :
    ∃ workload, name = serviceName workload := by
  -- the loop over the directory adds records under service names
  have hloop : ∀ (keys : List String) (records : Table (List ResolvedEndpoint)),
      (records[name]?.isSome → ∃ workload, name = serviceName workload) →
      ((keys.foldl (fun records workload =>
        let endpoints := resolve host w ports workload node
        if endpoints = [] then records else records.insert (serviceName workload) endpoints)
        records)[name]?.isSome → ∃ workload, name = serviceName workload) := by
    intro keys
    induction keys with
    | nil => exact fun _ hrecords => hrecords
    | cons workload rest ih =>
      intro records hrecords
      refine ih _ fun hsome => ?_
      dsimp only at hsome
      split_ifs at hsome
      · exact hrecords hsome
      · rw [get_insert] at hsome
        split_ifs at hsome with hname
        · exact ⟨workload, hname⟩
        · exact hrecords hsome
  exact hloop _ ∅ (fun hsome => by simp at hsome) h

/-! ### What the kernel asks of a payload -/

/-- Actions that carry a payload. -/
def ActionKind.carriesPayload : ActionKind → Bool
  | .applyPolicy | .publishZone => true
  | _ => false

section Kernel

variable {host : Host} {k : Kernel} {actor : AgentDescriptor} {goal : Goal} {w : World}

/-- The actor may propose something, some payload is granted to it, and there is a
node to address it to. -/
structure MayCarry (k : Kernel) (actor : AgentDescriptor) (w : World) : Prop where
  named : actor.id ≠ ""
  granted : (k.grantsFor actor.id).lookup .applyPolicy = some true ∨
    (k.grantsFor actor.id).lookup .publishZone = some true
  node : ∃ id : String, id ≠ "" ∧ w.nodes[id]?.isSome
  room : 1 ≤ k.policy.maxActionsPerProposal.toInt

lemma validate_payload_node {sim : World} {a : Action} (hk : a.kind.carriesPayload = true)
    (h : validateAction host goal sim a = .ok ()) :
    a.node ≠ "" ∧ sim.nodes[a.node]?.isSome := by
  cases hkind : a.kind <;> simp only [hkind, ActionKind.carriesPayload, Bool.false_eq_true] at hk
  case applyPolicy =>
    simp only [validateAction, hkind, validateApplyPolicy, refuseIf_bind_ok] at h
    exact ⟨h.1, by simpa [Option.isSome_iff_ne_none] using h.2.1⟩
  case publishZone =>
    simp only [validateAction, hkind, validatePublishZone, refuseIf_bind_ok] at h
    exact ⟨h.1, by simpa [Option.isSome_iff_ne_none] using h.2.1⟩

/-- Whoever had a payload accepted may carry one. -/
lemma authorize_mayCarry {p : Proposal} {a : Action}
    (haccepted : authorize host k actor goal w p = .ok ()) (ha : a ∈ p.actions)
    (hk : a.kind.carriesPayload = true) : MayCarry k actor w := by
  obtain ⟨hagent, sim, hwalk⟩ := authorize_admitted haccepted
  obtain ⟨hgrant, sim', hnodes, hvalid⟩ := hwalk.validated ha
  obtain ⟨hnode, hsome⟩ := validate_payload_node hk hvalid
  simp only [authorize, refuseIf_bind_ok, not_or] at haccepted
  obtain ⟨-, ⟨hnamed, -⟩, -, hactions, hroom, -⟩ := haccepted
  refine ⟨hagent ▸ hnamed, ?_, ⟨a.node, hnode, hnodes a.node ▸ hsome⟩, ?_⟩
  · cases hkind : a.kind <;> simp only [hkind, ActionKind.carriesPayload, Bool.false_eq_true] at hk
    case applyPolicy => exact .inl (hkind ▸ hgrant)
    case publishZone => exact .inr (hkind ▸ hgrant)
  · have hlength := List.length_pos_of_mem ha
    omega

/-- A proposal of one action. -/
def proposeOne (actor : AgentDescriptor) (goal : Goal) (w : World) (a : Action) : Proposal :=
  { id := "p", agentID := actor.id, goalID := goal.id, basedOnRevision := w.revision
    actions := [a] }

/-- A payload that passes its validator is accepted: no later check reads it. -/
lemma authorize_payload {a : Action} (hnamed : actor.id ≠ "")
    (hroom : 1 ≤ k.policy.maxActionsPerProposal.toInt)
    (hgrant : (k.grantsFor actor.id).lookup a.kind = some true) (hid : a.id ≠ "")
    (hdepends : a.dependsOn = []) (hk : a.kind.carriesPayload = true)
    (hvalid : validateAction host goal w a = .ok ()) :
    authorize host k actor goal w (proposeOne actor goal w a) = .ok () := by
  have hsim : simulateAction w a = .ok w := by
    cases hkind : a.kind <;> simp only [hkind, ActionKind.carriesPayload, Bool.false_eq_true] at hk
    all_goals simp [simulateAction, hkind]
  have hgrants : k.grantsFor actor.id ≠ [] := by
    intro hnone
    rw [hnone] at hgrant
    cases hgrant
  have hwalk : authorizeActions host actor.id (k.grantsFor actor.id) goal w [] [a] = .ok w := by
    simp only [authorizeActions, refuseIf_bind_ok, hdepends, hvalid, hsim]
    refine ⟨?_, not_not.mpr hgrant, rfl⟩
    rintro (hempty | hmem)
    · exact hid hempty
    · cases hmem
  simp only [authorize, refuseIf_bind_ok]
  refine ⟨fun h => h rfl, ?_, fun h => h rfl, List.cons_ne_nil _ _, ?_, hgrants, ?_⟩
  · rintro (hempty | hgoal)
    · exact hnamed hempty
    · exact hgoal rfl
  · simp only [proposeOne, List.length_singleton]
    omega
  · refine bind_ok.mpr ⟨w, hwalk, ?_⟩
    cases hkind : a.kind <;> simp only [hkind, ActionKind.carriesPayload, Bool.false_eq_true] at hk
    all_goals
      simp [requireEvidenceChecks, requiredCheck, checkDisruptionBudget, disruptive, checkBackoff,
        checkImageProvenance, runsImage, checkClusterBudget, addedCommitment, proposeOne, hkind]
      rfl

/-! ### Payloads of one's own choosing -/

/-- A ruleset that opens a node. -/
def openFirewall (node : String) : Action :=
  { id := "open", kind := .applyPolicy, node := node
    policy := some
      { node := node, table := policyTable, rules := ["add rule inet a4s input accept"] } }

lemma openFirewall_valid {node : String} (hnode : node ≠ "") (hsome : w.nodes[node]?.isSome) :
    validateAction host goal w (openFirewall node) = .ok () := by
  change validateApplyPolicy host goal w (openFirewall node) = .ok ()
  simp only [validateApplyPolicy, refuseIf_bind_ok, require_bind_ok, refuseIf_ok]
  refine ⟨hnode, by simpa [openFirewall] using hsome, _, rfl, ?_, ?_, ?_⟩ <;> simp [openFirewall]

lemma openFirewall_underived (node : String) : ¬PolicyDerived host goal w (openFirewall node) := by
  rintro ⟨ports, compiled, hpolicy, hcompiled⟩
  cases hpolicy
  have hlength := (compilePolicies_preamble hcompiled).length_le
  simp [policyPreamble] at hlength

/-- A zone that answers for a name outside the service domain. -/
def hijackName (node : String) : Action :=
  { id := "hijack", kind := .publishZone, node := node
    zone := some
      { node := node
        records := Table.ofEntries [("bank.example",
          [{ address := "203.0.113.9", port := 443, allocation := "", node := "" }])] } }

lemma hijackName_valid {node : String} (hnode : node ≠ "") (hsome : w.nodes[node]?.isSome) :
    validateAction host goal w (hijackName node) = .ok () := by
  change validatePublishZone host goal w (hijackName node) = .ok ()
  simp only [validatePublishZone, refuseIf_bind_ok, require_bind_ok, refuseIf_ok]
  exact ⟨hnode, by simpa [hijackName] using hsome, _, rfl, by simp [hijackName]⟩

lemma hijackName_underived (node : String) : ¬ZoneDerived host w (hijackName node) := by
  rintro ⟨ports, hzone⟩
  have hrecord : (buildServiceZone host w ports node).records["bank.example"]?.isSome := by
    rw [← show _ = buildServiceZone host w ports node from Option.some.inj hzone]
    simp
  obtain ⟨workload, hname⟩ := buildServiceZone_name hrecord
  -- the name is shorter than the service domain
  have hlength := congrArg String.length hname
  simp only [serviceName, serviceDomain, String.length_append] at hlength
  have hdomain : "bank.example".length = 12 ∧ "a4s.internal".length = 12 ∧ ".".length = 1 := by
    decide
  omega

/-- **The kernel pins payloads to their derivation** exactly when it accepts none: no
validator compares a ruleset or a zone with what the goal and the world derive. -/
theorem payload_exact_iff :
    (∀ p, authorize host k actor goal w p = .ok () → PayloadsDerived host goal w p) ↔
      ¬MayCarry k actor w := by
  constructor
  · rintro hderived ⟨hnamed, hgranted, ⟨node, hnode, hsome⟩, hroom⟩
    rcases hgranted with hgrant | hgrant
    · have haccepted : authorize host k actor goal w
          (proposeOne actor goal w (openFirewall node)) = .ok () :=
        authorize_payload hnamed hroom hgrant (by simp [openFirewall]) rfl rfl
          (openFirewall_valid hnode hsome)
      exact openFirewall_underived node ((hderived _ haccepted _ List.mem_cons_self).1 rfl)
    · have haccepted : authorize host k actor goal w
          (proposeOne actor goal w (hijackName node)) = .ok () :=
        authorize_payload hnamed hroom hgrant (by simp [hijackName]) rfl rfl
          (hijackName_valid hnode hsome)
      exact hijackName_underived node ((hderived _ haccepted _ List.mem_cons_self).2 rfl)
  · intro hnever p haccepted a ha
    have hplain : a.kind.carriesPayload ≠ true := fun hk =>
      hnever (authorize_mayCarry haccepted ha hk)
    exact ⟨fun hk => absurd (by rw [hk]; rfl) hplain, fun hk => absurd (by rw [hk]; rfl) hplain⟩

end Kernel

/-! ### The shipped network agent -/

namespace Payload

/-- The goal declares no network policy, and nothing serves. -/
def goal : Goal := { id := "web", workload := { name := "web", replicas := 1 } }

def world : World := { nodes := Table.ofEntries [("n1", { id := "n1", healthy := true })] }

def agent : AgentDescriptor := { id := "network-agent" }

end Payload

open Payload

/-- Under the shipped policy the network agent opens a node's firewall and has its
resolver answer for a foreign name, although the goal declares no policy and no
endpoint serves. -/
theorem payload_of_own_choosing :
    (authorize quietHost ⟨defaultPolicy⟩ agent goal world
        (proposeOne agent goal world (openFirewall "n1")) = .ok () ∧
      ¬PolicyDerived quietHost goal world (openFirewall "n1")) ∧
    (authorize quietHost ⟨defaultPolicy⟩ agent goal world
        (proposeOne agent goal world (hijackName "n1")) = .ok () ∧
      ¬ZoneDerived quietHost world (hijackName "n1")) :=
  ⟨⟨by decide, openFirewall_underived "n1"⟩, by decide, hijackName_underived "n1"⟩

end A4s
