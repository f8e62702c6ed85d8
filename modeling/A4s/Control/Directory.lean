/-
Service directory, name resolution and firewall policy (`control/directory.go`,
`control/resolve.go`, `control/netpolicy.go`).

All three are derived from the world: the directory lists the allocations
currently observed serving, `resolve` translates it for the vantage point of one
node, `buildServiceZone` collects the names that node can resolve, and
`compilePolicies` renders the declared network intent into an nftables script
for it.

Go iterates over a map in an unspecified order and then sorts; here a table is
listed in key order and sorted stably, which is one of those orders.
-/
import A4s.Control.Types
import Mathlib.Data.List.Sort

namespace A4s

open Go

/-! ### The directory -/

/-- One reachable instance of a service. -/
structure Endpoint where
  allocation : String
  node : String
  address : String
  port : Int64
  deriving DecidableEq

/-- A named workload and the endpoints currently serving it. -/
structure Service where
  name : String := ""
  endpoints : List Endpoint := []
  deriving DecidableEq

/-- The endpoint of an allocation that is ready, has an address and whose
workload declares a port. -/
def servingEndpoint (ports : Table Int64) (now : Time) (a : Allocation) : Option Endpoint :=
  if !a.readyAt now || decide (a.address = "") then none
  else match ports[a.workload]? with
    | some port =>
      if port ≤ 0 then none
      else some { allocation := a.id, node := a.node, address := a.address, port := port }
    | none => none

/-- One iteration of the loop of `BuildDirectory`. -/
def addEndpoint (ports : Table Int64) (now : Time) (services : Table Service) (a : Allocation) :
    Table Service :=
  match servingEndpoint ports now a with
  | none => services
  | some endpoint =>
    let service := services[a.workload]?.getD {}
    services.insert a.workload
      { name := a.workload, endpoints := service.endpoints ++ [endpoint] }

/-- `BuildDirectory`. -/
def buildDirectory (host : Host) (w : World) (ports : Table Int64) : Table Service :=
  let services := (w.allocations.toList.map Prod.snd).foldl (addEndpoint ports (w.now host.wall)) ∅
  services.map fun _ service => { service with
    endpoints := service.endpoints.insertionSort fun x y => x.allocation ≤ y.allocation }

/-- `WorkloadPorts`: the container ports declared by accepted goals. -/
def workloadPorts (goals : List Goal) : Table Int64 :=
  goals.foldl (fun ports goal =>
    if goal.workload.port > 0 then ports.insert goal.workload.name goal.workload.port else ports) ∅

/-! ### Resolution -/

/-- `ServiceDomain`. -/
def serviceDomain : String := "a4s.internal"

/-- `ServiceName`. -/
def serviceName (workload : String) : String := workload ++ "." ++ serviceDomain

/-- `net.JoinHostPort`. -/
def joinHostPort (host port : String) : String :=
  if contains host ":" then "[" ++ host ++ "]:" ++ port else host ++ ":" ++ port

/-- An endpoint as a caller on `fromNode` dials it: directly on its own node,
through the owning node's gateway elsewhere, or not at all. -/
def resolveEndpoint (w : World) (fromNode : String) (e : Endpoint) : Option ResolvedEndpoint :=
  if e.node = fromNode then
    some { address := e.address, port := e.port, allocation := e.allocation, node := e.node,
           isLocal := true }
  else match w.nodes[e.node]? with
    | none => none
    | some node =>
      if node.address = "" ∨ node.gatewayPort ≤ 0 then none
      else some { address := node.address, port := node.gatewayPort,
                  allocation := e.allocation, node := e.node }

/-- Local endpoints first, then by allocation. -/
def resolvedBefore (x y : ResolvedEndpoint) : Prop :=
  if x.isLocal ≠ y.isLocal then x.isLocal = true else x.allocation ≤ y.allocation

instance : DecidableRel resolvedBefore := fun x y =>
  inferInstanceAs (Decidable
    (if x.isLocal ≠ y.isLocal then x.isLocal = true else x.allocation ≤ y.allocation))

/-- `Resolve`: where a caller on `fromNode` should send traffic for a service. -/
def resolve (host : Host) (w : World) (ports : Table Int64) (workload fromNode : String) :
    List ResolvedEndpoint :=
  match (buildDirectory host w ports)[workload]? with
  | none => []
  | some service =>
    (service.endpoints.filterMap (resolveEndpoint w fromNode)).insertionSort resolvedBefore

/-- `BuildServiceZone`: every service name resolvable from one node. -/
def buildServiceZone (host : Host) (w : World) (ports : Table Int64) (fromNode : String) :
    ServiceZone :=
  { node := fromNode
    records := (buildDirectory host w ports).keys.foldl (fun records workload =>
      let endpoints := resolve host w ports workload fromNode
      if endpoints = [] then records else records.insert (serviceName workload) endpoints) ∅ }

/-- The text whose digest is a zone's fingerprint. -/
def ServiceZone.render (z : ServiceZone) : String :=
  "node=" ++ z.node ++ "\n" ++ String.join (z.records.toList.map fun (name, endpoints) =>
    name ++ "\n" ++ String.join (endpoints.map fun e =>
      "  " ++ joinHostPort e.address (sprintInt e.port) ++ " " ++ e.allocation ++ " " ++ e.node
        ++ "\n"))

def ServiceZone.fingerprint (host : Host) (z : ServiceZone) : String := host.sha256Hex z.render

/-! ### Firewall policy -/

/-- `PolicyTable`: the one nftables table the control plane owns. -/
def policyTable : String := "a4s"

/-- `validateCIDR`. -/
def validateCIDR (host : Host) (value : String) : Result Unit :=
  match host.parseCIDR value with
  | none => fail s!"{quote value} is not a valid CIDR"
  | some v4 => refuseIf (v4 = false) s!"{quote value} is not an IPv4 CIDR"

/-- The checks both rule directions share: exactly one peer, a well-formed
prefix, a port in range. -/
def validateRule (host : Host) (direction peer workload cidr : String) (port : Int64)
    (index : ℕ) : Result Unit := do
  refuseIf (workload = "" ∧ cidr = "") s!"{direction} rule {index} names no {peer}"
  refuseIf (workload ≠ "" ∧ cidr ≠ "") s!"{direction} rule {index} names both a workload and a CIDR"
  if cidr ≠ "" then wrapError s!"{direction} rule {index}: " (validateCIDR host cidr)
  refuseIf (port < 0 ∨ port > 65535)
    s!"{direction} rule {index} has port {sprintInt port} outside 0-65535"

def NetworkPolicy.validate (host : Host) (p : NetworkPolicy) : Result Unit := do
  refuseIf (p.workload = "") "network policy requires a workload"
  p.ingress.zipIdx.forM fun (rule, index) =>
    validateRule host "ingress" "source" rule.fromWorkload rule.fromCIDR rule.port index
  p.egress.zipIdx.forM fun (rule, index) =>
    validateRule host "egress" "destination" rule.toWorkload rule.toCIDR rule.port index

/-- The port clause of a rule; zero opens every port. -/
def portClause (port : Int64) : String :=
  if port > 0 then " tcp dport " ++ sprintInt port else ""

def ingressRule (destination source : String) (port : Int64) : String :=
  "add rule inet " ++ policyTable ++ " input ip saddr " ++ source ++ " ip daddr " ++ destination
    ++ portClause port ++ " accept"

def egressRule (source destination : String) (port : Int64) : String :=
  "add rule inet " ++ policyTable ++ " output ip saddr " ++ source ++ " ip daddr " ++ destination
    ++ portClause port ++ " accept"

/-- The addresses of a workload's live allocations on one node. -/
def localAddresses (w : World) (workload node : String) : List String :=
  ((w.allocations.toList.map Prod.snd).filterMap fun a =>
    if a.workload ≠ workload ∨ a.node ≠ node ∨ a.address = "" ∨ a.phase = .stopped then none
    else some (a.address ++ "/32")).insertionSort (· ≤ ·)

/-- Expands a rule's peer into concrete prefixes. -/
def ruleAddresses (directory : Table Service) (workload cidr : String) : List String :=
  if cidr ≠ "" then [cidr]
  else match directory[workload]? with
    | none => []
    | some service => (service.endpoints.map (·.address ++ "/32")).insertionSort (· ≤ ·)

/-- The fresh table every ruleset starts with. -/
def policyPreamble : List String :=
  ["add table inet " ++ policyTable,
    "flush table inet " ++ policyTable,
    "add chain inet " ++ policyTable
      ++ " input \x7b type filter hook input priority 0 ; policy drop ; \x7d",
    "add chain inet " ++ policyTable
      ++ " output \x7b type filter hook output priority 0 ; policy drop ; \x7d",
    "add rule inet " ++ policyTable ++ " input ct state established,related accept",
    "add rule inet " ++ policyTable ++ " output ct state established,related accept"]

/-- The rules of one policy for one local address. -/
def addressRules (directory : Table Service) (p : NetworkPolicy) (address : String) :
    List String :=
  (p.ingress.flatMap fun rule =>
    (ruleAddresses directory rule.fromWorkload rule.fromCIDR).map fun source =>
      ingressRule address source rule.port) ++
  (p.egress.flatMap fun rule =>
    (ruleAddresses directory rule.toWorkload rule.toCIDR).map fun destination =>
      egressRule address destination rule.port)

/-- `CompilePolicies`: the ruleset of one node. The first malformed policy, in
workload order, refuses the whole compilation. -/
def compilePolicies (host : Host) (w : World) (ports : Table Int64)
    (policies : List NetworkPolicy) (node : String) : Result CompiledPolicy := do
  let directory := buildDirectory host w ports
  let sorted := policies.insertionSort fun p q => p.workload ≤ q.workload
  sorted.forM (NetworkPolicy.validate host)
  let rules := sorted.flatMap fun p =>
    (localAddresses w p.workload node).flatMap (addressRules directory p)
  return { node := node, table := policyTable, rules := policyPreamble ++ rules }

def CompiledPolicy.script (c : CompiledPolicy) : String := String.intercalate "\n" c.rules ++ "\n"

def CompiledPolicy.fingerprint (host : Host) (c : CompiledPolicy) : String :=
  host.sha256Hex c.script

end A4s
