/-
The gateway of a node (`node/gateway.go`), up to the document that it sends to Caddy.

* `render`, `weightedUpstreams`: the functions of the source. The document is kept as data; an
  upstream is the address that is dialled.
* `upstreams`: the endpoints behind the addresses, in their order and with their weights, one
  each where the document has none.
* `ExactShare`: the counts of endpoints for which a split is exact; `canary_share_iff`: then, and
  only then, the target version has the authorised share of the weight.
-/
import A4s.Control.Canary

namespace A4s.Gateway

open Go

/-- `CaddyConfig`, as far as it is rendered. -/
structure CaddyConfig where
  tlsInternal : Bool := false
  acmeEmail : String := ""

/-- How a request is answered: by one of the upstreams, with weights or without, or at once. -/
inductive Handler where
  | reverseProxy (upstreams : List String) (weights : Option (List ℕ))
  | staticResponse (statusCode : ℕ) (body : String)
  deriving DecidableEq

/-- A route of the document. -/
structure CaddyRoute where
  host : String
  handler : Handler
  deriving DecidableEq

/-- Where certificates come from. -/
inductive Issuer where
  | internal
  | acme (subjects : List String) (email : String)
  deriving DecidableEq

/-- The document. -/
structure Document where
  routes : List CaddyRoute
  tls : Option Issuer
  deriving DecidableEq

/-- `Endpoint.HostPort`. -/
def hostPort (e : Endpoint) : String := joinHostPort e.address (sprintInt e.port)

/-- `weightedUpstreams`: a weight of zero is no split at all. -/
def weightedUpstreams (s : RouteSnapshot) : List WeightedEndpoint :=
  if s.weighted.length < 2 then []
  else if s.weighted.any (fun e => e.weight ≤ 0) then []
  else s.weighted

/-- The handler of a snapshot. -/
def handlerOf (s : RouteSnapshot) : Handler :=
  if 0 < (weightedUpstreams s).length then
    .reverseProxy (s.weighted.map fun e => hostPort e.endpoint)
      (some (s.weighted.map WeightedEndpoint.weight))
  else if s.endpoints = [] then
    .staticResponse 503 ("no healthy endpoint for " ++ s.workload)
  else .reverseProxy (s.endpoints.map hostPort) none

/-- The issuer of certificates, for the hosts that are public. -/
def issuerOf (config : CaddyConfig) (acmeHosts : List String) : Option Issuer :=
  if config.tlsInternal then some .internal
  else if 0 < acmeHosts.length then some (.acme acmeHosts config.acmeEmail)
  else none

/-- One round of the loop of `CaddyGateway.render`. -/
def renderRoute (s : RouteSnapshot) : Result CaddyRoute := do
  refuseIf (s.host = "") "route snapshot has no host"
  return { host := s.host, handler := handlerOf s }

/-- `CaddyGateway.render`. -/
def render (config : CaddyConfig) (snapshots : List RouteSnapshot) : Result Document := do
  let routes ← snapshots.mapM renderRoute
  let acmeHosts := (snapshots.filter fun s => s.exposure = "public" && !config.tlsInternal).map
    RouteSnapshot.host
  return { routes := routes, tls := issuerOf config acmeHosts }

/-! ### The endpoints behind a handler -/

/-- The endpoints that a handler dials, with their weights; without weights they count equally. -/
def upstreams (w : World) (s : RouteSnapshot) : List WeightedEndpoint :=
  if 0 < (weightedUpstreams s).length then s.weighted else oneEach w s.endpoints

/-- The handler dials these endpoints, with these weights if it has any. -/
lemma handlerOf_upstreams {w : World} {s : RouteSnapshot} (hne : s.endpoints ≠ []) :
    ∃ weights, handlerOf s =
        .reverseProxy ((upstreams w s).map fun e => hostPort e.endpoint) weights ∧
      (weights = some ((upstreams w s).map WeightedEndpoint.weight) ∨
        weights = none ∧ ∀ e ∈ upstreams w s, e.weight = 1) := by
  unfold handlerOf upstreams
  split_ifs with hweights
  · exact ⟨_, rfl, .inl rfl⟩
  · refine ⟨none, ?_, .inr ⟨rfl, ?_⟩⟩
    · rw [oneEach, List.map_map]
      rfl
    · intro e he
      obtain ⟨_, -, rfl⟩ := List.mem_map.mp he
      rfl

/-- Every snapshot has its route in the document. -/
lemma render_eq_ok {config : CaddyConfig} {snapshots : List RouteSnapshot} {document : Document}
    (h : render config snapshots = .ok document) {s : RouteSnapshot} (hs : s ∈ snapshots) :
    { host := s.host, handler := handlerOf s } ∈ document.routes := by
  obtain ⟨routes, hroutes, hdocument⟩ := bind_ok.mp h
  cases hdocument
  have hrendered := mapM_ok.mp hroutes
  clear h hroutes
  induction hrendered with
  | nil => cases hs
  | @cons s' route snapshots routes hroute _ ih =>
    rcases List.mem_cons.mp hs with rfl | hs
    · rw [renderRoute, refuseIf_bind_ok] at hroute
      cases hroute.2
      exact List.mem_cons_self
    · exact List.mem_cons_of_mem _ (ih hs)

/-! ### The split of a canary -/

section Split

variable {host : Host} {w : World} {ports : Table Int64} {goals : List Goal} {goal : Goal}
  {route : Route}

/-- The gateway keeps the weights that the snapshot has. -/
lemma upstreams_routeSnapshot (hcanary : goal.canary ≠ none)
    (hgoal : (byWorkload goals)[route.workload]? = some goal)
    (hpos : ∀ e ∈ weightEndpoints host goal w (servingEndpoints host w ports route.workload),
      0 < e.weight) :
    upstreams w (routeSnapshot host w ports goals route) =
      carried w (servingEndpoints host w ports route.workload)
        (weightEndpoints host goal w (servingEndpoints host w ports route.workload)) := by
  have hweighted : (routeSnapshot host w ports goals route).weighted =
      if splitsTraffic (weightEndpoints host goal w (servingEndpoints host w ports route.workload))
      then weightEndpoints host goal w (servingEndpoints host w ports route.workload) else [] := by
    rw [routeSnapshot, hgoal]
    dsimp only
    exact if_congr (and_iff_right hcanary) rfl rfl
  rw [upstreams, weightedUpstreams, carried, hweighted]
  generalize weightEndpoints host goal w (servingEndpoints host w ports route.workload) = weighted
    at hpos ⊢
  by_cases hsplits : splitsTraffic weighted = true
  · -- weights that differ are two at least, and none of them is zero
    have htwo : ¬ weighted.length < 2 := by
      rcases weighted with _ | ⟨_, _ | ⟨_, _⟩⟩
      · cases hsplits
      · cases hsplits
      · simp
    have hzero : ¬ weighted.any (fun e => e.weight ≤ 0) = true := by
      rw [List.any_eq_true]
      rintro ⟨e, he, hle⟩
      exact absurd (of_decide_eq_true hle) (not_le.mpr (hpos e he))
    rw [if_pos hsplits, if_neg htwo, if_neg hzero, if_pos (by omega), if_pos hsplits]
  · rw [if_neg hsplits, if_neg hsplits]
    rfl

/-- The counts of endpoints for which the percentage is exact. -/
def ExactShare (step : ℤ) (target previous : ℕ) : Prop :=
  if step = 0 then previous < 100 ∧ 100 % previous ≠ 0
  else if step = 100 then target < 100 ∧ 100 % target ≠ 0
  else (target ≤ step ∧ previous ≤ 100 - step) ∨
    100 * (target : ℤ) = step * ((target : ℤ) + previous)

lemma hasShare_upstreams_iff {canary : Canary} (hcanary : goal.canary = some canary)
    (hvalid : canary.validate = .ok ()) (hgoal : (byWorkload goals)[route.workload]? = some goal)
    (htarget : targetSide goal w (servingEndpoints host w ports route.workload) ≠ [])
    (hprevious : previousSide goal w (servingEndpoints host w ports route.workload) ≠ []) :
    HasShare w goal.workload.image (evaluateCanary host goal w).step.toInt
        (upstreams w (routeSnapshot host w ports goals route)) ↔
      ExactShare (evaluateCanary host goal w).step.toInt
        (targetSide goal w (servingEndpoints host w ports route.workload)).length
        (previousSide goal w (servingEndpoints host w ports route.workload)).length := by
  have hsome : goal.canary ≠ none := by
    rw [hcanary]
    exact Option.some_ne_none canary
  have hperm := @weightEndpoints_perm host _ _ _ hsome htarget hprevious
  rw [upstreams_routeSnapshot hsome hgoal fun e he => weight_sides_pos e (hperm.mem_iff.mp he)]
  obtain ⟨hlow, hhigh⟩ := @evaluateCanary_range w _ host _ hcanary hvalid
  generalize (evaluateCanary host goal w).step.toInt = step at hperm hlow hhigh ⊢
  rw [ExactShare]
  split_ifs with hnone hall
  · subst hnone
    exact carried_none htarget hprevious hperm
  · subst hall
    exact carried_all htarget hprevious hperm
  · obtain ⟨share, rfl⟩ := Int.eq_ofNat_of_zero_le hlow
    obtain ⟨rest, hrest⟩ := Int.eq_ofNat_of_zero_le (sub_nonneg.mpr hhigh)
    rw [hrest] at hperm ⊢
    rw [carried_between htarget hprevious (by omega) (by omega) (by omega) hperm]
    exact_mod_cast Iff.rfl

/-- **The split that the gateway renders.** The route is proxied to the endpoints of its workload,
and the target version has exactly the authorised share of their weight if and only if the numbers
of endpoints allow it. -/
theorem canary_share_iff {canary : Canary} {config : CaddyConfig} {document : Document}
    {domain : String} (hcanary : goal.canary = some canary) (hvalid : canary.validate = .ok ())
    (hroute : w.routes[domain]? = some route)
    (hgoal : (byWorkload goals)[route.workload]? = some goal)
    (htarget : targetSide goal w (servingEndpoints host w ports route.workload) ≠ [])
    (hprevious : previousSide goal w (servingEndpoints host w ports route.workload) ≠ [])
    (hrender : render config (buildWeightedRouteSnapshots host w ports goals) = .ok document) :
    (∃ weights,
      { host := route.host
        handler := .reverseProxy ((upstreams w (routeSnapshot host w ports goals route)).map
          fun e => hostPort e.endpoint) weights } ∈ document.routes ∧
      (weights = some ((upstreams w (routeSnapshot host w ports goals route)).map
          WeightedEndpoint.weight) ∨
        weights = none ∧ ∀ e ∈ upstreams w (routeSnapshot host w ports goals route),
          e.weight = 1)) ∧
    (HasShare w goal.workload.image (evaluateCanary host goal w).step.toInt
        (upstreams w (routeSnapshot host w ports goals route)) ↔
      ExactShare (evaluateCanary host goal w).step.toInt
        (targetSide goal w (servingEndpoints host w ports route.workload)).length
        (previousSide goal w (servingEndpoints host w ports route.workload)).length) := by
  refine ⟨?_, hasShare_upstreams_iff hcanary hvalid hgoal htarget hprevious⟩
  have hserving : (routeSnapshot host w ports goals route).endpoints ≠ [] := by
    intro hnone
    have hnobody : servingEndpoints host w ports route.workload = [] := hnone
    rw [hnobody] at htarget
    exact htarget rfl
  obtain ⟨weights, hhandler, hweights⟩ := handlerOf_upstreams (w := w) hserving
  have hlisted : routeSnapshot host w ports goals route ∈
      buildWeightedRouteSnapshots host w ports goals :=
    List.mem_map.mpr
      ⟨(domain, route), Table.mem_toList.mpr hroute, rfl⟩
  have hrendered := render_eq_ok hrender hlisted
  rw [hhandler] at hrendered
  exact ⟨weights, hrendered, hweights⟩

end Split

/-! ### Shops with two versions -/

namespace Shop

/-- A ready replica. -/
def replica (id image address : String) : Allocation :=
  { id := id, workload := "shop", node := "n1", image := image, phase := .running, ready := true
    readySince := 1, address := address }

def goal (steps : List Int64) : Goal :=
  { id := "shop", workload :=
      { name := "shop", image := "shop:2", replicas := 2, resources := ⟨100, 100⟩, port := 80 }
    canary := some { steps := steps } }

def route : Route :=
  { host := "shop.example", workload := "shop", port := 80, exposure := "public" }

def world (replicas : List Allocation) : World :=
  { allocations := Table.ofEntries (replicas.map fun a => (a.id, a))
    routes := Table.ofEntries [("shop.example", route)] }

/-- One replica of each version. -/
def pair : World := world [replica "s-0" "shop:1" "10.0.0.1", replica "s-1" "shop:2" "10.0.0.2"]

/-- Two replicas of each version. -/
def pairs : World :=
  world [replica "s-0" "shop:1" "10.0.0.1", replica "s-1" "shop:1" "10.0.0.2",
    replica "s-2" "shop:2" "10.0.0.3", replica "s-3" "shop:2" "10.0.0.4"]

def ports : Table Int64 := Table.ofEntries [("shop", 80)]

/-- The documents for a ladder. -/
def rendered (w : World) (steps : List Int64) : Result Document :=
  render {} (buildWeightedRouteSnapshots quietHost w ports [goal steps])

/-- The upstreams of the route for a ladder. -/
def weighted (w : World) (steps : List Int64) : List WeightedEndpoint :=
  upstreams w (routeSnapshot quietHost w ports [goal steps] route)

/-- The share that a ladder authorises. -/
def step (w : World) (steps : List Int64) : ℤ :=
  (evaluateCanary quietHost (goal steps) w).step.toInt

end Shop

open Shop

/-- One replica of each version, and a quarter of the traffic authorised: the split is exact. -/
theorem canary_share_quarter :
    step pair [25, 100] = 25 ∧
      HasShare pair "shop:2" (step pair [25, 100]) (weighted pair [25, 100]) := by
  have hrender : rendered pair [25, 100] = .ok
      { routes := [{ host := "shop.example", handler :=
          .reverseProxy ["10.0.0.1:80", "10.0.0.2:80"] (some [75, 25]) }]
        tls := some (.acme ["shop.example"] "") } := by decide +kernel
  have hroute : pair.routes["shop.example"]? = some route := by decide +kernel
  have hgoal : (byWorkload [goal [25, 100]])[route.workload]? = some (goal [25, 100]) := by
    decide +kernel
  have hsplit := canary_share_iff rfl (by decide) hroute hgoal (by decide +kernel)
    (by decide +kernel) hrender
  refine ⟨by decide +kernel, hsplit.2.mpr ?_⟩
  unfold ExactShare
  decide +kernel

/-- Two splits that are not as authorised. With two replicas of the new version and one percent
authorised, each replica counts for one, and the version has two parts of a hundred and one. With
a ladder of a hundred percent alone, the weight of the only replica is dropped, and its version
has half of the traffic. -/
theorem canary_share_missed :
    (goal [1, 100]).canary = some { steps := [1, 100] } ∧
      Canary.validate { steps := [1, 100] } = .ok () ∧
      step pairs [1, 100] = 1 ∧
      rendered pairs [1, 100] = .ok
        { routes := [{
            host := "shop.example"
            handler := .reverseProxy ["10.0.0.1:80", "10.0.0.2:80", "10.0.0.3:80", "10.0.0.4:80"]
              (some [50, 49, 1, 1]) }]
          tls := some (.acme ["shop.example"] "") } ∧
      ¬ HasShare pairs "shop:2" (step pairs [1, 100])
        (weighted pairs [1, 100]) ∧
      Canary.validate { steps := [100] } = .ok () ∧
      step pair [100] = 100 ∧
      rendered pair [100] = .ok
        { routes := [{ host := "shop.example", handler :=
            .reverseProxy ["10.0.0.1:80", "10.0.0.2:80"] none }]
          tls := some (.acme ["shop.example"] "") } ∧
      ¬ HasShare pair "shop:2" (step pair [100]) (weighted pair [100]) := by
  unfold HasShare
  decide +kernel

end A4s.Gateway
