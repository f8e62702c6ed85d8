/-
Gradual traffic shifting (`control/canary.go`, and the route snapshots of `control/directory.go`).

A canary declares the percentages of traffic that a new version takes one after the other. The
percentage that is authorised follows from what is measured; the endpoints of a route then get
whole weights.

* `evaluateCanary`, `weightEndpoints`, `shareAcross`, `buildWeightedRouteSnapshots`: the functions
  of the source.
* `evaluateCanary_range`: what is authorised is a percentage.
* `heldFor_eq`: which allocation a hold is measured by.
* `totalWeight_shareAcross`: what a side of the split gets together.
* `splitsTraffic_iff`: when the weights of a snapshot are kept.
* `carried`: the weights that count for a route, kept or not; `carried_none`, `carried_all` and
  `carried_between` say when the target version gets exactly the share that is authorised.
-/
import A4s.Go.Shares
import A4s.Control.Admission
import A4s.Control.Directory

namespace A4s

variable {w : World} {endpoints : List Endpoint} {goal : Goal} {share : ℤ}
  {weighted : List WeightedEndpoint}

open Go

/-! ### The authorised share -/

/-- `Allocation.ReadyFor`. -/
def Allocation.readyFor (a : Allocation) (now : Time) : Duration :=
  if !a.readyAt now || decide (a.readySince = 0) || decide (now < a.readySince) then 0
  else now - a.readySince

/-- `CanaryState`. -/
structure CanaryState where
  target : String
  step : Int64 := 0
  targetReady : ℕ := 0
  previousReady : ℕ := 0
  complete : Bool := false
  heldFor : Duration := 0
  deriving DecidableEq

/-- What the loop of `EvaluateCanary` counts, and the shortest readiness on the target's side; it
starts below zero. -/
structure Tally where
  targetReady : ℕ := 0
  previousReady : ℕ := 0
  held : Duration := -1
  deriving DecidableEq

/-- One round of the loop of `EvaluateCanary`. -/
def Tally.count (goal : Goal) (now : Time) (t : Tally) (a : Allocation) : Tally :=
  if a.workload ≠ goal.workload.name then t
  else if !a.readyAt now then t
  else if a.image = goal.workload.image then
    { t with
      targetReady := t.targetReady + 1
      held := if t.held < 0 ∨ a.readyFor now < t.held then a.readyFor now else t.held }
  else { t with previousReady := t.previousReady + 1 }

/-- The last step that the proportion supports, or the first one. -/
def supportedStep (steps : List Int64) (proportion : ℕ) : ℕ :=
  steps.zipIdx.foldl (fun index entry =>
    if entry.1.toInt ≤ (proportion : ℤ) then entry.2 else index) 0

/-- The step that a hold leaves. -/
def heldStep (hold heldFor : Duration) (index : ℕ) : ℕ :=
  if 0 < hold ∧ (heldFor / hold).toNat < index then (heldFor / hold).toNat else index

/-- How long the target's side has been ready. -/
def Tally.heldFor (t : Tally) : Duration := if 0 < t.held then t.held else 0

/-- The loop of `EvaluateCanary`. -/
def canaryTally (host : Host) (goal : Goal) (w : World) : Tally :=
  (w.allocations.toList.map Prod.snd).foldl (Tally.count goal (w.now host.wall)) {}

/-- `EvaluateCanary`. A ladder without steps, which no validated canary has, is the only one where
the step is not there. -/
def evaluateCanary (host : Host) (goal : Goal) (w : World) : CanaryState :=
  match goal.canary with
  | none => { target := goal.workload.image }
  | some canary =>
    let tally := canaryTally host goal w
    let state : CanaryState :=
      { target := goal.workload.image
        targetReady := tally.targetReady
        previousReady := tally.previousReady
        heldFor := tally.heldFor }
    if state.previousReady = 0 then
      { state with step := 100, complete := decide (0 < state.targetReady) }
    else if state.targetReady = 0 then { state with step := 0 }
    else
      let proportion := state.targetReady * 100 / (state.targetReady + state.previousReady)
      let index := heldStep canary.holdFor state.heldFor (supportedStep canary.steps proportion)
      { state with step := canary.steps.getD index 0 }

/-! ### Weights -/

/-- `WeightedEndpoint`. -/
structure WeightedEndpoint where
  endpoint : Endpoint
  weight : ℕ
  version : String
  deriving DecidableEq

/-- The image of every allocation, by its id. -/
def versions (w : World) : Table String :=
  (w.allocations.toList.map Prod.snd).foldl (fun t a => t.insert a.id a.image) ∅

/-- `versions[endpoint.Allocation]`. -/
def versionOf (w : World) (e : Endpoint) : String := (versions w)[e.allocation]?.getD ""

/-- By allocation. -/
def byAllocation (weighted : List WeightedEndpoint) : List WeightedEndpoint :=
  weighted.insertionSort fun x y => x.endpoint.allocation ≤ y.endpoint.allocation

/-- `shareAcross`: a share that is not positive goes to nobody. -/
def shareAcross (w : World) (endpoints : List Endpoint) (share : ℤ) : List WeightedEndpoint :=
  if endpoints = [] ∨ share ≤ 0 then []
  else endpoints.zipIdx.map fun entry =>
    { endpoint := entry.1, weight := shareOf share.toNat endpoints.length entry.2
      version := versionOf w entry.1 }

/-- Every endpoint with the weight one. -/
def oneEach (w : World) (endpoints : List Endpoint) : List WeightedEndpoint :=
  endpoints.map fun e => { endpoint := e, weight := 1, version := versionOf w e }

/-- `equalWeights`. -/
def equalWeights (w : World) (endpoints : List Endpoint) : List WeightedEndpoint :=
  byAllocation (oneEach w endpoints)

/-- The endpoints of the target version. -/
def targetSide (goal : Goal) (w : World) (endpoints : List Endpoint) : List Endpoint :=
  endpoints.filter fun e => versionOf w e = goal.workload.image

/-- The endpoints of other versions. -/
def previousSide (goal : Goal) (w : World) (endpoints : List Endpoint) : List Endpoint :=
  endpoints.filter fun e => versionOf w e ≠ goal.workload.image

/-- `WeightEndpoints`. -/
def weightEndpoints (host : Host) (goal : Goal) (w : World) (endpoints : List Endpoint) :
    List WeightedEndpoint :=
  if endpoints = [] then []
  else if goal.canary = none then oneEach w endpoints
  else
    let step := (evaluateCanary host goal w).step.toInt
    let target := targetSide goal w endpoints
    let previous := previousSide goal w endpoints
    if target = [] then equalWeights w previous
    else if previous = [] then equalWeights w target
    else byAllocation (shareAcross w target step ++ shareAcross w previous (100 - step))

/-- `splitsTraffic`: whether the weights differ. -/
def splitsTraffic : List WeightedEndpoint → Bool
  | first :: second :: rest => (second :: rest).any fun e => e.weight ≠ first.weight
  | _ => false

/-! ### Snapshots -/

/-- `RouteSnapshot`. -/
structure RouteSnapshot where
  host : String
  workload : String
  port : Int64
  exposure : String
  endpoints : List Endpoint
  weighted : List WeightedEndpoint := []
  deriving DecidableEq

/-- The goal of every workload; the last one counts. -/
def byWorkload (goals : List Goal) : Table Goal :=
  goals.foldl (fun t goal => t.insert goal.workload.name goal) ∅

/-- The endpoints that the directory lists for a workload. -/
def servingEndpoints (host : Host) (w : World) (ports : Table Int64) (workload : String) :
    List Endpoint :=
  ((buildDirectory host w ports)[workload]?.getD {}).endpoints

/-- One round of the loop of `BuildWeightedRouteSnapshots`. -/
def routeSnapshot (host : Host) (w : World) (ports : Table Int64) (goals : List Goal)
    (route : Route) : RouteSnapshot :=
  let endpoints := servingEndpoints host w ports route.workload
  { host := route.host
    workload := route.workload
    port := route.port
    exposure := route.exposure
    endpoints := endpoints
    weighted :=
      match (byWorkload goals)[route.workload]? with
      | none => []
      | some goal =>
        let weighted := weightEndpoints host goal w endpoints
        if goal.canary ≠ none ∧ splitsTraffic weighted = true then weighted else [] }

/-- `BuildWeightedRouteSnapshots`: the routes in the order of their hosts. -/
def buildWeightedRouteSnapshots (host : Host) (w : World) (ports : Table Int64)
    (goals : List Goal) : List RouteSnapshot :=
  w.routes.toList.map fun entry => routeSnapshot host w ports goals entry.2

/-! ### The percentage -/

lemma checkSteps_range {previous last : Int64} {steps : List Int64}
    (h : checkSteps previous steps = .ok last) : ∀ step ∈ steps, 1 ≤ step ∧ step ≤ 100 := by
  induction steps generalizing previous with
  | nil => exact List.forall_mem_nil _
  | cons step steps ih =>
    rw [checkSteps, refuseIf_bind_ok, refuseIf_bind_ok] at h
    obtain ⟨hrange, -, hrest⟩ := h
    rw [not_or, Int64.not_lt, Int64.not_lt] at hrange
    exact List.forall_mem_cons.mpr ⟨hrange, ih hrest⟩

/-- The steps of a validated canary are percentages. -/
lemma steps_range {canary : Canary} (h : canary.validate = .ok ()) :
    ∀ step ∈ canary.steps, 1 ≤ step.toInt ∧ step.toInt ≤ 100 := by
  rw [Canary.validate, refuseIf_bind_ok] at h
  obtain ⟨-, h⟩ := h
  obtain ⟨last, hsteps, -⟩ := bind_ok.mp h
  intro step hstep
  obtain ⟨hlow, hhigh⟩ := checkSteps_range hsteps step hstep
  rw [Int64.le_iff_toInt_le] at hlow hhigh
  exact ⟨hlow, hhigh⟩

/-- The authorised share is a percentage. -/
lemma evaluateCanary_range {host : Host} {canary : Canary}
    (hcanary : goal.canary = some canary) (h : canary.validate = .ok ()) :
    0 ≤ (evaluateCanary host goal w).step.toInt ∧
      (evaluateCanary host goal w).step.toInt ≤ 100 := by
  have hsteps : ∀ index : ℕ, 0 ≤ (canary.steps.getD index 0).toInt ∧
      (canary.steps.getD index 0).toInt ≤ 100 := by
    intro index
    rw [List.getD_eq_getElem?_getD]
    cases hstep : canary.steps[index]? with
    | none => decide
    | some step =>
      have hrange := steps_range h step (List.mem_of_getElem? hstep)
      exact ⟨by simp only [Option.getD_some]; omega, hrange.2⟩
  have hall : 0 ≤ (100 : Int64).toInt ∧ (100 : Int64).toInt ≤ 100 := by decide
  have hnothing : 0 ≤ (0 : Int64).toInt ∧ (0 : Int64).toInt ≤ 100 := by decide
  unfold evaluateCanary
  rw [hcanary]
  dsimp only
  split_ifs
  · exact hall
  · exact hnothing
  · exact hsteps _

/-! ### The hold -/

/-- The allocation is ready on the target's side. -/
def Allocation.OnTarget (goal : Goal) (now : Time) (a : Allocation) : Prop :=
  a.workload = goal.workload.name ∧ a.readyAt now = true ∧ a.image = goal.workload.image

lemma Allocation.readyFor_nonneg (a : Allocation) (now : Time) : 0 ≤ a.readyFor now := by
  rw [Allocation.readyFor]
  split_ifs with h
  · exact le_rfl
  · simp only [Bool.or_eq_true, decide_eq_true_eq, not_or] at h
    exact sub_nonneg.mpr (not_lt.mp h.2)

/-- One round of the loop: the least readiness counts. -/
lemma Tally.held_count {now : Time} (t : Tally) (a : Allocation) :
    ¬ a.OnTarget goal now ∧ (t.count goal now a).held = t.held ∨
      a.OnTarget goal now ∧ (t.count goal now a).held =
        if t.held < 0 ∨ a.readyFor now < t.held then a.readyFor now else t.held := by
  rw [Tally.count]
  by_cases hworkload : a.workload = goal.workload.name
  · rw [if_neg (not_not.mpr hworkload)]
    cases hready : a.readyAt now with
    | false =>
      refine .inl ⟨fun h => ?_, rfl⟩
      rw [h.2.1] at hready
      cases hready
    | true =>
      rw [if_neg (by decide)]
      by_cases himage : a.image = goal.workload.image
      · rw [if_pos himage]
        exact .inr ⟨⟨hworkload, hready, himage⟩, rfl⟩
      · rw [if_neg himage]
        exact .inl ⟨fun h => himage h.2.2, rfl⟩
  · rw [if_pos hworkload]
    exact .inl ⟨fun h => hworkload h.1, rfl⟩

/-- **The loop finds the least readiness** on the target's side. -/
theorem Tally.held_foldl {now : Time} {a : Allocation} {l : List Allocation}
    (ha : a ∈ l) (htarget : a.OnTarget goal now)
    (hleast : ∀ b ∈ l, b.OnTarget goal now → a.readyFor now ≤ b.readyFor now) {t : Tally}
    (ht : t.held < 0 ∨ a.readyFor now ≤ t.held) :
    (l.foldl (Tally.count goal now) t).held = a.readyFor now := by
  -- once the least one has been counted, nothing is less
  have hkept : ∀ (l : List Allocation) (t : Tally),
      (∀ b ∈ l, b.OnTarget goal now → a.readyFor now ≤ b.readyFor now) →
      t.held = a.readyFor now → (l.foldl (Tally.count goal now) t).held = a.readyFor now := by
    intro l
    induction l with
    | nil => exact fun t _ h => h
    | cons b l ih =>
      intro t hleast h
      refine ih _ (fun c hc => hleast c (List.mem_cons_of_mem _ hc)) ?_
      rcases t.held_count b with ⟨-, hsame⟩ | ⟨hb, hnew⟩
      · rw [hsame, h]
      · have hnonneg := a.readyFor_nonneg now
        have hb := hleast b List.mem_cons_self hb
        rw [hnew, h, if_neg (not_or.mpr ⟨not_lt.mpr hnonneg, not_lt.mpr hb⟩)]
  induction l generalizing t with
  | nil => cases ha
  | cons b l ih =>
    have hrest : ∀ c ∈ l, c.OnTarget goal now → a.readyFor now ≤ c.readyFor now :=
      fun c hc => hleast c (List.mem_cons_of_mem _ hc)
    rcases List.mem_cons.mp ha with rfl | ha
    · refine hkept l _ hrest ?_
      rcases t.held_count a with ⟨hnot, -⟩ | ⟨-, hnew⟩
      · exact absurd htarget hnot
      · rw [hnew]
        split_ifs with h
        · rfl
        · rw [not_or, not_lt, not_lt] at h
          exact le_antisymm h.2 (ht.resolve_left (not_lt.mpr h.1))
    · refine ih ha hrest ?_
      rcases t.held_count b with ⟨-, hsame⟩ | ⟨hb, hnew⟩
      · rw [hsame]
        exact ht
      · rw [hnew]
        split_ifs with h
        · exact .inr (hleast b List.mem_cons_self hb)
        · rw [not_or, not_lt] at h
          exact .inr (ht.resolve_left (not_lt.mpr h.1))

/-- The hold of a canary is measured by the allocation of the target that has been ready for the
shortest time. -/
lemma heldFor_eq {host : Host} {id : String} {a : Allocation}
    (hcanary : goal.canary ≠ none) (hget : w.allocations[id]? = some a)
    (htarget : a.OnTarget goal (w.now host.wall))
    (hleast : ∀ (id' : String) (b : Allocation), w.allocations[id']? = some b →
      b.OnTarget goal (w.now host.wall) →
      a.readyFor (w.now host.wall) ≤ b.readyFor (w.now host.wall)) :
    (evaluateCanary host goal w).heldFor = a.readyFor (w.now host.wall) := by
  have hheld : (canaryTally host goal w).held = a.readyFor (w.now host.wall) := by
    refine Tally.held_foldl ?_ htarget ?_ (.inl (by decide))
    · exact List.mem_map.mpr
        ⟨(id, a), Table.mem_toList.mpr hget, rfl⟩
    · intro b hb hb'
      obtain ⟨⟨id', b⟩, hlisted, rfl⟩ := List.mem_map.mp hb
      exact hleast id' b (Table.mem_toList.mp hlisted) hb'
  have hfield : (evaluateCanary host goal w).heldFor = (canaryTally host goal w).heldFor := by
    unfold evaluateCanary
    cases hsome : goal.canary with
    | none => exact absurd hsome hcanary
    | some canary =>
      dsimp only
      split_ifs <;> rfl
  rw [hfield, Tally.heldFor, hheld]
  split_ifs with h
  · rfl
  · exact le_antisymm (a.readyFor_nonneg _) (not_lt.mp h)

/-! ### What the sides get -/

/-- The weight of the endpoints together. -/
def totalWeight (weighted : List WeightedEndpoint) : ℕ := (weighted.map WeightedEndpoint.weight).sum

/-- The weight of the endpoints whose version is the image. -/
def weightOf (w : World) (image : String) (weighted : List WeightedEndpoint) : ℕ :=
  totalWeight (weighted.filter fun e => versionOf w e.endpoint = image)

lemma totalWeight_append (xs ys : List WeightedEndpoint) :
    totalWeight (xs ++ ys) = totalWeight xs + totalWeight ys := by
  rw [totalWeight, List.map_append, List.sum_append]
  rfl

lemma totalWeight_perm {xs ys : List WeightedEndpoint} (h : xs.Perm ys) :
    totalWeight xs = totalWeight ys := (h.map _).sum_eq

lemma weightOf_perm {xs ys : List WeightedEndpoint} (w : World) (image : String)
    (h : xs.Perm ys) : weightOf w image xs = weightOf w image ys :=
  totalWeight_perm (h.filter _)

lemma weightOf_append (w : World) (image : String) (xs ys : List WeightedEndpoint) :
    weightOf w image (xs ++ ys) = weightOf w image xs + weightOf w image ys := by
  rw [weightOf, List.filter_append, totalWeight_append]
  rfl

lemma byAllocation_perm (weighted : List WeightedEndpoint) :
    (byAllocation weighted).Perm weighted := List.perm_insertionSort _ weighted

/-- The endpoints keep their places, and with them their versions. -/
lemma endpoints_shareAcross (h : 0 < share) :
    (shareAcross w endpoints share).map WeightedEndpoint.endpoint = endpoints := by
  rw [shareAcross]
  split_ifs with hnone
  · rcases hnone with rfl | hshare
    · rfl
    · omega
  · rw [List.map_map]
    exact List.zipIdx_map_fst 0 endpoints

/-- **A side gets its share together, or one for each endpoint if there are more of them.** -/
theorem totalWeight_shareAcross {share : ℕ} (hne : endpoints ≠ []) (h : 0 < share) :
    totalWeight (shareAcross w endpoints share) = max share endpoints.length := by
  have hlength : 0 < endpoints.length := List.length_pos_iff.mpr hne
  rw [shareAcross, if_neg (by simp [hne]; omega), totalWeight, List.map_map, Int.toNat_natCast,
    ← sum_shareOf share endpoints.length hlength]
  have hplaces : (endpoints.zipIdx.map fun entry => shareOf share endpoints.length entry.2) =
      (List.range endpoints.length).map (shareOf share endpoints.length) := by
    rw [List.range_eq_range', ← List.zipIdx_map_snd 0 endpoints, List.map_map]
    rfl
  calc _ = ((List.range endpoints.length).map (shareOf share endpoints.length)).sum :=
        congrArg List.sum hplaces
    _ = ∑ i ∈ Finset.range endpoints.length, shareOf share endpoints.length i := rfl

/-- A side whose endpoints all have the version counts in full. -/
lemma weightOf_all {image : String}
    (h : ∀ e ∈ weighted.map WeightedEndpoint.endpoint, versionOf w e = image) :
    weightOf w image weighted = totalWeight weighted := by
  rw [weightOf, List.filter_eq_self.mpr]
  intro e he
  exact decide_eq_true (h _ (List.mem_map_of_mem he))

lemma weightOf_none {image : String}
    (h : ∀ e ∈ weighted.map WeightedEndpoint.endpoint, versionOf w e ≠ image) :
    weightOf w image weighted = 0 := by
  rw [weightOf, List.filter_eq_nil_iff.mpr]
  · rfl
  · intro e he
    simpa using h _ (List.mem_map_of_mem he)

lemma versionOf_targetSide :
    ∀ e ∈ targetSide goal w endpoints, versionOf w e = goal.workload.image := by
  intro e he
  simpa using (List.mem_filter.mp he).2

lemma versionOf_previousSide :
    ∀ e ∈ previousSide goal w endpoints, versionOf w e ≠ goal.workload.image := by
  intro e he
  simpa using (List.mem_filter.mp he).2

/-- The two sides are the endpoints. -/
lemma sides_perm (goal : Goal) (w : World) (endpoints : List Endpoint) :
    (targetSide goal w endpoints ++ previousSide goal w endpoints).Perm endpoints := by
  have hnot : previousSide goal w endpoints =
      endpoints.filter fun e => !decide (versionOf w e = goal.workload.image) := by
    refine List.filter_congr fun e _ => ?_
    simp
  rw [hnot]
  exact List.filter_append_perm _ endpoints

lemma mem_shareAcross :
    ∀ e ∈ (shareAcross w endpoints share).map WeightedEndpoint.endpoint, e ∈ endpoints := by
  by_cases h : 0 < share
  · rw [endpoints_shareAcross h]
    exact fun e he => he
  · rw [shareAcross, if_pos (.inr (not_lt.mp h))]
    exact List.forall_mem_nil _

lemma totalWeight_oneEach (w : World) (endpoints : List Endpoint) :
    totalWeight (oneEach w endpoints) = endpoints.length := by
  rw [totalWeight, oneEach, List.map_map]
  change (endpoints.map fun _ => 1).sum = _
  rw [List.map_const', List.sum_replicate, smul_eq_mul, mul_one]

lemma weightOf_oneEach (goal : Goal) (w : World) (endpoints : List Endpoint) :
    weightOf w goal.workload.image (oneEach w endpoints) =
      (targetSide goal w endpoints).length := by
  rw [weightOf, oneEach, List.filter_map]
  exact totalWeight_oneEach w (targetSide goal w endpoints)

/-! ### When the weights are kept -/

/-- All endpoints have the same weight. -/
def Level (weighted : List WeightedEndpoint) : Prop :=
  ∀ e ∈ weighted, ∀ e' ∈ weighted, e.weight = e'.weight

lemma Level.perm {xs ys : List WeightedEndpoint} (h : xs.Perm ys) : Level xs ↔ Level ys := by
  unfold Level
  simp only [h.mem_iff]

lemma splitsTraffic_iff : splitsTraffic weighted = true ↔ ¬ Level weighted := by
  match weighted with
  | [] => simp [splitsTraffic, Level]
  | [e] => simp [splitsTraffic, Level]
  | first :: second :: rest =>
    rw [splitsTraffic, List.any_eq_true]
    constructor
    · rintro ⟨e, he, hdiffer⟩ hlevel
      rw [decide_eq_true_eq] at hdiffer
      exact hdiffer (hlevel e (List.mem_cons_of_mem _ he) first List.mem_cons_self)
    · intro hlevel
      by_contra hnone
      refine hlevel fun e he e' he' => ?_
      have hsame : ∀ e ∈ first :: second :: rest, e.weight = first.weight := by
        intro e he
        rcases List.mem_cons.mp he with rfl | he
        · rfl
        · by_contra hdiffer
          exact hnone ⟨e, he, decide_eq_true hdiffer⟩
      rw [hsame e he, hsame e' he']

/-- Level weights are a multiple of one each. -/
lemma Level.totalWeight (h : Level weighted)
    (hpos : ∀ e ∈ weighted, 0 < e.weight) (hne : weighted ≠ []) :
    ∃ c, 0 < c ∧ ∀ part, part.Sublist weighted → totalWeight part = part.length * c := by
  obtain ⟨first, rest, rfl⟩ := List.exists_cons_of_ne_nil hne
  refine ⟨first.weight, hpos first List.mem_cons_self, fun part hpart => ?_⟩
  rw [A4s.totalWeight, List.map_congr_left (g := fun _ => first.weight), List.map_const',
    List.sum_replicate, smul_eq_mul]
  intro e he
  exact h e (hpart.subset he) first List.mem_cons_self

lemma weight_shareAcross_pos : ∀ e ∈ shareAcross w endpoints share, 0 < e.weight := by
  intro e he
  rw [shareAcross] at he
  split_ifs at he
  · cases he
  · obtain ⟨entry, -, rfl⟩ := List.mem_map.mp he
    exact shareOf_pos _ _ _

lemma weight_sides_pos {xs ys : List Endpoint} {rest : ℤ} :
    ∀ e ∈ shareAcross w xs share ++ shareAcross w ys rest, 0 < e.weight := by
  intro e he
  rcases List.mem_append.mp he with he | he
  · exact weight_shareAcross_pos e he
  · exact weight_shareAcross_pos e he

lemma length_shareAcross {share : ℕ} (h : 0 < share) :
    (shareAcross w endpoints share).length = endpoints.length := by
  have hendpoints : (shareAcross w endpoints share).map WeightedEndpoint.endpoint = endpoints :=
    endpoints_shareAcross (Int.natCast_pos.mpr h)
  calc (shareAcross w endpoints share).length
      = ((shareAcross w endpoints share).map WeightedEndpoint.endpoint).length :=
        (List.length_map _).symm
    _ = endpoints.length := by rw [hendpoints]

/-- A side alone is level exactly if its share divides evenly, or there is none for each. -/
lemma level_shareAcross_iff {share : ℕ} (hne : endpoints ≠ []) (h : 0 < share) :
    Level (shareAcross w endpoints share) ↔
      ¬ (endpoints.length < share ∧ share % endpoints.length ≠ 0) := by
  have hlength : 0 < endpoints.length := List.length_pos_iff.mpr hne
  have hmem : ∀ n, (∃ e ∈ shareAcross w endpoints share, e.weight = n) ↔
      ∃ i < endpoints.length, shareOf share endpoints.length i = n := by
    intro n
    rw [shareAcross, if_neg (by simp [hne]; omega), Int.toNat_natCast]
    constructor
    · rintro ⟨e, he, rfl⟩
      obtain ⟨⟨endpoint, i⟩, hi, rfl⟩ := List.mem_map.mp he
      exact ⟨i, List.snd_lt_of_mem_zipIdx hi, rfl⟩
    · rintro ⟨i, hi, rfl⟩
      have hentry : (endpoints[i], i) ∈ endpoints.zipIdx :=
        List.mk_mem_zipIdx_iff_getElem?.mpr (List.getElem?_eq_getElem hi)
      exact ⟨_, List.mem_map_of_mem hentry, rfl⟩
  rw [← shareOf_differ_iff hlength]
  constructor
  · rintro hlevel ⟨i, hi, hdiffer⟩
    obtain ⟨e, he, hweight⟩ := (hmem _).mpr ⟨i, hi, rfl⟩
    obtain ⟨e', he', hweight'⟩ := (hmem _).mpr ⟨0, hlength, rfl⟩
    exact hdiffer (by rw [← hweight, ← hweight', hlevel e he e' he'])
  · intro hnone e he e' he'
    have hfirst : ∀ e ∈ shareAcross w endpoints share,
        e.weight = shareOf share endpoints.length 0 := by
      intro e he
      obtain ⟨i, hi, hweight⟩ := (hmem _).mp ⟨e, he, rfl⟩
      by_contra hdiffer
      exact hnone ⟨i, hi, by rwa [hweight]⟩
    rw [hfirst e he, hfirst e' he']

/-! ### The split -/

/-- The weights that count: those of the split if they differ, or one each. -/
def carried (w : World) (endpoints : List Endpoint) (weighted : List WeightedEndpoint) :
    List WeightedEndpoint :=
  if splitsTraffic weighted then weighted else oneEach w endpoints

section Split

variable {host : Host} {goal : Goal} {w : World} {endpoints : List Endpoint}

lemma weightEndpoints_perm (hcanary : goal.canary ≠ none)
    (htarget : targetSide goal w endpoints ≠ []) (hprevious : previousSide goal w endpoints ≠ []) :
    (weightEndpoints host goal w endpoints).Perm
      (shareAcross w (targetSide goal w endpoints) (evaluateCanary host goal w).step.toInt ++
        shareAcross w (previousSide goal w endpoints)
          (100 - (evaluateCanary host goal w).step.toInt)) := by
  have hne : endpoints ≠ [] := by
    rintro rfl
    exact htarget rfl
  rw [weightEndpoints, if_neg hne, if_neg hcanary]
  dsimp only
  rw [if_neg htarget, if_neg hprevious]
  exact byAllocation_perm _

/-- The target version has what its side gets. -/
lemma weightOf_sides (share rest : ℤ) :
    weightOf w goal.workload.image
        (shareAcross w (targetSide goal w endpoints) share ++
          shareAcross w (previousSide goal w endpoints) rest) =
      totalWeight (shareAcross w (targetSide goal w endpoints) share) := by
  rw [weightOf_append, weightOf_all fun e he => versionOf_targetSide e (mem_shareAcross e he),
    weightOf_none fun e he => versionOf_previousSide e (mem_shareAcross e he), add_zero]

lemma length_sides :
    endpoints.length =
      (targetSide goal w endpoints).length + (previousSide goal w endpoints).length := by
  rw [← List.length_append, (sides_perm goal w endpoints).length_eq]

/-- The target version has exactly the percentage of the weight. -/
def HasShare (w : World) (image : String) (share : ℤ) (weighted : List WeightedEndpoint) : Prop :=
  100 * (weightOf w image weighted : ℤ) = share * (totalWeight weighted : ℤ)

/-- One each: the share is that of the numbers of endpoints. -/
lemma hasShare_oneEach_iff : HasShare w goal.workload.image share (oneEach w endpoints) ↔
      100 * ((targetSide goal w endpoints).length : ℤ) =
        share * ((targetSide goal w endpoints).length +
          (previousSide goal w endpoints).length) := by
  rw [HasShare, weightOf_oneEach, totalWeight_oneEach]
  rw [← Nat.cast_add, ← length_sides]

variable {weighted : List WeightedEndpoint}

/-- A side that gets everything is split if it does not divide evenly. -/
lemma splits_side_iff {side : List Endpoint} (hne : side ≠ [])
    (hweighted : weighted.Perm (shareAcross w side 100)) :
    splitsTraffic weighted = true ↔ side.length < 100 ∧ 100 % side.length ≠ 0 := by
  have hlevel : Level (shareAcross w side 100) ↔ ¬ (side.length < 100 ∧ 100 % side.length ≠ 0) :=
    level_shareAcross_iff hne (by decide)
  rw [splitsTraffic_iff, Level.perm hweighted, hlevel, not_not]

variable (htarget : targetSide goal w endpoints ≠ []) (hprevious : previousSide goal w endpoints ≠ [])

include htarget hprevious

/-- **With nothing authorised**, the target version is left out only if the weights of the other
side differ. -/
theorem carried_none (hweighted : weighted.Perm (shareAcross w (targetSide goal w endpoints) 0 ++
      shareAcross w (previousSide goal w endpoints) 100)) :
    HasShare w goal.workload.image 0 (carried w endpoints weighted) ↔
      (previousSide goal w endpoints).length < 100 ∧
        100 % (previousSide goal w endpoints).length ≠ 0 := by
  have hnobody : shareAcross w (targetSide goal w endpoints) 0 = [] := if_pos (.inr le_rfl)
  rw [hnobody, List.nil_append] at hweighted
  rw [← splits_side_iff hprevious hweighted, carried]
  split_ifs with hsplits
  · refine iff_of_true ?_ hsplits
    rw [HasShare, weightOf_perm w _ hweighted,
      weightOf_none fun e he => versionOf_previousSide e (mem_shareAcross e he)]
    omega
  · refine iff_of_false ?_ hsplits
    have hpos : 0 < (targetSide goal w endpoints).length := List.length_pos_iff.mpr htarget
    rw [hasShare_oneEach_iff]
    omega

/-- **With everything authorised**, the other versions are left out only if the weights of the
target's side differ. -/
theorem carried_all (hweighted : weighted.Perm (shareAcross w (targetSide goal w endpoints) 100 ++
      shareAcross w (previousSide goal w endpoints) 0)) :
    HasShare w goal.workload.image 100 (carried w endpoints weighted) ↔
      (targetSide goal w endpoints).length < 100 ∧
        100 % (targetSide goal w endpoints).length ≠ 0 := by
  have hnobody : shareAcross w (previousSide goal w endpoints) 0 = [] := if_pos (.inr le_rfl)
  rw [hnobody, List.append_nil] at hweighted
  rw [← splits_side_iff htarget hweighted, carried]
  split_ifs with hsplits
  · refine iff_of_true ?_ hsplits
    rw [HasShare, weightOf_perm w _ hweighted, totalWeight_perm hweighted,
      weightOf_all fun e he => versionOf_targetSide e (mem_shareAcross e he)]
  · refine iff_of_false ?_ hsplits
    have hpos : 0 < (previousSide goal w endpoints).length := List.length_pos_iff.mpr hprevious
    rw [hasShare_oneEach_iff]
    omega

/-- **Between the two**, kept or dropped, the weights are in the proportion of what the sides
get. -/
theorem carried_between {share rest : ℕ} (hshare : 0 < share) (hrest : 0 < rest)
    (hwhole : share + rest = 100)
    (hweighted : weighted.Perm (shareAcross w (targetSide goal w endpoints) share ++
      shareAcross w (previousSide goal w endpoints) rest)) :
    HasShare w goal.workload.image share (carried w endpoints weighted) ↔
      ((targetSide goal w endpoints).length ≤ share ∧
          (previousSide goal w endpoints).length ≤ rest) ∨
        100 * (targetSide goal w endpoints).length =
          share * ((targetSide goal w endpoints).length +
            (previousSide goal w endpoints).length) := by
  have htotal : totalWeight weighted =
      max share (targetSide goal w endpoints).length +
        max rest (previousSide goal w endpoints).length := by
    rw [totalWeight_perm hweighted, totalWeight_append, totalWeight_shareAcross htarget hshare,
      totalWeight_shareAcross hprevious hrest]
  have htargets : weightOf w goal.workload.image weighted =
      max share (targetSide goal w endpoints).length := by
    rw [weightOf_perm w _ hweighted, weightOf_sides, totalWeight_shareAcross htarget hshare]
  -- what the split would give, whether it is carried or not
  have hsplit : HasShare w goal.workload.image share weighted ↔
      ((targetSide goal w endpoints).length ≤ share ∧
          (previousSide goal w endpoints).length ≤ rest) ∨
        100 * (targetSide goal w endpoints).length =
          share * ((targetSide goal w endpoints).length +
            (previousSide goal w endpoints).length) := by
    rw [← hwhole, ← proportion_iff hshare hrest, hwhole, HasShare, htotal, htargets]
    exact_mod_cast Iff.rfl
  rw [carried]
  split_ifs with hsplits
  · exact hsplit
  · rw [splitsTraffic_iff, not_not, Level.perm hweighted] at hsplits
    obtain ⟨c, hc, hparts⟩ := hsplits.totalWeight (fun e he => weight_sides_pos e he) (by
      rw [← List.length_pos_iff, List.length_append, length_shareAcross hshare]
      exact Nat.add_pos_left (List.length_pos_iff.mpr htarget) _)
    have hsides : weightOf w goal.workload.image weighted =
        (targetSide goal w endpoints).length * c := by
      rw [weightOf_perm w _ hweighted, weightOf_sides, hparts _ (List.sublist_append_left _ _),
        length_shareAcross hshare]
    have hall : totalWeight weighted = ((targetSide goal w endpoints).length +
        (previousSide goal w endpoints).length) * c := by
      rw [totalWeight_perm hweighted, hparts _ (List.Sublist.refl _), List.length_append,
        length_shareAcross hshare, length_shareAcross hrest]
    rw [← hsplit, hasShare_oneEach_iff, HasShare, hsides, hall]
    push_cast
    rw [← mul_assoc, ← mul_assoc]
    exact (mul_left_inj' (Int.natCast_ne_zero.mpr hc.ne')).symm

end Split

end A4s
