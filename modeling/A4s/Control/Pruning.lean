/-
What pruning leaves of a volume.

The removed ids of a prune travel as lines of text, and the projection drops each from the
records of the volume. The order of the snapshots is a list, from which one occurrence goes
for every line.

* `splitLines_join`: joined lines come back.
* `pruned`: the volume after the lines a report lists.
* `copies_pruned_iff`: which lines leave all its copies.
* `pruned_again_iff`: pruning it by the same lines again changes nothing exactly if no line
  occurred more often in the order than in the report.
* `project_snapshotsPruned`, `project_imagesCollected`: the projection of the two reports.
-/
import A4s.Control.Effect

namespace A4s

open Go

/-- Joined lines come back, without the empty ones. -/
lemma splitLines_join (texts : List String) :
    splitLines (String.intercalate "\n" texts) = texts.flatMap splitLines := by
  cases texts with
  | nil => rfl
  | cons text texts =>
    have hsep : "\n" = String.singleton '\n' := rfl
    rw [splitLines, hsep, split_intercalate, List.filter_flatMap]
    rfl

/-- Nothing is removed exactly if nothing that is to be removed is there. -/
lemma diff_eq_self_iff {order ids : List String} :
    order.diff ids = order ↔ ∀ id ∈ ids, id ∉ order := by
  constructor
  · intro h id hid hmem
    have hcount := List.count_diff id order ids
    rw [h] at hcount
    have hpos := List.count_pos_iff.mpr hmem
    have hpos' := List.count_pos_iff.mpr hid
    omega
  · intro h
    induction ids with
    | nil => rfl
    | cons id ids ih =>
      rw [List.diff_cons, List.erase_of_not_mem (h id List.mem_cons_self)]
      exact ih fun id' hid' => h id' (List.mem_cons_of_mem _ hid')

/-- What is left of a volume after the lines a report lists. -/
def pruned (v : Volume) (lines : List String) : Volume :=
  let left := lines.foldl dropSnapshot v
  if left.snapshots[left.lastSnapshot]?.isSome then left
    else { left with lastSnapshot := left.snapshotOrder.getLastD "" }

lemma pruned_order (v : Volume) (lines : List String) :
    (pruned v lines).snapshotOrder = v.snapshotOrder.diff lines := by
  have horder : (lines.foldl dropSnapshot v).snapshotOrder = v.snapshotOrder.diff lines := by
    rw [foldl_dropSnapshot]
  rw [pruned]
  split_ifs
  · exact horder
  · exact horder

/-- What pruning touches of a volume. -/
structure Copies where
  snapshots : Table String
  snapshotOrder : List String
  backups : Table String
  lastSnapshot : String
  deriving DecidableEq

def Volume.copies (v : Volume) : Copies :=
  ⟨v.snapshots, v.snapshotOrder, v.backups, v.lastSnapshot⟩

/-- Copies that are listed leave a catalogue. -/
def Copies.drop (c : Copies) (ids : List String) : Copies :=
  let snapshots := ids.foldl (fun t id => t.erase id) c.snapshots
  let order := c.snapshotOrder.diff ids
  { snapshots := snapshots
    snapshotOrder := order
    backups := ids.foldl (fun t id => t.erase id) c.backups
    lastSnapshot := if snapshots[c.lastSnapshot]?.isSome then c.lastSnapshot
      else order.getLastD "" }

lemma copies_pruned (v : Volume) (lines : List String) :
    (pruned v lines).copies = v.copies.drop lines := by
  rw [pruned, foldl_dropSnapshot]
  dsimp only [Copies.drop, Volume.copies]
  split_ifs <;> rfl

/-- No line names a copy of the volume, and its last snapshot is one it has or the end of the
order. -/
structure Misses (v : Volume) (lines : List String) : Prop where
  snapshots : ∀ line ∈ lines, v.snapshots[line]? = none
  backups : ∀ line ∈ lines, v.backups[line]? = none
  order : ∀ line ∈ lines, line ∉ v.snapshotOrder
  last : v.snapshots[v.lastSnapshot]?.isSome ∨ v.lastSnapshot = v.snapshotOrder.getLastD ""

/-- **Pruning leaves every copy exactly if no line names one.** -/
lemma copies_pruned_iff (v : Volume) (lines : List String) :
    (pruned v lines).copies = v.copies ↔ Misses v lines := by
  rw [copies_pruned, Volume.copies, Copies.drop, Copies.mk.injEq, Table.foldl_erase_eq_self_iff,
    diff_eq_self_iff, Table.foldl_erase_eq_self_iff]
  constructor
  · rintro ⟨hsnapshots, horder, hbackups, hlast⟩
    rw [Table.foldl_erase_eq_self_iff.mpr hsnapshots, diff_eq_self_iff.mpr horder] at hlast
    refine ⟨hsnapshots, hbackups, horder, ?_⟩
    split_ifs at hlast with hkept
    · exact .inl hkept
    · exact .inr hlast.symm
  · rintro ⟨hsnapshots, hbackups, horder, hlast⟩
    refine ⟨hsnapshots, horder, hbackups, ?_⟩
    rw [Table.foldl_erase_eq_self_iff.mpr hsnapshots, diff_eq_self_iff.mpr horder]
    split_ifs with hkept
    · rfl
    · exact (hlast.resolve_left hkept).symm

/-- Dropping what a prune has removed takes nothing further, if the order is left as it is. -/
lemma foldl_dropSnapshot_pruned {v : Volume} {lines : List String}
    (h : (v.snapshotOrder.diff lines).diff lines = v.snapshotOrder.diff lines) :
    lines.foldl dropSnapshot (pruned v lines) = pruned v lines := by
  rw [pruned, foldl_dropSnapshot lines v]
  split_ifs
  · rw [foldl_dropSnapshot]
    simp only [Table.foldl_erase_again, h]
  · rw [foldl_dropSnapshot]
    simp only [Table.foldl_erase_again, h]

/-- Pruning by the same lines again. -/
lemma pruned_again_iff (v : Volume) (lines : List String) :
    pruned (pruned v lines) lines = pruned v lines ↔
      ∀ id ∈ lines, v.snapshotOrder.count id ≤ lines.count id := by
  have hcount : (v.snapshotOrder.diff lines).diff lines = v.snapshotOrder.diff lines ↔
      ∀ id ∈ lines, v.snapshotOrder.count id ≤ lines.count id := by
    rw [diff_eq_self_iff]
    refine forall₂_congr fun id _ => ?_
    rw [← List.count_eq_zero, List.count_diff, Nat.sub_eq_zero_iff_le]
  rw [← hcount]
  constructor
  · intro h
    have horder := congrArg Volume.snapshotOrder h
    rwa [pruned_order, pruned_order] at horder
  · intro h
    have hlast : (pruned v lines).snapshots[(pruned v lines).lastSnapshot]?.isSome ∨
        { pruned v lines with
          lastSnapshot := (pruned v lines).snapshotOrder.getLastD "" } = pruned v lines := by
      -- the last snapshot is one that is left, or the end of an order that stays
      rw [pruned]
      split_ifs with hkept
      · exact .inl hkept
      · exact .inr rfl
    rw [pruned, foldl_dropSnapshot_pruned h]
    split_ifs with hkept
    · rfl
    · exact hlast.resolve_left hkept

/-! ### What the projection makes of a report -/

section Projected

variable {w w' : World} {e : Evidence}

/-- **A prune that is projected** drops the lines from the volume. -/
lemma project_snapshotsPruned (hk : e.kind = .snapshotsPruned) (h : project w e = .ok w') :
    ∃ v, w.volumes[e.target]? = some v ∧ w'.nodes = w.nodes ∧
      w'.volumes = w.volumes.insert e.target (pruned v (splitLines (e.observe "removed"))) := by
  obtain ⟨next, hinto, hnext⟩ := bind_ok.mp h
  simp only [projectInto, hk, projectSnapshotsPruned, knownVolume, require_bind_ok,
    pure_ok] at hinto
  obtain ⟨v, hv, hpruned⟩ := hinto
  change w.setVolume e.target (pruned v (splitLines (e.observe "removed"))) = next at hpruned
  subst hpruned
  cases hnext
  refine ⟨v, hv, ?_, ?_⟩ <;> split_ifs <;> rfl

/-- **A collection that is projected** drops the lines from the images of the node. -/
lemma project_imagesCollected (hk : e.kind = .imagesCollected) (h : project w e = .ok w') :
    ∃ n, w.nodes[e.target]? = some n ∧ w'.volumes = w.volumes ∧
      w'.nodes = w.nodes.insert e.target { n with images :=
        (splitLines (e.observe "reclaimed")).foldl (fun t image => t.erase image) n.images } := by
  obtain ⟨next, hinto, hnext⟩ := bind_ok.mp h
  simp only [projectInto, hk, projectImagesCollected, knownNode, require_bind_ok, pure_ok] at hinto
  obtain ⟨n, hn, rfl⟩ := hinto
  cases hnext
  refine ⟨n, hn, ?_, ?_⟩ <;> split_ifs <;> rfl

end Projected

end A4s
