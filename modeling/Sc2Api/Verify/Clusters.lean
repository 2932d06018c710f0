import Mathlib.Analysis.Real.Sqrt
import Sc2Api.Lib.Failures
import Sc2Api.Lib.Lists
import Sc2Api.Search

/-!
# Clustering units

`Cluster` groups the units greedily: each joins the cluster whose centre of mass is nearest to
it at that time, unless that is too far away.
-/

namespace Sc2Api

open Lib

/-! ## Distances -/

/-- The distance of two points. -/
noncomputable def distance3D (a b : Point3D) : ℝ := √(distanceSquared3D a b : ℝ)

theorem distanceSquared3D_nonneg (a b : Point3D) : 0 ≤ distanceSquared3D a b := by
  unfold distanceSquared3D dot3D
  exact add_nonneg (add_nonneg (mul_self_nonneg _) (mul_self_nonneg _)) (mul_self_nonneg _)

section Distances

variable {a b c d : Point3D} {r : CFloat}

theorem distance3D_le_iff : distance3D a b ≤ |(r : ℝ)| ↔ distanceSquared3D a b ≤ r * r := by
  unfold distance3D
  rw [Real.sqrt_le_left (abs_nonneg _), sq_abs, sq]
  exact_mod_cast Iff.rfl

theorem distance3D_lt_iff :
    distance3D a b < distance3D c d ↔ distanceSquared3D a b < distanceSquared3D c d := by
  unfold distance3D
  rw [Real.sqrt_lt_sqrt_iff (by exact_mod_cast distanceSquared3D_nonneg a b)]
  exact_mod_cast Iff.rfl

theorem distance3D_le_distance3D_iff :
    distance3D a b ≤ distance3D c d ↔ distanceSquared3D a b ≤ distanceSquared3D c d := by
  rw [← not_lt, distance3D_lt_iff, not_lt]

end Distances

namespace Search

/-! ## Centres of mass -/

def centreOfMass (units : List Unit) : Point3D :=
  let size : CFloat := units.length
  ⟨(units.map (·.pos.x)).sum / size, (units.map (·.pos.y)).sum / size,
    (units.map (·.pos.z)).sum / size⟩

/-- One coordinate of the update of a mean. -/
theorem mean_concat {values : List CFloat} (hne : values ≠ []) (x : CFloat) :
    (values.sum / values.length * ((values.length + 1 : CFloat) - 1) + x) /
        (values.length + 1 : CFloat) = (values ++ [x]).sum / (values.length + 1 : CFloat) := by
  have hlength : (values.length : CFloat) ≠ 0 := by
    exact_mod_cast List.length_pos_iff.2 hne |>.ne'
  rw [add_sub_cancel_right, div_mul_cancel₀ _ hlength, List.sum_append, List.sum_singleton]

theorem append_centreOfMass {units : List Unit} (hne : units ≠ []) (u : Unit) :
    append (centreOfMass units, units) u = (centreOfMass (units ++ [u]), units ++ [u]) := by
  have hmean (f : Unit → CFloat) :
      ((units.map f).sum / units.length * (((units ++ [u]).length : CFloat) - 1) + f u) /
          ((units ++ [u]).length : CFloat) =
        ((units ++ [u]).map f).sum / ((units ++ [u]).length : CFloat) := by
    have h := @mean_concat (units.map f) (by simpa using hne) (f u)
    rw [List.length_map] at h
    rw [List.length_append, List.length_singleton, List.map_append, List.map_singleton,
      Nat.cast_add, Nat.cast_one]
    exact h
  refine Prod.ext ?_ rfl
  exact (Point3D.mk.injEq ..).mpr ⟨hmean (·.pos.x), hmean (·.pos.y), hmean (·.pos.z)⟩

/-! ## The loop -/

/-- Clusters that come about greedily, with their centres of mass. A unit joins a cluster at a
distance that is `near`. -/
structure Clustering (near : ℝ → Prop) (units : List Unit) (clusters : List UnitCluster) :
    Prop where
  nonempty : ∀ c ∈ clusters, c.2 ≠ []
  centre : ∀ c ∈ clusters, c.1 = centreOfMass c.2
  greedy : Greedy centreOfMass (fun u centre => distance3D u.pos centre) near units
    (clusters.map (·.2))

/-- What `Cluster` is for: they are an ordered partition of the units, too. -/
structure Clusters (near : ℝ → Prop) (units : List Unit) (clusters : List UnitCluster) : Prop
    extends Clustering near units clusters where
  partition : ∃ positions, Partitioned units (clusters.map (·.2)) positions

section Loop

variable {r : CFloat} {units : List Unit} {clusters : List UnitCluster}

theorem Clustering.nil {near : ℝ → Prop} : Clustering near [] [] := ⟨nofun, nofun, .nil⟩

/-- A unit that is far from all clusters opens a new one. -/
theorem Clustering.start (h : Clustering (· ≤ |(r : ℝ)|) units clusters) (u : Unit)
    (hfar : ∀ c ∈ clusters, r * r < distanceSquared3D u.pos c.1) :
    Clustering (· ≤ |(r : ℝ)|) (units ++ [u]) (clusters ++ [(u.pos, [u])]) where
  nonempty := forall_mem_concat h.nonempty (List.cons_ne_nil _ _)
  centre := forall_mem_concat h.centre (by simp [centreOfMass])
  greedy := by
    rw [List.map_append, List.map_singleton]
    refine h.greedy.start fun group hgroup hnear => ?_
    obtain ⟨c, hc, rfl⟩ := List.mem_map.1 hgroup
    rw [← h.centre c hc, distance3D_le_iff] at hnear
    exact (hfar c hc).not_ge hnear

/-- A unit joins the first cluster that is nearest. -/
theorem Clustering.join {before after : List UnitCluster} {c : UnitCluster} {bound : CFloat}
    (h : Clustering (· ≤ |(r : ℝ)|) units (before ++ c :: after)) (u : Unit)
    (hleast : FirstLeast (fun c : UnitCluster => distanceSquared3D u.pos c.1) bound before c after)
    (hnear : distanceSquared3D u.pos c.1 ≤ r * r) :
    Clustering (· ≤ |(r : ℝ)|) (units ++ [u]) (before ++ append c u :: after) := by
  have hc : c ∈ before ++ c :: after := List.mem_append_right _ List.mem_cons_self
  have hbefore {d} (hd : d ∈ before) : d ∈ before ++ c :: after := List.mem_append_left _ hd
  have hafter {d} (hd : d ∈ after) : d ∈ before ++ c :: after :=
    List.mem_append_right _ (List.mem_cons_of_mem _ hd)
  have hcentre : c.1 = centreOfMass c.2 := h.centre c hc
  have happend : append c u = (centreOfMass (c.2 ++ [u]), c.2 ++ [u]) := by
    rw [← append_centreOfMass (h.nonempty c hc) u, ← hcentre]
  refine ⟨?_, ?_, ?_⟩
  · refine forall_mem_replace h.nonempty ?_
    rw [happend]
    exact List.append_ne_nil_of_right_ne_nil _ (List.cons_ne_nil _ _)
  · refine forall_mem_replace h.centre ?_
    rw [happend]
  · have hgreedy := h.greedy
    rw [List.map_append, List.map_cons] at hgreedy ⊢
    rw [happend]
    refine hgreedy.join ?_ ?_ ?_
    · rwa [← hcentre, distance3D_le_iff]
    · intro group hgroup
      obtain ⟨d, hd, rfl⟩ := List.mem_map.1 hgroup
      rw [← hcentre, ← h.centre d (hbefore hd), distance3D_lt_iff]
      exact hleast.lt_before d hd
    · intro group hgroup
      obtain ⟨d, hd, rfl⟩ := List.mem_map.1 hgroup
      rw [← hcentre, ← h.centre d (hafter hd), distance3D_le_distance3D_iff]
      exact hleast.le_after d hd

/-- A turn of the loop, where the square of the distance is below the largest `float`. -/
theorem clusterUnit_clustering (h : Clustering (· ≤ |(r : ℝ)|) units clusters)
    (hr : r * r < floatMax) (u : Unit) :
    ∃ clusters', clusterUnit (r * r) clusters u = .ok clusters' ∧
      Clustering (· ≤ |(r : ℝ)|) (units ++ [u]) clusters' := by
  unfold clusterUnit
  obtain ⟨hscan, hall⟩ | ⟨before, c, after, rfl, hleast, hscan⟩ := leastBelow_zipIdx_cases
    (fun c : UnitCluster => distanceSquared3D u.pos c.1) floatMax clusters
  · rw [hscan]
    exact ⟨_, if_pos hr, h.start u fun c hc => hr.trans_le (hall c hc)⟩
  · rw [hscan]
    by_cases hnear : distanceSquared3D u.pos c.1 ≤ r * r
    · refine ⟨_, if_neg hnear.not_gt, ?_⟩
      rw [modify_append_cons]
      exact h.join u hleast hnear
    · refine ⟨_, if_pos (not_le.1 hnear), h.start u fun d hd => ?_⟩
      exact (not_le.1 hnear).trans_le (hleast.le hd)

end Loop

theorem cluster_clusters (units : List Unit) (distanceApart : CFloat)
    (h : distanceApart * distanceApart < floatMax) :
    ∃ clusters, cluster units distanceApart = .ok clusters ∧
      Clusters (· ≤ |(distanceApart : ℝ)|) units clusters := by
  obtain ⟨clusters, hrun, hclusters⟩ := exists_foldlM_invariant
    (I := Clustering (· ≤ |(distanceApart : ℝ)|)) .nil
    (fun _ u _ hpast => clusterUnit_clustering hpast h u) units
  exact ⟨clusters, hrun, hclusters, hclusters.greedy.partitioned⟩

def unitAt (x : CFloat) : Unit := { (default : Unit) with pos := { x } }

/-- The third unit is too far from the first one and joins the second, the fourth one is near
to both clusters and joins the second, whose centre is nearer, the last one joins the first. -/
theorem cluster_clusters_nearest :
    let units := [unitAt 0, unitAt 20, unitAt 16, unitAt 12, unitAt 5]
    let clusters : List UnitCluster := [({ x := 5 / 2 }, [unitAt 0, unitAt 5]),
      ({ x := 16 }, [unitAt 20, unitAt 16, unitAt 12])]
    (15 : CFloat) * 15 < floatMax ∧ cluster units 15 = .ok clusters ∧
      Clusters (· ≤ |((15 : CFloat) : ℝ)|) units clusters := by
  intro units clusters
  have hfar : (15 : CFloat) * 15 < floatMax := by decide +kernel
  obtain ⟨found, hrun, hclusters⟩ := cluster_clusters units 15 hfar
  have hfound : cluster units 15 = .ok clusters := by decide +kernel
  obtain rfl := Except.ok.inj (hfound.symm.trans hrun)
  exact ⟨hfar, hfound, hclusters⟩

def halfway : Unit := { (default : Unit) with pos := { x := 1 / 2 } }

/-- Two units join at a distance above the one given, which is negative. -/
theorem cluster_negative :
    (-1 : CFloat) * -1 < floatMax ∧
      distanceSquared3D (default : Unit).pos halfway.pos < floatMax ∧
      ¬∃ clusters, cluster [default, halfway] (-1) = .ok clusters ∧
        Clusters (· ≤ ((-1 : CFloat) : ℝ)) [default, halfway] clusters := by
  refine ⟨by decide +kernel, by decide +kernel, ?_⟩
  rintro ⟨clusters, hrun, hclusters⟩
  have hone : cluster [default, halfway] (-1) =
      .ok [append (default, [default]) halfway] := by decide +kernel
  rw [hone] at hrun
  obtain rfl := Except.ok.inj hrun
  have hfar (u : Unit) (centre : Point3D) : ¬distance3D u.pos centre ≤ ((-1 : CFloat) : ℝ) := by
    have := Real.sqrt_nonneg (distanceSquared3D u.pos centre : ℝ)
    push_cast
    exact fun h => absurd (this.trans h) (by norm_num)
  exact absurd (congrArg List.length (hclusters.greedy.eq_singletons hfar)) (by decide)

end Search

end Sc2Api
