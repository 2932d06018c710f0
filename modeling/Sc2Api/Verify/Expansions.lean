import Mathlib.Data.List.SplitLengths
import Sc2Api.Verify.CircleQueries
import Sc2Api.Verify.Clusters
import Sc2Api.Verify.Queries

/-!
# Calculating expansion locations

The queries of the clusters stand one behind the other in one list, and the answers are read by
segments of it. A cluster without an accepted query is given the origin as its location.
-/

namespace Sc2Api.Search

open Lib

/-! ## The queries of the clusters -/

section Queries

variable (cos sin : CFloat → CFloat) (parameters : ExpansionParameters)

/-- The queries that are generated for a cluster. -/
def generated (c : UnitCluster) : List PlacementQuery :=
  parameters.radiuses.flatMap fun r =>
    circleQueries cos sin r parameters.circleStepSize c.1.toPoint2D

variable {cos sin} {stepSize : CFloat} {turns : Nat}

theorem clusterQueries_eq (hstep : 0 < stepSize) (hturns : sampleCount stepSize < turns)
    (center : Point2D) (radiuses : List CFloat) (queries : List PlacementQuery)
    (queryCount : Nat) :
    clusterQueries cos sin turns stepSize center radiuses queries queryCount =
      some (queries ++ radiuses.flatMap (circleQueries cos sin · stepSize center),
        queryCount + (radiuses.flatMap (circleQueries cos sin · stepSize center)).length) := by
  induction radiuses generalizing queries queryCount with
  | nil =>
    rw [List.flatMap_nil, List.append_nil]
    rfl
  | cons r radiuses ih =>
    rw [clusterQueries, calculateQueries_eq hstep hturns]
    refine (ih _ _).trans ?_
    rw [List.flatMap_cons, List.append_assoc, List.length_append, Nat.add_assoc]

variable {parameters}

theorem allQueries_eq (hstep : 0 < parameters.circleStepSize)
    (hturns : sampleCount parameters.circleStepSize < turns) (clusters : List UnitCluster)
    (queries : List PlacementQuery) (querySize : List Nat) :
    allQueries cos sin turns parameters.circleStepSize parameters.radiuses clusters queries
        querySize =
      some (queries ++ (clusters.map (generated cos sin parameters)).flatten,
        querySize ++ clusters.map fun c => (generated cos sin parameters c).length) := by
  induction clusters generalizing queries querySize with
  | nil =>
    rw [List.map_nil, List.map_nil, List.flatten_nil, List.append_nil, List.append_nil]
    rfl
  | cons c clusters ih =>
    rw [allQueries, clusterQueries_eq hstep hturns, Nat.zero_add]
    refine (ih _ _).trans ?_
    rw [List.map_cons, List.map_cons, List.flatten_cons, List.append_assoc, List.append_assoc]
    rfl

end Queries

/-! ## Reading the answers -/

/-- The queries of each segment that are accepted. -/
def accepted (segments : List (List PlacementQuery)) (results : List Bool) :
    List (List PlacementQuery) :=
  List.zipWith (fun queries results => ((queries.zip results).filter (·.2)).map (·.1)) segments
    ((segments.map List.length).splitLengths results)

theorem accepted_cons (segment : List PlacementQuery) (segments : List (List PlacementQuery))
    (results : List Bool) :
    accepted (segment :: segments) results =
      ((segment.zip (results.take segment.length)).filter (·.2)).map (·.1) ::
        accepted segments (results.drop segment.length) := by
  unfold accepted
  rw [List.map_cons, List.splitLengths_cons, List.zipWith_cons_cons]

/-- The first of the closest queries and its distance, which is below the largest `float`. -/
def closest (center : Point2D) (queries : List PlacementQuery) :
    CFloat × Option PlacementQuery :=
  leastBelow (fun query => distanceSquared2D query.targetPos center) (floatMax ^ 2) queries

/-- The place of the closest query, and the origin where there is none. -/
def closestPoint (center : Point2D) (queries : List PlacementQuery) : Point2D :=
  ((closest center queries).2.map (·.targetPos)).getD {}

section Reading

variable {results : List Bool} {queries : List PlacementQuery} {center : Point2D}

theorem getElem?_of_drop {α : Type} {l rest : List α} {start : Nat} {x : α}
    (h : l.drop start = x :: rest) : l[start]? = some x ∧ l.drop (start + 1) = rest := by
  constructor
  · have hhead := congrArg (·[0]?) h
    rwa [List.getElem?_drop, List.getElem?_cons_zero, Nat.add_zero] at hhead
  · rw [← List.tail_drop, h, List.tail_cons]

theorem elementAt_of_drop {α : Type} {l rest : List α} {start : Nat} {x : α}
    (h : l.drop start = x :: rest) : elementAt l start = .ok x := by
  unfold elementAt
  rw [(getElem?_of_drop h).1]

/-- The loop over the queries of a cluster, which are a segment. -/
theorem foldlM_closestQuery {segment rest : List PlacementQuery} {answers rest' : List Bool}
    {start : Nat} (hqueries : queries.drop start = segment ++ rest)
    (hresults : results.drop start = answers ++ rest')
    (hlength : answers.length = segment.length) (best : CFloat × Point2D) :
    (List.range' start segment.length).foldlM (closestQuery results queries center) best =
      .ok ((((segment.zip answers).filter (·.2)).map (·.1)).foldl (fun best query =>
        if distanceSquared2D query.targetPos center < best.1
        then (distanceSquared2D query.targetPos center, query.targetPos) else best) best) := by
  induction segment generalizing answers start best with
  | nil => rfl
  | cons query segment ih =>
    obtain ⟨answer, answers, rfl⟩ := List.exists_cons_of_length_eq_add_one hlength
    have hquery := elementAt_of_drop hqueries
    have hanswer := elementAt_of_drop hresults
    have hrest := ih (getElem?_of_drop hqueries).2 (getElem?_of_drop hresults).2
      (Nat.succ.inj hlength)
    rw [List.length_cons, List.range'_succ, List.foldlM_cons, List.zip_cons_cons,
      List.filter_cons]
    cases answer with
    | false =>
      have hturn : closestQuery results queries center best start = .ok best := by
        unfold closestQuery
        rw [hanswer]
        rfl
      rw [hturn]
      exact hrest best
    | true =>
      have hturn : closestQuery results queries center best start =
          .ok (if distanceSquared2D query.targetPos center < best.1
            then (distanceSquared2D query.targetPos center, query.targetPos) else best) := by
        unfold closestQuery
        rw [hanswer, hquery]
        rfl
      rw [hturn]
      exact hrest _

theorem foldl_closest (queries : List PlacementQuery) :
    queries.foldl (fun best query =>
        if distanceSquared2D query.targetPos center < best.1
        then (distanceSquared2D query.targetPos center, query.targetPos) else best)
        (floatMax ^ 2, ({} : Point2D)) =
      ((closest center queries).1, closestPoint center queries) := by
  unfold closestPoint closest leastBelow
  refine @List.foldl_hom _ _ _ (fun best : CFloat × Option PlacementQuery =>
    (best.1, (best.2.map (·.targetPos)).getD ({} : Point2D))) _ _ queries (floatMax ^ 2, none)
    fun best query => ?_
  dsimp only
  split <;> rfl

/-- The expansion at a cluster with its accepted queries. -/
def expansionAt (entry : UnitCluster × List PlacementQuery) : Point3D :=
  let point := closestPoint entry.1.1.toPoint2D entry.2
  ⟨point.x, point.y, (entry.1.2.head?.map (·.pos.z)).getD 0⟩

theorem expansionLocation_eq {c : UnitCluster} (hne : c.2 ≠ [])
    {segment rest : List PlacementQuery} {answers rest' : List Bool} {start : Nat}
    (hqueries : queries.drop start = segment ++ rest)
    (hresults : results.drop start = answers ++ rest')
    (hlength : answers.length = segment.length) :
    expansionLocation results queries c start segment.length =
      .ok (expansionAt (c, ((segment.zip answers).filter (·.2)).map (·.1))) := by
  obtain ⟨center, units⟩ := c
  obtain ⟨first, units, rfl⟩ := List.exists_cons_of_ne_nil hne
  unfold expansionLocation
  rw [foldlM_closestQuery hqueries hresults hlength, foldl_closest]
  rfl

/-- The loop over the clusters reads the answers to the queries of each. -/
theorem expansionLocations_eq (generate : UnitCluster → List PlacementQuery)
    {clusters : List UnitCluster} (hne : ∀ c ∈ clusters, c.2 ≠ []) {querySize : List Nat}
    {i start : Nat} (hqueries : queries.drop start = (clusters.map generate).flatten)
    (hresults : (results.drop start).length = (clusters.map generate).flatten.length)
    (hsize : querySize.drop i = clusters.map fun c => (generate c).length) :
    expansionLocations results queries querySize clusters i start =
      .ok ((clusters.zip (accepted (clusters.map generate) (results.drop start))).map
        expansionAt) := by
  induction clusters generalizing i start with
  | nil => rfl
  | cons c clusters ih =>
    have hsplit := List.take_append_drop (generate c).length (results.drop start)
    rw [List.map_cons, List.flatten_cons, List.length_append] at hresults
    have hlength : ((results.drop start).take (generate c).length).length =
        (generate c).length := by
      rw [List.length_take]
      omega
    have hexpansion := expansionLocation_eq (hne c List.mem_cons_self) hqueries hsplit.symm hlength
    have hrest : expansionLocations results queries querySize clusters (i + 1)
        (start + (generate c).length) = .ok ((clusters.zip (accepted (clusters.map generate)
          (results.drop (start + (generate c).length)))).map expansionAt) :=
      ih (fun d hd => hne d (List.mem_cons_of_mem _ hd))
      (by rw [← List.drop_drop, hqueries, List.map_cons, List.flatten_cons, List.drop_left])
      (by rw [← List.drop_drop, List.length_drop]; omega) (getElem?_of_drop hsize).2
    rw [expansionLocations, elementAt_of_drop hsize]
    change (expansionLocation results queries c start (generate c).length >>= fun expansion =>
      expansionLocations results queries querySize clusters (i + 1)
        (start + (generate c).length) >>= fun rest => pure (expansion :: rest)) = _
    rw [hexpansion, hrest, List.map_cons, accepted_cons, List.drop_drop]
    rfl

end Reading

/-! ## Locations -/

/-- The place of an accepted query that is closest to the centre. -/
def IsClosest (center : Point2D) (queries : List PlacementQuery) (point : Point2D) : Prop :=
  ∃ query ∈ queries, query.targetPos = point ∧
    ∀ other ∈ queries, distanceSquared2D point center ≤ distanceSquared2D other.targetPos center

/-- The locations for clusters with their accepted queries: one for each that has some. -/
inductive Expands : List (UnitCluster × List PlacementQuery) → List Point3D → Prop
  | nil : Expands [] []
  | skip {c : UnitCluster} {entries locations} (rest : Expands entries locations) :
      Expands ((c, []) :: entries) locations
  | choose {c : UnitCluster} {queries entries location locations}
      (closest : IsClosest c.1.toPoint2D queries location.toPoint2D)
      (rest : Expands entries locations) :
      Expands ((c, queries) :: entries) (location :: locations)

/-- A query below the largest `float` away is accepted, or the closest one is at the origin. -/
def Found (entry : UnitCluster × List PlacementQuery) : Prop :=
  (∃ query ∈ entry.2, distanceSquared2D query.targetPos entry.1.1.toPoint2D < floatMax ^ 2) ∨
    IsClosest entry.1.1.toPoint2D entry.2 {}

section Locations

variable {entries : List (UnitCluster × List PlacementQuery)}

theorem isClosest_closestPoint_iff (entry : UnitCluster × List PlacementQuery) :
    IsClosest entry.1.1.toPoint2D entry.2 (closestPoint entry.1.1.toPoint2D entry.2) ↔
      Found entry := by
  obtain ⟨c, queries⟩ := entry
  unfold Found closestPoint closest
  obtain ⟨hscan, hall⟩ | ⟨before, query, after, rfl, hleast, hscan⟩ := leastBelow_cases
    (fun query : PlacementQuery => distanceSquared2D query.targetPos c.1.toPoint2D) (floatMax ^ 2)
    queries
  · rw [hscan]
    refine ⟨Or.inr, ?_⟩
    rintro (⟨query, hquery, hlt⟩ | h)
    · exact absurd hlt (hall query hquery).not_gt
    · exact h
  · rw [hscan]
    have hquery : query ∈ before ++ query :: after := List.mem_append_right _ List.mem_cons_self
    exact iff_of_true ⟨query, hquery, rfl, fun other hother => hleast.le hother⟩
      (Or.inl ⟨query, hquery, hleast.lt_bound⟩)

theorem Expands.length_le {locations : List Point3D} (h : Expands entries locations) :
    locations.length ≤ entries.length := by
  induction h with
  | nil => exact le_rfl
  | skip _ ih => exact Nat.le_succ_of_le ih
  | choose _ _ ih => exact Nat.succ_le_succ ih

/-- The code makes a location for every cluster. -/
theorem expands_map_iff : Expands entries (entries.map expansionAt) ↔ ∀ e ∈ entries, Found e := by
  induction entries with
  | nil => exact iff_of_true .nil nofun
  | cons e entries ih =>
    rw [List.map_cons, List.forall_mem_cons, ← ih, ← isClosest_closestPoint_iff]
    constructor
    · intro h
      cases h with
      | skip rest => exact absurd rest.length_le (by simp)
      | choose closest rest => exact ⟨closest, rest⟩
    · rintro ⟨hclosest, hrest⟩
      exact .choose hclosest hrest

end Locations

/-! ## The calculation -/

/-- It fails exactly where the loop follows a null pointer for the first unit. -/
theorem exists_cluster_iff {units : List Unit} {r : CFloat} :
    (∃ clusters, cluster units r = .ok clusters) ↔ units = [] ∨ r * r < floatMax := by
  constructor
  · rintro ⟨clusters, h⟩
    cases units with
    | nil => exact Or.inl rfl
    | cons u units =>
      refine Or.inr (not_le.1 fun hle => ?_)
      have hfirst : clusterUnit (r * r) [] u = .error .nullCluster := if_neg hle.not_gt
      unfold cluster at h
      rw [List.foldlM_cons, hfirst] at h
      cases h
  · rintro (rfl | h)
    · exact ⟨[], rfl⟩
    · obtain ⟨clusters, hrun, -⟩ := cluster_clusters units r h
      exact ⟨clusters, hrun⟩

theorem nonempty_of_cluster {units : List Unit} {r : CFloat} {clusters : List UnitCluster}
    (h : cluster units r = .ok clusters) : ∀ c ∈ clusters, c.2 ≠ [] := by
  rcases exists_cluster_iff.1 ⟨clusters, h⟩ with rfl | hr
  · cases h
    exact nofun
  · obtain ⟨clusters', hrun, hclusters⟩ := cluster_clusters units r hr
    rw [h] at hrun
    obtain rfl := Except.ok.inj hrun
    exact hclusters.nonempty

section Calculation

variable (cos sin : CFloat → CFloat) (units : List Unit)
  (placement : List PlacementQuery → List Bool) (parameters : ExpansionParameters)

/-- The clusters with the queries that were generated for them and accepted. -/
def surveyed (clusters : List UnitCluster) : List (UnitCluster × List PlacementQuery) :=
  clusters.zip (accepted (clusters.map (generated cos sin parameters))
    (placement (clusters.map (generated cos sin parameters)).flatten))

/-- The calculation returns, and its locations are those of the clusters of the resources. -/
def FindsExpansions : Prop :=
  ∃ n, ∀ turns ≥ n, ∃ clusters locations debug,
    cluster (units.filter isResource) parameters.clusterDistance = .ok clusters ∧
      calculateExpansionLocations cos sin turns units placement parameters =
        .ok (locations, debug) ∧
      Expands (surveyed cos sin placement parameters clusters) locations

/-- The resources can be clustered, and an expansion is found at each cluster. -/
structure Findable : Prop where
  clusterable : units.filter isResource = [] ∨
    parameters.clusterDistance * parameters.clusterDistance < floatMax
  found : ∀ clusters,
    cluster (units.filter isResource) parameters.clusterDistance = .ok clusters →
      ∀ e ∈ surveyed cos sin placement parameters clusters, Found e

variable {cos sin units placement parameters}

theorem calculateExpansionLocations_eq {turns : Nat} (hstep : 0 < parameters.circleStepSize)
    (hturns : sampleCount parameters.circleStepSize < turns)
    (hlength : ∀ queries, (placement queries).length = queries.length)
    {clusters : List UnitCluster}
    (hclusters : cluster (units.filter isResource) parameters.clusterDistance = .ok clusters) :
    ∃ debug, calculateExpansionLocations cos sin turns units placement parameters =
      .ok ((surveyed cos sin placement parameters clusters).map expansionAt, debug) := by
  have hlocate : locateExpansions cos sin turns placement parameters clusters =
      .ok ((surveyed cos sin placement parameters clusters).map expansionAt) := by
    unfold locateExpansions
    rw [allQueries_eq hstep hturns]
    exact congrArg (Except.mapError fun _ => Failure.outOfRange) (@expansionLocations_eq
      (placement _) _ (generated cos sin parameters) _ (nonempty_of_cluster hclusters) _ 0 0 rfl
      (hlength _) rfl)
  unfold calculateExpansionLocations
  rw [hclusters]
  dsimp only
  rw [hlocate]
  exact ⟨_, rfl⟩

theorem calculateExpansionLocations_iff (hstep : 0 < parameters.circleStepSize)
    (hlength : ∀ queries, (placement queries).length = queries.length) :
    FindsExpansions cos sin units placement parameters ↔
      Findable cos sin units placement parameters := by
  constructor
  · rintro ⟨n, h⟩
    obtain ⟨clusters, locations, debug, hclusters, hrun, hexpands⟩ :=
      h (n + sampleCount parameters.circleStepSize + 1) (by omega)
    have hturns : sampleCount parameters.circleStepSize <
        n + sampleCount parameters.circleStepSize + 1 := by omega
    obtain ⟨debug', hrun'⟩ := calculateExpansionLocations_eq hstep hturns hlength hclusters
    rw [hrun] at hrun'
    obtain ⟨rfl, -⟩ := Prod.mk.inj (Except.ok.inj hrun')
    refine ⟨exists_cluster_iff.1 ⟨clusters, hclusters⟩, fun clusters' hclusters' => ?_⟩
    rw [hclusters] at hclusters'
    obtain rfl := Except.ok.inj hclusters'
    exact expands_map_iff.1 hexpands
  · intro h
    obtain ⟨clusters, hclusters⟩ := exists_cluster_iff.2 h.clusterable
    refine ⟨sampleCount parameters.circleStepSize + 1, fun turns hturns => ?_⟩
    obtain ⟨debug, hrun⟩ := calculateExpansionLocations_eq hstep hturns hlength hclusters
    exact ⟨clusters, _, debug, hclusters, hrun, expands_map_iff.2 (h.found clusters hclusters)⟩

end Calculation

def mineralField : Unit := { (default : Unit) with unitType := 341, pos := ⟨20, 30, 10⟩ }

def geyser : Unit := { (default : Unit) with unitType := 342, pos := ⟨200, 100, 12⟩ }

/-- Four places on two circles, with something near a cosine and a sine. -/
def fourPlaces : ExpansionParameters where
  radiuses := [6, 7]
  circleStepSize := 90

/-- All places are accepted but the one that is due east of the mineral field. -/
def acceptsMost (queries : List PlacementQuery) : List Bool :=
  queries.map fun query => query.targetPos.y ≠ 30

theorem cluster_two :
    cluster ([mineralField, geyser].filter isResource) fourPlaces.clusterDistance =
      .ok [(mineralField.pos, [mineralField]), (geyser.pos, [geyser])] := by
  decide +kernel

theorem found_two : ∀ e ∈ surveyed (1 - ·) id acceptsMost fourPlaces
    [(mineralField.pos, [mineralField]), (geyser.pos, [geyser])], ∃ query ∈ e.2,
      distanceSquared2D query.targetPos e.1.1.toPoint2D < floatMax ^ 2 := by
  decide +kernel

/-- An expansion is found at each of two clusters. -/
theorem calculateExpansionLocations_mineralField :
    FindsExpansions (1 - ·) id [mineralField, geyser] acceptsMost fourPlaces := by
  have hstep : 0 < fourPlaces.circleStepSize := by norm_num [fourPlaces]
  refine (calculateExpansionLocations_iff hstep fun _ => List.length_map _).2 ⟨?_, ?_⟩
  · exact exists_cluster_iff.1 ⟨_, cluster_two⟩
  · intro clusters hclusters e he
    obtain rfl := Except.ok.inj (cluster_two.symm.trans hclusters)
    exact .inl (found_two e he)

/-- The only query of the only cluster is not accepted. -/
theorem nothing_accepted :
    ¬FindsExpansions (fun _ => 1) (fun _ => 0) [mineralField] (·.map fun _ => false)
      { radiuses := [6], circleStepSize := 360 } := by
  rintro ⟨n, h⟩
  let parameters : ExpansionParameters := { radiuses := [6], circleStepSize := 360 }
  obtain ⟨clusters, locations, debug, hclusters, hrun, hexpands⟩ :=
    h (n + sampleCount parameters.circleStepSize + 1) (by omega)
  have hstep : 0 < parameters.circleStepSize := by norm_num [parameters]
  have hturns : sampleCount parameters.circleStepSize <
      n + sampleCount parameters.circleStepSize + 1 := by omega
  obtain ⟨debug', hrun'⟩ :=
    calculateExpansionLocations_eq hstep hturns (fun _ => List.length_map _) hclusters
  rw [hrun] at hrun'
  obtain ⟨rfl, -⟩ := Prod.mk.inj (Except.ok.inj hrun')
  have hone : cluster ([mineralField].filter isResource) parameters.clusterDistance =
      .ok [(mineralField.pos, [mineralField])] := by decide +kernel
  rw [hone] at hclusters
  obtain rfl := Except.ok.inj hclusters
  have hnone : surveyed (fun _ => 1) (fun _ => 0) (·.map fun _ => false) parameters
      [(mineralField.pos, [mineralField])] = [((mineralField.pos, [mineralField]), [])] := by
    decide +kernel
  have hfound := expands_map_iff.1 hexpands
  rw [hnone] at hfound
  rcases hfound _ List.mem_cons_self with ⟨_, hquery, _⟩ | ⟨_, hquery, _⟩
  · exact absurd hquery List.not_mem_nil
  · exact absurd hquery List.not_mem_nil

end Sc2Api.Search
