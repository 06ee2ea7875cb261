import Display3270.Text.Cluster

namespace Display3270

def Leads (cluster : List Char) (s : ClusterState) : Prop :=
  cluster ≠ [] ∧ ∀ rest, clusters (cluster.reverse ++ rest) = clustersFrom s cluster rest

theorem leads_first (c : Char) : Leads [c] (.first (breakClass c)) :=
  ⟨by simp, fun _ => rfl⟩

theorem Leads.next {cluster : List Char} {s : ClusterState} (h : Leads cluster s) {c : Char}
    (hc : s.joins (breakClass c) = true) : Leads (c :: cluster) (s.next (breakClass c)) := by
  refine ⟨by simp, fun rest => ?_⟩
  have hread := h.2 (c :: rest)
  rw [clustersFrom, if_pos hc] at hread
  simpa using hread

theorem Leads.single {cluster : List Char} {s : ClusterState} (h : Leads cluster s) :
    cluster.reverse ≠ [] ∧ clusters cluster.reverse = [cluster.reverse] := by
  have hread := h.2 []
  rw [List.append_nil, clustersFrom] at hread
  exact ⟨by simpa using h.1, hread⟩

theorem single_of_mem_clustersFrom {s : ClusterState} {cluster cs g : List Char}
    (h : Leads cluster s) (hg : g ∈ clustersFrom s cluster cs) : g ≠ [] ∧ clusters g = [g] := by
  -- the open cluster leads to the state at every character, so it is one cluster wherever it ends
  induction cs generalizing s cluster with
  | nil =>
    obtain rfl : g = cluster.reverse := by simpa [clustersFrom] using hg
    exact h.single
  | cons c cs ih =>
    by_cases hc : s.joins (breakClass c) = true
    · rw [clustersFrom, if_pos hc] at hg
      exact ih (h.next hc) hg
    · rw [clustersFrom, if_neg hc] at hg
      rcases List.mem_cons.mp hg with rfl | hg
      · exact h.single
      · exact ih (leads_first c) hg

theorem single_of_mem_clusters {cs g : List Char} (h : g ∈ clusters cs) :
    g ≠ [] ∧ clusters g = [g] := by
  cases cs with
  | nil => simp [clusters] at h
  | cons c cs => exact single_of_mem_clustersFrom (leads_first c) h

theorem single_of_mem_graphemes {s g : String} (h : g ∈ graphemes s) :
    g ≠ "" ∧ graphemes g = [g] := by
  obtain ⟨cs, hcs, rfl⟩ := List.mem_map.mp h
  obtain ⟨hne, hsingle⟩ := single_of_mem_clusters hcs
  constructor
  · intro hempty
    apply hne
    rw [← String.toList_ofList (l := cs), hempty, String.toList_empty]
  · rw [graphemes, String.toList_ofList, hsingle, List.map_cons, List.map_nil]

theorem flatten_clustersFrom (s : ClusterState) (cluster cs : List Char) :
    (clustersFrom s cluster cs).flatten = cluster.reverse ++ cs := by
  induction cs generalizing s cluster with
  | nil => simp [clustersFrom]
  | cons c cs ih =>
    rw [clustersFrom]
    split
    · rw [ih, List.reverse_cons, List.append_assoc, List.singleton_append]
    · rw [List.flatten_cons, ih, List.reverse_singleton, List.singleton_append]

theorem flatten_clusters (cs : List Char) : (clusters cs).flatten = cs := by
  cases cs with
  | nil => rfl
  | cons c cs => exact flatten_clustersFrom _ [c] cs

theorem join_graphemes (s : String) : String.join (graphemes s) = s := by
  rw [← String.toList_inj, String.toList_join, graphemes, List.flatMap_map]
  simp only [String.toList_ofList]
  exact List.flatten_eq_flatMap.symm.trans (flatten_clusters s.toList)

theorem graphemes_space : graphemes " " = [" "] := by
  decide

end Display3270
