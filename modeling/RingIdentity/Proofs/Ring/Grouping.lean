import Mathlib.Data.List.Sort
import Mathlib.Data.String.Basic
import RingIdentity.Proofs.Registry.Invariant
import RingIdentity.Ring.Seeds
/-! # Rack maps do not depend on listing order

A rack map is built in one pass that files each listed record under its rack, opening a group in
rack order when the rack is new, followed by a stable sort of every group by id.  The pass keeps
three facts (`Grouping`): the rack names are strictly increasing, a name is there exactly when a
record of that rack was listed, and the group of a rack holds the records of that rack in listing
order.  So the map sees the listing through two views only (`ofInstances_eq_keys`): which racks
occur, and for each rack its records sorted by id.  In particular the records of a rack are
exactly those listed for it, sorted by id (`rack_ofInstances`).

When no two records share a slot, the ids of one rack are distinct and the sort has no ties to
break, so two listings that are permutations of each other give the same map
(`ofInstances_eq_of_perm`), and with it the same seeds and the same anchors.  The registry never
lists two records of one slot (`Registry.WellFormed.slots_nodup`); where two records do share a
slot, the order in which they are listed decides which of them anchors the rack.
-/
namespace RingIdentity

namespace RackMap

/-! ## The grouping pass -/

/-- The grouping pass of `ofInstances`, before each group is sorted. -/
def groups (xs : List RingInstance) : List (String × List RingInstance) :=
  xs.foldl (fun g r => addToGroup r g) []

/-- The group filed under a rack name; empty when there is none. -/
def groupOf (g : List (String × List RingInstance)) (k : String) : List RingInstance :=
  ((g.find? (·.1 == k)).map (·.2)).getD []

theorem ofInstances_eq_groups (xs : List RingInstance) :
    ofInstances xs = ⟨(groups xs).map fun e => (e.1, byId e.2)⟩ := rfl

theorem rack_eq_groupOf (m : RackMap) (k : String) : m.rack k = groupOf m.racks k := rfl

@[simp] theorem groupOf_nil (k : String) : groupOf [] k = [] := rfl

theorem groupOf_cons (k k' : String) (ms : List RingInstance)
    (rest : List (String × List RingInstance)) :
    groupOf ((k, ms) :: rest) k' = if k = k' then ms else groupOf rest k' := by
  by_cases h : k = k' <;> simp [groupOf, h]

theorem groupOf_of_not_mem {g : List (String × List RingInstance)} {k : String}
    (h : k ∉ g.map Prod.fst) : groupOf g k = [] := by
  have hnone : g.find? (·.1 == k) = none :=
    List.find?_eq_none.mpr fun e he hk => h (List.mem_map.mpr ⟨e, he, by simpa using hk⟩)
  simp [groupOf, hnone]

/-- What the grouping pass keeps, for the records `xs` listed so far. -/
structure Grouping (xs : List RingInstance) (g : List (String × List RingInstance)) : Prop where
  sorted : (g.map Prod.fst).Pairwise (· < ·)
  mem_keys : ∀ k, k ∈ g.map Prod.fst ↔ ∃ x ∈ xs, x.rac = k
  group : ∀ e ∈ g, e.2 = xs.filter (·.rac == e.1)

/-- The group of any rack name is the records listed for it, in listing order. -/
theorem Grouping.groupOf_eq {xs : List RingInstance} {g : List (String × List RingInstance)}
    (h : Grouping xs g) (k : String) : groupOf g k = xs.filter (·.rac == k) := by
  cases hf : g.find? (·.1 == k) with
  | some e =>
    have hk : e.1 = k := by simpa using List.find?_some hf
    simp only [groupOf, hf, Option.map_some, Option.getD_some]
    rw [h.group e (List.mem_of_find?_eq_some hf), hk]
  | none =>
    have hk : k ∉ g.map Prod.fst := fun hk => by
      obtain ⟨e, he, rfl⟩ := List.mem_map.mp hk
      exact absurd hf (List.find?_isSome.mpr ⟨e, he, by simp⟩ |> Option.isSome_iff_ne_none.mp)
    have hnone : ∀ x ∈ xs, ¬x.rac = k := fun x hx hr => hk ((h.mem_keys k).mpr ⟨x, hx, hr⟩)
    simp only [groupOf, hf, Option.map_none, Option.getD_none]
    exact (List.filter_eq_nil_iff.mpr fun x hx => by simpa using hnone x hx).symm

/-! ## Filing one record -/

section AddToGroup

variable (r : RingInstance)

theorem keys_addToGroup (g : List (String × List RingInstance)) (k : String) :
    k ∈ (addToGroup r g).map Prod.fst ↔ k = r.rac ∨ k ∈ g.map Prod.fst := by
  induction g with
  | nil => simp [addToGroup]
  | cons e rest ih =>
    obtain ⟨k', ms⟩ := e
    simp only [addToGroup]
    split_ifs with h₁ h₂
    · subst h₁
      simp
    · simp [or_left_comm]
    · simp only [List.map_cons, List.mem_cons, ih]
      tauto

variable {r}

theorem sorted_addToGroup {g : List (String × List RingInstance)}
    (h : (g.map Prod.fst).Pairwise (· < ·)) :
    ((addToGroup r g).map Prod.fst).Pairwise (· < ·) := by
  induction g with
  | nil => simp [addToGroup]
  | cons e rest ih =>
    obtain ⟨k, ms⟩ := e
    obtain ⟨hk, hrest⟩ := List.pairwise_cons.mp h
    simp only [addToGroup]
    split_ifs with h₁ h₂
    · simpa using h
    · -- the new rack goes first: it is below `k`, hence below every later name
      refine List.pairwise_cons.mpr ⟨fun k' hk' => ?_, h⟩
      rcases List.mem_cons.mp hk' with rfl | hk'
      · exact h₂
      · exact h₂.trans (hk k' hk')
    · have hlt : k < r.rac := lt_of_le_of_ne (not_lt.mp h₂) (Ne.symm h₁)
      refine List.pairwise_cons.mpr ⟨fun k' hk' => ?_, ih hrest⟩
      rcases (keys_addToGroup r rest k').mp hk' with rfl | hk'
      · exact hlt
      · exact hk k' hk'

/-- Filing a record appends it to its rack's group and leaves every other group as it was. -/
theorem mem_addToGroup {g : List (String × List RingInstance)}
    (h : (g.map Prod.fst).Pairwise (· < ·)) {e : String × List RingInstance}
    (he : e ∈ addToGroup r g) :
    e = (r.rac, groupOf g r.rac ++ [r]) ∨ (e.1 ≠ r.rac ∧ e ∈ g) := by
  induction g with
  | nil =>
    simp only [addToGroup, List.mem_singleton] at he
    exact .inl (by simpa using he)
  | cons e' rest ih =>
    obtain ⟨k, ms⟩ := e'
    obtain ⟨hk, hrest⟩ := List.pairwise_cons.mp h
    simp only [addToGroup] at he
    split_ifs at he with h₁ h₂
    · -- the rack is `k`: its group grows, the later groups are of larger names
      subst h₁
      rcases List.mem_cons.mp he with rfl | he
      · exact .inl (by simp [groupOf_cons])
      · exact .inr ⟨(hk e.1 (List.mem_map_of_mem he)).ne', List.mem_cons_of_mem _ he⟩
    · rcases List.mem_cons.mp he with rfl | he
      · -- a new rack below every name there
        have hnot : r.rac ∉ ((k, ms) :: rest).map Prod.fst := by
          simp only [List.map_cons, List.mem_cons, not_or]
          exact ⟨h₂.ne, fun hr => lt_asymm h₂ (hk _ hr)⟩
        exact .inl (by simp [groupOf_of_not_mem hnot])
      · refine .inr ⟨fun he₁ => ?_, he⟩
        rcases List.mem_cons.mp he with rfl | he
        · exact h₁ he₁.symm
        · exact lt_asymm h₂ (he₁ ▸ hk e.1 (List.mem_map_of_mem he))
    · rcases List.mem_cons.mp he with rfl | he
      · exact .inr ⟨fun h => h₁ h.symm, List.mem_cons_self⟩
      · rcases ih hrest he with rfl | ⟨hne, he⟩
        · exact .inl (by simp [groupOf_cons, Ne.symm h₁])
        · exact .inr ⟨hne, List.mem_cons_of_mem _ he⟩

/-- Filing a record keeps the grouping, for the listing with that record at its end. -/
theorem Grouping.addToGroup {xs : List RingInstance} {g : List (String × List RingInstance)}
    (h : Grouping xs g) : Grouping (xs ++ [r]) (RackMap.addToGroup r g) := by
  refine ⟨sorted_addToGroup h.sorted, fun k => ?_, fun e he => ?_⟩
  · rw [keys_addToGroup, h.mem_keys]
    simp only [List.mem_append, List.mem_singleton]
    constructor
    · rintro (rfl | ⟨x, hx, rfl⟩)
      · exact ⟨r, .inr rfl, rfl⟩
      · exact ⟨x, .inl hx, rfl⟩
    · rintro ⟨x, hx | rfl, rfl⟩
      · exact .inr ⟨x, hx, rfl⟩
      · exact .inl rfl
  · rcases mem_addToGroup h.sorted he with rfl | ⟨hne, he⟩
    · simp [h.groupOf_eq, List.filter_append]
    · rw [h.group e he, List.filter_append]
      simp [Ne.symm hne]

end AddToGroup

theorem grouping_foldl (xs ys : List RingInstance) {g : List (String × List RingInstance)}
    (h : Grouping xs g) : Grouping (xs ++ ys) (ys.foldl (fun g r => addToGroup r g) g) := by
  induction ys generalizing xs g with
  | nil => simpa using h
  | cons y ys ih =>
    simpa using ih (xs ++ [y]) h.addToGroup

theorem grouping_groups (xs : List RingInstance) : Grouping xs (groups xs) := by
  simpa [groups] using grouping_foldl [] xs ⟨.nil, by simp, by simp⟩

/-! ## The map through its two views -/

/-- A rack map holds, for each rack that occurs, its records sorted by id. -/
theorem ofInstances_eq_keys (xs : List RingInstance) :
    ofInstances xs =
      ⟨((groups xs).map Prod.fst).map fun k => (k, byId (xs.filter (·.rac == k)))⟩ := by
  rw [ofInstances_eq_groups, List.map_map]
  congr 1
  refine List.map_congr_left fun e he => ?_
  simp [(grouping_groups xs).group e he]

/-- The records of a rack are the records listed for it, sorted by id. -/
theorem rack_ofInstances (xs : List RingInstance) (k : String) :
    (ofInstances xs).rack k = byId (xs.filter (·.rac == k)) := by
  have hg := grouping_groups xs
  rw [rack_eq_groupOf, ofInstances_eq_groups]
  cases hf : (groups xs).find? (·.1 == k) with
  | some e =>
    have hk : e.1 = k := by simpa using List.find?_some hf
    have hmap : ((groups xs).map fun e => (e.1, byId e.2)).find? (·.1 == k) =
        some (e.1, byId e.2) := by
      rw [List.find?_map]
      simp only [Function.comp_def, hf, Option.map_some]
    simp only [groupOf, hmap, Option.map_some, Option.getD_some]
    rw [hg.group e (List.mem_of_find?_eq_some hf), hk]
  | none =>
    have hmap : ((groups xs).map fun e => (e.1, byId e.2)).find? (·.1 == k) = none := by
      rw [List.find?_map]
      simp only [Function.comp_def, hf, Option.map_none]
    have hempty : xs.filter (·.rac == k) = [] := by
      rw [← hg.groupOf_eq k]
      simp [groupOf, hf]
    rw [groupOf, hmap, hempty]
    simp [byId]

/-! ## Order does not matter when slots are apart -/

theorem pairwise_byId (l : List RingInstance) : (byId l).Pairwise fun a b => a.id ≤ b.id := by
  simpa [byId] using @List.pairwise_mergeSort _ (fun a b : RingInstance => decide (a.id ≤ b.id))
    (fun _ _ _ h₁ h₂ => by simp only [decide_eq_true_eq] at *; omega)
    (fun a b => by simpa using Nat.le_total a.id b.id) l

/-- Sorting by id gives one answer for all orders of records whose ids are distinct. -/
theorem byId_eq_of_perm {l₁ l₂ : List RingInstance} (hp : l₁.Perm l₂)
    (hids : (l₁.map (·.id)).Nodup) : byId l₁ = byId l₂ := by
  have hperm : (byId l₁).Perm (byId l₂) :=
    (List.mergeSort_perm l₁ _).trans (hp.trans (List.mergeSort_perm l₂ _).symm)
  refine hperm.eq_of_pairwise (fun a b ha hb hab hba => ?_) (pairwise_byId l₁) (pairwise_byId l₂)
  -- two records of equal id, both listed in `l₁`: distinct ids make them one record
  have ha' : a ∈ l₁ := (List.mergeSort_perm l₁ _).subset ha
  have hb' : b ∈ l₁ := hp.symm.subset ((List.mergeSort_perm l₂ _).subset hb)
  exact List.inj_on_of_nodup_map hids ha' hb' (Nat.le_antisymm hab hba)

/-- Listings that are permutations of each other show the same racks. -/
theorem keys_eq_of_perm {xs ys : List RingInstance} (hp : xs.Perm ys) :
    (groups xs).map Prod.fst = (groups ys).map Prod.fst := by
  refine List.Pairwise.eq_of_mem_iff (grouping_groups xs).sorted (grouping_groups ys).sorted
    fun k => ?_
  rw [(grouping_groups xs).mem_keys, (grouping_groups ys).mem_keys]
  exact ⟨fun ⟨x, hx, hk⟩ => ⟨x, hp.subset hx, hk⟩, fun ⟨x, hx, hk⟩ => ⟨x, hp.symm.subset hx, hk⟩⟩

/-- Records of one rack whose slots are distinct have distinct ids. -/
theorem ids_nodup_of_slots {xs : List RingInstance}
    (hslots : (xs.map fun r => (r.rac, r.id)).Nodup) (k : String) :
    ((xs.filter (·.rac == k)).map (·.id)).Nodup := by
  have hsub : ((xs.filter (·.rac == k)).map fun r => (r.rac, r.id)).Nodup :=
    hslots.sublist (List.filter_sublist.map _)
  have heq : (xs.filter (·.rac == k)).map (fun r => (r.rac, r.id)) =
      ((xs.filter (·.rac == k)).map (·.id)).map fun i => (k, i) := by
    rw [List.map_map]
    refine List.map_congr_left fun x hx => ?_
    simp only [Function.comp_apply, Prod.mk.injEq, and_true]
    simpa using (List.mem_filter.mp hx).2
  rw [heq] at hsub
  exact hsub.of_map _

/-- **A rack map does not depend on the listing order.**  Two listings that are permutations of
each other, with no slot listed twice, give the same map. -/
theorem ofInstances_eq_of_perm {xs ys : List RingInstance} (hp : xs.Perm ys)
    (hslots : (xs.map fun r => (r.rac, r.id)).Nodup) : ofInstances xs = ofInstances ys := by
  rw [ofInstances_eq_keys, ofInstances_eq_keys, keys_eq_of_perm hp]
  congr 1
  refine List.map_congr_left fun k _ => ?_
  rw [byId_eq_of_perm (hp.filter _) (ids_nodup_of_slots hslots k)]

/-- **Topology views do not depend on the listing order.**  Two listings that are permutations of
each other, with no slot listed twice, give the same rack map, hence the same seeds for every
node, policy and capacity, and the same anchor of every rack. -/
theorem views_eq_of_perm {xs ys : List RingInstance} (hp : xs.Perm ys)
    (hslots : (xs.map fun r => (r.rac, r.id)).Nodup) :
    ofInstances xs = ofInstances ys ∧
      (∀ (p : SeedPolicy) (node : RingInstance) (capacity : Option Nat),
        p.select (ofInstances xs) node capacity = p.select (ofInstances ys) node capacity) ∧
      ∀ rac, (ofInstances xs).anchor rac = (ofInstances ys).anchor rac := by
  have h := ofInstances_eq_of_perm hp hslots
  exact ⟨h, fun p node capacity => by rw [h], fun rac => by rw [h]⟩

theorem views_eq_of_swapped_racks :
    let a : RingInstance := { id := 0, app := "cass_cluster", instanceId := "i-a", rac := "r1" }
    let b : RingInstance := { id := 0, app := "cass_cluster", instanceId := "i-b", rac := "r2" }
    let c : RingInstance := { id := 1, app := "cass_cluster", instanceId := "i-c", rac := "r1" }
    [a, b, c].Perm [c, b, a] ∧ ([a, b, c].map fun r => (r.rac, r.id)).Nodup ∧
      ofInstances [a, b, c] = ofInstances [c, b, a] ∧
      (∀ (p : SeedPolicy) (node : RingInstance) (capacity : Option Nat),
        p.select (ofInstances [a, b, c]) node capacity =
          p.select (ofInstances [c, b, a]) node capacity) ∧
      ∀ rac, (ofInstances [a, b, c]).anchor rac = (ofInstances [c, b, a]).anchor rac := by
  intro a b c
  have hp : [a, b, c].Perm [c, b, a] := by decide
  have hslots : ([a, b, c].map fun r => (r.rac, r.id)).Nodup := by decide
  exact ⟨hp, hslots, views_eq_of_perm hp hslots⟩

/-- Where two records share a slot, the listing order decides which anchors the rack. -/
theorem anchor_of_shared_slot_depends_on_order :
    let a : RingInstance := { id := 0, app := "cass_cluster", instanceId := "i-a", rac := "r1" }
    let b : RingInstance := { id := 0, app := "cass_cluster", instanceId := "i-b", rac := "r1" }
    [a, b].Perm [b, a] ∧ (ofInstances [a, b]).anchor "r1" = some a ∧
      (ofInstances [b, a]).anchor "r1" = some b := by
  intro a b
  refine ⟨.swap b a [], ?_, ?_⟩ <;>
    simp [anchor, rack_ofInstances, byId, List.mergeSort_of_pairwise, a, b]

end RackMap

/-- The registry never holds two records of one slot in a namespace. -/
theorem Registry.WellFormed.slots_nodup {reg : Registry} (h : reg.WellFormed) (k : String) :
    ((reg.records k).map fun r => (r.rac, r.id)).Nodup := by
  refine List.pairwise_map.mpr ((h.records k).apart.imp fun hab heq => hab.1 ?_)
  exact ⟨(Prod.mk.inj heq).1, (Prod.mk.inj heq).2⟩

/-- However a registry lists a namespace, the rack map of the listing is the same. -/
theorem Registry.Reachable.ofInstances_eq_of_perm {reg : Registry} (h : reg.Reachable)
    (k : String) {ys : List RingInstance} (hp : (reg.records k).Perm ys) :
    RackMap.ofInstances (reg.records k) = RackMap.ofInstances ys :=
  RackMap.ofInstances_eq_of_perm hp (h.wellFormed.slots_nodup k)

end RingIdentity
