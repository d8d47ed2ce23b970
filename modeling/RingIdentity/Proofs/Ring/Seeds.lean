import RingIdentity.Proofs.Ring.Grouping
/-! # Seed selection laws

A seed list is built by adding addresses one at a time, each only when it is not there yet
(`addSeed`).  Such a list keeps the first occurrence of every address it was offered, in order:
it is the offers with repeats removed (`foldl_addSeed`).  Selection offers, first, the second
record of the local rack when a single-rack cluster is full and its anchor runs on the local
address (`SeedPolicy.rackFill`), then the first admitted record of every rack, in the map's rack
order (`SeedPolicy.offered`).

From that shape come the laws of `SeedPolicy.select`: no seed while a single rack is not full,
no repeated seed, at most one seed per rack and one more, every seed the address of a record of
the map that is not a placeholder, and, without a declared capacity, exactly the racks' offers
with repeats removed.  The exclusion of the local host holds of the racks' offers only: the
single-rack branch names the rack's second record without asking whether it runs on the local
host, so a running node whose rack holds a second record on its own host is offered to itself
(`select_offers_local_host`).
-/
namespace RingIdentity

namespace SeedPolicy

/-! ## Seed lists -/

/-- Adds an address to a seed list unless it is there already. -/
def addSeed (seeds : List String) (a : String) : List String :=
  if seeds.contains a then seeds else seeds ++ [a]

theorem push_eq_addSeed (p : SeedPolicy) (seeds : List String) (r : RingInstance) :
    p.push seeds r = addSeed seeds (p.addressForm.addressOf r) := rfl

theorem addSeed_of_mem {seeds : List String} {a : String} (h : a ∈ seeds) :
    addSeed seeds a = seeds := by
  simp [addSeed, h]

theorem addSeed_of_not_mem {seeds : List String} {a : String} (h : a ∉ seeds) :
    addSeed seeds a = seeds ++ [a] := by
  simp [addSeed, h]

/-- Adding offers in turn keeps the first occurrence of each, after what was there. -/
theorem foldl_addSeed (offers seeds : List String) :
    offers.foldl addSeed seeds = seeds ++ (offers.removeAll seeds).eraseDups := by
  induction offers generalizing seeds with
  | nil => simp
  | cons a offers ih =>
    rw [List.foldl_cons, ih]
    by_cases ha : a ∈ seeds
    · rw [addSeed_of_mem ha]
      simp [List.removeAll, ha]
    · -- the offer is new: it is kept, and its later repeats are dropped
      rw [addSeed_of_not_mem ha, List.append_assoc]
      simp only [List.removeAll, List.filter_cons, List.elem_eq_mem, ha, decide_false,
        Bool.not_false, ↓reduceIte, List.eraseDups_cons, List.singleton_append,
        List.filter_filter]
      congr 2
      congr 1
      refine List.filter_congr fun b _ => ?_
      by_cases hb : b = a <;> simp [hb, ha]

theorem mem_foldl_addSeed {offers seeds : List String} {s : String} :
    s ∈ offers.foldl addSeed seeds ↔ s ∈ seeds ∨ s ∈ offers := by
  rw [foldl_addSeed]
  simp only [List.mem_append, List.mem_eraseDups, List.removeAll, List.mem_filter,
    List.elem_eq_mem, Bool.not_eq_true', decide_eq_false_iff_not]
  tauto

theorem nodup_foldl_addSeed (offers : List String) {seeds : List String} (h : seeds.Nodup) :
    (offers.foldl addSeed seeds).Nodup := by
  induction offers generalizing seeds with
  | nil => exact h
  | cons a offers ih =>
    refine ih ?_
    by_cases ha : a ∈ seeds
    · rwa [addSeed_of_mem ha]
    · rw [addSeed_of_not_mem ha]
      refine List.nodup_append.mpr ⟨h, List.nodup_singleton a, fun x hx y hy hxy => ?_⟩
      rw [List.mem_singleton.mp hy] at hxy
      exact ha (hxy ▸ hx)

theorem length_foldl_addSeed_le (offers seeds : List String) :
    (offers.foldl addSeed seeds).length ≤ seeds.length + offers.length := by
  induction offers generalizing seeds with
  | nil => simp
  | cons a offers ih =>
    refine (ih _).trans ?_
    by_cases ha : a ∈ seeds
    · rw [addSeed_of_mem ha]
      simp
    · rw [addSeed_of_not_mem ha]
      simp only [List.length_append, List.length_cons, List.length_nil]
      omega

/-! ## What selection offers -/

/-- The address every rack offers, racks in order: that of its first admitted record. -/
def offered (p : SeedPolicy) (m : RackMap) (node : RingInstance) : List String :=
  m.racks.filterMap fun e => (e.2.find? (p.admits · node)).map p.addressForm.addressOf

/-- The seeds named before the racks' own; none while a single rack is not full. -/
def start (p : SeedPolicy) (m : RackMap) (node : RingInstance) : Option Nat → Option (List String)
  | some c => p.rackFill m node c
  | none => some []

/-- Folding the racks with a step that adds each rack's offer adds the offers in turn. -/
theorem foldl_offers (p : SeedPolicy) (node : RingInstance)
    {step : List String → String × List RingInstance → List String}
    (hstep : ∀ seeds e, step seeds e =
      (((e.2.find? (p.admits · node)).map p.addressForm.addressOf).map (addSeed seeds)).getD seeds)
    (racks : List (String × List RingInstance)) (seeds : List String) :
    racks.foldl step seeds =
      (racks.filterMap fun e => (e.2.find? (p.admits · node)).map p.addressForm.addressOf).foldl
        addSeed seeds := by
  induction racks generalizing seeds with
  | nil => rfl
  | cons e racks ih =>
    rw [List.foldl_cons, ih, hstep, List.filterMap_cons]
    cases (e.2.find? (p.admits · node)).map p.addressForm.addressOf <;> rfl

/-- Selection is the racks' offers added after the seeds the single-rack branch names. -/
theorem select_eq (p : SeedPolicy) (m : RackMap) (node : RingInstance) (capacity : Option Nat) :
    p.select m node capacity =
      match p.start m node capacity with
      | none => []
      | some seeds => (p.offered m node).foldl addSeed seeds := by
  unfold select
  -- both branches fold the racks with one step: a rack adds the address it offers
  cases capacity with
  | none =>
    apply foldl_offers
    intro seeds e
    dsimp only
    cases e.2.find? (p.admits · node) <;> simp [push_eq_addSeed]
  | some c =>
    simp only [start]
    cases p.rackFill m node c with
    | none => rfl
    | some seeds =>
      apply foldl_offers
      intro seeds e
      cases e.2.find? (p.admits · node) <;> simp [push_eq_addSeed]

/-- What the single-rack branch names: nothing while the rack does not hold the capacity; then
the rack's second record when the anchor runs on the local address and the second record is
not a placeholder, and otherwise nothing. -/
theorem rackFill_cases (p : SeedPolicy) (m : RackMap) (node : RingInstance) (c : Nat) :
    (c ≠ (m.rack node.rac).length ∧ p.rackFill m node c = none) ∨
    (c = (m.rack node.rac).length ∧ p.rackFill m node c = some []) ∨
    (c = (m.rack node.rac).length ∧ ∃ anchor second rest,
      m.rack node.rac = anchor :: second :: rest ∧ anchor.hostIp = node.hostIp ∧
      second.isPlaceholder = false ∧ p.rackFill m node c = some [p.addressForm.addressOf second]) := by
  unfold rackFill
  generalize m.rack node.rac = rack
  by_cases hc : c = rack.length
  · subst hc
    rcases rack with _ | ⟨anchor, _ | ⟨second, rest⟩⟩
    · simp
    · simp
    · by_cases hpick : anchor.hostIp = node.hostIp ∧ second.isPlaceholder = false
      · simp [hpick, push_eq_addSeed, addSeed]
      · simp only [not_and, Bool.not_eq_false] at hpick
        by_cases hip : anchor.hostIp = node.hostIp <;> simp [hip, hpick]
  · simp [hc]

theorem rackFill_eq_none_iff {p : SeedPolicy} {m : RackMap} {node : RingInstance} {c : Nat} :
    p.rackFill m node c = none ↔ c ≠ (m.rack node.rac).length := by
  rcases p.rackFill_cases m node c with ⟨hc, h⟩ | ⟨hc, h⟩ | ⟨hc, _, _, _, _, _, _, h⟩ <;>
    rw [h] <;> simp [hc]

/-- The only seed the single-rack branch names: the second record of the local rack, when the
anchor runs on the local address. -/
theorem mem_rackFill {p : SeedPolicy} {m : RackMap} {node : RingInstance} {c : Nat}
    {seeds : List String} (h : p.rackFill m node c = some seeds) {s : String} (hs : s ∈ seeds) :
    ∃ anchor second rest, m.rack node.rac = anchor :: second :: rest ∧
      anchor.hostIp = node.hostIp ∧ second.isPlaceholder = false ∧
      s = p.addressForm.addressOf second := by
  rcases p.rackFill_cases m node c with ⟨-, h'⟩ | ⟨-, h'⟩ | ⟨-, anchor, second, rest, hrack, hip,
    hsecond, h'⟩ <;> rw [h'] at h <;> cases h
  · simp at hs
  · exact ⟨anchor, second, rest, hrack, hip, hsecond, List.mem_singleton.mp hs⟩

theorem rackFill_length_le {p : SeedPolicy} {m : RackMap} {node : RingInstance} {c : Nat}
    {seeds : List String} (h : p.rackFill m node c = some seeds) : seeds.length ≤ 1 := by
  rcases p.rackFill_cases m node c with ⟨-, h'⟩ | ⟨-, h'⟩ | ⟨-, _, _, _, _, _, _, h'⟩ <;>
    rw [h'] at h <;> cases h <;> simp

theorem start_length_le {p : SeedPolicy} {m : RackMap} {node : RingInstance}
    {capacity : Option Nat} {seeds : List String} (h : p.start m node capacity = some seeds) :
    seeds.length ≤ 1 := by
  cases capacity with
  | some c => exact rackFill_length_le h
  | none =>
    cases h
    simp

theorem mem_instances_of_mem_rack {m : RackMap} {k : String} {r : RingInstance}
    (h : r ∈ m.rack k) : r ∈ m.instances := by
  rw [RackMap.rack_eq_groupOf, RackMap.groupOf] at h
  cases hf : m.racks.find? (·.1 == k) with
  | none => simp [hf] at h
  | some e =>
    simp only [hf, Option.map_some, Option.getD_some] at h
    exact List.mem_flatMap.mpr ⟨e, List.mem_of_find?_eq_some hf, h⟩

/-- Every rack offers the address of a record of the map that it admits. -/
theorem mem_offered {p : SeedPolicy} {m : RackMap} {node : RingInstance} {s : String}
    (hs : s ∈ p.offered m node) :
    ∃ r ∈ m.instances, p.admits r node = true ∧ p.addressForm.addressOf r = s := by
  obtain ⟨e, he, hmap⟩ := List.mem_filterMap.mp hs
  obtain ⟨r, hr, rfl⟩ := Option.map_eq_some_iff.mp hmap
  exact ⟨r, List.mem_flatMap.mpr ⟨e, he, List.mem_of_find?_eq_some hr⟩,
    by simpa using List.find?_some hr, rfl⟩

theorem admits_eq_true_iff {p : SeedPolicy} {r node : RingInstance} :
    p.admits r node = true ↔
      r.isPlaceholder = false ∧ (p.excludesLocalHost = true → r.hostName ≠ node.hostName) := by
  cases hx : p.excludesLocalHost <;> simp [admits, hx]

/-! ## The laws -/

section Laws

variable (p : SeedPolicy) (m : RackMap) (node : RingInstance)

/-- No seed is named while a single rack does not hold its declared capacity. -/
theorem select_of_not_full {c : Nat} (hc : c ≠ (m.rack node.rac).length) :
    p.select m node (some c) = [] := by
  rw [select_eq]
  simp [start, rackFill_eq_none_iff.mpr hc]

theorem select_nodup (capacity : Option Nat) : (p.select m node capacity).Nodup := by
  rw [select_eq]
  split
  · exact .nil
  · rename_i seeds hstart
    refine nodup_foldl_addSeed _ ?_
    have hlen := start_length_le hstart
    match seeds, hlen with
    | [], _ => exact .nil
    | [a], _ => exact List.nodup_singleton a

/-- At most one seed for each rack, and the one the single-rack branch names. -/
theorem select_length_le (capacity : Option Nat) :
    (p.select m node capacity).length ≤ m.rackCount + 1 := by
  rw [select_eq]
  split
  · simp
  · rename_i seeds hstart
    have hoffered : (p.offered m node).length ≤ m.rackCount := List.length_filterMap_le _ _
    have hlen := start_length_le hstart
    have := length_foldl_addSeed_le (p.offered m node) seeds
    omega

/-- Every seed is a name of a record that may seed the node, or the second record of the local
rack named by the single-rack branch. -/
theorem mem_select {capacity : Option Nat} {s : String} (hs : s ∈ p.select m node capacity) :
    (∃ r ∈ m.instances, p.admits r node = true ∧ p.addressForm.addressOf r = s) ∨
    ∃ c, capacity = some c ∧ ∃ anchor second rest, m.rack node.rac = anchor :: second :: rest ∧
      anchor.hostIp = node.hostIp ∧ second.isPlaceholder = false ∧
      s = p.addressForm.addressOf second := by
  rw [select_eq] at hs
  split at hs
  · simp at hs
  · rename_i seeds hstart
    rcases mem_foldl_addSeed.mp hs with hs | hs
    · cases capacity with
      | none =>
        cases hstart
        simp at hs
      | some c => exact .inr ⟨c, rfl, mem_rackFill hstart hs⟩
    · exact .inl (mem_offered hs)

theorem exists_record_of_mem_select {capacity : Option Nat} {s : String}
    (hs : s ∈ p.select m node capacity) :
    ∃ r ∈ m.instances, r.isPlaceholder = false ∧ p.addressForm.addressOf r = s := by
  rcases p.mem_select m node hs with ⟨r, hr, hadm, rfl⟩ | ⟨c, -, anchor, second, rest, hrack, -,
    hsecond, rfl⟩
  · exact ⟨r, hr, (admits_eq_true_iff.mp hadm).1, rfl⟩
  · have hmem : second ∈ m.rack node.rac := by simp [hrack]
    exact ⟨second, mem_instances_of_mem_rack hmem, hsecond, rfl⟩

/-- Without a declared capacity, the seeds are the racks' offers with repeats removed. -/
theorem select_none : p.select m node none = (p.offered m node).eraseDups := by
  rw [select_eq]
  simp [start, foldl_addSeed]

end Laws

/-- **Seed selection laws.**  For every rack map, local record, policy and capacity: a single
rack that does not hold its declared capacity names no seed; no seed is named twice, and there
is at most one for each rack and one more; every seed is the address, in the policy's form, of a
record of the map that is not a placeholder; without a declared capacity, the seeds are the
address of the first admitted record of every rack that has one, racks in order, repeats
removed; and when the local host is excluded, every seed is the address of a record on another
host, but for the second record of the local rack that the single-rack branch names when the
rack's anchor runs on the local address. -/
theorem select_laws (p : SeedPolicy) (m : RackMap) (node : RingInstance)
    (capacity : Option Nat) :
    (∀ c, capacity = some c → c ≠ (m.rack node.rac).length → p.select m node capacity = []) ∧
    (p.select m node capacity).Nodup ∧
    (p.select m node capacity).length ≤ m.rackCount + 1 ∧
    (∀ s ∈ p.select m node capacity,
      ∃ r ∈ m.instances, r.isPlaceholder = false ∧ p.addressForm.addressOf r = s) ∧
    (capacity = none → p.select m node capacity =
      (m.racks.filterMap fun e =>
        (e.2.find? (p.admits · node)).map p.addressForm.addressOf).eraseDups) ∧
    (p.excludesLocalHost = true → ∀ s ∈ p.select m node capacity,
      (∃ r ∈ m.instances, r.hostName ≠ node.hostName ∧ p.addressForm.addressOf r = s) ∨
      ∃ c, capacity = some c ∧ ∃ anchor second rest, m.rack node.rac = anchor :: second :: rest ∧
        anchor.hostIp = node.hostIp ∧ s = p.addressForm.addressOf second) := by
  refine ⟨?_, p.select_nodup m node capacity, p.select_length_le m node capacity,
    fun s hs => p.exists_record_of_mem_select m node hs, ?_, fun hex s hs => ?_⟩
  · rintro c rfl hc
    exact p.select_of_not_full m node hc
  · rintro rfl
    exact p.select_none m node
  · rcases p.mem_select m node hs with ⟨r, hr, hadm, rfl⟩ | ⟨c, hc, anchor, second, rest, hrack,
      hip, -, rfl⟩
    · exact .inl ⟨r, hr, (admits_eq_true_iff.mp hadm).2 hex, rfl⟩
    · exact .inr ⟨c, hc, anchor, second, rest, hrack, hip, rfl⟩

/-- A running node whose rack holds a second record on its own host is offered to itself: the
single-rack branch names that record although no record of the map runs on another host. -/
theorem select_offers_local_host :
    let node : RingInstance :=
      { id := 0, app := "cass_cluster", instanceId := "i-local", rac := "us-east-1a",
        hostName := "local.internal", hostIp := "10.0.0.5" }
    let stale : RingInstance :=
      { id := 1, app := "cass_cluster", instanceId := "i-stale", rac := "us-east-1a",
        hostName := "local.internal", hostIp := "10.0.0.5" }
    let m := RackMap.ofInstances [node, stale]
    (ofAutoBootstrap true).select m node (some 2) = ["local.internal"] ∧
      ∀ r ∈ m.instances, r.hostName = node.hostName := by
  intro node stale m
  have hm : m = ⟨[("us-east-1a", [node, stale])]⟩ := by
    simp [m, RackMap.ofInstances_eq_keys, RackMap.groups, RackMap.addToGroup, RackMap.byId,
      List.mergeSort_of_pairwise, node, stale]
  rw [hm]
  exact ⟨by decide, by decide⟩

end SeedPolicy

end RingIdentity
