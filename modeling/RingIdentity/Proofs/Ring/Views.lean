import Mathlib.Data.List.MinMax
import Mathlib.Data.Prod.Lex
import Mathlib.Data.Finset.Card
import RingIdentity.Proofs.Ring.Grouping
import RingIdentity.Proofs.Text.ByteOrder
/-! # What a rack map shows of its listing

A rack map is read through several views: its racks, the records of a rack, every record in rack
order, counts, the anchor and highest id of a rack, the record of an instance, whether a token is
held.  All of them are fixed by one representation invariant, `RackMap.Lists`: racks in increasing
order of their names, each holding records of its own rack only and at least one, every listed
rack present, and each rack's records by ascending id, those of equal id in listing order.  The
order of names is the order of their UTF-8 bytes (`Text.lt_iff_bytes_lt`).

The invariant makes the map a stable sort of its listing twice over: each rack is its listed
records sorted by id (`Lists.rack_eq`), and the records in rack order are the listing sorted by
rack and then id (`Lists.instances_eq`).  Both rest on one fact about stable sorts by a key: a
list sorted by the key is fixed by the records it holds of each key, in order
(`eq_of_sorted_of_filter_eq`).  The views follow: the anchor is the first listed record of least
id, the highest id is the largest, the record of an instance is the first of that instance in
rack order, and the counts and tokens are those of the listing, every record being there once.

Main statement: `RackMap.ofInstances_views`.
-/
namespace RingIdentity

/-! ## Stable sorts by a key -/

section SortBy

variable {α β : Type} [LinearOrder β] (f : α → β)

/-- Sorts by a key, records of equal key in their given order. -/
def sortBy (l : List α) : List α := l.mergeSort fun a b => decide (f a ≤ f b)

theorem key_le_trans (a b c : α) (h₁ : decide (f a ≤ f b) = true)
    (h₂ : decide (f b ≤ f c) = true) : decide (f a ≤ f c) = true := by
  simp only [decide_eq_true_eq] at *
  exact h₁.trans h₂

theorem key_le_total (a b : α) : (decide (f a ≤ f b) || decide (f b ≤ f a)) = true := by
  simpa using le_total (f a) (f b)

theorem sortBy_perm (l : List α) : (sortBy f l).Perm l := List.mergeSort_perm l _

theorem pairwise_sortBy (l : List α) : (sortBy f l).Pairwise fun a b => f a ≤ f b := by
  simpa only [sortBy, decide_eq_true_eq] using
    List.pairwise_mergeSort (key_le_trans f) (key_le_total f) l

/-- Sorting keeps the records of one key in their given order. -/
theorem filter_sortBy (l : List α) (v : β) :
    (sortBy f l).filter (fun a => f a = v) = l.filter (fun a => f a = v) := by
  -- the records of key `v` are a sorted sublist of `l`, so they stay a sublist of the sort
  have hsorted : (l.filter fun a => f a = v).Pairwise fun a b => decide (f a ≤ f b) = true :=
    List.pairwise_filter.mpr (List.pairwise_of_forall fun a b ha hb => by simp_all)
  have hsub := (List.sublist_mergeSort (key_le_trans f) (key_le_total f) hsorted
    List.filter_sublist).filter fun a => decide (f a = v)
  rw [List.filter_filter] at hsub
  simp only [Bool.and_self] at hsub
  exact (hsub.eq_of_length ((sortBy_perm f l).filter _).length_eq.symm).symm

/-- Two lists sorted by a key that hold the same records of every key, in the same order, are
equal. -/
theorem eq_of_sorted_of_filter_eq {M L : List α} (hM : M.Pairwise fun a b => f a ≤ f b)
    (hL : L.Pairwise fun a b => f a ≤ f b)
    (h : ∀ v, M.filter (fun a => f a = v) = L.filter (fun a => f a = v)) : M = L := by
  induction M generalizing L with
  | nil =>
    cases L with
    | nil => rfl
    | cons b L => simpa using h (f b)
  | cons a M ih =>
    cases L with
    | nil => simpa using h (f a)
    | cons b L =>
      obtain ⟨ha, hM'⟩ := List.pairwise_cons.mp hM
      obtain ⟨hb, hL'⟩ := List.pairwise_cons.mp hL
      -- each head is in the other list, whose head has the least key
      have hbM : b ∈ a :: M := by
        have hb' : b ∈ (b :: L).filter fun x => f x = f b := by simp
        exact (List.mem_filter.mp (h (f b) ▸ hb')).1
      have haL : a ∈ b :: L := by
        have ha' : a ∈ (a :: M).filter fun x => f x = f a := by simp
        exact (List.mem_filter.mp ((h (f a)).symm ▸ ha')).1
      have hab : f a = f b := by
        apply le_antisymm
        · rcases List.mem_cons.mp hbM with rfl | hbM
          · exact le_rfl
          · exact ha b hbM
        · rcases List.mem_cons.mp haL with rfl | haL
          · exact le_rfl
          · exact hb a haL
      have hheads := h (f a)
      simp only [List.filter_cons, decide_true, hab, ↓reduceIte, List.cons.injEq] at hheads
      obtain ⟨rfl, htails⟩ := hheads
      congr 1
      refine ih hM' hL' fun v => ?_
      by_cases hv : f a = v
      · subst hv
        simpa [hab] using htails
      · simpa [List.filter_cons, hv] using h v

theorem eq_sortBy_of_filter_eq {L l : List α} (hL : L.Pairwise fun a b => f a ≤ f b)
    (h : ∀ v, L.filter (fun a => f a = v) = l.filter (fun a => f a = v)) : L = sortBy f l :=
  eq_of_sorted_of_filter_eq f hL (pairwise_sortBy f l) fun v =>
    (h v).trans (filter_sortBy f l v).symm

/-- Filtering a sorted list is sorting the filtered list. -/
theorem filter_sortBy_eq (p : α → Bool) (l : List α) :
    (sortBy f l).filter p = sortBy f (l.filter p) :=
  eq_sortBy_of_filter_eq f ((pairwise_sortBy f l).filter p) fun v => by
    rw [List.filter_comm, filter_sortBy, List.filter_comm]

/-- The first record of a sort is the first record of least key. -/
theorem head?_sortBy (l : List α) : (sortBy f l).head? = l.argmin f := by
  induction l with
  | nil => simp [sortBy]
  | cons a l ih =>
    obtain ⟨l₁, l₂, h₁, h₂, h₃⟩ := List.mergeSort_cons (key_le_trans f) (key_le_total f) a l
    have hs := pairwise_sortBy f (a :: l)
    rw [List.argmin_cons, ← ih, sortBy, sortBy, h₂, h₁]
    rw [sortBy, h₁] at hs
    cases l₁ with
    | nil =>
      -- `a` goes first: the next record has no smaller key
      cases l₂ with
      | nil => rfl
      | cons c l₂ =>
        have hac : f a ≤ f c := List.rel_of_pairwise_cons hs List.mem_cons_self
        simp [not_lt.mpr hac]
    | cons b l₁ =>
      -- a record of `l` goes before `a`: its key is smaller
      have hba : f b < f a := by simpa using h₃ b List.mem_cons_self
      simp [hba]

/-- The first record of a sort satisfying a test is the first such record of least key. -/
theorem find?_sortBy (p : α → Bool) (l : List α) :
    (sortBy f l).find? p = (l.filter p).argmin f := by
  rw [← List.head?_filter, filter_sortBy_eq, head?_sortBy]

end SortBy

/-- The key of the last record of a sort by a number is the largest key. -/
theorem getLast?_sortBy {α : Type} (f : α → Nat) (l : List α) :
    (sortBy f l).getLast?.map f = (l.map f).max? := by
  cases h : (sortBy f l).getLast? with
  | none =>
    have hl : l = [] := by
      rw [← List.perm_nil, ← List.getLast?_eq_none_iff.mp h]
      exact (sortBy_perm f l).symm
    simp [hl]
  | some b =>
    obtain ⟨init, hinit⟩ := List.getLast?_eq_some_iff.mp h
    have hs := pairwise_sortBy f l
    rw [hinit, List.pairwise_append] at hs
    refine (List.max?_eq_some_iff.mpr ⟨List.mem_map_of_mem ((sortBy_perm f l).subset
      (List.mem_of_getLast? h)), fun _ hc => ?_⟩).symm
    obtain ⟨c, hcl, rfl⟩ := List.mem_map.mp hc
    -- every other record comes before the last one
    rcases List.mem_append.mp (hinit ▸ (sortBy_perm f l).symm.subset hcl) with hc' | hc'
    · exact hs.2.2 c hc' b List.mem_cons_self
    · rw [List.mem_singleton.mp hc']

/-- Over entries of distinct names, gathering what the entries of one name give yields it once,
or nothing when no entry has that name. -/
theorem flatMap_ite_of_nodup {γ δ : Type} {es : List (String × γ)}
    (hn : (es.map Prod.fst).Nodup) (k : String) (ys : List δ) :
    es.flatMap (fun e => if e.1 = k then ys else []) = if k ∈ es.map Prod.fst then ys else [] := by
  induction es with
  | nil => simp
  | cons e es ih =>
    obtain ⟨he, hn⟩ := List.nodup_cons.mp hn
    rw [List.flatMap_cons, ih hn]
    by_cases hk : e.1 = k
    · subst hk
      simp [he]
    · simp only [hk, if_false, List.nil_append, List.map_cons, List.mem_cons, Ne.symm hk,
        false_or]

namespace RackMap

/-! ## The representation invariant -/

/-- The place of a record in rack order: its rack, then its slot id. -/
def rackKey (r : RingInstance) : Lex (String × Nat) := toLex (r.rac, r.id)

theorem rackKey_le_iff {a b : RingInstance} :
    rackKey a ≤ rackKey b ↔ a.rac < b.rac ∨ a.rac = b.rac ∧ a.id ≤ b.id :=
  Prod.Lex.toLex_le_toLex

theorem rackKey_eq_iff {r : RingInstance} {k : String} {i : Nat} :
    rackKey r = toLex (k, i) ↔ r.rac = k ∧ r.id = i := by
  simp [rackKey]

/-- How a rack map shows a listing: racks in increasing order of their names, each holding
records of its own rack only and at least one, every listed rack present, and the records of a
rack by ascending id, those of equal id as they were listed. -/
structure Lists (m : RackMap) (xs : List RingInstance) : Prop where
  /-- The rack names strictly increase. -/
  sorted : (m.racks.map Prod.fst).Pairwise (· < ·)
  /-- A rack holds records of that rack only. -/
  rac_eq : ∀ e ∈ m.racks, ∀ r ∈ e.2, r.rac = e.1
  /-- No rack is empty. -/
  ne_nil : ∀ e ∈ m.racks, e.2 ≠ []
  /-- The rack of every listed record is there. -/
  covers : ∀ r ∈ xs, r.rac ∈ m.racks.map Prod.fst
  /-- The ids of a rack ascend. -/
  ids_sorted : ∀ e ∈ m.racks, e.2.Pairwise fun a b => a.id ≤ b.id
  /-- The records of a rack with one id are those listed, as they were listed. -/
  stable : ∀ e ∈ m.racks, ∀ i,
    e.2.filter (fun r => r.id = i) = xs.filter fun r => r.rac = e.1 ∧ r.id = i

namespace Lists

variable {m : RackMap} {xs : List RingInstance} (h : m.Lists xs)
include h

theorem keys_nodup : (m.racks.map Prod.fst).Nodup := h.sorted.imp ne_of_lt

/-- The rack names increase as their UTF-8 bytes do. -/
theorem bytes_sorted : (m.racks.map fun e => e.1.toUTF8.data.toList).Pairwise (· < ·) :=
  List.pairwise_map.mpr ((List.pairwise_map.mp h.sorted).imp Text.bytes_lt_of_lt)

/-- A record of a rack was listed. -/
theorem mem_of_mem_rack {e : String × List RingInstance} (he : e ∈ m.racks) {r : RingInstance}
    (hr : r ∈ e.2) : r ∈ xs ∧ r.rac = e.1 := by
  have hr' : r ∈ e.2.filter fun x => x.id = r.id := List.mem_filter.mpr ⟨hr, by simp⟩
  rw [h.stable e he] at hr'
  simpa using hr'

/-- A rack is there exactly when a record of it was listed. -/
theorem mem_keys (k : String) : k ∈ m.racks.map Prod.fst ↔ ∃ r ∈ xs, r.rac = k := by
  constructor
  · rintro hk
    obtain ⟨e, he, rfl⟩ := List.mem_map.mp hk
    obtain ⟨r, hr⟩ := List.exists_mem_of_ne_nil _ (h.ne_nil e he)
    exact ⟨r, h.mem_of_mem_rack he hr⟩
  · rintro ⟨r, hr, rfl⟩
    exact h.covers r hr

theorem pairwise_instances : m.instances.Pairwise fun a b => rackKey a ≤ rackKey b := by
  refine List.pairwise_flatMap.mpr ⟨fun e he => ?_, ?_⟩
  · -- within a rack the ids ascend
    refine (h.ids_sorted e he).imp_of_mem fun ha hb hab => rackKey_le_iff.mpr (.inr ⟨?_, hab⟩)
    rw [h.rac_eq e he _ ha, h.rac_eq e he _ hb]
  · -- the racks ascend
    refine (List.pairwise_map.mp h.sorted).imp_of_mem fun he₁ he₂ hlt x hx y hy => ?_
    refine rackKey_le_iff.mpr (.inl ?_)
    rw [h.rac_eq _ he₁ x hx, h.rac_eq _ he₂ y hy]
    exact hlt

/-- In rack order the records of one rack and id are those listed, as they were listed. -/
theorem filter_instances (v : Lex (String × Nat)) :
    m.instances.filter (fun r => rackKey r = v) = xs.filter (fun r => rackKey r = v) := by
  obtain ⟨⟨k, i⟩, rfl⟩ := toLex.surjective v
  -- the rack named `k` holds them all, and every other rack none
  have hgroup : ∀ e ∈ m.racks, e.2.filter (fun r => rackKey r = toLex (k, i)) =
      if e.1 = k then xs.filter (fun r => rackKey r = toLex (k, i)) else [] := by
    intro e he
    split_ifs with hk
    · have hid : e.2.filter (fun r => rackKey r = toLex (k, i)) = e.2.filter fun r => r.id = i :=
        List.filter_congr fun r hr => by simp [rackKey_eq_iff, h.rac_eq e he r hr, hk]
      rw [hid, h.stable e he i, hk]
      exact List.filter_congr fun r _ => by simp [rackKey_eq_iff]
    · exact List.filter_eq_nil_iff.mpr fun r hr => by
        simp [rackKey_eq_iff, h.rac_eq e he r hr, hk]
  rw [instances, List.filter_flatMap, List.flatMap_congr hgroup,
    flatMap_ite_of_nodup h.keys_nodup]
  split_ifs with hk
  · rfl
  · -- no rack `k`: no record of it was listed
    refine (List.filter_eq_nil_iff.mpr fun r hr hkey => hk ?_).symm
    exact (h.mem_keys k).mpr ⟨r, hr, (rackKey_eq_iff.mp (of_decide_eq_true hkey)).1⟩

/-- In rack order the records are the listing sorted by rack, then id, ties as listed. -/
theorem instances_eq : m.instances = sortBy rackKey xs :=
  eq_sortBy_of_filter_eq rackKey h.pairwise_instances h.filter_instances

/-- Every listed record is there, once. -/
theorem perm : m.instances.Perm xs := h.instances_eq ▸ sortBy_perm rackKey xs

/-- The records of a rack are those listed for it, sorted by id, ties as listed. -/
theorem rack_eq (k : String) : m.rack k = sortBy (·.id) (xs.filter (·.rac = k)) := by
  rw [rack]
  cases hf : m.racks.find? (·.1 == k) with
  | some e =>
    have he := List.mem_of_find?_eq_some hf
    have hk : e.1 = k := by simpa using List.find?_some hf
    simp only [Option.map_some, Option.getD_some]
    refine eq_sortBy_of_filter_eq _ (h.ids_sorted e he) fun i => ?_
    rw [h.stable e he i, List.filter_filter, hk]
    exact List.filter_congr fun r _ => by simp [Bool.and_comm]
  | none =>
    -- no rack of that name: no record of it was listed
    have hempty : xs.filter (·.rac = k) = [] := List.filter_eq_nil_iff.mpr fun r hr hk => by
      obtain ⟨e, he, hek⟩ := List.mem_map.mp (h.covers r hr)
      exact List.find?_eq_none.mp hf e he (by simp [hek, of_decide_eq_true hk])
    simp [hempty, sortBy]

/-! ## The views -/

theorem size_eq : m.size = xs.length := h.perm.length_eq

theorem isEmpty_iff : m.isEmpty = true ↔ xs = [] := by
  rw [isEmpty, List.isEmpty_iff]
  constructor
  · -- no rack: nothing was listed, since every listed rack is there
    intro hnil
    refine List.eq_nil_iff_forall_not_mem.mpr fun r hr => ?_
    simpa [hnil] using h.covers r hr
  · -- nothing listed: no rack, since every rack holds a listed record
    rintro rfl
    refine List.eq_nil_iff_forall_not_mem.mpr fun e he => ?_
    obtain ⟨r, hr, -⟩ := (h.mem_keys e.1).mp (List.mem_map_of_mem he)
    exact List.not_mem_nil hr

theorem rackCount_eq : m.rackCount = (xs.map (·.rac)).toFinset.card := by
  have hkeys : (m.racks.map Prod.fst).toFinset = (xs.map (·.rac)).toFinset := by
    ext k
    simp [h.mem_keys]
  rw [rackCount, ← hkeys, List.toFinset_card_of_nodup h.keys_nodup, List.length_map]

/-- The anchor of a rack is its first listed record of least id. -/
theorem anchor_eq (k : String) : m.anchor k = (xs.filter (·.rac = k)).argmin (·.id) := by
  rw [anchor, h.rack_eq, head?_sortBy]

theorem maxId_eq (k : String) : m.maxId k = ((xs.filter (·.rac = k)).map (·.id)).max? := by
  rw [maxId, h.rack_eq, getLast?_sortBy]

/-- The record of an instance is its first record in rack order: of least rack, then id, then
as listed. -/
theorem findInstance_eq (x : String) :
    m.findInstance x = (xs.filter (·.instanceId == x)).argmin rackKey := by
  rw [findInstance, h.instances_eq, find?_sortBy]

theorem holdsToken_iff (t : String) : m.holdsToken t = true ↔ ∃ r ∈ xs, r.token = some t := by
  simp [holdsToken, h.perm.mem_iff]

end Lists

/-- A map built from a listing shows that listing. -/
theorem lists_ofInstances (xs : List RingInstance) : (ofInstances xs).Lists xs := by
  have hg := grouping_groups xs
  have hkeys : (ofInstances xs).racks.map Prod.fst = (groups xs).map Prod.fst := by
    rw [ofInstances_eq_keys, List.map_map]
    exact List.map_id' _
  -- each entry is a rack name with the records listed for it, sorted by id
  have hentry : ∀ e ∈ (ofInstances xs).racks,
      e.2 = sortBy (·.id) (xs.filter (·.rac == e.1)) := by
    intro e he
    rw [ofInstances_eq_keys] at he
    obtain ⟨k, -, rfl⟩ := List.mem_map.mp he
    rfl
  refine ⟨hkeys ▸ hg.sorted, fun e he r hr => ?_, fun e he => ?_, fun r hr => ?_,
    fun e he => ?_, fun e he i => ?_⟩
  · rw [hentry e he] at hr
    simpa using (List.mem_filter.mp ((sortBy_perm _ _).subset hr)).2
  · have hk : e.1 ∈ (groups xs).map Prod.fst := hkeys ▸ List.mem_map_of_mem he
    obtain ⟨r, hr, hrk⟩ := (hg.mem_keys e.1).mp hk
    rw [hentry e he]
    exact List.ne_nil_of_mem
      ((sortBy_perm _ _).symm.subset (List.mem_filter.mpr ⟨hr, by simp [hrk]⟩))
  · exact hkeys ▸ (hg.mem_keys r.rac).mpr ⟨r, hr, rfl⟩
  · rw [hentry e he]
    exact pairwise_sortBy _ _
  · rw [hentry e he, filter_sortBy, List.filter_filter]
    exact List.filter_congr fun r _ => by
      rw [Bool.eq_iff_iff]
      simp [and_comm]

/-- **What a rack map shows of its listing.**  The map of a listing groups every record under
its own rack, keeps no empty rack, holds every listed record exactly once, orders each rack by
ascending id with records of equal id as they were listed, and keeps its racks in increasing
order of their names, which is the order of the names' UTF-8 bytes.  So it holds as many
records as were listed and as many racks as there are distinct racks among them, it is empty
exactly when nothing was listed, the anchor of a rack is its first listed record of least id and
its highest id the largest listed, the record of an instance is its first in rack order, and a
token is held exactly when a listed record holds it. -/
theorem ofInstances_views (xs : List RingInstance) :
    let m := ofInstances xs
    m.Lists xs ∧ (m.racks.map fun e => e.1.toUTF8.data.toList).Pairwise (· < ·) ∧
      m.instances.Perm xs ∧ m.size = xs.length ∧
      m.rackCount = (xs.map (·.rac)).toFinset.card ∧ (m.isEmpty = true ↔ xs = []) ∧
      (∀ k, m.anchor k = (xs.filter (·.rac = k)).argmin (·.id)) ∧
      (∀ k, m.maxId k = ((xs.filter (·.rac = k)).map (·.id)).max?) ∧
      (∀ x, m.findInstance x = (xs.filter (·.instanceId == x)).argmin rackKey) ∧
      ∀ t, m.holdsToken t = true ↔ ∃ r ∈ xs, r.token = some t := by
  have h := lists_ofInstances xs
  exact ⟨h, h.bytes_sorted, h.perm, h.size_eq, h.rackCount_eq, h.isEmpty_iff, h.anchor_eq,
    h.maxId_eq, h.findInstance_eq, h.holdsToken_iff⟩

end RackMap

end RingIdentity
