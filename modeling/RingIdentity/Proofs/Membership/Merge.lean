import RingIdentity.Proofs.Ring.Seeds
import RingIdentity.Membership.Cloud
/-! # Merging the snapshots of two accounts

A dual-account cluster sees the live instances of its own account, then those of the cross
account, each once, where it first appears.  The merge is the seen-list fold of seed selection:
the instances of the two snapshots, chained, are added in turn, each unless it is there already
(`mergeSnapshots_eq_foldl`).  The list built so far is the set of instances seen so far, so this
is the filter that keeps an instance exactly when it has not been seen.

A fold over a chained list is the fold of the second part started from the fold of the first.
Every law of the merge comes from that and from two facts about a fold started on a list free of
repeats: instances already there change nothing (`foldl_addSeed_of_subset`), and distinct new
ones are appended as they come (`foldl_addSeed_of_nodup`).  Main statement: `mergeSnapshots_laws`.
-/
namespace RingIdentity

open SeedPolicy

/-! ## Folds of the seen list -/

/-- Adding instances that are all there already changes nothing. -/
theorem foldl_addSeed_of_subset {offers seeds : List String} (h : ∀ a ∈ offers, a ∈ seeds) :
    offers.foldl addSeed seeds = seeds := by
  induction offers with
  | nil => rfl
  | cons a offers ih =>
    rw [List.foldl_cons, addSeed_of_mem (h a List.mem_cons_self)]
    exact ih fun b hb => h b (List.mem_cons_of_mem a hb)

/-- Adding distinct instances none of which is there yet appends them in order. -/
theorem foldl_addSeed_of_nodup {offers seeds : List String} (hn : offers.Nodup)
    (hnew : ∀ a ∈ offers, a ∉ seeds) : offers.foldl addSeed seeds = seeds ++ offers := by
  induction offers generalizing seeds with
  | nil => simp
  | cons a offers ih =>
    obtain ⟨ha, hn⟩ := List.nodup_cons.mp hn
    rw [List.foldl_cons, addSeed_of_not_mem (hnew a List.mem_cons_self), ih hn,
      List.append_assoc, List.singleton_append]
    -- a later instance is neither seen before nor the one just added
    intro b hb hseen
    rcases List.mem_append.mp hseen with hb' | hb'
    · exact hnew b (List.mem_cons_of_mem a hb) hb'
    · exact ha (List.mem_singleton.mp hb' ▸ hb)

/-! ## The merge as a fold -/

/-- The merge adds the instances of both snapshots in turn, each unless it is there already. -/
theorem mergeSnapshots_eq_foldl (own cross : List String) :
    mergeSnapshots own cross = (own ++ cross).foldl addSeed [] := by
  rw [foldl_addSeed, mergeSnapshots]
  simp [List.removeAll]

/-- On a snapshot free of repeats, the merge appends the new instances of the cross one. -/
theorem mergeSnapshots_of_nodup {own : List String} (h : own.Nodup) (cross : List String) :
    mergeSnapshots own cross = cross.foldl addSeed own := by
  rw [mergeSnapshots_eq_foldl, List.foldl_append,
    foldl_addSeed_of_nodup h fun _ _ => List.not_mem_nil, List.nil_append]

theorem nodup_mergeSnapshots (own cross : List String) : (mergeSnapshots own cross).Nodup := by
  rw [mergeSnapshots_eq_foldl]
  exact nodup_foldl_addSeed _ List.nodup_nil

theorem mem_mergeSnapshots {own cross : List String} {x : String} :
    x ∈ mergeSnapshots own cross ↔ x ∈ own ∨ x ∈ cross := by
  rw [mergeSnapshots_eq_foldl, mem_foldl_addSeed]
  simp

/-- The own snapshot, its repeats removed, comes first. -/
theorem eraseDups_prefix_mergeSnapshots (own cross : List String) :
    own.eraseDups <+: mergeSnapshots own cross := by
  have hown : own.foldl addSeed [] = own.eraseDups := by simp [foldl_addSeed, List.removeAll]
  rw [mergeSnapshots_eq_foldl, List.foldl_append, foldl_addSeed, hown]
  exact List.prefix_append _ _

theorem mergeSnapshots_of_disjoint {own cross : List String} (hown : own.Nodup)
    (hcross : cross.Nodup) (hd : own.Disjoint cross) : mergeSnapshots own cross = own ++ cross := by
  rw [mergeSnapshots_of_nodup hown, foldl_addSeed_of_nodup hcross fun a ha ho => hd ho ha]

/-- Merging again with a third snapshot is merging once with the two others chained. -/
theorem mergeSnapshots_mergeSnapshots (own cross more : List String) :
    mergeSnapshots (mergeSnapshots own cross) more = mergeSnapshots own (cross ++ more) := by
  rw [mergeSnapshots_of_nodup (nodup_mergeSnapshots own cross), mergeSnapshots_eq_foldl,
    mergeSnapshots_eq_foldl]
  simp only [List.foldl_append]

theorem mergeSnapshots_idem (own cross : List String) :
    mergeSnapshots (mergeSnapshots own cross) cross = mergeSnapshots own cross := by
  rw [mergeSnapshots_of_nodup (nodup_mergeSnapshots own cross)]
  exact foldl_addSeed_of_subset fun x hx => mem_mergeSnapshots.mpr (.inr hx)

/-- **Merge laws.**  The merge of two snapshots keeps the first occurrence of every instance of
the two chained: it adds them in turn, each unless it is there already.  It has no repeats,
holds exactly the instances of either snapshot, starts with the own snapshot's instances each
once, is the plain concatenation of two disjoint snapshots free of repeats, changes nothing when
merged again with the cross snapshot, and merging its result with a third snapshot is merging
once with the two others chained. -/
theorem mergeSnapshots_laws (own cross more : List String) :
    mergeSnapshots own cross = (own ++ cross).foldl addSeed [] ∧
      (mergeSnapshots own cross).Nodup ∧
      (∀ x, x ∈ mergeSnapshots own cross ↔ x ∈ own ∨ x ∈ cross) ∧
      own.eraseDups <+: mergeSnapshots own cross ∧
      (own.Nodup → cross.Nodup → own.Disjoint cross → mergeSnapshots own cross = own ++ cross) ∧
      mergeSnapshots (mergeSnapshots own cross) cross = mergeSnapshots own cross ∧
      mergeSnapshots (mergeSnapshots own cross) more = mergeSnapshots own (cross ++ more) :=
  ⟨mergeSnapshots_eq_foldl own cross, nodup_mergeSnapshots own cross,
    fun _ => mem_mergeSnapshots, eraseDups_prefix_mergeSnapshots own cross,
    mergeSnapshots_of_disjoint, mergeSnapshots_idem own cross,
    mergeSnapshots_mergeSnapshots own cross more⟩

theorem mergeSnapshots_laws_of_disjoint_snapshots :
    (["i-1"] : List String).Nodup ∧ (["i-9", "i-8"] : List String).Nodup ∧
      (["i-1"] : List String).Disjoint ["i-9", "i-8"] ∧
      mergeSnapshots ["i-1"] ["i-9", "i-8"] = ["i-1", "i-9", "i-8"] := by
  have hown : (["i-1"] : List String).Nodup := by decide
  have hcross : (["i-9", "i-8"] : List String).Nodup := by decide
  have hd : (["i-1"] : List String).Disjoint ["i-9", "i-8"] := by simp
  exact ⟨hown, hcross, hd, (mergeSnapshots_laws ["i-1"] ["i-9", "i-8"] []).2.2.2.2.1 hown hcross hd⟩

example : mergeSnapshots ["i-3", "i-1"] ["i-2", "i-1", "i-4"] = ["i-3", "i-1", "i-2", "i-4"] := by
  decide

end RingIdentity
