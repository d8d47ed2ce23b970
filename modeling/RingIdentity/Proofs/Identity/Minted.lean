import RingIdentity.Proofs.Identity.Race
import RingIdentity.Proofs.Ring.Grouping
/-! # Registries of minted records

The scripted minter stores, for its node, the slot after the highest id of the node's rack on the
rack map it is handed (slot 0 for an empty rack), with the token `256 · id + b`, `b` the last byte
of the rack's name.  This module describes the live namespace that a race of such minters leaves
behind (`Minted`): every record carries the token of its slot and belongs to one node of the race,
in that node's rack, no node holds two records, and the ids of every rack are `0, 1, …, k - 1`
without a gap.

On such a registry the slot a minter chooses on a fresh rack map is the size of its rack
(`Minted.mintedRecord_id`), and storing it succeeds exactly when no record joined the rack since
the read (`Minted.clear_iff`): a minter that fails has been overtaken in its own slot by another
node of its rack (`Minted.overtaken`).  Counting the nodes of a rack bounds its size
(`Minted.length_rackOf_lt_quota`), which is what bounds the failures of a minter.
-/
namespace RingIdentity

namespace ScriptStep

/-- The byte the tokens of a rack end on: the last byte of its name, 0 for an empty name. -/
def tokenByte (rac : String) : Nat := (rac.toUTF8.toList.getLast?.map (·.toNat)).getD 0

theorem mintedToken_eq (rac : String) (id : Nat) :
    mintedToken rac id = toString (id * 256 + tokenByte rac) := rfl

theorem tokenByte_lt (rac : String) : tokenByte rac < 256 := by
  unfold tokenByte
  cases rac.toUTF8.toList.getLast? with
  | none => decide
  | some b => exact b.toNat_lt

/-- A number is read back from its decimal digits, so distinct numbers print differently. -/
theorem toString_injective : Function.Injective (toString : Nat → String) := by
  intro a b h
  have hdigits : Nat.toDigits 10 a = Nat.toDigits 10 b := by
    rw [← Nat.toList_repr, ← Nat.toList_repr, ← Nat.toString_eq_repr, ← Nat.toString_eq_repr, h]
  rw [← @Nat.ofDigitChars_ten_toDigits a, hdigits, Nat.ofDigitChars_ten_toDigits]

/-- Two slots get one token exactly when they have one id, on racks whose names end on one
byte. -/
theorem mintedToken_eq_iff {rac rac' : String} {a b : Nat} :
    mintedToken rac a = mintedToken rac' b ↔ a = b ∧ tokenByte rac = tokenByte rac' := by
  rw [mintedToken_eq, mintedToken_eq, toString_injective.eq_iff]
  have := tokenByte_lt rac
  have := tokenByte_lt rac'
  omega

/-- A minted token is a decimal number, so it is never blank. -/
theorem isBlankText_mintedToken (rac : String) (id : Nat) :
    Text.isBlankText (mintedToken rac id) = false := by
  obtain ⟨c, hc⟩ := List.exists_mem_of_ne_nil _ (@Nat.toDigits_ne_nil (id * 256 + tokenByte rac) 10)
  have hdigit := Nat.isDigit_of_mem_toDigits (by decide) (by decide) hc
  rw [Text.isBlankText, mintedToken_eq, Nat.toString_eq_repr, Nat.toList_repr, List.all_eq_false]
  refine ⟨c, hc, ?_⟩
  have hnat : 48 ≤ c.toNat ∧ c.toNat ≤ 57 := by
    simp only [Char.isDigit, Bool.and_eq_true, decide_eq_true_eq, ge_iff_le,
      UInt32.le_iff_toNat_le] at hdigit
    exact hdigit
  simp [Text.isBlank]
  omega

section Record

variable (app : String) (info : InstanceInfo) (map : RackMap)

@[simp] theorem mintedRecord_app : (mintedRecord app info map).app = app := rfl

@[simp] theorem mintedRecord_instanceId :
    (mintedRecord app info map).instanceId = info.instanceId := rfl

@[simp] theorem mintedRecord_rac : (mintedRecord app info map).rac = info.rac := rfl

theorem mintedRecord_id :
    (mintedRecord app info map).id = ((map.maxId info.rac).map (· + 1)).getD 0 := by
  unfold mintedRecord
  cases map.maxId info.rac <;> rfl

theorem mintedRecord_token :
    (mintedRecord app info map).token =
      some (mintedToken info.rac (mintedRecord app info map).id) := by
  show (if Text.isBlankText _ then none else some _) = _
  rw [isBlankText_mintedToken]
  rfl

end Record

end ScriptStep

namespace Minting

open ScriptStep

/-- Minted tokens tell apart the slots of the racks that the nodes of a race are in. -/
def TokensApart (racers : List InstanceInfo) : Prop :=
  ∀ i ∈ racers, ∀ j ∈ racers, ∀ a b,
    mintedToken i.rac a = mintedToken j.rac b → i.rac = j.rac ∧ a = b

/-- Racks whose names end on distinct bytes have distinct tokens. -/
theorem tokensApart_of_tokenByte {racers : List InstanceInfo}
    (h : ∀ i ∈ racers, ∀ j ∈ racers, tokenByte i.rac = tokenByte j.rac → i.rac = j.rac) :
    TokensApart racers := by
  intro i hi j hj a b heq
  obtain ⟨hab, hbyte⟩ := mintedToken_eq_iff.mp heq
  exact ⟨h i hi j hj hbyte, hab⟩

variable (app : String)

/-- The live records of a rack. -/
def rackOf (reg : Registry) (rac : String) : List RingInstance :=
  (reg.records app).filter (·.rac == rac)

/-- The number of nodes of a race in a rack. -/
def quota (racers : List InstanceInfo) (rac : String) : Nat := racers.countP (·.rac == rac)

/-- No live record is of the instance `id`. -/
def Fresh (id : String) (reg : Registry) : Prop := ∀ x ∈ reg.records app, x.instanceId ≠ id

/-- The registry as a race of minters leaves it: the dead namespace is empty; every live record
carries the token of its slot and belongs to a node of the race, in that node's rack; no two
belong to one instance; and the ids of every rack are `0, 1, …, k - 1`. -/
structure Minted (racers : List InstanceInfo) (reg : Registry) : Prop where
  dead_empty : reg.records (app ++ "-dead") = []
  token_eq : ∀ x ∈ reg.records app, x.token = some (mintedToken x.rac x.id)
  owners_nodup : ((reg.records app).map (·.instanceId)).Nodup
  owned : ∀ x ∈ reg.records app, ∃ i ∈ racers, i.instanceId = x.instanceId ∧ i.rac = x.rac
  ids_range : ∀ rac,
    ((rackOf app reg rac).map (·.id)).Perm (List.range (rackOf app reg rac).length)

variable {app} {racers : List InstanceInfo} {reg reg' : Registry}

theorem mem_rackOf {x : RingInstance} {rac : String} :
    x ∈ rackOf app reg rac ↔ x ∈ reg.records app ∧ x.rac = rac := by
  simp [rackOf]

theorem minted_of_empty (hlive : reg.records app = [])
    (hdead : reg.records (app ++ "-dead") = []) : Minted app racers reg where
  dead_empty := hdead
  token_eq := by simp [hlive]
  owners_nodup := by simp [hlive]
  owned := by simp [hlive]
  ids_range := fun rac => by simp [rackOf, hlive]

/-- A rack gains a record when one of its rack is appended to the namespace. -/
theorem rackOf_append (r : RingInstance) (rac : String) :
    rackOf app (reg.setRecords app (reg.records app ++ [r])) rac =
      rackOf app reg rac ++ if r.rac = rac then [r] else [] := by
  unfold rackOf
  rw [Registry.records_setRecords, if_pos rfl, List.filter_append]
  by_cases h : r.rac = rac <;> simp [h]

namespace Minted

variable (hm : Minted app racers reg)
include hm

theorem id_lt {rac : String} {x : RingInstance} (hx : x ∈ rackOf app reg rac) :
    x.id < (rackOf app reg rac).length :=
  List.mem_range.mp ((hm.ids_range rac).subset (List.mem_map_of_mem hx))

theorem exists_id {rac : String} {i : Nat} (hi : i < (rackOf app reg rac).length) :
    ∃ x ∈ rackOf app reg rac, x.id = i :=
  List.mem_map.mp ((hm.ids_range rac).symm.subset (List.mem_range.mpr hi))

theorem owners_rackOf_nodup (rac : String) : ((rackOf app reg rac).map (·.instanceId)).Nodup :=
  hm.owners_nodup.sublist (List.filter_sublist.map _)

theorem rackOf_nodup (rac : String) : (rackOf app reg rac).Nodup :=
  (hm.owners_rackOf_nodup rac).of_map _

/-- The rack map lists the ids of a rack in order: `0, 1, …, k - 1`. -/
theorem rack_ids (rac : String) :
    ((RackMap.ofInstances (reg.records app)).rack rac).map (·.id) =
      List.range (rackOf app reg rac).length := by
  rw [RackMap.rack_ofInstances]
  have hperm : ((RackMap.byId (rackOf app reg rac)).map (·.id)).Perm
      (List.range (rackOf app reg rac).length) :=
    ((List.mergeSort_perm _ _).map _).trans (hm.ids_range rac)
  refine hperm.eq_of_pairwise (fun a b _ _ hab hba => Nat.le_antisymm hab hba) ?_ ?_
  · exact List.pairwise_map.mpr (RackMap.pairwise_byId _)
  · exact List.pairwise_lt_range.imp Nat.le_of_lt

/-- On a fresh rack map a minter chooses the size of its rack as its slot. -/
theorem mintedRecord_id (info : InstanceInfo) :
    (mintedRecord app info (RackMap.ofInstances (reg.records app))).id =
      (rackOf app reg info.rac).length := by
  have hmax : (RackMap.ofInstances (reg.records app)).maxId info.rac =
      (List.range (rackOf app reg info.rac).length).getLast? := by
    rw [RackMap.maxId, ← List.getLast?_map, hm.rack_ids]
  rw [ScriptStep.mintedRecord_id, hmax, List.getLast?_range]
  split <;> simp <;> omega

/-- A record with the token of its slot, in the rack of a node of the race, can be stored
exactly when its id is past the ids of its rack. -/
theorem clear_iff (htok : TokensApart racers) {me : InstanceInfo} (hme : me ∈ racers)
    {r : RingInstance} (hrac : r.rac = me.rac)
    (htoken : r.token = some (mintedToken me.rac r.id)) :
    Registry.findConflict (reg.records app) r none = none ↔
      (rackOf app reg me.rac).length ≤ r.id := by
  rw [Registry.findConflict_eq_none_iff]
  constructor
  · intro hclear
    refine Nat.le_of_not_lt fun hlt => ?_
    obtain ⟨x, hx, hid⟩ := hm.exists_id hlt
    obtain ⟨hx, hxrac⟩ := mem_rackOf.mp hx
    exact (hclear x hx (by simp)).1 ⟨hxrac.trans hrac.symm, hid⟩
  · intro hle x hx _
    -- a record in the slot of `r` would have an id below the size of the rack
    have hslot : ¬(x.rac = r.rac ∧ x.id = r.id) := fun ⟨hxrac, hid⟩ => by
      have := hm.id_lt (mem_rackOf.mpr ⟨hx, hxrac.trans hrac⟩)
      omega
    refine ⟨hslot, fun t hxt hrt => hslot ?_⟩
    -- a record with the token of `r` holds the slot of `r`: tokens tell slots apart
    obtain ⟨i, hi, -, hirac⟩ := hm.owned x hx
    have hxtok : mintedToken x.rac x.id = t := Option.some.inj ((hm.token_eq x hx).symm.trans hxt)
    have hrtok : mintedToken me.rac r.id = t := Option.some.inj (htoken.symm.trans hrt)
    obtain ⟨hsame, hid⟩ := htok i hi me hme x.id r.id (by rw [hirac, hxtok, hrtok])
    exact ⟨by rw [← hirac, hsame, hrac], hid⟩

/-- Storing the slot after the last of its rack for a node that holds no record keeps the
registry minted. -/
theorem register {me : InstanceInfo} (hme : me ∈ racers) (hf : Fresh app me.instanceId reg)
    {map : RackMap} (hid : (mintedRecord app me map).id = (rackOf app reg me.rac).length) :
    Minted app racers (reg.setRecords app (reg.records app ++ [mintedRecord app me map])) := by
  have hrecords : (reg.setRecords app (reg.records app ++ [mintedRecord app me map])).records app =
      reg.records app ++ [mintedRecord app me map] := by
    rw [Registry.records_setRecords, if_pos rfl]
  refine ⟨?_, ?_, ?_, ?_, fun rac => ?_⟩
  · rw [Registry.records_setRecords, if_neg (ne_dead app).symm]
    exact hm.dead_empty
  · intro x hx
    rw [hrecords] at hx
    rcases List.mem_append.mp hx with hx | hx
    · exact hm.token_eq x hx
    · rw [List.mem_singleton.mp hx, mintedRecord_token]
      rfl
  · rw [hrecords, List.map_append]
    refine List.nodup_append.mpr ⟨hm.owners_nodup, List.nodup_singleton _, fun a ha b hb => ?_⟩
    obtain ⟨x, hx, rfl⟩ := List.mem_map.mp ha
    rw [List.mem_singleton.mp hb]
    exact hf x hx
  · intro x hx
    rw [hrecords] at hx
    rcases List.mem_append.mp hx with hx | hx
    · exact hm.owned x hx
    · exact ⟨me, hme, by rw [List.mem_singleton.mp hx]; rfl, by rw [List.mem_singleton.mp hx]; rfl⟩
  · rw [rackOf_append]
    by_cases hrac : me.rac = rac
    · -- the rack of the node grows by its next id
      subst hrac
      simp only [mintedRecord_rac, if_pos, List.map_append, List.map_singleton, hid,
        List.length_append, List.length_singleton, List.range_succ]
      exact (hm.ids_range me.rac).append_right _
    · simpa [hrac] using hm.ids_range rac

/-! ### Counting the records of a rack -/

/-- Every record of a rack belongs to a node of the race in that rack. -/
theorem owners_subset (rac : String) :
    (rackOf app reg rac).map (·.instanceId) ⊆
      (racers.filter (·.rac == rac)).map (·.instanceId) := by
  intro s hs
  obtain ⟨x, hx, rfl⟩ := List.mem_map.mp hs
  obtain ⟨hx, hxrac⟩ := mem_rackOf.mp hx
  obtain ⟨i, hi, hid, hirac⟩ := hm.owned x hx
  exact List.mem_map.mpr ⟨i, List.mem_filter.mpr ⟨hi, by simp [hirac, hxrac]⟩, hid⟩

theorem length_rackOf_le_quota (rac : String) :
    (rackOf app reg rac).length ≤ quota racers rac := by
  have hlen := (List.subperm_of_subset (hm.owners_rackOf_nodup rac) (hm.owners_subset rac)).length_le
  simpa [quota, List.countP_eq_length_filter] using hlen

/-- While a node holds no record, its rack holds fewer records than it has nodes. -/
theorem length_rackOf_lt_quota {me : InstanceInfo} (hme : me ∈ racers)
    (hf : Fresh app me.instanceId reg) :
    (rackOf app reg me.rac).length < quota racers me.rac := by
  have hnd : (me.instanceId :: (rackOf app reg me.rac).map (·.instanceId)).Nodup := by
    refine List.nodup_cons.mpr ⟨fun h => ?_, hm.owners_rackOf_nodup me.rac⟩
    obtain ⟨x, hx, hxid⟩ := List.mem_map.mp h
    exact hf x (mem_rackOf.mp hx).1 hxid
  have hsub : me.instanceId :: (rackOf app reg me.rac).map (·.instanceId) ⊆
      (racers.filter (·.rac == me.rac)).map (·.instanceId) :=
    List.cons_subset.mpr
      ⟨List.mem_map_of_mem (List.mem_filter.mpr ⟨hme, by simp⟩), hm.owners_subset me.rac⟩
  have hlen := (List.subperm_of_subset hnd hsub).length_le
  simp only [List.length_cons, List.length_map] at hlen
  rw [quota, List.countP_eq_length_filter]
  omega

/-- Records are never dropped, so racks only grow. -/
theorem length_rackOf_le (hk : reg.Keeps reg') (rac : String) :
    (rackOf app reg rac).length ≤ (rackOf app reg' rac).length := by
  have hsub : rackOf app reg rac ⊆ rackOf app reg' rac := by
    intro x hx
    obtain ⟨hx, hrac⟩ := mem_rackOf.mp hx
    exact mem_rackOf.mpr ⟨hk app x hx, hrac⟩
  exact (List.subperm_of_subset (hm.rackOf_nodup rac) hsub).length_le

/-- Once every node of the race holds a record of its rack, the ids of each rack are exactly
`0, 1, …` up to the number of its nodes. -/
theorem ids_perm_quota (hids : (racers.map (·.instanceId)).Nodup)
    (hall : ∀ i ∈ racers, ∃ x ∈ reg.records app, x.instanceId = i.instanceId ∧ x.rac = i.rac)
    (rac : String) :
    ((rackOf app reg rac).map (·.id)).Perm (List.range (quota racers rac)) := by
  -- the nodes of the rack hold distinct records of it
  have hsub : (racers.filter (·.rac == rac)).map (·.instanceId) ⊆
      (rackOf app reg rac).map (·.instanceId) := by
    intro s hs
    obtain ⟨i, hi, rfl⟩ := List.mem_map.mp hs
    obtain ⟨hi, hirac⟩ := List.mem_filter.mp hi
    obtain ⟨x, hx, hxid, hxrac⟩ := hall i hi
    refine List.mem_map.mpr ⟨x, mem_rackOf.mpr ⟨hx, ?_⟩, hxid⟩
    simpa [hxrac] using hirac
  have hge := (List.subperm_of_subset (hids.sublist (List.filter_sublist.map _)) hsub).length_le
  simp only [List.length_map] at hge
  have hlen : (rackOf app reg rac).length = quota racers rac :=
    Nat.le_antisymm (hm.length_rackOf_le_quota rac)
      (by simpa [quota, List.countP_eq_length_filter] using hge)
  rw [← hlen]
  exact hm.ids_range rac

/-- A minter that read its rack map on `reg` and fails to store its slot on `reg'` has been
overtaken: a record stored since the read, of another node of its rack, holds that slot. -/
theorem overtaken (hm' : Minted app racers reg') (htok : TokensApart racers)
    {me : InstanceInfo} (hme : me ∈ racers) (hf : Fresh app me.instanceId reg')
    (hconflict : Registry.findConflict (reg'.records app)
      (mintedRecord app me (RackMap.ofInstances (reg.records app))) none ≠ none) :
    ∃ x ∈ reg'.records app, x ∉ reg.records app ∧ x.rac = me.rac ∧
      x.id = (mintedRecord app me (RackMap.ofInstances (reg.records app))).id ∧
      x.instanceId ≠ me.instanceId := by
  have hid := hm.mintedRecord_id me
  have hlt : (mintedRecord app me (RackMap.ofInstances (reg.records app))).id <
      (rackOf app reg' me.rac).length :=
    Nat.lt_of_not_le fun hle =>
      hconflict ((hm'.clear_iff htok hme rfl (mintedRecord_token ..)).mpr hle)
  obtain ⟨x, hx, hxid⟩ := hm'.exists_id hlt
  obtain ⟨hx, hxrac⟩ := mem_rackOf.mp hx
  refine ⟨x, hx, fun hold => ?_, hxrac, hxid, hf x hx⟩
  -- a record there at the read would have an id below the slot chosen on that read
  have := hm.id_lt (mem_rackOf.mpr ⟨hold, hxrac⟩)
  omega

end Minted

end Minting

end RingIdentity
