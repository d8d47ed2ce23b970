import RingIdentity.Registry.Store
/-! # The registry's representation invariant

The in-memory registry promises, for every namespace, what its conditional writes guard: each
record of namespace `k` belongs to application `k`, and no two records of one namespace share a
slot or carry the same token (`Registry.WellFormed`).  A registry seeded with any records keeps
the promise, and so does every call of its interface (`Registry.Reachable.wellFormed`); a write
that fails leaves the registry exactly as it was.

Each write is described once, by an outcome lemma (`register_of_clear`, `update_cases`,
`delete_cases`), and the invariant is carried through the outcomes.  The one delicate step is
`update`: it exempts the record it replaces from the conflict scan by value, and finds the slot
by its first position.  Slot uniqueness makes the two the same record, so the replacement stands
apart from every other record of the namespace (`Sound.replace`).
-/
namespace RingIdentity

/-! ## Records that stand apart -/

namespace RingInstance

/-- Two records stand apart: they hold different slots, and do not carry the same token. -/
def Apart (a b : RingInstance) : Prop :=
  ¬(a.rac = b.rac ∧ a.id = b.id) ∧ ∀ t, a.token = some t → b.token ≠ some t

theorem Apart.symm {a b : RingInstance} (h : Apart a b) : Apart b a :=
  ⟨fun ⟨hr, hi⟩ => h.1 ⟨hr.symm, hi.symm⟩, fun t hb ha => h.2 t ha hb⟩

instance : Std.Symm Apart := ⟨fun _ _ h => h.symm⟩

/-- No record stands apart from itself: it holds its own slot. -/
theorem not_apart_self (a : RingInstance) : ¬Apart a a := fun h => h.1 ⟨rfl, rfl⟩

theorem Apart.ne {a b : RingInstance} (h : Apart a b) : a ≠ b := by
  rintro rfl
  exact not_apart_self a h

end RingInstance

/-- A call of the registry's interface. -/
inductive RegistryCall where
  | allIds (app : String)
  | get (app rac : String) (id : Nat)
  | register (r : RingInstance)
  | update (current replacement : RingInstance)
  | delete (r : RingInstance)

/-- What a call of the registry answers. -/
def RegistryCall.Answer : RegistryCall → Type
  | .allIds _ => Except RegistryError (List RingInstance)
  | .get .. => Except RegistryError (Option RingInstance)
  | .register _ => Except RegistryError RingInstance
  | .update .. => Except RegistryError RingInstance
  | .delete _ => Except RegistryError Unit

namespace Registry

open RingInstance

/-- Serves one call: its answer, and the registry after it.  Reads always succeed and change
nothing. -/
def serve (reg : Registry) : (c : RegistryCall) → c.Answer × Registry
  | .allIds app => (.ok (reg.allIds app), reg)
  | .get app rac i => (.ok (reg.get app rac i), reg)
  | .register r => reg.register r
  | .update c r => reg.update c r
  | .delete r => reg.delete r

/-! ## Conflicts -/

/-- A record stands in a candidate's way exactly when the two do not stand apart. -/
theorem blocks_eq_false_iff {c r : RingInstance} : blocks c r = false ↔ Apart r c := by
  simp only [blocks, sameSlot, Apart, Bool.or_eq_false_iff, Bool.and_eq_false_iff,
    beq_eq_false_iff_ne, ne_eq]
  refine and_congr Decidable.not_and_iff_not_or_not.symm ?_
  cases c.token with
  | none => simp
  | some a =>
    cases r.token with
    | none => simp
    | some b => simpa using ne_comm

/-- The conflict scan finds nothing exactly when every record it looks at stands apart from
the candidate. -/
theorem findConflict_eq_none_iff {rs : List RingInstance} {c : RingInstance}
    {ex : Option RingInstance} :
    findConflict rs c ex = none ↔ ∀ r ∈ rs, ex ≠ some r → Apart r c := by
  simp only [findConflict, List.find?_eq_none, List.mem_filter, bne_iff_ne, ne_eq,
    Bool.not_eq_true, blocks_eq_false_iff]
  constructor
  · intro h r hr hex
    exact h r ⟨hr, hex⟩
  · rintro h r ⟨hr, hex⟩
    exact h r hr hex

/-! ## Namespaces -/

/-- The records of a namespace are those of its entry, or none when it has no entry. -/
theorem records_mem (reg : Registry) (k : String) :
    reg.records k = [] ∨ (k, reg.records k) ∈ reg.namespaces := by
  unfold records
  cases h : reg.namespaces.find? (·.1 == k) with
  | none => exact .inl rfl
  | some e =>
    have hk : e.1 = k := by simpa using List.find?_some h
    right
    simpa [← hk] using List.mem_of_find?_eq_some h

theorem namespaces_setRecords (reg : Registry) (k : String) (rs : List RingInstance) :
    (reg.setRecords k rs).namespaces =
      if reg.namespaces.any (·.1 == k) then
        reg.namespaces.map fun e => if e.1 = k then (k, rs) else e
      else reg.namespaces ++ [(k, rs)] := by
  unfold setRecords
  split
  · dsimp only
    congr 1
    funext ⟨a, b⟩
    by_cases h : a = k <;> simp [h]
  · rfl

/-- Replacing a namespace's records changes that namespace alone. -/
@[simp]
theorem records_setRecords (reg : Registry) (k : String) (rs : List RingInstance) (k' : String) :
    (reg.setRecords k rs).records k' = if k' = k then rs else reg.records k' := by
  unfold records
  rw [namespaces_setRecords]
  split
  · rename_i hany
    have hp : ((fun e : String × List RingInstance => e.1 == k') ∘
        fun e => if e.1 = k then (k, rs) else e) = (·.1 == k') := by
      funext e
      by_cases h : e.1 = k <;> simp [h]
    rw [List.find?_map, hp]
    cases hf : reg.namespaces.find? (·.1 == k') with
    | none =>
      by_cases h : k' = k
      · subst h
        obtain ⟨e, he, hek⟩ := List.any_eq_true.mp hany
        exact absurd hek (List.find?_eq_none.mp hf e he)
      · simp [h]
    | some e =>
      have he : e.1 = k' := by simpa using List.find?_some hf
      by_cases h : k' = k <;> simp [he, h]
  · rename_i hnone
    rw [List.find?_append]
    by_cases h : k' = k
    · subst h
      have hf : reg.namespaces.find? (·.1 == k') = none :=
        List.find?_eq_none.mpr fun e he hek => hnone (List.any_eq_true.mpr ⟨e, he, hek⟩)
      simp [hf]
    · have hk : (k == k') = false := by simpa using Ne.symm h
      simp [h, hk]

theorem mem_setRecords {reg : Registry} {k : String} {rs : List RingInstance}
    {e : String × List RingInstance} (h : e ∈ (reg.setRecords k rs).namespaces) :
    e = (k, rs) ∨ (e ∈ reg.namespaces ∧ e.1 ≠ k) := by
  rw [namespaces_setRecords] at h
  split at h
  · obtain ⟨x, hx, rfl⟩ := List.mem_map.mp h
    by_cases hk : x.1 = k
    · exact .inl (if_pos hk)
    · exact .inr ⟨by simpa [hk] using hx, by simp [hk]⟩
  · rename_i hnone
    rcases List.mem_append.mp h with h | h
    · exact .inr ⟨h, fun hk => hnone (List.any_eq_true.mpr ⟨e, h, by simpa using hk⟩)⟩
    · exact .inl (List.mem_singleton.mp h)

theorem keys_setRecords_nodup {reg : Registry} (k : String) (rs : List RingInstance)
    (h : (reg.namespaces.map Prod.fst).Nodup) :
    ((reg.setRecords k rs).namespaces.map Prod.fst).Nodup := by
  rw [namespaces_setRecords]
  split
  · rw [List.map_map]
    refine (List.map_congr_left fun e _ => ?_).symm ▸ h
    by_cases hk : e.1 = k <;> simp [hk]
  · rename_i hnone
    rw [List.map_append, List.nodup_append]
    refine ⟨h, by simp, fun a ha b hb hab => hnone ?_⟩
    obtain ⟨e, he, rfl⟩ := List.mem_map.mp ha
    exact List.any_eq_true.mpr ⟨e, he, by simpa [List.mem_singleton.mp hb] using hab⟩

/-! ## What each write does -/

theorem register_of_clear {reg : Registry} {r : RingInstance}
    (h : findConflict (reg.records r.app) r none = none) :
    reg.register r = (.ok r, reg.setRecords r.app (reg.records r.app ++ [r])) := by
  simp [register, h]

theorem register_of_held {reg : Registry} {r x : RingInstance}
    (h : findConflict (reg.records r.app) r none = some x) :
    reg.register r = (.error (conflictOf r), reg) := by
  simp [register, h]

/-- **What an update does.**  It fails as a conflict or as a missing record and changes
nothing, or the namespace is `as ++ current :: bs` with no earlier record in `current`'s slot,
the replacement has `current`'s slot and namespace, no record but `current` holds its slot or
token, and it takes `current`'s place. -/
theorem update_cases (reg : Registry) (c r : RingInstance) :
    (∃ e, reg.update c r = (.error e, reg) ∧ (e = conflictOf r ∨ e = notFoundOf c)) ∨
    ∃ as bs, reg.records c.app = as ++ c :: bs ∧ (∀ a ∈ as, sameSlot a c = false) ∧
      sameSlot c r = true ∧ c.app = r.app ∧ findConflict (as ++ c :: bs) r (some c) = none ∧
      reg.update c r = (.ok r, reg.setRecords c.app (as ++ r :: bs)) := by
  unfold update
  split
  · exact .inl ⟨_, rfl, .inl rfl⟩
  rename_i hsame
  split
  · exact .inl ⟨_, rfl, .inr rfl⟩
  dsimp only
  split
  · exact .inl ⟨_, rfl, .inr rfl⟩
  rename_i stored hfind
  split
  · exact .inl ⟨_, rfl, .inl rfl⟩
  rename_i hstored
  have hsc : stored = c := by simpa using hstored
  subst hsc
  split
  · exact .inl ⟨_, rfl, .inl rfl⟩
  rename_i hclear
  obtain ⟨-, as, bs, hrs, has⟩ := List.find?_eq_some_iff_append.mp hfind
  -- the slot is found at the first position holding it, just after `as`
  have hidx : (reg.records stored.app).findIdx (sameSlot · stored) = as.length := by
    rw [hrs, List.findIdx_append, List.findIdx_eq_length_of_false fun a ha => by simpa using has a ha]
    simp [List.findIdx_cons, sameSlot]
  simp only [Bool.or_eq_true, Bool.not_eq_true', bne_iff_ne, ne_eq, not_or, Bool.not_eq_false,
    Decidable.not_not] at hsame
  refine .inr ⟨as, bs, hrs, fun a ha => by simpa using has a ha, hsame.1, hsame.2, hrs ▸ hclear, ?_⟩
  rw [hidx, hrs, List.set_append_right _ _ (Nat.le_refl _)]
  simp

/-- **What a delete does.**  It fails as a missing record and changes nothing, or it removes the
first record equal to the given one from its namespace. -/
theorem delete_cases (reg : Registry) (r : RingInstance) :
    reg.delete r = (.error (notFoundOf r), reg) ∨
    r ∈ reg.records r.app ∧ reg.delete r =
      (.ok (), reg.setRecords r.app ((reg.records r.app).eraseIdx ((reg.records r.app).idxOf r))) := by
  unfold delete
  split
  · exact .inl rfl
  dsimp only
  split
  · rename_i hmem
    exact .inr ⟨List.contains_iff_mem.mp hmem, rfl⟩
  · exact .inl rfl

theorem register_error {reg : Registry} {r : RingInstance} {e : RegistryError}
    (h : (reg.register r).1 = .error e) : (reg.register r).2 = reg := by
  cases hc : findConflict (reg.records r.app) r none with
  | none => rw [register_of_clear hc] at h; cases h
  | some x => rw [register_of_held hc]

theorem update_error {reg : Registry} {c r : RingInstance} {e : RegistryError}
    (h : (reg.update c r).1 = .error e) : (reg.update c r).2 = reg := by
  rcases update_cases reg c r with ⟨e', he, -⟩ | ⟨as, bs, -, -, -, -, -, he⟩
  · rw [he]
  · rw [he] at h; cases h

theorem delete_error {reg : Registry} {r : RingInstance} {e : RegistryError}
    (h : (reg.delete r).1 = .error e) : (reg.delete r).2 = reg := by
  rcases delete_cases reg r with he | ⟨-, he⟩
  · rw [he]
  · rw [he] at h; cases h

/-! ## Sound namespaces -/

/-- The records of namespace `k` keep the registry's promise: each belongs to `k`, and any two
of them stand apart. -/
structure Sound (k : String) (rs : List RingInstance) : Prop where
  app_eq : ∀ r ∈ rs, r.app = k
  apart : rs.Pairwise Apart

theorem Sound.nil (k : String) : Sound k [] := ⟨by simp, .nil⟩

/-- Storing a record no one stands in the way of keeps a namespace sound. -/
theorem Sound.append_clear {k : String} {rs : List RingInstance} {r : RingInstance}
    (h : Sound k rs) (hr : r.app = k) (hc : findConflict rs r none = none) :
    Sound k (rs ++ [r]) := by
  have hclear := findConflict_eq_none_iff.mp hc
  refine ⟨fun x hx => ?_, List.pairwise_append.mpr ⟨h.apart, by simp, fun a ha b hb => ?_⟩⟩
  · rcases List.mem_append.mp hx with hx | hx
    · exact h.app_eq x hx
    · rw [List.mem_singleton.mp hx, hr]
  · rw [List.mem_singleton.mp hb]
    exact hclear a ha (by simp)

/-- **Replacing a record in its slot keeps a namespace sound.**  The conflict scan exempts every
record equal to the one replaced; slot uniqueness leaves exactly one, the one at the replaced
position, so the replacement stands apart from all the others. -/
theorem Sound.replace {k : String} {as bs : List RingInstance} {c r : RingInstance}
    (h : Sound k (as ++ c :: bs)) (hr : r.app = k)
    (hc : findConflict (as ++ c :: bs) r (some c) = none) :
    Sound k (as ++ r :: bs) := by
  have hclear := findConflict_eq_none_iff.mp hc
  have hparts := List.pairwise_append.mp h.apart
  obtain ⟨has, hcbs, hcross⟩ := hparts
  obtain ⟨hcb, hbs⟩ := List.pairwise_cons.mp hcbs
  -- no record besides the replaced one equals it: each stands apart from it
  have hne_as : ∀ a ∈ as, some c ≠ some a := fun a ha he =>
    (hcross a ha c List.mem_cons_self).ne (Option.some.inj he).symm
  have hne_bs : ∀ b ∈ bs, some c ≠ some b := fun b hb he =>
    (hcb b hb).ne (Option.some.inj he)
  refine ⟨fun x hx => ?_, List.pairwise_append.mpr ⟨has, List.pairwise_cons.mpr ⟨?_, hbs⟩, ?_⟩⟩
  · rcases List.mem_append.mp hx with hx | hx
    · exact h.app_eq x (List.mem_append_left _ hx)
    · rcases List.mem_cons.mp hx with rfl | hx
      · exact hr
      · exact h.app_eq x (by simp [hx])
  · intro b hb
    exact (hclear b (by simp [hb]) (hne_bs b hb)).symm
  · intro a ha b hb
    rcases List.mem_cons.mp hb with rfl | hb
    · exact hclear a (List.mem_append_left _ ha) (hne_as a ha)
    · exact hcross a ha b (List.mem_cons_of_mem _ hb)

theorem Sound.eraseIdx {k : String} {rs : List RingInstance} (h : Sound k rs) (i : Nat) :
    Sound k (rs.eraseIdx i) :=
  ⟨fun r hr => h.app_eq r ((List.eraseIdx_sublist rs i).subset hr),
    h.apart.sublist (List.eraseIdx_sublist rs i)⟩

/-! ## The invariant -/

/-- **The registry's representation invariant**: every namespace has one entry, and the records
of each entry keep the registry's promise. -/
structure WellFormed (reg : Registry) : Prop where
  keys_nodup : (reg.namespaces.map Prod.fst).Nodup
  sound : ∀ k rs, (k, rs) ∈ reg.namespaces → Sound k rs

theorem WellFormed.empty : WellFormed Registry.empty := ⟨.nil, by simp [Registry.empty]⟩

theorem WellFormed.records {reg : Registry} (h : reg.WellFormed) (k : String) :
    Sound k (reg.records k) := by
  rcases records_mem reg k with he | he
  · rw [he]
    exact Sound.nil k
  · exact h.sound k _ he

theorem WellFormed.setRecords {reg : Registry} {k : String} {rs : List RingInstance}
    (h : reg.WellFormed) (hs : Sound k rs) : (reg.setRecords k rs).WellFormed := by
  refine ⟨keys_setRecords_nodup k rs h.keys_nodup, fun k' rs' he => ?_⟩
  rcases mem_setRecords he with he | ⟨he, -⟩
  · obtain ⟨rfl, rfl⟩ := Prod.mk.inj he
    exact hs
  · exact h.sound k' rs' he

theorem WellFormed.register {reg : Registry} (h : reg.WellFormed) (r : RingInstance) :
    (reg.register r).2.WellFormed := by
  cases hc : findConflict (reg.records r.app) r none with
  | none =>
    rw [register_of_clear hc]
    exact h.setRecords ((h.records r.app).append_clear rfl hc)
  | some x =>
    rw [register_of_held hc]
    exact h

theorem WellFormed.update {reg : Registry} (h : reg.WellFormed) (c r : RingInstance) :
    (reg.update c r).2.WellFormed := by
  rcases update_cases reg c r with ⟨e, he, -⟩ | ⟨as, bs, hrs, -, -, happ, hc, he⟩
  · rw [he]
    exact h
  · rw [he]
    have hs : Sound c.app (as ++ c :: bs) := hrs ▸ h.records c.app
    exact h.setRecords (hs.replace happ.symm hc)

theorem WellFormed.delete {reg : Registry} (h : reg.WellFormed) (r : RingInstance) :
    (reg.delete r).2.WellFormed := by
  rcases delete_cases reg r with he | ⟨-, he⟩
  · rw [he]
    exact h
  · rw [he]
    exact h.setRecords ((h.records r.app).eraseIdx _)

/-- **Every call keeps the invariant.** -/
theorem WellFormed.serve {reg : Registry} (h : reg.WellFormed) :
    ∀ c : RegistryCall, (reg.serve c).2.WellFormed
  | .allIds _ | .get .. => h
  | .register r => h.register r
  | .update c r => h.update c r
  | .delete r => h.delete r

/-- A registry seeded with records, skipping those that conflict, is well formed. -/
theorem WellFormed.ofRecords (rs : List RingInstance) : (ofRecords rs).WellFormed := by
  suffices key : ∀ reg : Registry, reg.WellFormed →
      (rs.foldl (fun reg r => (reg.register r).2) reg).WellFormed from key _ .empty
  induction rs with
  | nil => exact fun _ h => h
  | cons r rs ih => exact fun reg h => ih _ (h.register r)

/-- The registries a run of calls can reach: from an empty registry, or one seeded with any
records, through any calls with any arguments. -/
inductive Reachable : Registry → Prop
  | empty : Reachable Registry.empty
  | seeded (rs : List RingInstance) : Reachable (ofRecords rs)
  | serve {reg : Registry} (c : RegistryCall) : Reachable reg → Reachable (reg.serve c).2

theorem Reachable.wellFormed {reg : Registry} (h : reg.Reachable) : reg.WellFormed := by
  induction h with
  | empty => exact .empty
  | seeded rs => exact .ofRecords rs
  | serve c _ ih => exact ih.serve c

/-- **The registry keeps its promises.**  In every registry a run of calls reaches, each
namespace has one entry, its records belong to it, no two of them share a slot and no two carry
the same token; and a write that fails leaves the registry as it was. -/
theorem Reachable.namespace_invariant {reg : Registry} (h : reg.Reachable) :
    (reg.namespaces.map Prod.fst).Nodup ∧
    (∀ k rs, (k, rs) ∈ reg.namespaces →
      (∀ r ∈ rs, r.app = k) ∧
      rs.Pairwise (fun a b => ¬(a.rac = b.rac ∧ a.id = b.id)) ∧
      rs.Pairwise (fun a b => ∀ t, a.token = some t → b.token ≠ some t)) ∧
    (∀ r e, (reg.register r).1 = .error e → (reg.register r).2 = reg) ∧
    (∀ c r e, (reg.update c r).1 = .error e → (reg.update c r).2 = reg) ∧
    (∀ r e, (reg.delete r).1 = .error e → (reg.delete r).2 = reg) := by
  have hwf := h.wellFormed
  refine ⟨hwf.keys_nodup, fun k rs he => ?_, fun _ _ => register_error, fun _ _ _ => update_error,
    fun _ _ => delete_error⟩
  have hs := hwf.sound k rs he
  exact ⟨hs.app_eq, hs.apart.imp (·.1), hs.apart.imp (·.2)⟩

/-- A placeholder's slot, claimed by a record with a token: the registry reached keeps its
promises. -/
theorem namespace_invariant_of_claimed_placeholder :
    let placeholder : RingInstance :=
      { id := 3, app := "cass_cluster", instanceId := "new_slot", rac := "us-east-1a" }
    let first : RingInstance :=
      { id := 3, app := "cass_cluster", instanceId := "i-first", rac := "us-east-1a",
        token := some "300" }
    let reg := ((ofRecords [placeholder]).serve (.update placeholder first)).2
    reg.Reachable ∧
    (reg.namespaces.map Prod.fst).Nodup ∧
    (∀ k rs, (k, rs) ∈ reg.namespaces →
      (∀ r ∈ rs, r.app = k) ∧
      rs.Pairwise (fun a b => ¬(a.rac = b.rac ∧ a.id = b.id)) ∧
      rs.Pairwise (fun a b => ∀ t, a.token = some t → b.token ≠ some t)) ∧
    (∀ r e, (reg.register r).1 = .error e → (reg.register r).2 = reg) ∧
    (∀ c r e, (reg.update c r).1 = .error e → (reg.update c r).2 = reg) ∧
    (∀ r e, (reg.delete r).1 = .error e → (reg.delete r).2 = reg) :=
  ⟨.serve _ (.seeded _), Reachable.namespace_invariant (.serve _ (.seeded _))⟩

end Registry

end RingIdentity
