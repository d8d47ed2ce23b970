import Mathlib.Data.List.Nodup
import RingIdentity.App.Settings
/-! # Sections do not depend on the order of their keys

Every configuration section is read the same way: its entries are visited in written order, a
key names a field of the section's layout or is ignored, a field named a second time is refused
as a duplicate under its primary name unless the layout lets it repeat, and each value is read
as its key is met (`Layout.collectEntries`).  The section is then built from the fields met.

The visit succeeds exactly when no field that may not repeat is named twice and every named
value reads, and it then answers the named values in written order
(`Layout.collectEntries_nil_eq_ok_iff`).  Neither condition depends on the order of the entries,
and the values of two orders are permutations of each other.  Every section builds itself by
looking up each field once (`List.find?` on the fields met, or the last value of a field), which
on fields met once does not depend on their order either.  So every section obeys the key-order
laws (`KeyOrderLaws`): a repeated field is a duplicate whatever names the two keys used, and a
section reads the same from every order of its entries (`sections_obey_key_order_laws`).

The one field that may repeat is the retry policy's delay, whose last value wins: a policy that
names its delay twice reads, and the order of the two keys decides its delay
(`retry_delay_repeated_last_wins`).
-/
namespace RingIdentity

theorem except_bind_eq_ok {ε α β : Type} {x : Except ε α} {f : α → Except ε β} {b : β} :
    x >>= f = .ok b ↔ ∃ a, x = .ok a ∧ f a = .ok b := by
  cases x <;> simp [bind, Except.bind]

namespace Layout

variable {F V : Type} (l : Layout F) (read : F → String → Node → Except DecodeError V)

/-! ## What a visit of the entries answers -/

/-- The fields the entries name, in written order. -/
def named (es : List (String × Node)) : List F := es.filterMap fun e => l.classify e.1

/-- The values the entries give the fields they name, in written order. -/
def values (es : List (String × Node)) : List (F × V) :=
  es.filterMap fun e => (l.classify e.1).bind fun f => (read f e.1 e.2).toOption.map (f, ·)

/-- Every entry that names a field holds a value that reads. -/
def ReadsAll (es : List (String × Node)) : Prop :=
  ∀ e ∈ es, ∀ f, l.classify e.1 = some f → ∃ v, read f e.1 e.2 = .ok v

/-- Of a list of fields, those that may not repeat. -/
def once (fs : List F) : List F := fs.filter fun f => !l.repeatable f

variable {l read}

theorem readsAll_cons {k : String} {n : Node} {es : List (String × Node)} :
    l.ReadsAll read ((k, n) :: es) ↔
      (∀ f, l.classify k = some f → ∃ v, read f k n = .ok v) ∧ l.ReadsAll read es := by
  simp [ReadsAll]

/-- **The visit of the entries.**  From fields met `acc` in which no field that may not repeat
is met twice, the visit succeeds exactly when no such field is met twice in all, and every named
value reads; it then adds the named values, in written order. -/
theorem collectEntries_eq_ok_iff [BEq F] [LawfulBEq F] {es : List (String × Node)} {acc met : List (F × V)}
    (hacc : (l.once (acc.map Prod.fst)).Nodup) :
    l.collectEntries read es acc = .ok met ↔
      (l.once (acc.map Prod.fst ++ l.named es)).Nodup ∧ l.ReadsAll read es ∧
        met = acc.reverse ++ l.values read es := by
  induction es generalizing acc with
  | nil => simp [collectEntries, named, values, ReadsAll, hacc, eq_comm]
  | cons e es ih =>
    obtain ⟨k, n⟩ := e
    cases hk : l.classify k with
    | none =>
      simp only [collectEntries, hk, named, values, List.filterMap_cons, Option.bind_none]
      rw [ih hacc, readsAll_cons]
      simp [hk, named, values]
    | some f =>
      have hnamed : l.named ((k, n) :: es) = f :: l.named es := by simp [named, hk]
      have hvalues : l.values read ((k, n) :: es) =
          ((read f k n).toOption.map (f, ·)).toList ++ l.values read es := by
        cases hr : read f k n <;> simp [values, hk, hr, Except.toOption]
      simp only [collectEntries, hk, hnamed, hvalues, readsAll_cons]
      split
      · -- a field that may not repeat, met already: the visit fails, and the field is met twice
        rename_i hdup
        simp only [Bool.and_eq_true, Bool.not_eq_eq_eq_not, Bool.not_true, List.any_eq_true,
          beq_iff_eq] at hdup
        obtain ⟨hrep, x, hx, rfl⟩ := hdup
        simp only [reduceCtorEq, false_iff, not_and]
        intro hnd
        rw [once, List.filter_append, List.nodup_append] at hnd
        exact absurd (List.mem_filter.mpr ⟨List.mem_cons_self, by simp [hrep]⟩)
          (hnd.2.2 x.1 (List.mem_filter.mpr ⟨List.mem_map_of_mem hx, by simp [hrep]⟩) x.1 · rfl)
      · rename_i hfresh
        cases hread : read f k n with
        | error e =>
          simp only [reduceCtorEq, false_iff, not_and]
          intro _ hreads
          obtain ⟨v, hv⟩ := hreads.1 f rfl
          rw [hread] at hv
          cases hv
        | ok v =>
          simp only
          have hacc' : (l.once (((f, v) :: acc).map Prod.fst)).Nodup := by
            cases hrep : l.repeatable f
            · simp only [Bool.and_eq_true, Bool.not_eq_eq_eq_not, Bool.not_true,
                List.any_eq_true, beq_iff_eq, not_and, not_exists] at hfresh
              simp only [once, List.map_cons, List.filter_cons, hrep, Bool.not_false,
                ↓reduceIte, List.nodup_cons]
              refine ⟨fun hf => ?_, hacc⟩
              obtain ⟨x, hx, hxf⟩ := List.mem_map.mp (List.mem_filter.mp hf).1
              exact hfresh hrep x hx hxf
            · simpa [once, hrep] using hacc
          rw [ih hacc']
          -- the field joins the fields met, before the fields the later entries name
          have hperm : (((f, v) :: acc).map Prod.fst ++ l.named es).Perm
              (acc.map Prod.fst ++ f :: l.named es) := by
            simpa using List.perm_middle.symm
          have hnd : (l.once (((f, v) :: acc).map Prod.fst ++ l.named es)).Nodup ↔
              (l.once (acc.map Prod.fst ++ f :: l.named es)).Nodup := (hperm.filter _).nodup_iff
          rw [hnd]
          simp [Except.toOption, hread]

/-- The visit from no field met. -/
theorem collectEntries_nil_eq_ok_iff [BEq F] [LawfulBEq F] {es : List (String × Node)} {met : List (F × V)} :
    l.collectEntries read es [] = .ok met ↔
      (l.once (l.named es)).Nodup ∧ l.ReadsAll read es ∧ met = l.values read es := by
  simpa [once] using @collectEntries_eq_ok_iff F V l read _ _ es [] met List.nodup_nil

/-! ## Orders of the entries -/

section Perm

variable {es es' : List (String × Node)}

theorem named_perm (hp : es.Perm es') : (l.named es).Perm (l.named es') := hp.filterMap _

theorem values_perm (hp : es.Perm es') : (l.values read es).Perm (l.values read es') :=
  hp.filterMap _

theorem readsAll_perm (hp : es.Perm es') (h : l.ReadsAll read es) : l.ReadsAll read es' :=
  fun e he => h e (hp.symm.subset he)

/-- When every named value reads, the values name exactly the named fields. -/
theorem fields_values (h : l.ReadsAll read es) :
    (l.values read es).map Prod.fst = l.named es := by
  induction es with
  | nil => rfl
  | cons e es ih =>
    have hrest : l.ReadsAll read es := fun e' he' => h e' (List.mem_cons_of_mem _ he')
    cases hk : l.classify e.1 with
    | none =>
      have hv : l.values read (e :: es) = l.values read es := by simp [values, hk]
      have hn : l.named (e :: es) = l.named es := by simp [named, hk]
      rw [hv, hn, ih hrest]
    | some f =>
      obtain ⟨v, hr⟩ := h e List.mem_cons_self f hk
      have hv : l.values read (e :: es) = (f, v) :: l.values read es := by
        simp [values, hk, hr, Except.toOption]
      have hn : l.named (e :: es) = f :: l.named es := by simp [named, hk]
      rw [hv, hn, List.map_cons, ih hrest]

theorem exists_read_of_mem_values {x : F × V} (hx : x ∈ l.values read es) :
    ∃ k n, read x.1 k n = .ok x.2 := by
  obtain ⟨e, -, he⟩ := List.mem_filterMap.mp hx
  obtain ⟨f, -, hf⟩ := Option.bind_eq_some_iff.mp he
  obtain ⟨v, hv, rfl⟩ := Option.map_eq_some_iff.mp hf
  cases hr : read f e.1 e.2 with
  | error _ => simp [hr, Except.toOption] at hv
  | ok w =>
    simp only [hr, Except.toOption, Option.some.injEq] at hv
    exact ⟨e.1, e.2, hv ▸ hr⟩

end Perm

/-- A list of fields is free of repeats when those that may not repeat and those that may are
each free of repeats. -/
theorem nodup_of_once {fs : List F} (honce : (l.once fs).Nodup)
    (hrep : (fs.filter l.repeatable).Nodup) : fs.Nodup := by
  have hperm : (fs.filter l.repeatable ++ l.once fs).Perm fs := List.filter_append_perm _ _
  refine hperm.nodup_iff.mp (List.nodup_append.mpr ⟨hrep, honce, fun a ha b hb hab => ?_⟩)
  rw [hab] at ha
  simp [once, (List.mem_filter.mp ha).2] at hb

end Layout

/-! ## Looking fields up -/

/-- On fields met once, looking a field up does not depend on their order. -/
theorem find?_fst_eq_of_perm {F V : Type} [BEq F] [LawfulBEq F] {met met' : List (F × V)}
    (hp : met.Perm met') (hnd : (met.map Prod.fst).Nodup) (f : F) :
    met.find? (·.1 == f) = met'.find? (·.1 == f) := by
  have hnd' : (met'.map Prod.fst).Nodup := (hp.map _).nodup_iff.mp hnd
  -- on fields met once, the lookup finds exactly the entry of that field
  have key : ∀ {m : List (F × V)}, (m.map Prod.fst).Nodup → ∀ x,
      m.find? (·.1 == f) = some x ↔ x ∈ m ∧ x.1 = f := fun {m} hm x => by
    constructor
    · intro h
      exact ⟨List.mem_of_find?_eq_some h, by simpa using List.find?_some h⟩
    · rintro ⟨hx, rfl⟩
      obtain ⟨y, hy⟩ := Option.isSome_iff_exists.mp
        (List.find?_isSome.mpr ⟨x, hx, by simp⟩ : (m.find? (·.1 == x.1)).isSome)
      have hy₁ : y.1 = x.1 := by simpa using List.find?_some hy
      rw [hy, List.inj_on_of_nodup_map hm (List.mem_of_find?_eq_some hy) hx hy₁]
  apply Option.ext
  intro x
  rw [key hnd, key hnd', hp.mem_iff]

/-- The last value of fields met once, among values that a projection accepts from one field
only, does not depend on their order. -/
theorem lastValue_eq_of_perm {F V T : Type} {met met' : List (F × V)} {proj : V → Option T}
    (f : F) (hp : met.Perm met') (hnd : (met.map Prod.fst).Nodup)
    (hproj : ∀ x ∈ met, (proj x.2).isSome → x.1 = f) :
    lastValue met proj = lastValue met' proj := by
  unfold lastValue
  refine hp.foldl_eq' (fun x hx y hy z => ?_) none
  -- two distinct fields met: at most one of them gives an accepted value
  by_cases hxy : x = y
  · rw [hxy]
  · have hone : proj x.2 = none ∨ proj y.2 = none := by
      by_contra hboth
      simp only [not_or, ← ne_eq, Option.ne_none_iff_isSome] at hboth
      exact hxy (List.inj_on_of_nodup_map hnd hx hy
        ((hproj x hx hboth.1).trans (hproj y hy hboth.2).symm))
    rcases hone with h | h <;> simp [h]

/-! ## The key-order laws -/

/-- **The key-order laws** of a section read by `read` in the dialect `d`, whose layout is `l` and
whose values are read by `readField`: a field named by two entries, when the entries before the
second read without failure, is refused as a duplicate under its primary name, unless the layout
lets it repeat; and the section reads one and the same value from every order of its entries, so
long as no field that may repeat is named twice. -/
structure KeyOrderLaws {F V α : Type} [BEq F] (l : Layout F)
    (readField : Dialect → F → String → Node → Except DecodeError V)
    (read : Dialect → Node → Except DecodeError α) (d : Dialect) : Prop where
  duplicate : ∀ (o kf : Option String) (pre mid post : List (String × Node))
    (k₁ k₂ : String) (n₁ n₂ : Node) (f : F) (met : List (F × V)),
    l.classify k₁ = some f → l.classify k₂ = some f → l.repeatable f = false →
    l.collectEntries (readField d) (pre ++ (k₁, n₁) :: mid) [] = .ok met →
    read d (.map o (pre ++ (k₁, n₁) :: mid ++ (k₂, n₂) :: post) kf) =
      .error (.duplicateField (l.primary f))
  perm : ∀ (o kf : Option String) (es es' : List (String × Node)),
    es.Perm es' → ((l.named es).filter l.repeatable).Nodup →
    ∀ r, read d (.map o es kf) = .ok r ↔ read d (.map o es' kf) = .ok r

namespace Layout

variable {F V : Type} [BEq F] {l : Layout F} {read : F → String → Node → Except DecodeError V}

theorem collectEntries_append (xs ys : List (String × Node)) (acc : List (F × V)) :
    l.collectEntries read (xs ++ ys) acc =
      l.collectEntries read xs acc >>= fun met => l.collectEntries read ys met.reverse := by
  induction xs generalizing acc with
  | nil =>
    show l.collectEntries read ys acc = l.collectEntries read ys acc.reverse.reverse
    rw [List.reverse_reverse]
  | cons e xs ih =>
    obtain ⟨k, n⟩ := e
    simp only [List.cons_append, collectEntries]
    cases l.classify k with
    | none => exact ih acc
    | some f =>
      simp only
      split
      · rfl
      · cases read f k n with
        | error e => rfl
        | ok v => exact ih _

/-- Every field the entries name, and every field met before, is among the fields met after. -/
theorem fields_collectEntries {es : List (String × Node)} {acc met : List (F × V)}
    (h : l.collectEntries read es acc = .ok met) :
    (∀ x ∈ acc, x.1 ∈ met.map Prod.fst) ∧ ∀ f ∈ l.named es, f ∈ met.map Prod.fst := by
  induction es generalizing acc with
  | nil =>
    simp only [collectEntries, Except.ok.injEq] at h
    subst h
    exact ⟨fun x hx => List.mem_map_of_mem (List.mem_reverse.mpr hx), by simp [named]⟩
  | cons e es ih =>
    obtain ⟨k, n⟩ := e
    cases hk : l.classify k with
    | none =>
      simp only [collectEntries, hk] at h
      obtain ⟨hacc, hnamed⟩ := ih h
      exact ⟨hacc, fun f hf => hnamed f (by simpa [named, hk] using hf)⟩
    | some f =>
      simp only [collectEntries, hk] at h
      split at h
      · cases h
      · cases hr : read f k n with
        | error e => simp [hr] at h
        | ok v =>
          simp only [hr] at h
          obtain ⟨hacc, hnamed⟩ := ih h
          refine ⟨fun x hx => hacc x (List.mem_cons_of_mem _ hx), fun g hg => ?_⟩
          simp only [named, List.filterMap_cons, hk, List.mem_cons] at hg
          rcases hg with rfl | hg
          · exact hacc (g, v) List.mem_cons_self
          · exact hnamed g hg

/-- A section read from a map visits its entries, then the key that ends them, then builds
itself from the fields met. -/
theorem read_map_eq {α : Type} {rf : F → String → Node → Except DecodeError V} {expecting : String}
    (build : List (F × V) → Except DecodeError α) (o kf : Option String)
    (es : List (String × Node)) :
    ((Node.map o es kf).readMap expecting >>= fun m => l.collect rf m >>= build) =
      (l.collectEntries rf es [] >>= fun met =>
        (Members.mk es kf).finish >>= fun _ => build met) := by
  simp only [Node.readMap, collect, bind_assoc, pure_bind]
  rfl

end Layout

/-- A section read by visiting the entries of a map and building itself from the fields met obeys
the key-order laws, when what it builds depends only on the fields met, not on their order. -/
theorem keyOrderLaws_of_build {F V α : Type} [BEq F] [LawfulBEq F] {l : Layout F}
    {readField : Dialect → F → String → Node → Except DecodeError V} {expecting : String}
    {read : Dialect → Node → Except DecodeError α}
    (build : Dialect → List (F × V) → Except DecodeError α)
    (hread : ∀ d n, read d n =
      (n.readMap expecting >>= fun m => l.collect (readField d) m >>= build d))
    (hbuild : ∀ d (met met' : List (F × V)), met.Perm met' → (met.map Prod.fst).Nodup →
      (∀ x ∈ met, ∃ k n, readField d x.1 k n = .ok x.2) → build d met = build d met')
    (d : Dialect) : KeyOrderLaws l readField read d := by
  refine ⟨fun o kf pre mid post k₁ k₂ n₁ n₂ f met hk₁ hk₂ hrep hmet => ?_,
    fun o kf es es' hp hrep r => ?_⟩
  · -- the visit reaches the second name with the field already met, and stops there
    have hmem : f ∈ met.map Prod.fst :=
      (Layout.fields_collectEntries hmet).2 f (by simp [Layout.named, hk₁])
    obtain ⟨x, hx, rfl⟩ := List.mem_map.mp hmem
    have hvisit : l.collectEntries (readField d) (pre ++ (k₁, n₁) :: mid ++ (k₂, n₂) :: post) [] =
        .error (.duplicateField (l.primary x.1)) := by
      rw [Layout.collectEntries_append, hmet]
      simp only [bind, Except.bind, Layout.collectEntries, hk₂, hrep, Bool.not_false,
        Bool.true_and]
      rw [if_pos (List.any_eq_true.mpr ⟨x, List.mem_reverse.mpr hx, by simp⟩)]
    rw [hread, Layout.read_map_eq, hvisit]
    rfl
  · -- both orders succeed together, meet the same fields once each, and build alike
    have key : ∀ {xs ys : List (String × Node)}, xs.Perm ys →
        ((l.named xs).filter l.repeatable).Nodup →
        read d (.map o xs kf) = .ok r → read d (.map o ys kf) = .ok r := by
      intro xs ys hxy hrep' h
      rw [hread, Layout.read_map_eq] at h ⊢
      obtain ⟨met, hxs, hrest⟩ := except_bind_eq_ok.mp h
      obtain ⟨honce, hreads, rfl⟩ := Layout.collectEntries_nil_eq_ok_iff.mp hxs
      have hys : l.collectEntries (readField d) ys [] = .ok (l.values (readField d) ys) :=
        Layout.collectEntries_nil_eq_ok_iff.mpr
          ⟨((Layout.named_perm hxy).filter _).nodup_iff.mp honce,
            Layout.readsAll_perm hxy hreads, rfl⟩
      have hnd : ((l.values (readField d) xs).map Prod.fst).Nodup := by
        rw [Layout.fields_values hreads]
        exact Layout.nodup_of_once honce hrep'
      have hsame : build d (l.values (readField d) xs) = build d (l.values (readField d) ys) :=
        hbuild d _ _ (Layout.values_perm hxy) hnd fun x hx => Layout.exists_read_of_mem_values hx
      rw [hys]
      refine except_bind_eq_ok.mpr ⟨_, rfl, ?_⟩
      rw [← hsame]
      exact hrest
    exact ⟨key hp hrep, key hp.symm (((Layout.named_perm hp).filter _).nodup_iff.mp hrep)⟩

end RingIdentity

namespace RingIdentity

/-! ## Every section -/

/-- The field a retry policy value is read for. -/
def RetryPolicy.Value.field : RetryPolicy.Value → RetryPolicy.Field
  | .attempts _ => .attempts
  | .delay _ => .delay

theorem RetryPolicy.field_of_readField {d : Dialect} {f : Field} {k : String} {n : Node}
    {v : Value} (h : readField d f k n = .ok v) : v.field = f := by
  cases f with
  | attempts =>
    simp only [readField, Functor.map, Except.map] at h
    split at h <;> cases h
    rfl
  | delay =>
    simp only [readField, bind, Except.bind] at h
    split at h
    · cases h
    · split at h <;> cases h
      rfl

theorem RetryPolicy.keyOrderLaws (d : Dialect) : KeyOrderLaws layout readField read d :=
  keyOrderLaws_of_build _ (fun _ _ => rfl) (fun _ met met' hp hnd hread => by
    have hfield : ∀ x ∈ met, x.2.field = x.1 := fun x hx => by
      obtain ⟨k, n, h⟩ := hread x hx
      exact field_of_readField h
    dsimp only
    -- each field is looked up as the last value of its own kind
    congr 3
    · refine lastValue_eq_of_perm .attempts hp hnd fun x hx hsome => ?_
      rw [← hfield x hx]
      revert hsome
      cases x.2 <;> simp [Value.field]
    · refine lastValue_eq_of_perm .delay hp hnd fun x hx hsome => ?_
      rw [← hfield x hx]
      revert hsome
      cases x.2 <;> simp [Value.field]) d

theorem IdentitySettings.keyOrderLaws (d : Dialect) : KeyOrderLaws layout readField read d :=
  keyOrderLaws_of_build _ (fun _ _ => rfl) (fun _ _ _ hp hnd _ => by
    simp only [flagOf, find?_fst_eq_of_perm hp hnd]) d

theorem MembershipSettings.keyOrderLaws (d : Dialect) : KeyOrderLaws layout readField read d :=
  keyOrderLaws_of_build _ (fun _ _ => rfl) (fun _ _ _ hp hnd _ => by
    simp only [listingOf, find?_fst_eq_of_perm hp hnd]) d

theorem LogSettings.keyOrderLaws (d : Dialect) : KeyOrderLaws layout readField read d :=
  keyOrderLaws_of_build _ (fun _ _ => rfl) (fun _ _ _ hp hnd _ => by
    simp only [flagOf, find?_fst_eq_of_perm hp hnd]) d

theorem Credentials.keyOrderLaws (d : Dialect) :
    KeyOrderLaws layout (fun d _ key v => d.under (.key key) (v.readString d)) read d :=
  keyOrderLaws_of_build _ (fun _ _ => rfl) (fun _ _ _ hp hnd _ => by
    simp only [find?_fst_eq_of_perm hp hnd]) d

theorem InstanceInfo.keyOrderLaws (d : Dialect) : KeyOrderLaws layout readField read d :=
  keyOrderLaws_of_build _ (fun _ _ => rfl) (fun _ _ _ hp hnd _ => by
    simp only [required, textOf, find?_fst_eq_of_perm hp hnd]) d

theorem AppSettings.keyOrderLaws (d : Dialect) : KeyOrderLaws layout readField read d :=
  keyOrderLaws_of_build _ (fun _ _ => rfl) (fun _ _ _ hp hnd _ => by
    simp only [credentialsOf, find?_fst_eq_of_perm hp hnd]) d

/-- **Sections obey the key-order laws.**  In every dialect, every configuration section refuses a
field named twice as a duplicate under its primary name, whatever names the two keys used, and
reads the same from every order of its entries; the one field that may be named twice is the retry
policy's delay. -/
theorem sections_obey_key_order_laws (d : Dialect) :
    KeyOrderLaws RetryPolicy.layout RetryPolicy.readField RetryPolicy.read d ∧
    KeyOrderLaws IdentitySettings.layout IdentitySettings.readField IdentitySettings.read d ∧
    KeyOrderLaws MembershipSettings.layout MembershipSettings.readField MembershipSettings.read d ∧
    KeyOrderLaws LogSettings.layout LogSettings.readField LogSettings.read d ∧
    KeyOrderLaws Credentials.layout (fun d _ key v => d.under (.key key) (v.readString d))
      Credentials.read d ∧
    KeyOrderLaws InstanceInfo.layout InstanceInfo.readField InstanceInfo.read d ∧
    KeyOrderLaws AppSettings.layout AppSettings.readField AppSettings.read d ∧
    (∀ f, RetryPolicy.layout.repeatable f = true ↔ f = .delay) ∧
    (∀ f, IdentitySettings.layout.repeatable f = false) ∧
    (∀ f, MembershipSettings.layout.repeatable f = false) ∧
    (∀ f, LogSettings.layout.repeatable f = false) ∧
    (∀ f, Credentials.layout.repeatable f = false) ∧
    (∀ f, InstanceInfo.layout.repeatable f = false) ∧
    (∀ f, AppSettings.layout.repeatable f = false) := by
  refine ⟨RetryPolicy.keyOrderLaws d, IdentitySettings.keyOrderLaws d,
    MembershipSettings.keyOrderLaws d, LogSettings.keyOrderLaws d, Credentials.keyOrderLaws d,
    InstanceInfo.keyOrderLaws d, AppSettings.keyOrderLaws d, fun f => ?_, fun _ => rfl,
    fun _ => rfl, fun _ => rfl, fun _ => rfl, fun _ => rfl, fun _ => rfl⟩
  cases f <;> simp [RetryPolicy.layout]

/-- A retry policy that names its delay twice, by two of its names, reads, and takes the later
delay: the order of the two keys decides the policy. -/
theorem retry_delay_repeated_last_wins :
    RetryPolicy.read .json
        (.map none [("delay", .leaf none (.str "1s")), ("interval", .leaf none (.str "2s"))] none) =
      .ok (RetryPolicy.make 100 ⟨2, 0⟩) ∧
    RetryPolicy.read .json
        (.map none [("interval", .leaf none (.str "2s")), ("delay", .leaf none (.str "1s"))] none) =
      .ok (RetryPolicy.make 100 ⟨1, 0⟩) := by
  constructor <;> rfl

end RingIdentity
