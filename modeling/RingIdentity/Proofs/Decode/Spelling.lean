import RingIdentity.Proofs.Decode.KeyOrder
import RingIdentity.App.Assemble
/-! # Sections read keys by their slug

A key of a configuration section names the first declared field one of whose names, primary or
alias, is the same slug, and nothing when none is (`Layout.classify_eq_some_iff`,
`Layout.classify_eq_none_iff`).  So the spelling of a key matters only through its slug: two
entry lists whose keys are, key by key, the same slug (`Respelled`) name the same fields, and the
visit of their entries meets the same duplicates under the same primary names.

What a value's reading reports may still name the key.  A JSON document reports no key, and there
a section reads to one and the same outcome from both lists, down to the text of every error.
Layered settings place an error raised inside a value under the key as written, so that the two
outcomes are the same value, or the same error but for the spelling of that key (`Alike`,
`DecodeError.Respelled`).  One lemma carries this through the visit of the entries
(`Layout.collectEntries_alike`) and one through a section built from the fields met
(`spellingLaws_of_build`); every section obeys the spelling laws from there.

The names of levels, log flavors, network modes and membership kinds are looked up by slug too,
and depend on a name only through its slug; a refusal quotes the name as written.

Main statement: `sections_read_keys_by_slug`; the settings that name a key as written:
`settings_error_names_key_as_written`.
-/
namespace RingIdentity

/-! ## Slugs -/

namespace Slug

/-- Comparing as slugs depends on a text only through its slug. -/
theorem same_congr {s s' : String} (h : normalize s = normalize s') : same s = same s' := by
  funext n
  apply Bool.eq_iff_iff.mpr
  rw [same_iff, same_iff, h]

theorem same_eq (s : String) : same s = fun n => normalize n == normalize s := by
  funext n
  apply Bool.eq_iff_iff.mpr
  rw [same_iff, beq_iff_eq, eq_comm]

end Slug

/-! ## Which field a key names -/

namespace Layout

variable {F : Type} (l : Layout F)

theorem classify_eq (key : String) :
    l.classify key = l.fields.find? fun f =>
      (l.names f).any fun n => Slug.normalize n == Slug.normalize key := by
  simp only [classify, Slug.same_eq]

/-- A key names the first declared field one of whose names has the key's slug. -/
theorem classify_eq_some_iff (key : String) (f : F) :
    l.classify key = some f ↔ ∃ pre post, l.fields = pre ++ f :: post ∧
      (∃ n ∈ l.names f, Slug.normalize n = Slug.normalize key) ∧
      ∀ g ∈ pre, ∀ n ∈ l.names g, Slug.normalize n ≠ Slug.normalize key := by
  rw [classify_eq, List.find?_eq_some_iff_append]
  simp only [List.any_eq_true, beq_iff_eq, Bool.not_eq_true', List.any_eq_false]
  constructor
  · rintro ⟨hf, pre, post, hfields, hpre⟩
    exact ⟨pre, post, hfields, hf, fun g hg n hn heq => hpre g hg n hn heq⟩
  · rintro ⟨pre, post, hfields, hf, hpre⟩
    exact ⟨hf, pre, post, hfields, fun g hg n hn heq => hpre g hg n hn heq⟩

/-- A key names nothing, and is ignored, when no name of any field has its slug. -/
theorem classify_eq_none_iff (key : String) :
    l.classify key = none ↔
      ∀ f ∈ l.fields, ∀ n ∈ l.names f, Slug.normalize n ≠ Slug.normalize key := by
  rw [classify_eq, List.find?_eq_none]
  simp only [List.any_eq_true, beq_iff_eq, not_exists, not_and]

theorem classify_congr {k k' : String} (h : Slug.normalize k = Slug.normalize k') :
    l.classify k = l.classify k' := by
  rw [classify_eq, classify_eq, h]

end Layout

/-! ## Outcomes alike but for the spelling of a key -/

/-- Two entry lists whose keys are spelled differently: key by key the same slug, with the same
values. -/
def Respelled (es es' : List (String × Node)) : Prop :=
  List.Forall₂ (fun e e' => Slug.normalize e.1 = Slug.normalize e'.1 ∧ e.2 = e'.2) es es'

/-- Two errors alike but for the spelling of the key the error is placed under. -/
inductive DecodeError.Respelled : DecodeError → DecodeError → Prop
  | refl (e : DecodeError) : Respelled e e
  | within {k k' : String} (e : DecodeError) :
      Slug.normalize k = Slug.normalize k' → Respelled (.within (.key k) e) (.within (.key k') e)

/-- How alike two readings of one value are, by dialect: equal errors from a JSON document, and
from layered settings errors alike but for the spelling of the key they are placed under. -/
def Dialect.ErrorsAlike : Dialect → DecodeError → DecodeError → Prop
  | .json => Eq
  | .settings => DecodeError.Respelled

/-- Two outcomes alike: the same value, or errors related by `R`. -/
inductive Alike (R : DecodeError → DecodeError → Prop) {α : Type} :
    Except DecodeError α → Except DecodeError α → Prop
  | ok (a : α) : Alike R (.ok a) (.ok a)
  | error {e e' : DecodeError} : R e e' → Alike R (.error e) (.error e')

namespace Alike

variable {R : DecodeError → DecodeError → Prop} {α β : Type}

theorem refl (hR : ∀ e, R e e) : ∀ x : Except DecodeError α, Alike R x x
  | .ok a => .ok a
  | .error e => .error (hR e)

theorem bind {x y : Except DecodeError α} (h : Alike R x y) (hR : ∀ e, R e e)
    (f : α → Except DecodeError β) : Alike R (x >>= f) (y >>= f) := by
  cases h with
  | ok a => exact refl hR (f a)
  | error he => exact .error he

theorem map {x y : Except DecodeError α} (h : Alike R x y) (f : α → β) :
    Alike R (f <$> x) (f <$> y) := by
  cases h with
  | ok a => exact .ok (f a)
  | error he => exact .error he

theorem eq {x y : Except DecodeError α} (h : Alike Eq x y) : x = y := by
  cases h with
  | ok => rfl
  | error he => rw [he]

end Alike

theorem Dialect.alike_refl : ∀ (d : Dialect) (e : DecodeError), d.ErrorsAlike e e
  | .json, _ => rfl
  | .settings, e => .refl e

/-- A value read under two keys of one slug: the same outcome, but that an error from layered
settings is placed under the key as written. -/
theorem Dialect.under_alike (d : Dialect) {k k' : String} (h : Slug.normalize k = Slug.normalize k')
    {α : Type} (r : Except DecodeError α) :
    Alike d.ErrorsAlike (d.under (.key k) r) (d.under (.key k') r) := by
  cases d with
  | json => exact Alike.refl (fun _ => rfl) r
  | settings =>
    cases r with
    | ok a => exact .ok a
    | error e => exact .error (.within e h)

/-! ## The visit of the entries -/

namespace Layout

variable {F V : Type} [BEq F] {l : Layout F} {read : F → String → Node → Except DecodeError V}

/-- **Visit of respelled entries.**  When every value reads alike under two keys of one slug, the
visits of two respelled entry lists are alike. -/
theorem collectEntries_alike {R : DecodeError → DecodeError → Prop} (hR : ∀ e, R e e)
    (hread : ∀ f k k' n, Slug.normalize k = Slug.normalize k' → Alike R (read f k n) (read f k' n))
    {es es' : List (String × Node)} (h : Respelled es es') (acc : List (F × V)) :
    Alike R (l.collectEntries read es acc) (l.collectEntries read es' acc) := by
  induction h generalizing acc with
  | nil => exact .ok _
  | @cons e e' es es' he _ ih =>
    obtain ⟨k, n⟩ := e
    obtain ⟨k', n'⟩ := e'
    obtain ⟨hk, hn⟩ := he
    dsimp only at hk hn
    subst hn
    -- both keys name the same field, so the duplicate check decides alike
    simp only [collectEntries, l.classify_congr hk]
    cases l.classify k' with
    | none => exact ih acc
    | some f =>
      dsimp only
      split
      · exact .error (hR _)
      · have hr := hread f k k' n hk
        generalize read f k n = r at hr ⊢
        generalize read f k' n = r' at hr ⊢
        cases hr with
        | ok v => exact ih _
        | error he => exact .error he

end Layout

/-! ## Sections -/

/-- **The spelling laws** of a section read by `read`, with layout `l` and values read by
`readField`: a value reads alike under two keys of one slug, and two maps whose entry lists are
respelled read to one and the same outcome from a JSON document, and from layered settings to the
same value or to errors alike but for the spelling of the key they are placed under. -/
structure SpellingLaws {F V α : Type}
    (readField : Dialect → F → String → Node → Except DecodeError V)
    (read : Dialect → Node → Except DecodeError α) : Prop where
  field : ∀ d f k k' n, Slug.normalize k = Slug.normalize k' →
    Alike d.ErrorsAlike (readField d f k n) (readField d f k' n)
  json : ∀ (o kf : Option String) (es es' : List (String × Node)), Respelled es es' →
    read .json (.map o es kf) = read .json (.map o es' kf)
  settings : ∀ (o kf : Option String) (es es' : List (String × Node)), Respelled es es' →
    Alike DecodeError.Respelled (read .settings (.map o es kf)) (read .settings (.map o es' kf))

/-- A section that visits the entries of a map and builds itself from the fields met obeys the
spelling laws when its values read alike under two keys of one slug. -/
theorem spellingLaws_of_build {F V α : Type} [BEq F] {l : Layout F}
    {readField : Dialect → F → String → Node → Except DecodeError V} {expecting : String}
    {read : Dialect → Node → Except DecodeError α}
    (build : Dialect → List (F × V) → Except DecodeError α)
    (hread : ∀ d n, read d n =
      (n.readMap expecting >>= fun m => l.collect (readField d) m >>= build d))
    (hfield : ∀ d f k k' n, Slug.normalize k = Slug.normalize k' →
      Alike d.ErrorsAlike (readField d f k n) (readField d f k' n)) :
    SpellingLaws readField read := by
  -- the fields met are alike, and the rest of the reading does not look at the keys
  have hmap : ∀ d o kf (es es' : List (String × Node)), Respelled es es' →
      Alike d.ErrorsAlike (read d (.map o es kf)) (read d (.map o es' kf)) := by
    intro d o kf es es' h
    rw [hread, hread, Layout.read_map_eq, Layout.read_map_eq]
    exact (Layout.collectEntries_alike d.alike_refl (hfield d) h []).bind d.alike_refl _
  exact ⟨hfield, fun o kf es es' h => (hmap .json o kf es es' h).eq, hmap .settings⟩

namespace RetryPolicy

theorem readField_alike (d : Dialect) (f : Field) {k k' : String} (n : Node)
    (h : Slug.normalize k = Slug.normalize k') :
    Alike d.ErrorsAlike (readField d f k n) (readField d f k' n) := by
  cases f with
  | attempts => exact (d.under_alike h _).map _
  | delay => exact (d.under_alike h _).bind d.alike_refl _

theorem spellingLaws : SpellingLaws readField read :=
  spellingLaws_of_build _ (fun _ _ => rfl) fun d f _ _ n h => readField_alike d f n h

end RetryPolicy

theorem IdentitySettings.spellingLaws : SpellingLaws readField read :=
  spellingLaws_of_build _ (fun _ _ => rfl) fun d f _ _ _ h => by
    cases f <;> exact (d.under_alike h _).map _

theorem MembershipSettings.spellingLaws : SpellingLaws readField read :=
  spellingLaws_of_build _ (fun _ _ => rfl) fun d f _ _ _ h => by
    cases f <;> exact (d.under_alike h _).map _

theorem LogSettings.spellingLaws : SpellingLaws readField read :=
  spellingLaws_of_build _ (fun _ _ => rfl) fun d f _ _ _ h => by
    cases f <;> exact (d.under_alike h _).map _

theorem Credentials.spellingLaws :
    SpellingLaws (fun d (_ : Field) key v => d.under (.key key) (v.readString d)) read :=
  spellingLaws_of_build _ (fun _ _ => rfl) fun d _ _ _ _ h => d.under_alike h _

theorem InstanceInfo.spellingLaws : SpellingLaws readField read :=
  spellingLaws_of_build _ (fun _ _ => rfl) fun d f _ _ _ h => by
    cases f <;> exact (d.under_alike h _).map _

theorem AppSettings.spellingLaws : SpellingLaws readField read :=
  spellingLaws_of_build _ (fun _ _ => rfl) fun d f _ _ _ h => by
    cases f <;> exact (d.under_alike h _).map _

/-! ## Names of values -/

theorem Verbosity.ofName?_congr {s s' : String} (h : Slug.normalize s = Slug.normalize s') :
    Verbosity.ofName? s = Verbosity.ofName? s' := by
  simp only [ofName?, Slug.same_congr h]

theorem Flavor.ofName?_congr {s s' : String} (h : Slug.normalize s = Slug.normalize s') :
    Flavor.ofName? s = Flavor.ofName? s' := by
  simp only [ofName?, Slug.same_congr h]

theorem NetworkMode.ofName?_congr {s s' : String} (h : Slug.normalize s = Slug.normalize s') :
    NetworkMode.ofName? s = NetworkMode.ofName? s' := by
  simp only [ofName?, Slug.same_congr h]

theorem MembershipKind.ofName?_congr {s s' : String} (h : Slug.normalize s = Slug.normalize s') :
    MembershipKind.ofName? s = MembershipKind.ofName? s' := by
  simp only [ofName?, Slug.same_congr h]

theorem NetworkMode.read_str (d : Dialect) (o : Option String) (s : String) :
    NetworkMode.read d (.leaf o (.str s)) = match ofName? s with
      | some m => .ok m
      | none => .error (.refused ("unknown network mode `" ++ s ++ "`")) := by
  cases d <;> rfl

theorem MembershipKind.read_str (d : Dialect) (o : Option String) (s : String) :
    MembershipKind.read d (.leaf o (.str s)) = match ofName? s with
      | some k => .ok k
      | none => .error (.refused ("unknown membership kind `" ++ s ++ "`")) := by
  cases d <;> rfl

/-- A network mode read from a name: the mode its slug stands for, or a refusal quoting the
name as written. -/
theorem NetworkMode.read_str_congr (d : Dialect) (o o' : Option String) {s s' : String}
    (h : Slug.normalize s = Slug.normalize s') :
    (NetworkMode.read d (.leaf o (.str s))).toOption =
      (NetworkMode.read d (.leaf o' (.str s'))).toOption := by
  rw [read_str, read_str, ofName?_congr h]
  cases ofName? s' <;> rfl

theorem MembershipKind.read_str_congr (d : Dialect) (o o' : Option String) {s s' : String}
    (h : Slug.normalize s = Slug.normalize s') :
    (MembershipKind.read d (.leaf o (.str s))).toOption =
      (MembershipKind.read d (.leaf o' (.str s'))).toOption := by
  rw [read_str, read_str, ofName?_congr h]
  cases ofName? s' <;> rfl

/-- **Sections read keys by their slug.**  A key names the first declared field one of whose
names has the key's slug, and nothing when none has.  Every section obeys the spelling laws: two
maps whose keys are respelled read to one outcome from a JSON document, errors included, and from
layered settings to the same value or errors alike but for the spelling of the key an error is
placed under.  Levels, log flavors, network modes and membership kinds are found by slug, and a
name that is none of them is refused quoting the name as written. -/
theorem sections_read_keys_by_slug {F : Type} (l : Layout F) (key : String) :
    (∀ f, l.classify key = some f ↔ ∃ pre post, l.fields = pre ++ f :: post ∧
      (∃ n ∈ l.names f, Slug.normalize n = Slug.normalize key) ∧
      ∀ g ∈ pre, ∀ n ∈ l.names g, Slug.normalize n ≠ Slug.normalize key) ∧
    (l.classify key = none ↔
      ∀ f ∈ l.fields, ∀ n ∈ l.names f, Slug.normalize n ≠ Slug.normalize key) ∧
    SpellingLaws RetryPolicy.readField RetryPolicy.read ∧
    SpellingLaws IdentitySettings.readField IdentitySettings.read ∧
    SpellingLaws MembershipSettings.readField MembershipSettings.read ∧
    SpellingLaws LogSettings.readField LogSettings.read ∧
    SpellingLaws (fun d (_ : Credentials.Field) key v => d.under (.key key) (v.readString d))
      Credentials.read ∧
    SpellingLaws InstanceInfo.readField InstanceInfo.read ∧
    SpellingLaws AppSettings.readField AppSettings.read ∧
    (∀ s s', Slug.normalize s = Slug.normalize s' → Verbosity.ofName? s = Verbosity.ofName? s') ∧
    (∀ s s', Slug.normalize s = Slug.normalize s' → Flavor.ofName? s = Flavor.ofName? s') ∧
    (∀ d o o' s s', Slug.normalize s = Slug.normalize s' →
      (NetworkMode.read d (.leaf o (.str s))).toOption =
        (NetworkMode.read d (.leaf o' (.str s'))).toOption) ∧
    (∀ d o o' s s', Slug.normalize s = Slug.normalize s' →
      (MembershipKind.read d (.leaf o (.str s))).toOption =
        (MembershipKind.read d (.leaf o' (.str s'))).toOption) ∧
    (∀ d o s, NetworkMode.ofName? s = none →
      NetworkMode.read d (.leaf o (.str s)) =
        .error (.refused ("unknown network mode `" ++ s ++ "`"))) ∧
    (∀ d o s, MembershipKind.ofName? s = none →
      MembershipKind.read d (.leaf o (.str s)) =
        .error (.refused ("unknown membership kind `" ++ s ++ "`"))) := by
  refine ⟨l.classify_eq_some_iff key, l.classify_eq_none_iff key,
    RetryPolicy.spellingLaws, IdentitySettings.spellingLaws, MembershipSettings.spellingLaws,
    LogSettings.spellingLaws, Credentials.spellingLaws, InstanceInfo.spellingLaws,
    AppSettings.spellingLaws, fun _ _ h => Verbosity.ofName?_congr h,
    fun _ _ h => Flavor.ofName?_congr h,
    fun d o o' _ _ h => NetworkMode.read_str_congr d o o' h,
    fun d o o' _ _ h => MembershipKind.read_str_congr d o o' h, ?_, ?_⟩
  · intro d o s hs
    rw [NetworkMode.read_str, hs]
  · intro d o s hs
    rw [MembershipKind.read_str, hs]

/-- A shouted key and its camel-case spelling are respelled, and a JSON document reads alike
under either. -/
theorem sections_read_keys_by_slug_of_shouted_key :
    Respelled [("ACL_GROUP_NAME", Node.leaf none (.str "sg"))]
        [("aclGroupName", Node.leaf none (.str "sg"))] ∧
      MembershipSettings.read .json
          (.map none [("ACL_GROUP_NAME", Node.leaf none (.str "sg"))] none) =
        MembershipSettings.read .json
          (.map none [("aclGroupName", Node.leaf none (.str "sg"))] none) := by
  have hr : Respelled [("ACL_GROUP_NAME", Node.leaf none (.str "sg"))]
      [("aclGroupName", Node.leaf none (.str "sg"))] :=
    List.Forall₂.cons ⟨by decide, rfl⟩ List.Forall₂.nil
  exact ⟨hr, (sections_read_keys_by_slug MembershipSettings.layout "ACL_GROUP_NAME").2.2.2.2.1.json
    none none _ _ hr⟩

/-- Layered settings name a key as written: a membership kind that does not read is reported
under the spelling of its key, so that two spellings of one slug fail with different texts. -/
theorem settings_error_names_key_as_written :
    let gossip : Node := .leaf none (.str "gossip")
    Slug.normalize "KIND" = Slug.normalize "kind" ∧
      (AppSettings.ofLayered (({} : Layered).set [.key "membership", .key "KIND"] gossip)).mapError
          AppConfigError.message =
        .error ("failed to parse the application configuration: " ++
          "unknown membership kind `gossip` for key `membership.KIND`") ∧
      (AppSettings.ofLayered (({} : Layered).set [.key "membership", .key "kind"] gossip)).mapError
          AppConfigError.message =
        .error ("failed to parse the application configuration: " ++
          "unknown membership kind `gossip` for key `membership.kind`") := by
  refine ⟨by decide, ?_, ?_⟩ <;> rfl

end RingIdentity
