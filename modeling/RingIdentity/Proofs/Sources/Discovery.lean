import Mathlib
import RingIdentity.Sources.Disk
import RingIdentity.Proofs.Repeats
import RingIdentity.Proofs.Text.Csv
/-! # Finding configuration files

Configuration files are found in a directory and in its immediate subdirectories, recognized by
name, kept when they apply to the running profile, and sorted for precedence.  This module says
what each of those steps does, for every directory and every profile.

* Recognition (`recognize_eq_some_iff`): a file name is cut at its dots into a stem, an optional
  middle chunk and an extension; the stem is not empty and the extension names TOML or YAML in any
  ASCII case; a file in a profile's directory is refused when its middle chunk names another
  profile; and the file's profile is the directory's, else the middle chunk, in lower case.
* Discovery (`mem_configFiles`): the files found are those recognized among the entries of the
  directory that are no directories, without a directory profile, and among the files directly
  inside each subdirectory, with its name as the profile.
* Once (`nodup_configFiles_paths`): no two files found share a path, so none is found twice.  The
  entries of a directory are names, free of repeats and of the separator, and the path of a file
  found tells the names that lead to it (`PathName.join_intercalate_inj`), hence the entry it was
  found at and how it was recognized (`eq_of_path_eq`).
* Precedence (`pairwise_configFiles`): the order of files is a total preorder
  (`ConfigFile.transCmp`), built lexicographically from three: files for every profile first,
  then by profile, then by path, each part by part.  The sort leaves the files ordered by it, so
  the files of every profile come before the profile's own (`generic_first`), and each group is
  in path order (`path_order`): every file of the profile carries its name (`profile_named`).
-/
namespace RingIdentity

/-! ## Orders of parts, paths and files -/

theorem Text.lowerAscii_lowerAscii (s : String) :
    Text.lowerAscii (Text.lowerAscii s) = Text.lowerAscii s := by
  simp [Text.lowerAscii, List.map_map, Function.comp_def]

namespace PathPart

/-- The name a part carries, if it is a name. -/
def name? : PathPart → Option String
  | .name n => some n
  | _ => none

/-- Parts compare by kind, then by name. -/
theorem compare_eq_lex : PathPart.compare = compareLex (compareOn rank) (compareOn name?) := by
  funext a b
  cases a <;> cases b <;> rfl

instance transCmp : Std.TransCmp PathPart.compare :=
  compare_eq_lex ▸ inferInstance

end PathPart

/-- A comparison read through a map keeps its laws. -/
theorem transCmp_comap {α β : Type} (cmp : β → β → Ordering) [Std.TransCmp cmp] (f : α → β) :
    Std.TransCmp fun a b => cmp (f a) (f b) where
  eq_swap := Std.OrientedCmp.eq_swap
  isLE_trans := Std.TransCmp.isLE_trans

namespace PathName

theorem compareParts_eq_compareLex : compareParts = List.compareLex PathPart.compare := by
  funext as bs
  induction as generalizing bs with
  | nil => cases bs <;> rfl
  | cons a as ih =>
    cases bs with
    | nil => rfl
    | cons b bs =>
      rw [compareParts, List.compareLex_cons_cons, ← ih]
      cases a.compare b <;> rfl

instance transCmp : Std.TransCmp PathName.compare := by
  have h : PathName.compare = fun a b => List.compareLex PathPart.compare (parts a) (parts b) := by
    funext a b
    rw [PathName.compare, compareParts_eq_compareLex]
  rw [h]
  exact transCmp_comap _ parts

end PathName

namespace ConfigFile

theorem compareProfiles_eq :
    compareProfiles = (Ord.compare : Option String → Option String → Ordering) := by
  funext a b
  cases a <;> cases b <;> rfl

/-- Files compare by being for every profile (those first), then by profile, then by path. -/
theorem compare_eq_lex :
    ConfigFile.compare = compareLex (fun a b => compareOn isGeneric b a)
      (compareLex (compareOn profile) fun a b => PathName.compare a.path b.path) := by
  funext a b
  rw [ConfigFile.compare, compareProfiles_eq]
  rfl

instance transCmp : Std.TransCmp ConfigFile.compare := by
  rw [compare_eq_lex]
  have : Std.TransCmp fun (a b : ConfigFile) => PathName.compare a.path b.path :=
    transCmp_comap _ path
  infer_instance

/-- Sorted files are ordered by precedence, later ones overriding earlier ones. -/
theorem pairwise_sort (fs : List ConfigFile) :
    (sort fs).Pairwise fun a b => (compare a b).isLE := by
  have hle : ∀ a b, (compare a b != .gt) = (compare a b).isLE := fun a b => by
    cases compare a b <;> rfl
  have hsorted := @List.pairwise_mergeSort _ (fun a b => compare a b != .gt)
    (fun a b c hab hbc => by
      rw [hle] at hab hbc ⊢
      exact Std.TransCmp.isLE_trans hab hbc)
    (fun a b => by
      -- of two files, one is at most the other: the comparison the other way is its swap
      rw [hle, hle, @Std.OrientedCmp.eq_swap ConfigFile ConfigFile.compare _ b a]
      cases compare a b <;> rfl)
    fs
  exact hsorted.imp fun {a b} h => hle a b ▸ h

theorem mem_sort {f : ConfigFile} {fs : List ConfigFile} : f ∈ sort fs ↔ f ∈ fs :=
  List.mem_mergeSort

end ConfigFile

namespace ConfigFormat

theorem ofExtension?_eq_some_iff {ext : String} {fmt : ConfigFormat} :
    ofExtension? ext = some fmt ↔
      (fmt = .toml ∧ Text.sameAsciiCase ext "toml" = true) ∨
        (fmt = .yaml ∧
          (Text.sameAsciiCase ext "yaml" = true ∨ Text.sameAsciiCase ext "yml" = true)) := by
  have htoml : Text.lowerAscii "toml" = "toml" := by decide
  have hyaml : Text.lowerAscii "yaml" = "yaml" := by decide
  have hyml : Text.lowerAscii "yml" = "yml" := by decide
  unfold ofExtension?
  simp only [Text.sameAsciiCase, beq_iff_eq, htoml, hyaml, hyml]
  split_ifs with h1 h2 <;> cases fmt <;> simp_all

end ConfigFormat

namespace ConfigFile

/-! ## Recognizing a file by its name -/

theorem nameShape?_eq_some_iff {name : String} {middle : Option String} {ext : String} :
    nameShape? name = some (middle, ext) ↔
      ∃ stem, name.splitOn "." = stem :: middle.toList ++ [ext] ∧ stem ≠ "" := by
  unfold nameShape?
  -- two chunks or three; any other number is no shape
  match name.splitOn "." with
  | [] => simp
  | [a] => cases middle <;> simp
  | [a, b] => cases middle <;> simp [String.isEmpty_iff, and_comm]
  | [a, b, c] => cases middle <;> simp [String.isEmpty_iff, and_comm]
  | a :: b :: c :: d :: l => cases middle <;> simp

/-- A file is recognized by its name: a stem that is not empty, an optional middle chunk and an
extension naming TOML or YAML in any ASCII case, cut at the dots; in a profile's directory the
middle chunk must name that profile.  The file is for the directory's profile, else the one its
name carries, in lower case. -/
theorem recognize_eq_some_iff {path : String} {dirProfile : Option String} {f : ConfigFile} :
    recognize path dirProfile = some f ↔
      ∃ name stem ext, ∃ middle : Option String,
        PathName.fileName? path = some name ∧
        name.splitOn "." = stem :: middle.toList ++ [ext] ∧ stem ≠ "" ∧
        ((f.format = .toml ∧ Text.sameAsciiCase ext "toml" = true) ∨
          (f.format = .yaml ∧
            (Text.sameAsciiCase ext "yaml" = true ∨ Text.sameAsciiCase ext "yml" = true))) ∧
        (∀ dir n, dirProfile = some dir → middle = some n → Text.sameAsciiCase dir n = true) ∧
        f.profile = (dirProfile.or middle).map Text.lowerAscii ∧
        f.path = path := by
  constructor
  · intro h
    simp only [recognize, Option.bind_eq_bind, Option.bind_eq_some_iff, Prod.exists] at h
    obtain ⟨name, hname, middle, ext, hshape, format, hformat, hf⟩ := h
    obtain ⟨stem, hsplit, hstem⟩ := nameShape?_eq_some_iff.mp hshape
    -- the profile: refused when the directory and the name disagree, else the first of them
    have hchoice : (∀ dir n, dirProfile = some dir → middle = some n →
        Text.sameAsciiCase dir n = true) ∧
        f = { path, format, profile := (dirProfile.or middle).map Text.lowerAscii } := by
      cases dirProfile <;> cases middle <;> simp_all
    obtain ⟨hdir, rfl⟩ := hchoice
    exact ⟨name, stem, ext, middle, hname, hsplit, hstem,
      ConfigFormat.ofExtension?_eq_some_iff.mp hformat, hdir, rfl, rfl⟩
  · rintro ⟨name, stem, ext, middle, hname, hsplit, hstem, hformat, hdir, hprofile, hpath⟩
    have hshape : nameShape? name = some (middle, ext) :=
      nameShape?_eq_some_iff.mpr ⟨stem, hsplit, hstem⟩
    have hext := ConfigFormat.ofExtension?_eq_some_iff.mpr hformat
    obtain ⟨path', format, profile⟩ := f
    simp only at hpath hprofile hext
    subst hpath hprofile
    simp only [recognize, Option.bind_eq_bind, hname, hshape, hext, Option.bind_some]
    cases dirProfile <;> cases middle <;> simp_all

theorem path_of_recognize {path : String} {dirProfile : Option String} {f : ConfigFile}
    (h : recognize path dirProfile = some f) : f.path = path := by
  obtain ⟨-, -, -, -, -, -, -, -, -, -, hpath⟩ := recognize_eq_some_iff.mp h
  exact hpath

theorem lowerAscii_of_recognize {path : String} {dirProfile : Option String} {f : ConfigFile}
    (h : recognize path dirProfile = some f) {n : String} (hn : f.profile = some n) :
    Text.lowerAscii n = n := by
  obtain ⟨-, -, -, middle, -, -, -, -, -, hprofile, -⟩ := recognize_eq_some_iff.mp h
  rw [hprofile, Option.map_eq_some_iff] at hn
  obtain ⟨x, -, rfl⟩ := hn
  exact Text.lowerAscii_lowerAscii x

/-- A file for a profile comes after every file for all profiles. -/
theorem compare_of_generic {a b : ConfigFile} (ha : a.isGeneric = false) (hb : b.isGeneric = true) :
    compare a b = .gt := by
  rw [compare, ha, hb]
  rfl

/-- Files for the same profile, or for every profile, compare by path. -/
theorem compare_of_profile_eq {a b : ConfigFile} (h : a.profile = b.profile) :
    compare a b = PathName.compare a.path b.path := by
  have hgeneric : b.isGeneric = a.isGeneric := by simp [isGeneric, h]
  rw [compare_eq_lex, compareLex, compareLex, compareOn, compareOn, hgeneric, h,
    Std.ReflOrd.compare_self, Std.ReflOrd.compare_self]
  rfl

end ConfigFile

/-! ## Names along a path -/

namespace PathName

/-- A name on a path: not empty, and free of the separator. -/
structure IsName (n : String) : Prop where
  nonempty : n ≠ ""
  no_slash : '/' ∉ n.toList

theorem slash_eq_singleton : "/" = String.singleton '/' := rfl

theorem not_mem_of_mem_splitOn_slash {p s : String} (h : s ∈ p.splitOn "/") :
    '/' ∉ s.toList := by
  rw [slash_eq_singleton, Text.splitOn_singleton (by decide)] at h
  obtain ⟨piece, hpiece, rfl⟩ := List.mem_map.mp h
  rw [String.toList_ofList]
  exact Listing.not_mem_of_mem_splitOn hpiece

theorem mem_of_name_mem_laterParts {segs : List String} {n : String}
    (h : PathPart.name n ∈ laterParts segs) : n ∈ segs ∧ n ≠ "" := by
  obtain ⟨s, hs, hpart⟩ := List.mem_filterMap.mp h
  -- only the last branch gives a name, the segment itself
  split_ifs at hpart with h₁ h₂
  · cases hpart
  · obtain rfl : s = n := by simpa using hpart
    exact ⟨hs, fun h => h₁ (.inl h)⟩

/-- Every name part of a path comes from its segments: the root and `.` are no names, so a name
is read from the segments in every case. -/
theorem name_mem_laterParts_of_mem_parts {p n : String} (h : PathPart.name n ∈ parts p) :
    PathPart.name n ∈ laterParts (p.splitOn "/") := by
  unfold parts at h
  split at h
  · cases h
  · rename_i head rest hsplit
    rw [hsplit]
    have htail : laterParts rest ⊆ laterParts (head :: rest) :=
      ((List.sublist_cons_self head rest).filterMap _).subset
    split_ifs at h <;> first
      | exact h
      | exact htail (by simpa using h)

/-- Every name part of a path is a name: a segment between separators that is not empty. -/
theorem isName_of_mem_parts {p n : String} (h : PathPart.name n ∈ parts p) : IsName n := by
  obtain ⟨hmem, hne⟩ := mem_of_name_mem_laterParts (name_mem_laterParts_of_mem_parts h)
  exact ⟨hne, not_mem_of_mem_splitOn_slash hmem⟩

theorem startsWith_slash_eq_false {n : String} (hn : IsName n) (s : String) :
    (n ++ s).startsWith "/" = false := by
  obtain ⟨c, cs, hcs⟩ := List.exists_cons_of_ne_nil (by simpa using hn.nonempty : n.toList ≠ [])
  have hc : c ≠ '/' := fun h => hn.no_slash (h ▸ hcs ▸ List.mem_cons_self)
  rw [String.startsWith_string_eq_false_iff, String.toList_append, hcs]
  simp [Ne.symm hc]

theorem startsWith_intercalate_eq_false {n : String} (hn : IsName n) (rest : List String) :
    ("/".intercalate (n :: rest)).startsWith "/" = false := by
  cases rest with
  | nil => simpa [String.intercalate_singleton] using startsWith_slash_eq_false hn ""
  | cons u l =>
    rw [String.intercalate_cons_cons, String.append_assoc]
    exact startsWith_slash_eq_false hn _

/-- A relative path follows the base and the separator the base needs. -/
theorem join_of_startsWith_eq_false {base q : String} (h : q.startsWith "/" = false) :
    join base q = (if base.isEmpty ∨ base.endsWith "/" then base else base ++ "/") ++ q := by
  unfold join
  rw [if_neg (by simp [h])]
  split <;> rfl

theorem join_inj {base q q' : String} (hq : q.startsWith "/" = false)
    (hq' : q'.startsWith "/" = false) (h : join base q = join base q') : q = q' := by
  rw [join_of_startsWith_eq_false hq, join_of_startsWith_eq_false hq'] at h
  exact (String.append_right_inj _).mp h

/-- Names joined by the separator are read back by cutting at it. -/
theorem intercalate_inj {ns ms : List String} (hns : ns ≠ []) (hms : ms ≠ [])
    (h₁ : ∀ n ∈ ns, '/' ∉ n.toList) (h₂ : ∀ n ∈ ms, '/' ∉ n.toList)
    (h : "/".intercalate ns = "/".intercalate ms) : ns = ms := by
  have hcut : ∀ ls : List String, ls ≠ [] → (∀ n ∈ ls, '/' ∉ n.toList) →
      ("/".intercalate ls).toList.splitOn '/' = ls.map String.toList := fun ls hls hl => by
    rw [String.toList_intercalate]
    exact List.splitOn_intercalate '/' (by simpa using hl) (by simpa using hls)
  have := hcut ns hns h₁
  rw [h, hcut ms hms h₂] at this
  exact (List.map_injective_iff.mpr (fun _ _ => String.toList_injective) this).symm

/-- A path made of names below a base tells the names it is made of. -/
theorem join_intercalate_inj {base : String} {n m : String} {ns ms : List String}
    (hns : ∀ k ∈ n :: ns, IsName k) (hms : ∀ k ∈ m :: ms, IsName k)
    (h : join base ("/".intercalate (n :: ns)) = join base ("/".intercalate (m :: ms))) :
    n :: ns = m :: ms :=
  intercalate_inj (List.cons_ne_nil _ _) (List.cons_ne_nil _ _)
    (fun k hk => (hns k hk).no_slash) (fun k hk => (hms k hk).no_slash)
    (join_inj (startsWith_intercalate_eq_false (hns n List.mem_cons_self) ns)
      (startsWith_intercalate_eq_false (hms m List.mem_cons_self) ms) h)

end PathName

namespace Disk

variable {d : Disk} {dir : List String} {base : String} {p : Profile}

/-- The files found: those recognized among the entries that are no directories, for no
directory's profile, and among the files directly inside each subdirectory, for its profile;
of them, those that apply. -/
theorem mem_configFiles {f : ConfigFile} :
    f ∈ d.configFiles dir base p ↔ f.appliesTo p = true ∧ ∃ e ∈ d.entries dir,
      (d.isDir (dir ++ [e]) = false ∧ ConfigFile.recognize (PathName.join base e) none = some f) ∨
      (d.isDir (dir ++ [e]) = true ∧ ∃ g ∈ d.entries (dir ++ [e]),
        d.isFile (dir ++ [e, g]) = true ∧
        ConfigFile.recognize (PathName.join base (e ++ "/" ++ g)) (some e) = some f) := by
  simp only [configFiles, ConfigFile.mem_sort, List.mem_filter, List.mem_flatMap]
  rw [and_comm]
  refine and_congr_right fun _ => exists_congr fun e => and_congr_right fun _ => ?_
  -- an entry is a directory, whose files are looked at, or else it is looked at itself
  cases hdir : d.isDir (dir ++ [e]) <;>
    simp [String.intercalate_cons_cons, String.intercalate_singleton, List.append_assoc, and_assoc]

theorem recognized_of_mem_configFiles {f : ConfigFile} (hf : f ∈ d.configFiles dir base p) :
    ∃ path dirProfile, ConfigFile.recognize path dirProfile = some f := by
  obtain ⟨-, e, -, ⟨-, hrec⟩ | ⟨-, g, -, -, hrec⟩⟩ := mem_configFiles.mp hf
  · exact ⟨_, _, hrec⟩
  · exact ⟨_, _, hrec⟩

/-- A file found for a profile carries the profile's name, in lower case. -/
theorem profile_named {f : ConfigFile} (hf : f ∈ d.configFiles dir base p) {n : String}
    (hn : f.profile = some n) : n = Text.lowerAscii p.name := by
  obtain ⟨path, dirProfile, hrec⟩ := recognized_of_mem_configFiles hf
  have hlower := ConfigFile.lowerAscii_of_recognize hrec hn
  have happlies := (mem_configFiles.mp hf).1
  -- applying to the profile means naming it up to ASCII case, and the file's name is lower case
  simp only [ConfigFile.appliesTo, hn, Profile.named, Text.sameAsciiCase, beq_iff_eq] at happlies
  rw [← hlower, happlies]

theorem profile_eq_of_mem {f : ConfigFile} (hf : f ∈ d.configFiles dir base p) :
    f.profile = if f.isGeneric then none else some (Text.lowerAscii p.name) := by
  cases hprofile : f.profile with
  | none => simp [ConfigFile.isGeneric, hprofile]
  | some n => simp [ConfigFile.isGeneric, hprofile, profile_named hf hprofile]

/-- The files found are in precedence order. -/
theorem pairwise_configFiles :
    (d.configFiles dir base p).Pairwise fun a b => (ConfigFile.compare a b).isLE :=
  ConfigFile.pairwise_sort _

/-- The files for every profile come first. -/
theorem generic_first :
    (d.configFiles dir base p).Pairwise fun a b => b.isGeneric = true → a.isGeneric = true :=
  pairwise_configFiles.imp fun {a b} hab hb => by
    cases ha : a.isGeneric with
    | true => rfl
    | false =>
      rw [ConfigFile.compare_of_generic ha hb] at hab
      cases hab

/-- The files for every profile, and the files for the running profile, are each in path
order. -/
theorem path_order :
    (d.configFiles dir base p).Pairwise fun a b =>
      a.isGeneric = b.isGeneric → (PathName.compare a.path b.path).isLE :=
  pairwise_configFiles.imp_of_mem fun {a b} ha hb hab hgeneric => by
    have hprofile : a.profile = b.profile := by
      rw [profile_eq_of_mem ha, profile_eq_of_mem hb, hgeneric]
    rwa [ConfigFile.compare_of_profile_eq hprofile] at hab

/-! ## Each file is found once -/

theorem isName_of_mem_names {p n : String} (h : n ∈ names p) : PathName.IsName n := by
  obtain ⟨part, hpart, hn⟩ := List.mem_filterMap.mp h
  -- only a name part is kept, as its name
  cases part with
  | name m =>
    obtain rfl : m = n := Option.some.inj hn
    exact PathName.isName_of_mem_parts hpart
  | _ => cases hn

theorem isName_of_mem_entries {spot : List String} {e : String} (h : e ∈ d.entries spot) :
    PathName.IsName e := by
  rw [entries, List.mem_mergeSort, List.mem_eraseDups] at h
  obtain ⟨q, hq, he⟩ := List.mem_filterMap.mp h
  -- an entry is a name on the path of something stored
  split at he
  · have hmem : e ∈ q := List.mem_of_getElem? he
    simp only [stored, List.mem_append, List.mem_map] at hq
    rcases hq with ⟨_, -, rfl⟩ | ⟨_, -, rfl⟩ <;> exact isName_of_mem_names hmem
  · cases he

theorem nodup_entries {spot : List String} : (d.entries spot).Nodup :=
  (List.mergeSort_perm _ _).nodup_iff.mpr (nodup_eraseDups _)

/-- The files recognized at one entry of a directory: the entry itself when it is no directory,
else the files directly inside it, for its profile. -/
def recognizedAt (d : Disk) (dir : List String) (base e : String) : List ConfigFile :=
  if d.isDir (dir ++ [e]) then
    ((d.entries (dir ++ [e])).filter fun f => d.isFile (dir ++ [e] ++ [f])).filterMap fun f =>
      ConfigFile.recognize (PathName.join base ("/".intercalate [e, f])) (some e)
  else (ConfigFile.recognize (PathName.join base ("/".intercalate [e])) none).toList

theorem configFiles_eq : d.configFiles dir base p =
    ConfigFile.sort (((d.entries dir).flatMap (d.recognizedAt dir base)).filter (·.appliesTo p)) :=
  rfl

/-- Where a file recognized at an entry lies: at the entry itself, or at a name inside it. -/
theorem recognize_of_mem_recognizedAt {e : String} {f : ConfigFile}
    (hf : f ∈ d.recognizedAt dir base e) :
    ∃ g : Option String, (∀ n ∈ g, n ∈ d.entries (dir ++ [e])) ∧
      ConfigFile.recognize (PathName.join base ("/".intercalate (e :: g.toList)))
        (if d.isDir (dir ++ [e]) then some e else none) = some f := by
  unfold recognizedAt at hf
  split at hf <;> rename_i hdir
  · obtain ⟨g, hg, hrec⟩ := List.mem_filterMap.mp hf
    exact ⟨some g, fun n hn => Option.mem_some_iff.mp hn ▸ (List.mem_filter.mp hg).1,
      by simpa [hdir] using hrec⟩
  · exact ⟨none, by simp, by simpa [hdir] using hf⟩

/-- Two files recognized at entries of the directory under one path are one file, found at one
entry. -/
theorem eq_of_path_eq {a b : String} (ha : a ∈ d.entries dir) (hb : b ∈ d.entries dir)
    {x y : ConfigFile} (hx : x ∈ d.recognizedAt dir base a) (hy : y ∈ d.recognizedAt dir base b)
    (hpath : x.path = y.path) : a = b ∧ x = y := by
  obtain ⟨g, hg, hrecx⟩ := recognize_of_mem_recognizedAt hx
  obtain ⟨g', hg', hrecy⟩ := recognize_of_mem_recognizedAt hy
  have hnames : ∀ e ∈ d.entries dir, ∀ o : Option String, (∀ n ∈ o, n ∈ d.entries (dir ++ [e])) →
      ∀ n ∈ e :: o.toList, PathName.IsName n := by
    intro e he o ho n hn
    rcases List.mem_cons.mp hn with rfl | hn
    · exact isName_of_mem_entries he
    · exact isName_of_mem_entries (ho n (Option.mem_toList.mp hn))
  -- the path tells the names, and the names tell how the file was recognized
  have hloc := PathName.join_intercalate_inj (hnames a ha g hg) (hnames b hb g' hg')
    (by rw [← ConfigFile.path_of_recognize hrecx, ← ConfigFile.path_of_recognize hrecy, hpath])
  obtain ⟨rfl, hgg⟩ := List.cons_eq_cons.mp hloc
  rw [hgg] at hrecx
  exact ⟨rfl, Option.some.inj (hrecx.symm.trans hrecy)⟩

/-- The files recognized at one entry are each recognized once. -/
theorem nodup_recognizedAt {e : String} (he : e ∈ d.entries dir) :
    (d.recognizedAt dir base e).Nodup := by
  unfold recognizedAt
  split
  · -- two files of the subdirectory recognized as one have one path, so one name
    refine (nodup_entries.filter _).filterMap fun g g' f hg hg' => ?_
    have hq : ∀ g, ("/".intercalate [e, g]).startsWith "/" = false := fun g =>
      PathName.startsWith_intercalate_eq_false (isName_of_mem_entries he) [g]
    have hpath := PathName.join_inj (hq g) (hq g')
      ((ConfigFile.path_of_recognize hg).symm.trans (ConfigFile.path_of_recognize hg'))
    simpa [String.intercalate_cons_cons, String.intercalate_singleton, String.append_assoc]
      using hpath
  · cases ConfigFile.recognize _ none <;> simp

/-- No two files found in a directory share a path. -/
theorem nodup_found_paths :
    (((d.entries dir).flatMap (d.recognizedAt dir base)).map ConfigFile.path).Nodup := by
  rw [List.map_flatMap, List.nodup_flatMap]
  refine ⟨fun e he => ?_, nodup_entries.imp_of_mem fun ha hb hab z hz hz' => ?_⟩
  · exact (nodup_recognizedAt he).map_on fun x hx y hy h => (eq_of_path_eq he he hx hy h).2
  · -- a path found at two entries tells one entry
    obtain ⟨x, hx, rfl⟩ := List.mem_map.mp hz
    obtain ⟨y, hy, hxy⟩ := List.mem_map.mp hz'
    exact hab (eq_of_path_eq ha hb hx hy hxy.symm).1

/-- No two of the files kept share a path: keeping some and sorting them brings none twice. -/
theorem nodup_configFiles_paths : ((d.configFiles dir base p).map ConfigFile.path).Nodup := by
  rw [configFiles_eq, ConfigFile.sort]
  refine (((List.mergeSort_perm _ _).map _).nodup_iff).mpr ?_
  exact (List.filter_sublist.map _).nodup nodup_found_paths

theorem nodup_configFiles : (d.configFiles dir base p).Nodup :=
  nodup_configFiles_paths.of_map _

/-- Finding the configuration files of a directory for a profile: which files are found, each
once and no two under one path, how a file is recognized by its name, and the precedence order
they come in — a total preorder under which the files for every profile come first, every other
file carries the profile's name, and each group is in path order. -/
theorem configFiles_discovery (d : Disk) (dir : List String) (base : String) (p : Profile) :
    (∀ f, f ∈ d.configFiles dir base p ↔ f.appliesTo p = true ∧ ∃ e ∈ d.entries dir,
      (d.isDir (dir ++ [e]) = false ∧ ConfigFile.recognize (PathName.join base e) none = some f) ∨
      (d.isDir (dir ++ [e]) = true ∧ ∃ g ∈ d.entries (dir ++ [e]),
        d.isFile (dir ++ [e, g]) = true ∧
        ConfigFile.recognize (PathName.join base (e ++ "/" ++ g)) (some e) = some f)) ∧
    (d.configFiles dir base p).Nodup ∧
    ((d.configFiles dir base p).map ConfigFile.path).Nodup ∧
    (∀ path dirProfile f, ConfigFile.recognize path dirProfile = some f ↔
      ∃ name stem ext, ∃ middle : Option String,
        PathName.fileName? path = some name ∧
        name.splitOn "." = stem :: middle.toList ++ [ext] ∧ stem ≠ "" ∧
        ((f.format = .toml ∧ Text.sameAsciiCase ext "toml" = true) ∨
          (f.format = .yaml ∧
            (Text.sameAsciiCase ext "yaml" = true ∨ Text.sameAsciiCase ext "yml" = true))) ∧
        (∀ dir n, dirProfile = some dir → middle = some n → Text.sameAsciiCase dir n = true) ∧
        f.profile = (dirProfile.or middle).map Text.lowerAscii ∧
        f.path = path) ∧
    Std.TransCmp ConfigFile.compare ∧
    (d.configFiles dir base p).Pairwise (fun a b => (ConfigFile.compare a b).isLE) ∧
    (d.configFiles dir base p).Pairwise (fun a b => b.isGeneric = true → a.isGeneric = true) ∧
    (∀ f ∈ d.configFiles dir base p, ∀ n, f.profile = some n → n = Text.lowerAscii p.name) ∧
    (d.configFiles dir base p).Pairwise
      (fun a b => a.isGeneric = b.isGeneric → (PathName.compare a.path b.path).isLE) :=
  ⟨fun _ => mem_configFiles, nodup_configFiles, nodup_configFiles_paths,
    fun _ _ _ => ConfigFile.recognize_eq_some_iff,
    ConfigFile.transCmp, pairwise_configFiles, generic_first, fun _ hf _ hn => profile_named hf hn,
    path_order⟩

end Disk

end RingIdentity
