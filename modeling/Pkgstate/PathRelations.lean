import Pkgstate.PathComponents
import Mathlib.Logic.Relation

/-!
# Parents, file names and ancestors

`parent`, `filename` and `is_ancestor_of` work on the text of a path: the first two
cut it at its last separator, the third compares a prefix and one byte after it. A
path is the list of its components (`components_inj`); `parent` takes the last one
away (`parent_eq_some`), and an ancestor is a path whose components are a proper
prefix (`isAncestorOf_iff`), so that `usr/lib` is none of `usr/lib64/x`.
-/

namespace Pkgstate

open Wire Cpp

namespace PackagePath

/-! ## Components -/

/-- The components of a path. -/
def components (path : PackagePath) : List Bytes := path.string.bytes.splitOn 47

theorem intercalate_components (path : PackagePath) :
    [47].intercalate path.components = path.string.bytes :=
  List.intercalate_splitOn 47

theorem components_ne_nil (path : PackagePath) : path.components ≠ [] :=
  List.splitOn_ne_nil _ _

theorem components_inj {a b : PackagePath} (same : a.components = b.components) : a = b := by
  apply string_inj
  apply StdString.bytes_inj
  rw [← intercalate_components, same, intercalate_components]

/-- A path keeps the components of its text that name objects, so they all do. -/
theorem objectComponent_of_mem {path : PackagePath} {component : Bytes}
    (member : component ∈ path.components) : ObjectComponent component := by
  obtain ⟨acceptable, stored⟩ := normalize_eq_ok.mp path.normal
  have kept : path.components = objects path.string.bytes := by
    have cut := splitOn_objects acceptable
    rwa [← stored] at cut
  obtain ⟨_, nonempty, notDot⟩ := mem_objects.mp (kept ▸ member)
  refine ⟨nonempty, notDot, ?_, not_mem_of_mem_splitOn member⟩
  rintro rfl
  exact acceptable.untraversed member

/-- A nonempty list of a path's components joins to a path. -/
theorem normalize_intercalate {path : PackagePath} {kept : List Bytes} (some : kept ≠ [])
    (subset : kept ⊆ path.components) :
    normalize ([47].intercalate kept) = .ok ([47].intercalate kept) := by
  rw [← join_eq_intercalate]
  apply normalize_join some
  · intro component member
    exact objectComponent_of_mem (subset member)
  · intro component member byte inside
    have lineSafe := (normalize_eq_ok.mp path.normal).1.lineSafe byte
    have inText : byte ∈ path.string.bytes := by
      rw [← intercalate_components, ← join_eq_intercalate]
      exact mem_join_of_mem (subset member) inside
    obtain ⟨notNul, notFeed, notReturn⟩ := lineSafe inText
    simp [Forbidden, notNul, notFeed, notReturn]

/-- Joining two lists of components puts one separator between their joins. -/
theorem intercalate_append {front back : List Bytes} (some : front ≠ []) (more : back ≠ []) :
    [(47 : UInt8)].intercalate (front ++ back) =
      [47].intercalate front ++ 47 :: [47].intercalate back := by
  induction front with
  | nil => exact (some rfl).elim
  | cons component rest ih =>
      cases rest with
      | nil =>
          rw [List.singleton_append, List.intercalate_cons_of_ne_nil more,
            List.intercalate_singleton, List.append_assoc]
          rfl
      | cons next rest =>
          rw [List.cons_append, List.intercalate_cons_of_ne_nil (by simp), ih (by simp),
            List.intercalate_cons_cons]
          simp only [List.append_assoc]

/-! ## The operations -/

/-- `value.rfind('/')`. -/
def rfind (value : Bytes) : Option Nat :=
  (value.reverse.idxOf? 47).map fun distance => value.length - 1 - distance

theorem rfind_eq_none {value : Bytes} : rfind value = none ↔ 47 ∉ value := by
  rw [rfind, Option.map_eq_none_iff, List.idxOf?_eq_none_iff, List.mem_reverse]

theorem rfind_separator (front : Bytes) {last : Bytes} (none : 47 ∉ last) :
    rfind (front ++ 47 :: last) = some front.length := by
  have turned : (front ++ 47 :: last).reverse = last.reverse ++ 47 :: front.reverse := by simp
  have length : (front ++ 47 :: last).length = front.length + 1 + last.length := by
    rw [List.length_append, List.length_cons]
    omega
  rw [rfind, turned, idxOf?_separator _ (by rwa [List.mem_reverse]), Option.map_some, length,
    List.length_reverse]
  congr 1
  omega

/-- A text without separators, or its last separator and what stands around it. -/
theorem rfind_cases (value : Bytes) :
    (rfind value = none ∧ 47 ∉ value) ∨
      ∃ front last, value = front ++ 47 :: last ∧ 47 ∉ last ∧ rfind value = some front.length := by
  by_cases present : 47 ∈ value
  · obtain ⟨after, before, turned, absent⟩ :=
      List.eq_append_cons_of_mem (List.mem_reverse.mpr present)
    have cut : value = before.reverse ++ 47 :: after.reverse := by
      rw [← List.reverse_reverse value, turned]
      simp
    have absent' : 47 ∉ after.reverse := by rwa [List.mem_reverse]
    refine Or.inr ⟨before.reverse, after.reverse, cut, absent', ?_⟩
    rw [cut, rfind_separator _ absent']
  · exact Or.inl ⟨rfind_eq_none.mpr present, present⟩

/-- The component after the last separator is the last of the text's components. -/
theorem splitOn_separator (front : Bytes) {last : Bytes} (none : 47 ∉ last) :
    (front ++ 47 :: last).splitOn 47 = front.splitOn 47 ++ [last] := by
  rw [List.splitOn_append_cons_self, List.splitOn_eq_singleton none]

/-- What stands before the last separator of a path is a path. -/
theorem normalize_take {path : PackagePath} {separator : Nat}
    (found : rfind path.string.bytes = some separator) :
    normalize (path.string.bytes.take separator) = .ok (path.string.bytes.take separator) := by
  rcases rfind_cases path.string.bytes with ⟨absent, _⟩ | ⟨front, last, cut, absent, position⟩
  · rw [absent] at found
    cases found
  · rw [position] at found
    cases found
    have front_eq : path.string.bytes.take front.length = front := by
      rw [cut, List.take_left]
    have subset : front.splitOn 47 ⊆ path.components := by
      rw [components, cut, splitOn_separator front absent]
      exact List.subset_append_left _ _
    rw [front_eq]
    have normal := normalize_intercalate (List.splitOn_ne_nil 47 front) subset
    rwa [List.intercalate_splitOn] at normal

/-- `filename`: what follows the last separator, or everything. -/
def filename (path : PackagePath) : Bytes :=
  match rfind path.string.bytes with
  | none => path.string.bytes
  | some separator => path.string.bytes.drop (separator + 1)

/-- `parent`: what precedes the last separator, stored by the constructor that
checks nothing. -/
def parent (path : PackagePath) : Option PackagePath :=
  match found : rfind path.string.bytes with
  | none => none
  | some separator =>
      some { string := ⟨path.string.bytes.take separator,
              Nat.lt_of_le_of_lt (List.length_take_le' _ _) path.string.size_lt⟩
             normal := normalize_take found }

/-- `is_ancestor_of`. -/
def isAncestorOf (path other : PackagePath) : Bool :=
  decide (path.string.bytes.length < other.string.bytes.length) &&
    other.string.bytes.take path.string.bytes.length == path.string.bytes &&
    other.string.bytes[path.string.bytes.length]? == some 47

/-! ## Their components -/

theorem parent_eq_none {path : PackagePath} :
    path.parent = none ↔ rfind path.string.bytes = none := by
  unfold parent
  split
  · next absent => simp [absent]
  · next separator found => simp [found]

theorem parent_of_rfind {path : PackagePath} {separator : Nat}
    (found : rfind path.string.bytes = some separator) :
    ∃ above, path.parent = some above ∧
      above.string.bytes = path.string.bytes.take separator := by
  unfold parent
  split
  · next absent =>
      rw [absent] at found
      cases found
  · next position same =>
      rw [same] at found
      cases found
      exact ⟨_, rfl, rfl⟩

/-- Either a path is one component and has no parent, or its parent and its file
name are what stands around its last separator. -/
theorem parent_cases (path : PackagePath) :
    (path.parent = none ∧ path.components = [path.filename]) ∨
      ∃ above, path.parent = some above ∧
        path.string.bytes = above.string.bytes ++ 47 :: path.filename ∧
        path.components = above.components ++ [path.filename] := by
  rcases rfind_cases path.string.bytes with ⟨none, absent⟩ | ⟨front, last, cut, absent, position⟩
  · have whole : path.filename = path.string.bytes := by rw [filename, none]
    refine Or.inl ⟨parent_eq_none.mpr none, ?_⟩
    rw [components, whole, List.splitOn_eq_singleton absent]
  · obtain ⟨above, up, text⟩ := parent_of_rfind position
    have before : above.string.bytes = front := by rw [text, cut, List.take_left]
    have after : path.filename = last := by
      rw [filename, position]
      change path.string.bytes.drop (front.length + 1) = last
      rw [cut, List.drop_append, List.drop_of_length_le (Nat.le_succ _),
        Nat.add_sub_cancel_left]
      rfl
    refine Or.inr ⟨above, up, by rw [before, after, cut], ?_⟩
    rw [components, components, before, after, cut, splitOn_separator front absent]

theorem parent_eq_some {path above : PackagePath} :
    path.parent = some above ↔ ∃ last, path.components = above.components ++ [last] := by
  constructor
  · intro up
    rcases parent_cases path with ⟨none, _⟩ | ⟨other, same, _, cut⟩
    · rw [none] at up
      cases up
    · rw [same] at up
      cases up
      exact ⟨_, cut⟩
  · rintro ⟨last, cut⟩
    rcases parent_cases path with ⟨_, single⟩ | ⟨other, up, _, cut'⟩
    · rw [single] at cut
      have one := congrArg List.length cut
      have filled := List.length_pos_of_ne_nil above.components_ne_nil
      rw [List.length_append, List.length_singleton, List.length_singleton] at one
      omega
    · rw [cut'] at cut
      rw [up, components_inj (List.append_inj_left' cut rfl)]

theorem parent_eq_none_iff {path : PackagePath} :
    path.parent = none ↔ path.components.length = 1 := by
  rcases parent_cases path with ⟨none, single⟩ | ⟨above, up, _, cut⟩
  · simp [none, single]
  · have filled := List.length_pos_of_ne_nil above.components_ne_nil
    rw [up, cut, List.length_append, List.length_singleton]
    constructor
    · intro absent
      cases absent
    · intro one
      omega

/-- The components before the last make the parent. -/
theorem exists_parent {path : PackagePath} {front : List Bytes} {last : Bytes}
    (more : front ≠ []) (cut : path.components = front ++ [last]) :
    ∃ above, path.parent = some above ∧ above.components = front := by
  rcases parent_cases path with ⟨_, single⟩ | ⟨above, up, _, cut'⟩
  · have one := congrArg List.length (single.symm.trans cut)
    have positive := List.length_pos_of_ne_nil more
    rw [List.length_append, List.length_singleton, List.length_singleton] at one
    omega
  · exact ⟨above, up, List.append_inj_left' (cut'.symm.trans cut) rfl⟩

/-! ## Ancestors -/

/-- The byte after the prefix has to be a separator. -/
theorem isAncestorOf_iff_append {path other : PackagePath} :
    path.isAncestorOf other = true ↔
      ∃ rest, other.string.bytes = path.string.bytes ++ 47 :: rest := by
  unfold isAncestorOf
  rw [Bool.and_eq_true, Bool.and_eq_true, decide_eq_true_eq, beq_iff_eq, beq_iff_eq]
  constructor
  · rintro ⟨⟨longer, same⟩, separator⟩
    rw [List.getElem?_eq_getElem longer] at separator
    refine ⟨other.string.bytes.drop (path.string.bytes.length + 1), ?_⟩
    conv_lhs => rw [← List.take_append_drop path.string.bytes.length other.string.bytes, same,
      List.drop_eq_getElem_cons longer, Option.some.inj separator]
  · rintro ⟨rest, cut⟩
    rw [cut, List.take_left]
    simp

/-- An ancestor's components are a proper prefix. -/
theorem isAncestorOf_iff {path other : PackagePath} :
    path.isAncestorOf other = true ↔
      path.components <+: other.components ∧ path.components ≠ other.components := by
  rw [isAncestorOf_iff_append]
  constructor
  · rintro ⟨rest, cut⟩
    have longer : other.components = path.components ++ rest.splitOn 47 := by
      rw [components, cut, List.splitOn_append_cons_self, components]
    refine ⟨⟨_, longer.symm⟩, fun same => List.splitOn_ne_nil 47 rest ?_⟩
    exact List.append_right_eq_self.mp (longer.symm.trans same.symm)
  · rintro ⟨⟨rest, cut⟩, proper⟩
    have more : rest ≠ [] := by
      rintro rfl
      exact proper (by rw [← cut, List.append_nil])
    refine ⟨[47].intercalate rest, ?_⟩
    rw [← intercalate_components other, ← cut, intercalate_append path.components_ne_nil more,
      intercalate_components]

/-- The paths above a path are the ones reached by repeated `parent`. -/
theorem transGen_parent_iff {path other : PackagePath} :
    Relation.TransGen (fun lower upper : PackagePath => lower.parent = some upper) other path ↔
      path.components <+: other.components ∧ path.components ≠ other.components := by
  constructor
  · intro climbed
    have shorter : path.components <+: other.components ∧
        path.components.length < other.components.length := by
      induction climbed with
      | single up =>
          obtain ⟨last, cut⟩ := parent_eq_some.mp up
          rw [cut]
          exact ⟨List.prefix_append _ _, by simp⟩
      | tail _ up ih =>
          obtain ⟨last, cut⟩ := parent_eq_some.mp up
          obtain ⟨above, below⟩ := ih
          rw [cut] at above below
          refine ⟨(List.prefix_append _ _).trans above, ?_⟩
          rw [List.length_append] at below
          omega
    exact ⟨shorter.1, fun same => Nat.ne_of_lt shorter.2 (congrArg List.length same)⟩
  · rintro ⟨⟨rest, cut⟩, proper⟩
    -- climb from the last component of `rest` to its first
    induction rest using List.reverseRecOn generalizing other with
    | nil => exact (proper (by rw [← cut, List.append_nil])).elim
    | append_singleton rest last ih =>
        rw [← List.append_assoc] at cut
        obtain ⟨above, up, cut'⟩ := exists_parent
          (List.append_ne_nil_of_left_ne_nil path.components_ne_nil rest) cut.symm
        by_cases reached : path.components = above.components
        · exact Relation.TransGen.single (components_inj reached ▸ up)
        · exact Relation.TransGen.head up (ih reached cut'.symm)

/-- The relations between paths are those of their components. -/
structure FollowsComponents : Prop where
  parent_none (path : PackagePath) : path.parent = none ↔ path.components.length = 1
  parent_some {path above : PackagePath} : path.parent = some above →
    parse above.string = .ok above ∧
      path.string.bytes = above.string.bytes ++ 47 :: path.filename
  filename (path : PackagePath) : path.components.getLast? = some path.filename
  ancestor_climbs (a b : PackagePath) : a.isAncestorOf b = true ↔
    Relation.TransGen (fun lower upper : PackagePath => lower.parent = some upper) b a
  ancestor_prefix (a b : PackagePath) : a.isAncestorOf b = true ↔
    a.components <+: b.components ∧ a.components ≠ b.components
  irrefl (a : PackagePath) : a.isAncestorOf a = false
  asymm {a b : PackagePath} : a.isAncestorOf b = true → b.isAncestorOf a = false
  trans {a b c : PackagePath} :
    a.isAncestorOf b = true → b.isAncestorOf c = true → a.isAncestorOf c = true

theorem followsComponents : FollowsComponents where
  parent_none _ := parent_eq_none_iff
  parent_some {path above} up := by
    rcases parent_cases path with ⟨none, _⟩ | ⟨other, same, text, _⟩
    · rw [none] at up
      cases up
    · rw [same] at up
      cases up
      exact ⟨parse_string above, text⟩
  filename path := by
    rcases parent_cases path with ⟨_, single⟩ | ⟨above, _, _, cut⟩
    · rw [single]
      rfl
    · rw [cut, List.getLast?_concat]
  ancestor_climbs a b := isAncestorOf_iff.trans transGen_parent_iff.symm
  ancestor_prefix _ _ := isAncestorOf_iff
  irrefl a := by
    rw [Bool.eq_false_iff, Ne, isAncestorOf_iff]
    exact fun proper => proper.2 rfl
  asymm {a b} below := by
    rw [isAncestorOf_iff] at below
    rw [Bool.eq_false_iff, Ne, isAncestorOf_iff]
    exact fun above => below.2 (List.IsPrefix.eq_of_length_le below.1 above.1.length_le)
  trans {a b c} first second := by
    rw [isAncestorOf_iff, ← transGen_parent_iff] at first second ⊢
    exact second.trans first

end PackagePath

end Pkgstate
