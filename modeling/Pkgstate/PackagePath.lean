import Pkgstate.Error

/-!
# Installed package paths

`package_path::parse` drops empty and `.` components, refuses `..`, absolute
paths, NUL and line separators, and joins what is left. `PackagePath` carries
the fact that its text is a fixed point of that normalization
(`normalize_idempotent`), which is why reading back a written path changes
nothing.
-/

namespace Pkgstate

open Wire Cpp

namespace PackagePath

/-- `invalid_path(input, reason)`. -/
def invalidPath (input : Bytes) (reason : String) : Failure :=
  .pathError (ascii "invalid installed package path: " ++ ascii reason ++
    if 0 ∈ input then [] else ascii ": '" ++ input ++ ascii "'")

/-- The components that the `find('/', begin)` loop cuts out of the input from
`begin` on. -/
def pieces : (fuel : Nat) → (rest : Bytes) → List Bytes
  | 0, rest => [rest]
  | fuel + 1, rest =>
      match rest.idxOf? 47 with
      | none => [rest]
      | some stop => rest.take stop :: pieces fuel (rest.drop (stop + 1))

/-- The components that the loop keeps. -/
def objectComponents (input : Bytes) : List Bytes → Except Failure (List Bytes)
  | [] => .ok []
  | component :: rest =>
      if component ≠ [] ∧ component ≠ ascii "." then
        if component = ascii ".." then
          .error (invalidPath input "parent traversal is forbidden")
        else do
          let components ← objectComponents input rest
          pure (component :: components)
      else objectComponents input rest

/-- The loop that appends the components with a separator between them. -/
def join : List Bytes → Bytes
  | [] => []
  | [component] => component
  | component :: rest => component ++ 47 :: join rest

/-- `parse`, up to the value it stores. -/
def normalize (input : Bytes) : Except Failure Bytes :=
  if input = [] then .error (invalidPath input "path is empty")
  else if input.head? = some 47 then
    .error (invalidPath input "absolute paths are forbidden")
  else
    match input.find? fun byte => byte == 0 || byte == 10 || byte == 13 with
    | some byte =>
        if byte = 0 then .error (invalidPath input "NUL byte is forbidden")
        else .error (invalidPath input "line separators are forbidden")
    | none => do
        let components ← objectComponents input (pieces input.length input)
        if components = [] then .error (invalidPath input "path has no object component")
        else pure (join components)

/-! ## Splitting and joining -/

/-- What the loop keeps of an input: a nonempty name other than `.` and `..`
without a separator. -/
structure ObjectComponent (component : Bytes) : Prop where
  nonempty : component ≠ []
  notDot : component ≠ ascii "."
  notDotDot : component ≠ ascii ".."
  noSeparator : 47 ∉ component

theorem pieces_of_not_mem {fuel : Nat} {rest : Bytes} (none : 47 ∉ rest) :
    pieces fuel rest = [rest] := by
  cases fuel with
  | zero => rfl
  | succ fuel => rw [pieces, List.idxOf?_eq_none_iff.mpr none]

theorem idxOf?_separator {component : Bytes} (rest : Bytes) (none : 47 ∉ component) :
    (component ++ 47 :: rest).idxOf? 47 = some component.length := by
  rw [List.idxOf?_eq_some_iff]
  refine ⟨by simp, by simp, fun index before found => none ?_⟩
  rw [List.getElem_append_left before] at found
  exact found ▸ List.getElem_mem before

theorem pieces_append {fuel : Nat} {component rest : Bytes} (none : 47 ∉ component) :
    pieces (fuel + 1) (component ++ 47 :: rest) = component :: pieces fuel rest := by
  have after : (component ++ 47 :: rest).drop (component.length + 1) = rest := by
    rw [List.drop_append, Nat.add_sub_cancel_left, List.drop_of_length_le (Nat.le_succ _)]
    rfl
  simp only [pieces, idxOf?_separator rest none, List.take_left, after]

theorem join_cons {component : Bytes} {rest : List Bytes} (more : rest ≠ []) :
    join (component :: rest) = component ++ 47 :: join rest := by
  cases rest with
  | nil => exact (more rfl).elim
  | cons next rest => rfl

theorem pieces_join {fuel : Nat} {components : List Bytes} (some : components ≠ [])
    (objects : ∀ component ∈ components, 47 ∉ component) (enough : components.length ≤ fuel + 1) :
    pieces fuel (join components) = components := by
  induction components generalizing fuel with
  | nil => exact (some rfl).elim
  | cons component rest ih =>
      have head := objects component List.mem_cons_self
      cases rest with
      | nil => exact pieces_of_not_mem head
      | cons next rest =>
          cases fuel with
          | zero => simp at enough
          | succ fuel =>
              rw [join_cons (List.cons_ne_nil next rest), pieces_append head,
                ih (List.cons_ne_nil next rest)
                  (fun other member => objects other (List.mem_cons_of_mem _ member))
                  (by simp only [List.length_cons] at enough ⊢; omega)]

theorem pieces_ne_nil (fuel : Nat) (rest : Bytes) : pieces fuel rest ≠ [] := by
  cases fuel with
  | zero => exact List.cons_ne_nil _ _
  | succ fuel =>
      unfold pieces
      split <;> exact List.cons_ne_nil _ _

/-- The pieces are the input cut at its separators. -/
theorem join_pieces (fuel : Nat) (rest : Bytes) : join (pieces fuel rest) = rest := by
  induction fuel generalizing rest with
  | zero => rfl
  | succ fuel ih =>
      unfold pieces
      split
      · rfl
      · next stop found =>
          obtain ⟨inside, separator, _⟩ := List.idxOf?_eq_some_iff.mp found
          rw [join_cons (pieces_ne_nil fuel _), ih]
          conv_rhs => rw [← List.take_append_drop stop rest, List.drop_eq_getElem_cons inside,
            separator]

theorem not_mem_of_mem_pieces {fuel : Nat} {rest component : Bytes} (enough : rest.length ≤ fuel)
    (member : component ∈ pieces fuel rest) : 47 ∉ component := by
  induction fuel generalizing rest with
  | zero =>
      have empty : rest = [] := List.length_eq_zero_iff.mp (Nat.le_zero.mp enough)
      cases List.mem_singleton.mp member
      rw [empty]
      exact List.not_mem_nil
  | succ fuel ih =>
      unfold pieces at member
      split at member
      · next absent =>
          cases List.mem_singleton.mp member
          exact List.idxOf?_eq_none_iff.mp absent
      · next stop found =>
          obtain ⟨inside, _, first⟩ := List.idxOf?_eq_some_iff.mp found
          rcases List.mem_cons.mp member with rfl | later
          · intro separator
            obtain ⟨index, before, same⟩ := List.mem_take_iff_getElem.mp separator
            exact first index (by omega) same
          · refine ih ?_ later
            rw [List.length_drop]
            omega

theorem mem_join {components : List Bytes} {byte : UInt8} (member : byte ∈ join components) :
    byte = 47 ∨ ∃ component ∈ components, byte ∈ component := by
  induction components with
  | nil => cases member
  | cons component rest ih =>
      cases rest with
      | nil => exact Or.inr ⟨component, List.mem_cons_self, member⟩
      | cons next rest =>
          rw [join_cons (List.cons_ne_nil next rest), List.mem_append, List.mem_cons] at member
          rcases member with here | rfl | later
          · exact Or.inr ⟨component, List.mem_cons_self, here⟩
          · exact Or.inl rfl
          · rcases ih later with separator | ⟨other, inRest, inside⟩
            · exact Or.inl separator
            · exact Or.inr ⟨other, List.mem_cons_of_mem _ inRest, inside⟩

/-- Each component of the join lies inside it. -/
theorem mem_join_of_mem {components : List Bytes} {component : Bytes} {byte : UInt8}
    (member : component ∈ components) (inside : byte ∈ component) : byte ∈ join components := by
  induction components with
  | nil => cases member
  | cons head rest ih =>
      cases rest with
      | nil =>
          cases List.mem_singleton.mp member
          exact inside
      | cons next rest =>
          rw [join_cons (List.cons_ne_nil next rest), List.mem_append, List.mem_cons]
          rcases List.mem_cons.mp member with rfl | later
          · exact Or.inl inside
          · exact Or.inr (Or.inr (ih later))

theorem length_join_le_of_sublist {fewer components : List Bytes}
    (sublist : fewer.Sublist components) : (join fewer).length ≤ (join components).length := by
  induction sublist with
  | slnil => exact Nat.le_refl _
  | @cons fewer components component _ ih =>
      cases components with
      | nil => exact Nat.le_trans ih (Nat.zero_le _)
      | cons next rest =>
          rw [join_cons (List.cons_ne_nil next rest), List.length_append, List.length_cons]
          omega
  | @cons_cons fewer components component sublist ih =>
      cases fewer with
      | nil =>
          cases components with
          | nil => exact Nat.le_refl _
          | cons next rest =>
              rw [join_cons (List.cons_ne_nil next rest), List.length_append]
              exact Nat.le_add_right _ _
      | cons other fewer =>
          have more : components ≠ [] := by
            rintro rfl
            cases sublist
          rw [join_cons (List.cons_ne_nil other fewer), join_cons more, List.length_append,
            List.length_append, List.length_cons, List.length_cons]
          omega

theorem length_le_length_join {components : List Bytes}
    (nonempty : ∀ component ∈ components, component ≠ []) :
    components.length ≤ (join components).length := by
  induction components with
  | nil => exact Nat.le_refl _
  | cons component rest ih =>
      have head := List.length_pos_of_ne_nil (nonempty component List.mem_cons_self)
      have tail := ih fun other member => nonempty other (List.mem_cons_of_mem _ member)
      cases rest with
      | nil => exact head
      | cons next rest =>
          rw [join_cons (List.cons_ne_nil next rest)]
          simp only [List.length_append, List.length_cons] at tail ⊢
          omega

/-! ## Normal forms -/

theorem objectComponents_ok {input : Bytes} {parts components : List Bytes}
    (kept : objectComponents input parts = .ok components) :
    components.Sublist parts ∧ ∀ component ∈ components,
      component ≠ [] ∧ component ≠ ascii "." ∧ component ≠ ascii ".." := by
  induction parts generalizing components with
  | nil =>
      cases kept
      exact ⟨List.Sublist.refl _, by simp⟩
  | cons part rest ih =>
      unfold objectComponents at kept
      split at kept
      · next named =>
          split at kept
          · cases kept
          · next notParent =>
              cases tail : objectComponents input rest with
              | error failure =>
                  rw [tail] at kept
                  cases kept
              | ok others =>
                  rw [tail] at kept
                  cases kept
                  obtain ⟨sublist, good⟩ := ih tail
                  refine ⟨sublist.cons_cons part, fun component member => ?_⟩
                  rcases List.mem_cons.mp member with rfl | later
                  · exact ⟨named.1, named.2, notParent⟩
                  · exact good component later
      · obtain ⟨sublist, good⟩ := ih kept
        exact ⟨sublist.cons part, good⟩

theorem objectComponents_self (input : Bytes) {components : List Bytes}
    (objects : ∀ component ∈ components, ObjectComponent component) :
    objectComponents input components = .ok components := by
  induction components with
  | nil => rfl
  | cons component rest ih =>
      obtain ⟨nonempty, notDot, notDotDot, _⟩ := objects component List.mem_cons_self
      rw [objectComponents, if_pos ⟨nonempty, notDot⟩, if_neg notDotDot,
        ih fun other member => objects other (List.mem_cons_of_mem _ member)]
      rfl

/-- The bytes that end a path early: NUL, line feed and carriage return. -/
def Forbidden (byte : UInt8) : Bool := byte == 0 || byte == 10 || byte == 13

/-- A join of object components without forbidden bytes is already normal. -/
theorem normalize_join {components : List Bytes} (some : components ≠ [])
    (objects : ∀ component ∈ components, ObjectComponent component)
    (safe : ∀ component ∈ components, ∀ byte ∈ component, Forbidden byte = false) :
    normalize (join components) = .ok (join components) := by
  have counted := length_le_length_join fun component member => (objects component member).nonempty
  have nonempty : join components ≠ [] := by
    have positive := List.length_pos_of_ne_nil some
    exact List.length_pos_iff.mp (by omega)
  have relative : (join components).head? ≠ Option.some 47 := by
    cases components with
    | nil => exact (some rfl).elim
    | cons component rest =>
        obtain ⟨filled, _, _, noSeparator⟩ := objects component List.mem_cons_self
        obtain ⟨first, others, rfl⟩ := List.exists_cons_of_ne_nil filled
        have leads : (join ((first :: others) :: rest)).head? = Option.some first := by
          cases rest <;> rfl
        rw [leads]
        rintro ⟨⟩
        exact noSeparator List.mem_cons_self
  have clean : (join components).find? (fun byte => byte == 0 || byte == 10 || byte == 13) =
      none := by
    refine List.find?_eq_none.mpr fun byte member found => ?_
    rcases mem_join member with rfl | ⟨component, inside, here⟩
    · cases found
    · have allowed := safe component inside byte here
      rw [Forbidden, found] at allowed
      cases allowed
  have cut : pieces (join components).length (join components) = components :=
    pieces_join some (fun component member => (objects component member).noSeparator) (by omega)
  rw [normalize, if_neg nonempty, if_neg relative, clean, cut, objectComponents_self _ objects]
  exact if_neg some

/-- What normalization returns is a join of object components, no longer than
its input. -/
theorem normalize_ok {input value : Bytes} (normal : normalize input = .ok value) :
    ∃ components : List Bytes, components ≠ [] ∧ value = join components ∧
      (∀ component ∈ components, ObjectComponent component) ∧
      (∀ component ∈ components, ∀ byte ∈ component, Forbidden byte = false) ∧
      value.length ≤ input.length := by
  obtain ⟨_, normal⟩ := ite_error_eq_ok.mp normal
  obtain ⟨_, normal⟩ := ite_error_eq_ok.mp normal
  split at normal
  · split at normal <;> cases normal
  · next clean =>
      obtain ⟨components, kept, normal⟩ := bind_eq_ok.mp normal
      obtain ⟨some, normal⟩ := ite_error_eq_ok.mp normal
      cases normal
      obtain ⟨sublist, good⟩ := objectComponents_ok kept
      refine ⟨components, some, rfl, fun component member => ?_,
        fun component member byte inside => ?_, ?_⟩
      · obtain ⟨nonempty, notDot, notDotDot⟩ := good component member
        exact ⟨nonempty, notDot, notDotDot,
          not_mem_of_mem_pieces (Nat.le_refl _) (sublist.subset member)⟩
      · have inInput := mem_join_of_mem (sublist.subset member) inside
        rw [join_pieces] at inInput
        exact Bool.eq_false_iff.mpr (List.find?_eq_none.mp clean byte inInput)
      · have shorter := length_join_le_of_sublist sublist
        rwa [join_pieces] at shorter

/-- Normalizing twice is normalizing once. -/
theorem normalize_idempotent {input value : Bytes} (normal : normalize input = .ok value) :
    normalize value = .ok value := by
  obtain ⟨components, some, rfl, objects, safe, _⟩ := normalize_ok normal
  exact normalize_join some objects safe

end PackagePath

/-- `package_path`: a normalized path. -/
structure PackagePath where
  string : StdString
  normal : PackagePath.normalize string.bytes = .ok string.bytes
deriving DecidableEq

namespace PackagePath

theorem string_inj {a b : PackagePath} (same : a.string = b.string) : a = b := by
  cases a
  cases b
  cases same
  rfl

instance : Less PackagePath := .on PackagePath.string
instance : StrictTotal PackagePath := .on PackagePath.string string_inj

/-- `package_path::parse`. -/
def parse (input : StdString) : Except Failure PackagePath :=
  match normal : normalize input.bytes with
  | .error failure => .error failure
  | .ok value =>
      .ok { string := ⟨value, by
              obtain ⟨_, _, _, _, _, shorter⟩ := normalize_ok normal
              exact Nat.lt_of_le_of_lt shorter input.size_lt⟩
            normal := normalize_idempotent normal }

/-- Parsing the text of a path gives the path back. -/
theorem parse_string (path : PackagePath) : parse path.string = .ok path := by
  unfold parse
  split
  · next failed =>
      rw [path.normal] at failed
      cases failed
  · next value normal =>
      rw [path.normal] at normal
      exact congrArg Except.ok
        (string_inj (StdString.bytes_inj (Except.ok.inj normal).symm))

end PackagePath

end Pkgstate
