import Mathlib.Data.List.Infix

/-!
# Prefix codes

In a code none of whose words stands at the front of another, a stream has one cut only:
into words and a tail that begins with none (`Cut.unique`). A stream of words that is
torn off anywhere is cut into the words that were written whole and a proper front of
the next one (`PrefixFree.cut_front`).
-/

namespace Wire

variable {α : Type} {code : Set (List α)}

/-- No word of the code stands at the front of another. -/
def PrefixFree (code : Set (List α)) : Prop :=
  ∀ first ∈ code, ∀ second ∈ code, first <+: second → first = second

/-- A stream is a sequence of words and a tail that begins with none. -/
structure Cut (code : Set (List α)) (stream : List α) (words : List (List α)) (tail : List α) :
    Prop where
  each : ∀ word ∈ words, word ∈ code
  torn : ∀ word ∈ code, ¬ word <+: tail
  whole : words.flatten ++ tail = stream

variable {stream tail rest : List α} {words others : List (List α)}

/-- A stream that begins with no word is its own tail. -/
theorem Cut.of_torn (torn : ∀ word ∈ code, ¬ word <+: stream) : Cut code stream [] stream where
  each := by simp
  torn := torn
  whole := rfl

/-- A word in front of a stream is the first of its words. -/
theorem Cut.cons {word : List α} (member : word ∈ code) (cut : Cut code stream words tail) :
    Cut code (word ++ stream) (word :: words) tail where
  each := by simpa using ⟨member, cut.each⟩
  torn := cut.torn
  whole := by simp [← cut.whole]

theorem Cut.uncons {word : List α} (cut : Cut code (word ++ stream) (word :: words) tail) :
    Cut code stream words tail where
  each later member := cut.each later (List.mem_cons_of_mem _ member)
  torn := cut.torn
  whole := by simpa using cut.whole

/-- The first word of a stream stands at its front. -/
theorem Cut.front {word : List α} (cut : Cut code stream (word :: words) tail) :
    word <+: stream :=
  ⟨words.flatten ++ tail, by simpa using cut.whole⟩

/-- Every stream can be cut, if no word is empty. -/
theorem exists_cut (nonempty : [] ∉ code) (stream : List α) :
    ∃ words tail, Cut code stream words tail := by
  induction size : stream.length using Nat.strong_induction_on generalizing stream with
  | _ count ih =>
      by_cases begins : ∃ word ∈ code, word <+: stream
      · obtain ⟨word, member, more, rfl⟩ := begins
        have positive : 0 < word.length :=
          List.length_pos_iff.mpr fun empty => nonempty (empty ▸ member)
        have shorter : more.length < count := by
          rw [← size, List.length_append]
          omega
        obtain ⟨words, tail, cut⟩ := ih more.length shorter more rfl
        exact ⟨word :: words, tail, cut.cons member⟩
      · push Not at begins
        exact ⟨[], stream, .of_torn begins⟩

/-- A stream has one cut, if no word stands at the front of another. -/
theorem Cut.unique (free : PrefixFree code) (cut : Cut code stream words tail)
    (other : Cut code stream others rest) : words = others ∧ tail = rest := by
  induction words generalizing stream others with
  | nil =>
      have same : tail = stream := cut.whole
      cases others with
      | nil => exact ⟨rfl, same.trans other.whole.symm⟩
      | cons word others =>
          exact absurd (same ▸ other.front) (cut.torn word (other.each word (by simp)))
  | cons word words ih =>
      cases others with
      | nil =>
          have same : rest = stream := other.whole
          exact absurd (same ▸ cut.front) (other.torn word (cut.each word (by simp)))
      | cons first others =>
          have member := cut.each word (by simp)
          have otherMember := other.each first (by simp)
          have equal : word = first := by
            rcases List.prefix_or_prefix_of_prefix cut.front other.front with front | front
            · exact free word member first otherMember front
            · exact (free first otherMember word member front).symm
          subst equal
          obtain ⟨more, rfl⟩ := cut.front
          obtain ⟨rfl, rfl⟩ := ih cut.uncons other.uncons
          exact ⟨rfl, rfl⟩

/-- What is left of a stream of words that is torn off: some of the first words, and at
most a proper front of the next one. -/
theorem PrefixFree.exists_cut_front (free : PrefixFree code) (nonempty : [] ∉ code)
    (each : ∀ word ∈ words, word ∈ code) (front : stream <+: words.flatten) :
    ∃ others rest, Cut code stream others rest ∧ others <+: words ∧
      (rest ≠ [] → ∃ next, others ++ [next] <+: words ∧ rest <+: next ∧ rest ≠ next) := by
  induction words generalizing stream with
  | nil =>
      obtain rfl := List.prefix_nil.mp front
      refine ⟨[], [], .of_torn fun word member begins => ?_, List.prefix_rfl, by simp⟩
      exact nonempty (List.prefix_nil.mp begins ▸ member)
  | cons word words ih =>
      have member := each word (by simp)
      have later : ∀ later ∈ words, later ∈ code := fun later inWords =>
        each later (List.mem_cons_of_mem _ inWords)
      rw [List.flatten_cons] at front
      by_cases written : word <+: stream
      · -- The first word was written whole.
        obtain ⟨more, rfl⟩ := written
        obtain ⟨others, rest, cut, first, next⟩ := ih later
          ((List.prefix_append_right_inj word).mp front)
        refine ⟨word :: others, rest, cut.cons member, ?_, fun torn => ?_⟩
        · simpa using first
        · obtain ⟨next, whole, part⟩ := next torn
          exact ⟨next, by simpa using whole, part⟩
      · -- The first word was torn, and no word begins what is left of it.
        have part : stream <+: word := by
          rcases List.prefix_or_prefix_of_prefix front (List.prefix_append word _) with
            part | begins
          · exact part
          · exact absurd begins written
        refine ⟨[], stream, .of_torn fun other otherMember begins => ?_, by simp, fun _ => ?_⟩
        · have same := free other otherMember word member (begins.trans part)
          exact written (same ▸ begins)
        · exact ⟨word, by simp, part, fun same => written (same ▸ List.prefix_rfl)⟩

/-- The cut of a torn stream of words. -/
theorem PrefixFree.cut_front (free : PrefixFree code) (nonempty : [] ∉ code)
    (each : ∀ word ∈ words, word ∈ code) (front : stream <+: words.flatten)
    (cut : Cut code stream others rest) :
    others <+: words ∧
      (rest ≠ [] → ∃ next, others ++ [next] <+: words ∧ rest <+: next ∧ rest ≠ next) := by
  obtain ⟨firsts, torn, found, written⟩ := free.exists_cut_front nonempty each front
  obtain ⟨rfl, rfl⟩ := cut.unique free found
  exact written

end Wire
