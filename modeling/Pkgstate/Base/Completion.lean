import Mathlib.Algebra.BigOperators.Group.Finset.Basic
import Mathlib.Algebra.Order.BigOperators.Group.Finset
import Mathlib.Data.Fintype.Card
import Pkgstate.Base.Linearization

/-!
# Locked updates complete

Calls that wait for the lock cannot hold each other up: the holder of the lock
can always take its next step, and a free lock can be taken (`Reachable.progress`).
Each step brings its call nearer to its return, so no run goes on for ever
(`Run.length_le`), and a run that cannot go on has returned from every call.
-/

namespace LockedUpdate

variable {ι ρ φ σ β τ : Type}

/-- How many steps a call has left at most. -/
def Phase.left : Phase φ σ β τ → Nat
  | .idle => 6
  | .acquired _ => 5
  | .read _ _ => 4
  | .planned _ _ _ => 3
  | .attempted _ _ _ _ => 2
  | .finished _ => 1
  | .returned _ => 0

/-- The call has the lock and has not released it. -/
def Phase.Locked : Phase φ σ β τ → Prop
  | .idle | .returned _ => False
  | .acquired _ | .read _ _ | .planned _ _ _ | .attempted _ _ _ _ | .finished _ => True

variable {protocol : Protocol ρ φ σ β τ} {request : ι → ρ} {durable : σ}
  {system next : System ι φ σ β τ}

variable [DecidableEq ι]

/-- A step moves one call, and brings it nearer to its return. -/
theorem Step.moves (step : Step protocol request system next) :
    ∃ call phase, next.phase = Function.update system.phase call phase ∧
      phase.left < (system.phase call).left := by
  cases step with
  | refuse result idle => exact ⟨_, _, rfl, idle ▸ (by decide : 0 < 6)⟩
  | acquire seen idle => exact ⟨_, _, rfl, idle ▸ (by decide : 5 < 6)⟩
  | read acquired => exact ⟨_, _, rfl, acquired ▸ (by decide : 4 < 5)⟩
  | decline read => exact ⟨_, _, rfl, read ▸ (by decide : 1 < 4)⟩
  | propose read => exact ⟨_, _, rfl, read ▸ (by decide : 3 < 4)⟩
  | apply report ready => exact ⟨_, _, rfl, ready ▸ (by decide : 2 < 3)⟩
  | miss report ready => exact ⟨_, _, rfl, ready ▸ (by decide : 2 < 3)⟩
  | conclude attempted => exact ⟨_, _, rfl, attempted ▸ (by decide : 1 < 2)⟩
  | release finished => exact ⟨_, _, rfl, finished ▸ (by decide : 0 < 1)⟩

/-- Only a call between its acquisition and its release is the holder. -/
theorem Step.locked (step : Step protocol request system next)
    (before : ∀ call, system.holder = some call → (system.phase call).Locked) :
    ∀ call, next.holder = some call → (next.phase call).Locked := by
  have update {mover : ι} {phase : Phase φ σ β τ} (locked : phase.Locked) (call : ι)
      (held : system.holder = some call) :
      (Function.update system.phase mover phase call).Locked := by
    by_cases same : call = mover
    · rw [same, Function.update_self]
      exact locked
    · rw [Function.update_of_ne same]
      exact before call held
  cases step with
  | @refuse mover result idle unavailable =>
      intro call held
      have other : call ≠ mover := by
        rintro rfl
        have locked := before call held
        rw [idle] at locked
        exact locked
      change (Function.update system.phase mover (.returned result) call).Locked
      rw [Function.update_of_ne other]
      exact before call held
  | @acquire mover seen idle free =>
      intro call held
      cases held
      change (Function.update system.phase mover (.acquired seen) mover).Locked
      rw [Function.update_self]
      trivial
  | read | decline | propose | apply | miss | conclude => exact update trivial
  | release finished =>
      intro call held
      cases held

theorem Reachable.locked (reached : Reachable protocol request durable system) :
    ∀ call, system.holder = some call → (system.phase call).Locked := by
  induction reached with
  | initial =>
      intro call held
      cases held
  | step _ step ih => exact step.locked ih

/-- The holder of the lock can take its next step. -/
theorem exists_step_of_locked [Nonempty β] {call : ι} (locked : (system.phase call).Locked) :
    ∃ next, Step protocol request system next := by
  cases stands : system.phase call with
  | idle =>
      rw [stands] at locked
      exact locked.elim
  | acquired seen => exact ⟨_, .read stands⟩
  | read seen prior =>
      cases plan : protocol.plan (request call) seen prior with
      | inl result => exact ⟨_, .decline stands plan⟩
      | inr final => exact ⟨_, .propose stands plan⟩
  | planned seen prior final =>
      obtain ⟨report⟩ := ‹Nonempty β›
      by_cases untouched : protocol.effect report = .untouched
      · refine ⟨_, .miss report stands ?_⟩
        rw [untouched]
        exact Effect.noConfusion
      · exact ⟨_, .apply report stands untouched⟩
  | attempted seen prior final report => exact ⟨_, .conclude stands⟩
  | finished result => exact ⟨_, .release stands⟩
  | returned result =>
      rw [stands] at locked
      exact locked.elim

/-- While a call has not returned, some call can take a step. -/
theorem Reachable.progress [Nonempty φ] [Nonempty β]
    (reached : Reachable protocol request durable system) (call : ι)
    (running : ∀ result, system.phase call ≠ .returned result) :
    ∃ next, Step protocol request system next := by
  cases held : system.holder with
  | some holder => exact exists_step_of_locked (reached.locked holder held)
  | none =>
      -- The lock is free: a call that holds it in some phase would be the holder.
      have holds := reached.invariant.holds call
      cases stands : system.phase call with
      | idle =>
          obtain ⟨seen⟩ := ‹Nonempty φ›
          exact ⟨_, .acquire seen stands held⟩
      | returned result => exact absurd stands (running result)
      | acquired | read | planned | attempted | finished =>
          rw [stands] at holds
          have holder := holds.1
          rw [held] at holder
          cases holder

/-- A system where nothing can happen has returned from every call, and the lock
is free. -/
theorem Reachable.returned_of_stuck [Nonempty φ] [Nonempty β]
    (reached : Reachable protocol request durable system)
    (stuck : ∀ next, ¬ Step protocol request system next) :
    system.holder = none ∧ ∀ call, ∃ result, system.phase call = .returned result := by
  constructor
  · cases held : system.holder with
    | none => rfl
    | some holder =>
        obtain ⟨next, step⟩ := exists_step_of_locked (reached.locked holder held)
        exact absurd step (stuck next)
  · intro call
    by_contra running
    obtain ⟨next, step⟩ := reached.progress call
      fun result returned => running ⟨result, returned⟩
    exact stuck next step

/-! ## Whole calls -/

theorem Reachable.later (reached : Reachable protocol request durable system)
    (run : Later protocol request system next) : Reachable protocol request durable next := by
  induction run with
  | refl => exact reached
  | tail _ step ih => exact ih.step step

theorem Reachable.later_initial (reached : Reachable protocol request durable system) :
    Later protocol request (.initial durable) system := by
  induction reached with
  | initial => exact .refl
  | step _ step ih => exact ih.tail step

/-- An undisturbed call that declines returns and changes nothing. -/
theorem exists_declined {call : ι} {seen : φ} {result : τ} (idle : system.phase call = .idle)
    (free : system.holder = none)
    (plan : protocol.plan (request call) seen system.durable = .inl result) :
    ∃ done, Later protocol request system done ∧ done.durable = system.durable ∧
      done.holder = none ∧ done.changes = system.changes ∧
      done.phase = Function.update system.phase call (.returned result) := by
  have acquired : Later protocol request system _ := .single (.acquire seen idle free)
  have read := acquired.tail (.read (Function.update_self ..))
  have finished := read.tail (.decline (Function.update_self ..) plan)
  have returned := finished.tail (.release (Function.update_self ..))
  simp only [Function.update_idem] at returned
  exact ⟨_, returned, rfl, rfl, rfl, rfl⟩

/-- Calls that have not begun can make the changes they plan, one after the other. -/
theorem Reachable.follow {report : β} (effect : protocol.effect report ≠ .untouched)
    {changes : List (Change ι σ)} {last : σ}
    (planned : ∀ change ∈ changes,
      ∃ seen, protocol.plan (request change.call) seen change.before = .inr change.after)
    (once : (changes.map Change.call).Nodup)
    (reached : Reachable protocol request durable system) (free : system.holder = none)
    (idle : ∀ change ∈ changes, system.phase change.call = .idle)
    (chain : Chain system.durable changes last) :
    ∃ done, Reachable protocol request durable done ∧ done.durable = last ∧
      done.changes = system.changes ++ changes := by
  induction changes generalizing system with
  | nil => exact ⟨system, reached, chain, (List.append_nil _).symm⟩
  | cons change rest ih =>
      obtain ⟨starts, restChain⟩ := chain
      obtain ⟨alone, restOnce⟩ := List.nodup_cons.mp once
      obtain ⟨seen, plan⟩ := planned change List.mem_cons_self
      rw [starts] at plan
      obtain ⟨next, nextReached, durable, nextFree, changes, phase⟩ :=
        reached.complete (idle change List.mem_cons_self) free plan effect
      have nextIdle : ∀ other ∈ rest, next.phase other.call = .idle := by
        intro other later
        have apart : other.call ≠ change.call := by
          intro same
          exact alone (same ▸ List.mem_map_of_mem later)
        rw [phase, Function.update_of_ne apart]
        exact idle other (List.mem_cons_of_mem _ later)
      obtain ⟨done, doneReached, doneDurable, recorded⟩ :=
        ih (fun other later => planned other (List.mem_cons_of_mem _ later)) restOnce
          nextReached nextFree nextIdle (durable ▸ restChain)
      refine ⟨done, doneReached, doneDurable, ?_⟩
      rw [recorded, changes, ← starts, List.append_assoc]
      rfl

/-- The records of the runs are the chains of planned changes, each call's once. -/
theorem reachable_changes_iff (applies : ∃ report, protocol.effect report ≠ .untouched)
    {changes : List (Change ι σ)} {last : σ} :
    (∃ done, Reachable protocol request durable done ∧ done.changes = changes ∧
        done.durable = last) ↔
      Chain durable changes last ∧ (changes.map Change.call).Nodup ∧
      ∀ change ∈ changes,
        ∃ seen, protocol.plan (request change.call) seen change.before = .inr change.after := by
  constructor
  · rintro ⟨done, reached, rfl, rfl⟩
    have invariant := reached.invariant
    exact ⟨invariant.chain, invariant.once, invariant.planned⟩
  · rintro ⟨chain, once, planned⟩
    obtain ⟨report, effect⟩ := applies
    obtain ⟨done, reached, ends, recorded⟩ :=
      Reachable.follow effect planned once .initial rfl (fun _ _ => rfl) chain
    exact ⟨done, reached, recorded, ends⟩

/-- Nothing happens once every call has returned. -/
theorem not_step_of_returned (ended : ∀ call, ∃ result, system.phase call = .returned result) :
    ¬ Step protocol request system next := by
  intro step
  obtain ⟨call, phase, _, nearer⟩ := step.moves
  obtain ⟨result, returned⟩ := ended call
  rw [returned] at nearer
  exact Nat.not_lt_zero _ nearer

/-! ## Runs end -/

variable [Fintype ι]

/-- A step leaves fewer steps to take. -/
theorem Step.left_lt (step : Step protocol request system next) :
    ∑ call, (next.phase call).left < ∑ call, (system.phase call).left := by
  obtain ⟨mover, phase, moved, nearer⟩ := step.moves
  apply Finset.sum_lt_sum
  · intro call _
    rw [moved]
    by_cases same : call = mover
    · rw [same, Function.update_self]
      exact nearer.le
    · rw [Function.update_of_ne same]
  · refine ⟨mover, Finset.mem_univ mover, ?_⟩
    rw [moved, Function.update_self]
    exact nearer

/-- A run has at most six steps for each call. -/
theorem Run.length_le {steps : Nat} {run : Nat → System ι φ σ β τ}
    (ran : Run protocol request durable steps run) : steps ≤ 6 * Fintype.card ι := by
  have bound : steps + ∑ call, ((run steps).phase call).left ≤ 6 * Fintype.card ι := by
    induction steps with
    | zero =>
        have idle (call : ι) : ((run 0).phase call).left = 6 := by
          rw [ran.start]
          rfl
        rw [Finset.sum_const_nat fun call _ => idle call, Finset.card_univ]
        omega
    | succ steps ih =>
        have earlier := ih (ran.shorter (Nat.le_succ steps))
        have fewer := (ran.step steps (Nat.lt_succ_self steps)).left_lt
        omega
  omega

end LockedUpdate
