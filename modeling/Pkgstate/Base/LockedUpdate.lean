import Mathlib.Data.List.Nodup
import Mathlib.Logic.Function.Basic
import Mathlib.Logic.Relation

/-!
# Updates under a lock

Any number of calls update one durable state. A call acquires the lock, reads
the state, plans (it finishes there, or names the next state), attempts the
update, concludes from the report of that attempt and releases the lock. The
steps of different calls interleave freely; only the lock keeps them apart.

The record of changes lists every update that took effect. `Invariant` ties it
to the durable state and to where each call stands, and `Reachable.invariant`
carries it along every run: changes form a chain from the initial state, no
call appears twice, and each change is the planned one of the state it replaced.
-/

namespace LockedUpdate

/-- What a report says about the update it reports. -/
inductive Effect
  | applied
  | untouched
  | unknown
deriving DecidableEq

/-- One kind of update: requests `ρ`, observations `φ` made with the lock, states
`σ`, reports `β` of an attempt, results `τ`. -/
structure Protocol (ρ φ σ β τ : Type) where
  /-- Results of a call that does not get the lock. -/
  unavailable : τ → Prop
  plan : ρ → φ → σ → τ ⊕ σ
  effect : β → Effect
  conclude : ρ → φ → σ → σ → β → τ

/-- Where a call stands. -/
inductive Phase (φ σ β τ : Type)
  | idle
  | acquired (seen : φ)
  | read (seen : φ) (prior : σ)
  | planned (seen : φ) (prior next : σ)
  | attempted (seen : φ) (prior next : σ) (report : β)
  | finished (result : τ)
  | returned (result : τ)

/-- An update that took effect. -/
structure Change (ι σ : Type) where
  call : ι
  before : σ
  after : σ

/-- The durable state, the holder of the lock, the calls and the record of
changes. -/
structure System (ι φ σ β τ : Type) where
  durable : σ
  holder : Option ι
  phase : ι → Phase φ σ β τ
  changes : List (Change ι σ)

/-- Nothing has been called yet. -/
def System.initial {ι φ σ β τ : Type} (durable : σ) : System ι φ σ β τ where
  durable
  holder := none
  phase := fun _ => .idle
  changes := []

section Runs

variable {ι ρ φ σ β τ : Type}

/-- One step of one call. An attempt takes effect unless its report excludes it,
and leaves the state alone unless its report excludes that. -/
inductive Step [DecidableEq ι] (protocol : Protocol ρ φ σ β τ) (request : ι → ρ)
    (system : System ι φ σ β τ) : System ι φ σ β τ → Prop
  | refuse {call : ι} (result : τ) : system.phase call = .idle → protocol.unavailable result →
      Step protocol request system { system with
        phase := Function.update system.phase call (.returned result) }
  | acquire {call : ι} (seen : φ) : system.phase call = .idle → system.holder = none →
      Step protocol request system { system with
        holder := some call
        phase := Function.update system.phase call (.acquired seen) }
  | read {call : ι} {seen : φ} : system.phase call = .acquired seen →
      Step protocol request system { system with
        phase := Function.update system.phase call (.read seen system.durable) }
  | decline {call : ι} {seen : φ} {prior : σ} {result : τ} :
      system.phase call = .read seen prior →
      protocol.plan (request call) seen prior = .inl result →
      Step protocol request system { system with
        phase := Function.update system.phase call (.finished result) }
  | propose {call : ι} {seen : φ} {prior next : σ} : system.phase call = .read seen prior →
      protocol.plan (request call) seen prior = .inr next →
      Step protocol request system { system with
        phase := Function.update system.phase call (.planned seen prior next) }
  | apply {call : ι} {seen : φ} {prior next : σ} (report : β) :
      system.phase call = .planned seen prior next → protocol.effect report ≠ .untouched →
      Step protocol request system { system with
        durable := next
        phase := Function.update system.phase call (.attempted seen prior next report)
        changes := system.changes ++ [⟨call, system.durable, next⟩] }
  | miss {call : ι} {seen : φ} {prior next : σ} (report : β) :
      system.phase call = .planned seen prior next → protocol.effect report ≠ .applied →
      Step protocol request system { system with
        phase := Function.update system.phase call (.attempted seen prior next report) }
  | conclude {call : ι} {seen : φ} {prior next : σ} {report : β} :
      system.phase call = .attempted seen prior next report →
      Step protocol request system { system with
        phase := Function.update system.phase call
          (.finished (protocol.conclude (request call) seen prior next report)) }
  | release {call : ι} {result : τ} : system.phase call = .finished result →
      Step protocol request system { system with
        holder := none
        phase := Function.update system.phase call (.returned result) }

/-- The systems that some run reaches. -/
inductive Reachable [DecidableEq ι] (protocol : Protocol ρ φ σ β τ) (request : ι → ρ)
    (durable : σ) : System ι φ σ β τ → Prop
  | initial : Reachable protocol request durable (.initial durable)
  | step {system next : System ι φ σ β τ} : Reachable protocol request durable system →
      Step protocol request system next → Reachable protocol request durable next

/-! ## The invariant -/

/-- Each change starts where the previous one ended. -/
def Chain : σ → List (Change ι σ) → σ → Prop
  | first, [], last => first = last
  | first, change :: rest, last => change.before = first ∧ Chain change.after rest last

/-- No change is the call's. -/
def Silent (changes : List (Change ι σ)) (call : ι) : Prop :=
  ∀ change ∈ changes, change.call ≠ call

/-- What the record holds of a call whose attempt was reported. -/
structure Recorded (changes : List (Change ι σ)) (call : ι) (prior next : σ) (effect : Effect) :
    Prop where
  only : ∀ change ∈ changes, change.call = call → change = ⟨call, prior, next⟩
  applied : effect = .applied → ⟨call, prior, next⟩ ∈ changes
  untouched : effect = .untouched → Silent changes call

/-- How a call came to its result, and what the record holds of it. -/
inductive Settled (protocol : Protocol ρ φ σ β τ) (request : ι → ρ)
    (changes : List (Change ι σ)) (call : ι) (result : τ) : Prop
  | refused : protocol.unavailable result → Silent changes call →
      Settled protocol request changes call result
  | declined (seen : φ) (prior : σ) : protocol.plan (request call) seen prior = .inl result →
      Silent changes call → Settled protocol request changes call result
  | concluded (seen : φ) (prior next : σ) (report : β) :
      protocol.plan (request call) seen prior = .inr next →
      protocol.conclude (request call) seen prior next report = result →
      Recorded changes call prior next (protocol.effect report) →
      Settled protocol request changes call result

/-- What holds of a call in each phase. -/
def Holds (protocol : Protocol ρ φ σ β τ) (request : ι → ρ) (system : System ι φ σ β τ)
    (call : ι) : Phase φ σ β τ → Prop
  | .idle => Silent system.changes call
  | .acquired _ => system.holder = some call ∧ Silent system.changes call
  | .read _ prior =>
      system.holder = some call ∧ prior = system.durable ∧ Silent system.changes call
  | .planned seen prior next => system.holder = some call ∧ prior = system.durable ∧
      protocol.plan (request call) seen prior = .inr next ∧ Silent system.changes call
  | .attempted seen prior next report => system.holder = some call ∧
      protocol.plan (request call) seen prior = .inr next ∧
      Recorded system.changes call prior next (protocol.effect report)
  | .finished result =>
      system.holder = some call ∧ Settled protocol request system.changes call result
  | .returned result => Settled protocol request system.changes call result

/-- The invariant of every run. -/
structure Invariant (protocol : Protocol ρ φ σ β τ) (request : ι → ρ) (durable : σ)
    (system : System ι φ σ β τ) : Prop where
  chain : Chain durable system.changes system.durable
  once : (system.changes.map Change.call).Nodup
  planned : ∀ change ∈ system.changes,
    ∃ seen, protocol.plan (request change.call) seen change.before = .inr change.after
  holds : ∀ call, Holds protocol request system call (system.phase call)

variable {protocol : Protocol ρ φ σ β τ} {request : ι → ρ} {durable : σ}
  {system next : System ι φ σ β τ}

theorem Chain.concat {first last final : σ} {changes : List (Change ι σ)} {call : ι}
    (chain : Chain first changes last) :
    Chain first (changes ++ [⟨call, last, final⟩]) final := by
  induction changes generalizing first with
  | nil =>
      cases chain
      exact ⟨rfl, rfl⟩
  | cons change rest ih =>
      rcases chain with ⟨start, tail⟩
      exact ⟨start, ih tail⟩

/-- What holds of the first state and is kept by every change holds of the last
state, with the changes that led there. -/
theorem Chain.induction {holds : List (Change ι σ) → σ → Prop} {first last : σ}
    {changes : List (Change ι σ)} (chain : Chain first changes last) (start : holds [] first)
    (extend : ∀ earlier, ∀ change ∈ changes, holds earlier change.before →
      holds (earlier ++ [change]) change.after) : holds changes last := by
  have onward : ∀ (rest earlier : List (Change ι σ)) (here : σ), Chain here rest last →
      rest ⊆ changes → holds earlier here → holds (earlier ++ rest) last := by
    intro rest
    induction rest with
    | nil =>
        intro earlier here ended _ held
        cases ended
        rwa [List.append_nil]
    | cons change rest ih =>
        intro earlier here ⟨starts, tail⟩ inside held
        obtain ⟨member, later⟩ := List.cons_subset.mp inside
        have next := ih (earlier ++ [change]) change.after tail later
          (extend earlier change member (starts ▸ held))
        rwa [List.append_assoc] at next
  exact onward changes [] first chain (List.Subset.refl _) start

/-- The last change of a chain ends at the last state. -/
theorem Chain.last {first last : σ} {changes : List (Change ι σ)} {change : Change ι σ}
    (chain : Chain first (changes ++ [change]) last) : change.after = last := by
  induction changes generalizing first with
  | nil => exact chain.2
  | cons head rest ih => exact ih chain.2

/-- Later changes form a chain from where the earlier ones ended. -/
theorem Chain.drop {first middle last : σ} {changes more : List (Change ι σ)}
    (whole : Chain first (changes ++ more) last) (front : Chain first changes middle) :
    Chain middle more last := by
  induction changes generalizing first with
  | nil => exact front ▸ whole
  | cons change rest ih => exact ih whole.2 front.2

theorem Silent.concat {changes : List (Change ι σ)} {call : ι} {change : Change ι σ}
    (silent : Silent changes call) (other : change.call ≠ call) :
    Silent (changes ++ [change]) call := by
  intro recorded member
  rcases List.mem_append.mp member with old | new
  · exact silent recorded old
  · cases List.mem_singleton.mp new
    exact other

theorem Recorded.concat {changes : List (Change ι σ)} {call : ι} {prior final : σ}
    {effect : Effect} {change : Change ι σ} (recorded : Recorded changes call prior final effect)
    (other : change.call ≠ call) : Recorded (changes ++ [change]) call prior final effect := by
  constructor
  · intro another member same
    rcases List.mem_append.mp member with old | new
    · exact recorded.only another old same
    · cases List.mem_singleton.mp new
      exact absurd same other
  · intro applied
    exact List.mem_append_left _ (recorded.applied applied)
  · intro untouched
    exact (recorded.untouched untouched).concat other

theorem Settled.concat {changes : List (Change ι σ)} {call : ι} {result : τ}
    {change : Change ι σ} (settled : Settled protocol request changes call result)
    (other : change.call ≠ call) : Settled protocol request (changes ++ [change]) call result := by
  cases settled with
  | refused unavailable silent => exact .refused unavailable (silent.concat other)
  | declined seen prior plan silent => exact .declined seen prior plan (silent.concat other)
  | concluded seen prior final report plan result recorded =>
      exact .concluded seen prior final report plan result (recorded.concat other)

/-- A call keeps its place while the lock and the state it relies on stay, and the
record grows by the changes of other calls only. -/
theorem Holds.frame {call : ι} {phase : Phase φ σ β τ}
    (held : Holds protocol request system call phase)
    (guarded : system.holder = some call →
      next.holder = some call ∧ next.durable = system.durable)
    (grown : next.changes = system.changes ∨
      ∃ change, next.changes = system.changes ++ [change] ∧ change.call ≠ call) :
    Holds protocol request next call phase := by
  have silent (before : Silent system.changes call) : Silent next.changes call := by
    rcases grown with same | ⟨change, more, other⟩
    · exact same ▸ before
    · exact more ▸ before.concat other
  have recorded {prior final : σ} {effect : Effect}
      (before : Recorded system.changes call prior final effect) :
      Recorded next.changes call prior final effect := by
    rcases grown with same | ⟨change, more, other⟩
    · exact same ▸ before
    · exact more ▸ before.concat other
  have settled {result : τ} (before : Settled protocol request system.changes call result) :
      Settled protocol request next.changes call result := by
    rcases grown with same | ⟨change, more, other⟩
    · exact same ▸ before
    · exact more ▸ before.concat other
  cases phase with
  | idle => exact silent held
  | acquired seen => exact ⟨(guarded held.1).1, silent held.2⟩
  | read seen prior =>
      rcases held with ⟨holder, same, quiet⟩
      exact ⟨(guarded holder).1, same.trans (guarded holder).2.symm, silent quiet⟩
  | planned seen prior final =>
      rcases held with ⟨holder, same, plan, quiet⟩
      exact ⟨(guarded holder).1, same.trans (guarded holder).2.symm, plan, silent quiet⟩
  | attempted seen prior final report =>
      rcases held with ⟨holder, plan, record⟩
      exact ⟨(guarded holder).1, plan, recorded record⟩
  | finished result => exact ⟨(guarded held.1).1, settled held.2⟩
  | returned result => exact settled held

/-- Nobody else holds the lock that `call` holds. -/
theorem guarded_of_holder {call : ι} (holder : system.holder = some call) :
    ∀ other, other ≠ call → system.holder = some other →
      next.holder = some other ∧ next.durable = system.durable := by
  intro other different held
  rw [holder] at held
  exact absurd (Option.some.inj held).symm different

/-- What the invariant says of a call in the phase it is in. -/
theorem Invariant.held {call : ι} {phase : Phase φ σ β τ}
    (before : Invariant protocol request durable system) (stands : system.phase call = phase) :
    Holds protocol request system call phase :=
  stands ▸ before.holds call

variable [DecidableEq ι]

/-- The other calls keep their places in a step of `call`, and `call` moves to
its new phase. -/
theorem holds_update {call : ι} {phase : Phase φ σ β τ}
    (holds : ∀ other, Holds protocol request system other (system.phase other))
    (moved : next.phase = Function.update system.phase call phase)
    (mine : Holds protocol request next call phase)
    (guarded : ∀ other, other ≠ call → system.holder = some other →
      next.holder = some other ∧ next.durable = system.durable)
    (grown : next.changes = system.changes ∨
      ∃ change, next.changes = system.changes ++ [change] ∧ change.call = call) :
    ∀ other, Holds protocol request next other (next.phase other) := by
  intro other
  by_cases same : other = call
  · rw [moved, same, Function.update_self]
    exact mine
  · rw [moved, Function.update_of_ne same]
    refine (holds other).frame (guarded other same) (grown.imp_right ?_)
    intro ⟨change, more, here⟩
    exact ⟨change, more, fun there => same (there.symm.trans here)⟩

/-- A step of `call` without a change keeps the invariant if it keeps what the
other calls rely on and `call` has what its new phase needs. -/
theorem Invariant.quiet {call : ι} {phase : Phase φ σ β τ}
    (before : Invariant protocol request durable system)
    (changes : next.changes = system.changes) (same : next.durable = system.durable)
    (moved : next.phase = Function.update system.phase call phase)
    (guarded : ∀ other, other ≠ call → system.holder = some other →
      next.holder = some other ∧ next.durable = system.durable)
    (mine : Holds protocol request next call phase) :
    Invariant protocol request durable next where
  chain := by
    rw [changes, same]
    exact before.chain
  once := by
    rw [changes]
    exact before.once
  planned := by
    rw [changes]
    exact before.planned
  holds := holds_update before.holds moved mine guarded (Or.inl changes)

/-- The change of a planned call keeps the invariant: the state it replaces is
the one that the call planned on, and the record had no change of the call. -/
theorem Invariant.apply {call : ι} {seen : φ} {prior final : σ} {report : β}
    (before : Invariant protocol request durable system)
    (ready : system.phase call = .planned seen prior final)
    (effect : protocol.effect report ≠ .untouched) :
    Invariant protocol request durable { system with
      durable := final
      phase := Function.update system.phase call (.attempted seen prior final report)
      changes := system.changes ++ [⟨call, system.durable, final⟩] } := by
  obtain ⟨holder, rfl, plan, silent⟩ := before.held ready
  refine ⟨before.chain.concat, ?_, ?_, holds_update before.holds rfl ?_ (guarded_of_holder holder)
    (Or.inr ⟨_, rfl, rfl⟩)⟩
  · rw [List.map_append, List.map_singleton]
    refine List.nodup_append.mpr ⟨before.once, List.nodup_singleton _, ?_⟩
    intro recorded member other single
    rcases List.mem_map.mp member with ⟨change, old, rfl⟩
    rw [List.mem_singleton.mp single]
    exact silent change old
  · intro change member
    rcases List.mem_append.mp member with old | new
    · exact before.planned change old
    · cases List.mem_singleton.mp new
      exact ⟨seen, plan⟩
  · refine ⟨holder, plan, ⟨?_, ?_, ?_⟩⟩
    · intro change member same
      rcases List.mem_append.mp member with old | new
      · exact absurd same (silent change old)
      · exact List.mem_singleton.mp new
    · intro _
      exact List.mem_append_right _ (List.mem_singleton_self _)
    · intro untouched
      exact absurd untouched effect

/-- A step keeps the invariant. -/
theorem Step.invariant (step : Step protocol request system next)
    (before : Invariant protocol request durable system) :
    Invariant protocol request durable next := by
  cases step with
  | @refuse call result idle unavailable =>
      refine before.quiet rfl rfl rfl ?_ ?_
      · intro other different held
        exact ⟨held, rfl⟩
      · exact .refused unavailable (before.held idle)
  | @acquire call seen idle free =>
      refine before.quiet rfl rfl rfl ?_ ?_
      · intro other different held
        rw [free] at held
        cases held
      · exact ⟨rfl, before.held idle⟩
  | @read call seen acquired =>
      obtain ⟨holder, silent⟩ := before.held acquired
      refine before.quiet rfl rfl rfl (guarded_of_holder holder) ?_
      exact ⟨holder, rfl, silent⟩
  | @decline call seen prior result read plan =>
      obtain ⟨holder, _, silent⟩ := before.held read
      refine before.quiet rfl rfl rfl (guarded_of_holder holder) ?_
      exact ⟨holder, .declined seen prior plan silent⟩
  | @propose call seen prior final read plan =>
      obtain ⟨holder, same, silent⟩ := before.held read
      refine before.quiet rfl rfl rfl (guarded_of_holder holder) ?_
      exact ⟨holder, same, plan, silent⟩
  | @apply call seen prior final report ready effect => exact before.apply ready effect
  | @miss call seen prior final report ready effect =>
      obtain ⟨holder, _, plan, silent⟩ := before.held ready
      refine before.quiet rfl rfl rfl (guarded_of_holder holder) ?_
      refine ⟨holder, plan, ⟨?_, ?_, ?_⟩⟩
      · intro change member same
        exact absurd same (silent change member)
      · intro applied
        exact absurd applied effect
      · intro _
        exact silent
  | @conclude call seen prior final report attempted =>
      obtain ⟨holder, plan, recorded⟩ := before.held attempted
      refine before.quiet rfl rfl rfl (guarded_of_holder holder) ?_
      exact ⟨holder, .concluded seen prior final report plan rfl recorded⟩
  | @release call result finished =>
      obtain ⟨holder, settled⟩ := before.held finished
      exact before.quiet rfl rfl rfl (guarded_of_holder holder) settled

/-- Every run keeps the invariant. -/
theorem Reachable.invariant (reached : Reachable protocol request durable system) :
    Invariant protocol request durable system := by
  induction reached with
  | initial =>
      refine ⟨rfl, List.nodup_nil, ?_, ?_⟩
      · intro change member
        exact absurd member List.not_mem_nil
      · intro call change member
        exact absurd member List.not_mem_nil
  | step _ step ih => exact step.invariant ih

/-- An undisturbed call runs to its end and changes the state as it planned. -/
theorem Reachable.complete {call : ι} {seen : φ} {final : σ} {report : β}
    (reached : Reachable protocol request durable system) (idle : system.phase call = .idle)
    (free : system.holder = none)
    (plan : protocol.plan (request call) seen system.durable = .inr final)
    (effect : protocol.effect report ≠ .untouched) :
    ∃ done, Reachable protocol request durable done ∧ done.durable = final ∧
      done.holder = none ∧ done.changes = system.changes ++ [⟨call, system.durable, final⟩] ∧
      done.phase = Function.update system.phase call
        (.returned (protocol.conclude (request call) seen system.durable final report)) := by
  have acquired := reached.step (.acquire seen idle free)
  have read := acquired.step (.read (Function.update_self ..))
  have planned := read.step (.propose (Function.update_self ..) plan)
  have attempted := planned.step (.apply report (Function.update_self ..) effect)
  have finished := attempted.step (.conclude (Function.update_self ..))
  have returned := finished.step (.release (Function.update_self ..))
  simp only [Function.update_idem] at returned
  exact ⟨_, returned, rfl, rfl, rfl, rfl⟩

/-- A step that alters the durable state records the change it makes. -/
theorem Step.recorded (step : Step protocol request system next)
    (altered : next.durable ≠ system.durable) :
    ∃ change, next.changes = system.changes ++ [change] ∧ change.before = system.durable ∧
      change.after = next.durable := by
  cases step with
  | apply report ready effect => exact ⟨_, rfl, rfl, rfl⟩
  | refuse | acquire | read | decline | propose | miss | conclude | release =>
      exact absurd rfl altered

/-! ## While nothing else changes -/

/-- A step records a change or leaves the state alone. -/
theorem Step.changes (step : Step protocol request system next) :
    (next.changes = system.changes ∧ next.durable = system.durable) ∨
      ∃ change, next.changes = system.changes ++ [change] := by
  cases step with
  | apply report ready effect => exact Or.inr ⟨_, rfl⟩
  | refuse | acquire | read | decline | propose | miss | conclude | release =>
      exact Or.inl ⟨rfl, rfl⟩

/-- The systems that the runs from one system reach. -/
abbrev Later (protocol : Protocol ρ φ σ β τ) (request : ι → ρ)
    (system next : System ι φ σ β τ) : Prop :=
  Relation.ReflTransGen (Step protocol request) system next

theorem changes_grow (run : Later protocol request system next) :
    system.changes <+: next.changes := by
  induction run with
  | refl => exact List.prefix_rfl
  | tail _ step ih =>
      rcases step.changes with ⟨same, _⟩ | ⟨change, more⟩
      · exact same ▸ ih
      · rw [more]
        exact ih.trans (List.prefix_append _ _)

/-- Where a call stands that reads `durable`, if every plan on that state
declines. -/
def Declining (protocol : Protocol ρ φ σ β τ) (request : ι → ρ) (durable : σ) (call : ι) :
    Phase φ σ β τ → Prop
  | .idle | .acquired _ => True
  | .read _ prior => prior = durable
  | .planned _ _ _ | .attempted _ _ _ _ => False
  | .finished result | .returned result => protocol.unavailable result ∨
      ∃ seen, protocol.plan (request call) seen durable = .inl result

/-- A step without a change keeps a call declining. -/
theorem Step.declining (step : Step protocol request system next) {call : ι}
    (quiet : next.changes = system.changes)
    (declines : ∀ seen final, protocol.plan (request call) seen system.durable ≠ .inr final)
    (before : Declining protocol request system.durable call (system.phase call)) :
    next.durable = system.durable ∧
      Declining protocol request next.durable call (next.phase call) := by
  have update {mover : ι} {phase : Phase φ σ β τ}
      (mine : mover = call → Declining protocol request system.durable call phase) :
      Declining protocol request system.durable call
        (Function.update system.phase mover phase call) := by
    by_cases same : mover = call
    · cases same
      rw [Function.update_self]
      exact mine rfl
    · rw [Function.update_of_ne fun other => same other.symm]
      exact before
  cases step with
  | @refuse mover result idle unavailable => exact ⟨rfl, update fun _ => Or.inl unavailable⟩
  | @acquire mover seen idle free => exact ⟨rfl, update fun _ => trivial⟩
  | @read mover seen acquired => exact ⟨rfl, update fun _ => rfl⟩
  | @decline mover seen prior result read plan =>
      refine ⟨rfl, update fun same => Or.inr ⟨seen, ?_⟩⟩
      rw [same] at read plan
      rw [read] at before
      cases before
      exact plan
  | @propose mover seen prior final read plan =>
      refine ⟨rfl, update fun same => ?_⟩
      rw [same] at read plan
      rw [read] at before
      cases before
      exact declines seen final plan
  | @apply mover seen prior final report ready effect =>
      exact absurd (congrArg List.length quiet) (by simp)
  | @miss mover seen prior final report ready effect =>
      refine ⟨rfl, update fun same => ?_⟩
      rw [← same, ready] at before
      exact before
  | @conclude mover seen prior final report attempted =>
      refine ⟨rfl, update fun same => ?_⟩
      rw [← same, attempted] at before
      exact before.elim
  | @release mover result finished =>
      refine ⟨rfl, update fun same => ?_⟩
      rw [← same, finished] at before
      rw [← same]
      exact before

/-- A call that begins on a state where every plan declines goes on to decline,
as long as no other call changes the state. -/
theorem declining_of_later (run : Later protocol request system next) {call : ι}
    (idle : system.phase call = .idle)
    (declines : ∀ seen final, protocol.plan (request call) seen system.durable ≠ .inr final)
    (quiet : next.changes = system.changes) :
    next.durable = system.durable ∧
      Declining protocol request system.durable call (next.phase call) := by
  induction run with
  | refl =>
      rw [idle]
      exact ⟨rfl, trivial⟩
  | @tail middle next earlier step ih =>
      have still : middle.changes = system.changes := by
        rcases step.changes with ⟨same, _⟩ | ⟨change, more⟩
        · exact same.symm.trans quiet
        · have grown := (changes_grow earlier).length_le
          have lengths := congrArg List.length (more.symm.trans quiet)
          simp only [List.length_append, List.length_singleton] at lengths
          omega
      obtain ⟨durable, declining⟩ := ih still
      rw [← durable] at declines declining
      obtain ⟨same, moved⟩ := step.declining (quiet.trans still.symm) declines declining
      rw [same, durable] at moved
      exact ⟨same.trans durable, moved⟩

end Runs

end LockedUpdate
