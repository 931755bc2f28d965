import Pkgstate.Base.LockedUpdate

/-!
# What a call has seen

The state that a call reads is where some front part of the record of changes ends,
and it stays that: the record only grows. So every result of a call comes from a state
that the record leads to (`Reachable.answered`).
-/

namespace LockedUpdate

variable {ι ρ φ σ β τ : Type}

/-- A state at which a front part of the record ends. -/
def Past (durable : σ) (changes : List (Change ι σ)) (state : σ) : Prop :=
  ∃ front, front <+: changes ∧ Chain durable front state

/-- A result that a call comes to from the state it reads. -/
inductive Answers (protocol : Protocol ρ φ σ β τ) (request : ρ) (prior : σ) (result : τ) : Prop
  | declined (seen : φ) : protocol.plan request seen prior = .inl result →
      Answers protocol request prior result
  | concluded {next : σ} (seen : φ) (report : β) : protocol.plan request seen prior = .inr next →
      protocol.conclude request seen prior next report = result →
      Answers protocol request prior result

/-- What a call has seen in each phase. -/
def Traced (protocol : Protocol ρ φ σ β τ) (request : ι → ρ) (durable : σ)
    (changes : List (Change ι σ)) (call : ι) : Phase φ σ β τ → Prop
  | .idle | .acquired _ => True
  | .read _ prior => Past durable changes prior
  | .planned seen prior next | .attempted seen prior next _ =>
      Past durable changes prior ∧ protocol.plan (request call) seen prior = .inr next
  | .finished result | .returned result => protocol.unavailable result ∨
      ∃ prior, Past durable changes prior ∧ Answers protocol (request call) prior result

variable {protocol : Protocol ρ φ σ β τ} {request : ι → ρ} {durable : σ}
  {changes more : List (Change ι σ)} {system next : System ι φ σ β τ}

theorem Past.mono {state : σ} (past : Past durable changes state) (grown : changes <+: more) :
    Past durable more state := by
  obtain ⟨front, cut, chain⟩ := past
  exact ⟨front, cut.trans grown, chain⟩

theorem Traced.mono {call : ι} {phase : Phase φ σ β τ}
    (traced : Traced protocol request durable changes call phase) (grown : changes <+: more) :
    Traced protocol request durable more call phase := by
  cases phase with
  | idle | acquired => trivial
  | read seen prior => exact Past.mono traced grown
  | planned | attempted => exact ⟨traced.1.mono grown, traced.2⟩
  | finished | returned =>
      rcases traced with unavailable | ⟨prior, past, answers⟩
      · exact Or.inl unavailable
      · exact Or.inr ⟨prior, past.mono grown, answers⟩

variable [DecidableEq ι]

/-- A step of one call leaves what the others have seen. -/
theorem traced_update {call : ι} {phase : Phase φ σ β τ}
    (before : ∀ other, Traced protocol request durable changes other (system.phase other))
    (grown : changes <+: more) (traced : Traced protocol request durable more call phase) :
    ∀ other, Traced protocol request durable more other
      (Function.update system.phase call phase other) := by
  intro other
  by_cases here : other = call
  · rw [here, Function.update_self]
    exact traced
  · rw [Function.update_of_ne here]
    exact (before other).mono grown

theorem Step.traced (step : Step protocol request system next)
    (invariant : Invariant protocol request durable system)
    (before : ∀ call,
      Traced protocol request durable system.changes call (system.phase call)) :
    ∀ call, Traced protocol request durable next.changes call (next.phase call) := by
  have seenBy {call : ι} {phase : Phase φ σ β τ} (stands : system.phase call = phase) :
      Traced protocol request durable system.changes call phase :=
    stands ▸ before call
  cases step with
  | refuse result idle unavailable =>
      exact traced_update before List.prefix_rfl (Or.inl unavailable)
  | acquire seen idle free => exact traced_update before List.prefix_rfl trivial
  | read acquired =>
      exact traced_update before List.prefix_rfl ⟨_, List.prefix_rfl, invariant.chain⟩
  | @decline call seen prior result read plan =>
      exact traced_update before List.prefix_rfl
        (Or.inr ⟨prior, seenBy read, .declined seen plan⟩)
  | propose read plan => exact traced_update before List.prefix_rfl ⟨seenBy read, plan⟩
  | apply report ready effect =>
      obtain ⟨past, plan⟩ := seenBy ready
      exact traced_update before (List.prefix_append _ _)
        ⟨past.mono (List.prefix_append _ _), plan⟩
  | miss report ready effect =>
      obtain ⟨past, plan⟩ := seenBy ready
      exact traced_update before List.prefix_rfl ⟨past, plan⟩
  | @conclude call seen prior final report attempted =>
      obtain ⟨past, plan⟩ := seenBy attempted
      exact traced_update before List.prefix_rfl
        (Or.inr ⟨prior, past, .concluded seen report plan rfl⟩)
  | release finished =>
      have traced := seenBy finished
      exact traced_update before List.prefix_rfl traced

theorem Reachable.traced (reached : Reachable protocol request durable system) :
    ∀ call, Traced protocol request durable system.changes call (system.phase call) := by
  induction reached with
  | initial => exact fun _ => trivial
  | step reached step ih => exact step.traced reached.invariant ih

/-- A call that got the lock comes to its result from a state on the record. -/
theorem Reachable.answered {call : ι} {result : τ}
    (reached : Reachable protocol request durable system)
    (returned : system.phase call = .returned result) (available : ¬ protocol.unavailable result) :
    ∃ prior, Past durable system.changes prior ∧
      Answers protocol (request call) prior result := by
  have traced := reached.traced call
  rw [returned] at traced
  exact traced.resolve_left available

end LockedUpdate
