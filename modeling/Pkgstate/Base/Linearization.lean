import Pkgstate.Base.LockedUpdate

/-!
# Locked updates are linearizable

The steps of different calls interleave, but every run has the results and the
durable state of a run in which each call is one indivisible step. A call takes
its place in that order when it is refused, when it declines and when its attempt
is reported (`Step.linearizes`); later steps only append to the order
(`linearizable`), so a call that returned before another began comes before it.
-/

namespace LockedUpdate

variable {ι ρ φ σ β τ : Type}

/-! ## Calls one at a time -/

/-- A whole call as one step from the state it finds, to its result and the state
it leaves. -/
inductive Atomic (protocol : Protocol ρ φ σ β τ) (request : ι → ρ) (call : ι) (before : σ) :
    τ → σ → Prop
  | refused {result : τ} : protocol.unavailable result →
      Atomic protocol request call before result before
  | declined {result : τ} (seen : φ) : protocol.plan (request call) seen before = .inl result →
      Atomic protocol request call before result before
  | applied {next : σ} (seen : φ) (report : β) :
      protocol.plan (request call) seen before = .inr next →
      protocol.effect report ≠ .untouched →
      Atomic protocol request call before
        (protocol.conclude (request call) seen before next report) next
  | missed {next : σ} (seen : φ) (report : β) :
      protocol.plan (request call) seen before = .inr next →
      protocol.effect report ≠ .applied →
      Atomic protocol request call before
        (protocol.conclude (request call) seen before next report) before

/-- Calls one after the other, with their results. -/
inductive Serial (runs : ι → σ → τ → σ → Prop) (first : σ) : List (ι × τ) → σ → Prop
  | nil : Serial runs first [] first
  | concat {log : List (ι × τ)} {last next : σ} {call : ι} {result : τ} :
      Serial runs first log last → runs call last result next →
      Serial runs first (log ++ [(call, result)]) next

/-- Calls one at a time are calls of a simpler object, where each of them is one from the
states that are admitted. -/
theorem Serial.simulate {α υ : Type} {runs : ι → σ → τ → σ → Prop} {others : ι → α → υ → α → Prop}
    {view : σ → α} {told : τ → υ} {admitted : σ → Prop} {first last : σ} {log : List (ι × τ)}
    (serial : Serial runs first log last) (start : admitted first)
    (simulates : ∀ call before result after, admitted before → runs call before result after →
      admitted after ∧ others call (view before) (told result) (view after)) :
    admitted last ∧
      Serial others (view first) (log.map fun entry => (entry.1, told entry.2)) (view last) := by
  induction serial with
  | nil => exact ⟨start, .nil⟩
  | concat _ ran ih =>
      obtain ⟨here, earlier⟩ := ih
      obtain ⟨next, call⟩ := simulates _ _ _ _ here ran
      rw [List.map_append]
      exact ⟨next, .concat earlier call⟩

/-- The calls of an order that matter to others: the rest leave the state alone. -/
theorem Serial.filterMap {υ : Type} {runs : ι → σ → τ → σ → Prop} {others : ι → σ → υ → σ → Prop}
    {first last : σ} {log : List (ι × τ)} {pick : τ → Option υ}
    (serial : Serial runs first log last)
    (picked : ∀ call before result after, (call, result) ∈ log →
      runs call before result after →
      (∃ kept, pick result = some kept ∧ others call before kept after) ∨
        pick result = none ∧ after = before) :
    Serial others first (log.filterMap fun entry => (pick entry.2).map (Prod.mk entry.1))
      last := by
  induction serial with
  | nil => exact .nil
  | @concat log last next call result _ ran ih =>
      have earlier := ih fun other before value after member =>
        picked other before value after (List.mem_append_left _ member)
      rw [List.filterMap_append]
      rcases picked call last result next (List.mem_append_right _ (List.mem_singleton_self _)) ran
        with ⟨kept, here, runs⟩ | ⟨silent, rfl⟩
      · simp only [List.filterMap_cons, List.filterMap_nil, here, Option.map_some]
        exact .concat earlier runs
      · simp only [List.filterMap_cons, List.filterMap_nil, silent, Option.map_none,
          List.append_nil]
        exact earlier

theorem map_fst_filterMap_sublist {υ : Type} (pick : τ → Option υ) (log : List (ι × τ)) :
    ((log.filterMap fun entry => (pick entry.2).map (Prod.mk entry.1)).map Prod.fst).Sublist
      (log.map Prod.fst) := by
  induction log with
  | nil => exact List.Sublist.refl _
  | cons entry rest ih =>
      cases kept : pick entry.2 with
      | none =>
          rw [List.filterMap_cons_none (by rw [kept, Option.map_none])]
          exact ih.cons _
      | some value =>
          rw [List.filterMap_cons_some (by rw [kept, Option.map_some])]
          exact ih.cons_cons _

/-! ## Where the calls of a run take their places -/

/-- The result of a call that has taken its place: the reported attempt fixes it. -/
def settledResult (protocol : Protocol ρ φ σ β τ) (request : ι → ρ) (call : ι) :
    Phase φ σ β τ → Option τ
  | .idle | .acquired _ | .read _ _ | .planned _ _ _ => none
  | .attempted seen prior next report =>
      some (protocol.conclude (request call) seen prior next report)
  | .finished result | .returned result => some result

/-- An order of the calls that have a result. One at a time in this order, they
have the results and leave the state of the system. -/
structure Linearizes (protocol : Protocol ρ φ σ β τ) (request : ι → ρ) (durable : σ)
    (system : System ι φ σ β τ) (log : List (ι × τ)) : Prop where
  serial : Serial (Atomic protocol request) durable log system.durable
  once : (log.map Prod.fst).Nodup
  results : ∀ call result, (call, result) ∈ log ↔
    settledResult protocol request call (system.phase call) = some result

variable {protocol : Protocol ρ φ σ β τ} {request : ι → ρ} {durable : σ}
  {system next : System ι φ σ β τ} {log : List (ι × τ)}

theorem Linearizes.not_mem {call : ι} (linear : Linearizes protocol request durable system log)
    (unsettled : settledResult protocol request call (system.phase call) = none) :
    call ∉ log.map Prod.fst := by
  intro member
  obtain ⟨⟨other, result⟩, inLog, rfl⟩ := List.mem_map.mp member
  have settled := (linear.results other result).mp inLog
  rw [unsettled] at settled
  cases settled

theorem Linearizes.mem_of_returned {call : ι} {result : τ}
    (linear : Linearizes protocol request durable system log)
    (returned : system.phase call = .returned result) : (call, result) ∈ log := by
  rw [linear.results, returned]
  rfl

theorem Linearizes.not_mem_of_idle {call : ι}
    (linear : Linearizes protocol request durable system log)
    (idle : system.phase call = .idle) : call ∉ log.map Prod.fst := by
  apply linear.not_mem
  rw [idle]
  rfl

/-- Without a holder of the lock, the calls with a result have returned. -/
theorem Linearizes.mem_iff_returned {call : ι} {result : τ}
    (linear : Linearizes protocol request durable system log)
    (invariant : Invariant protocol request durable system) (free : system.holder = none) :
    (call, result) ∈ log ↔ system.phase call = .returned result := by
  rw [linear.results]
  have holds := invariant.holds call
  cases stands : system.phase call with
  | idle | acquired | read | planned => exact ⟨nofun, nofun⟩
  | attempted | finished =>
      rw [stands] at holds
      have holder := holds.1
      rw [free] at holder
      cases holder
  | returned other =>
      change some other = some result ↔ Phase.returned other = .returned result
      rw [Option.some_inj, Phase.returned.injEq]

theorem linearizes_initial : Linearizes protocol request durable (.initial durable) [] where
  serial := .nil
  once := List.nodup_nil
  results _ _ := ⟨fun member => absurd member List.not_mem_nil, nofun⟩

variable [DecidableEq ι]

/-- A step that gives nobody a result keeps the order. -/
theorem Linearizes.keep {call : ι} {phase : Phase φ σ β τ}
    (linear : Linearizes protocol request durable system log)
    (same : next.durable = system.durable)
    (moved : next.phase = Function.update system.phase call phase)
    (result : settledResult protocol request call phase =
      settledResult protocol request call (system.phase call)) :
    Linearizes protocol request durable next log where
  serial := same ▸ linear.serial
  once := linear.once
  results other value := by
    rw [linear.results, moved]
    by_cases here : other = call
    · rw [here, Function.update_self, result]
    · rw [Function.update_of_ne here]

/-- A step that gives `call` its result appends it to the order. -/
theorem Linearizes.settle {call : ι} {phase : Phase φ σ β τ} {result : τ}
    (linear : Linearizes protocol request durable system log)
    (moved : next.phase = Function.update system.phase call phase)
    (unsettled : settledResult protocol request call (system.phase call) = none)
    (settled : settledResult protocol request call phase = some result)
    (runs : Atomic protocol request call system.durable result next.durable) :
    Linearizes protocol request durable next (log ++ [(call, result)]) where
  serial := .concat linear.serial runs
  once := by
    rw [List.map_append, List.map_singleton]
    refine List.nodup_append.mpr ⟨linear.once, List.nodup_singleton _, ?_⟩
    intro other earlier last single
    rw [List.mem_singleton.mp single]
    rintro rfl
    exact linear.not_mem unsettled earlier
  results other value := by
    rw [List.mem_append, List.mem_singleton, linear.results, moved]
    by_cases here : other = call
    · rw [here, Function.update_self, unsettled, settled]
      simp [eq_comm]
    · rw [Function.update_of_ne here]
      simp [here]

/-- Each step of a run keeps the order or appends one call to it. -/
theorem Step.linearizes (step : Step protocol request system next)
    (before : Invariant protocol request durable system)
    (linear : Linearizes protocol request durable system log) :
    ∃ more, Linearizes protocol request durable next (log ++ more) := by
  have kept (linear : Linearizes protocol request durable next log) :
      ∃ more, Linearizes protocol request durable next (log ++ more) :=
    ⟨[], by rwa [List.append_nil]⟩
  cases step with
  | @refuse call result idle unavailable =>
      refine ⟨_, linear.settle rfl ?_ rfl (.refused unavailable)⟩
      rw [idle]
      rfl
  | @acquire call seen idle free =>
      refine kept (linear.keep rfl rfl ?_)
      rw [idle]
      rfl
  | @read call seen acquired =>
      refine kept (linear.keep rfl rfl ?_)
      rw [acquired]
      rfl
  | @decline call seen prior result read plan =>
      obtain ⟨_, rfl, _⟩ := before.held read
      refine ⟨_, linear.settle rfl ?_ rfl (.declined seen plan)⟩
      rw [read]
      rfl
  | @propose call seen prior final read plan =>
      refine kept (linear.keep rfl rfl ?_)
      rw [read]
      rfl
  | @apply call seen prior final report ready effect =>
      obtain ⟨_, rfl, plan, _⟩ := before.held ready
      refine ⟨_, linear.settle rfl ?_ rfl (.applied seen report plan effect)⟩
      rw [ready]
      rfl
  | @miss call seen prior final report ready effect =>
      obtain ⟨_, rfl, plan, _⟩ := before.held ready
      refine ⟨_, linear.settle rfl ?_ rfl (.missed seen report plan effect)⟩
      rw [ready]
      rfl
  | @conclude call seen prior final report attempted =>
      refine kept (linear.keep rfl rfl ?_)
      rw [attempted]
      rfl
  | @release call result finished =>
      refine kept (linear.keep rfl rfl ?_)
      rw [finished]
      rfl

/-- Every reachable system has an order of its calls. -/
theorem Reachable.linearizes (reached : Reachable protocol request durable system) :
    ∃ log, Linearizes protocol request durable system log := by
  induction reached with
  | initial => exact ⟨[], linearizes_initial⟩
  | step reached step ih =>
      obtain ⟨log, linear⟩ := ih
      obtain ⟨more, linear⟩ := step.linearizes reached.invariant linear
      exact ⟨_, linear⟩

/-! ## Whole runs -/

/-- A run of `steps` steps from the state `durable`. -/
structure Run (protocol : Protocol ρ φ σ β τ) (request : ι → ρ) (durable : σ) (steps : Nat)
    (run : Nat → System ι φ σ β τ) : Prop where
  start : run 0 = .initial durable
  step : ∀ i < steps, Step protocol request (run i) (run (i + 1))

variable {steps : Nat} {run : Nat → System ι φ σ β τ}

theorem Run.shorter {fewer : Nat} (ran : Run protocol request durable steps run)
    (le : fewer ≤ steps) : Run protocol request durable fewer run where
  start := ran.start
  step i lt := ran.step i (Nat.lt_of_lt_of_le lt le)

theorem Run.reachable (ran : Run protocol request durable steps run) :
    Reachable protocol request durable (run steps) := by
  induction steps with
  | zero => exact ran.start ▸ .initial
  | succ steps ih =>
      exact (ih (ran.shorter (Nat.le_succ steps))).step (ran.step steps (Nat.lt_succ_self steps))

/-- Every reachable system ends some run. -/
theorem Reachable.exists_run (reached : Reachable protocol request durable system) :
    ∃ steps run, Run protocol request durable steps run ∧ run steps = system := by
  induction reached with
  | initial => exact ⟨0, fun _ => .initial durable, ⟨rfl, nofun⟩, rfl⟩
  | @step system next _ step ih =>
      obtain ⟨steps, run, ran, rfl⟩ := ih
      refine ⟨steps + 1, Function.update run (steps + 1) next, ⟨?_, ?_⟩, Function.update_self ..⟩
      · rw [Function.update_of_ne (Nat.succ_ne_zero steps).symm]
        exact ran.start
      · intro i lt
        rw [Function.update_of_ne (Nat.ne_of_lt lt)]
        rcases Nat.lt_succ_iff_lt_or_eq.mp lt with earlier | rfl
        · rw [Function.update_of_ne (Nat.ne_of_lt (Nat.succ_lt_succ earlier))]
          exact ran.step i earlier
        · rw [Function.update_self]
          exact step

/-- One order serves all of a run: each moment of the run has a part at its front,
with the calls that have a result by then. -/
theorem Run.linearizable (ran : Run protocol request durable steps run) :
    ∃ log, Linearizes protocol request durable (run steps) log ∧
      ∀ i ≤ steps, ∃ front back, log = front ++ back ∧
        Linearizes protocol request durable (run i) front := by
  induction steps with
  | zero =>
      have linear : Linearizes protocol request durable (run 0) [] :=
        ran.start ▸ linearizes_initial
      refine ⟨[], linear, fun i le => ⟨[], [], rfl, ?_⟩⟩
      rwa [Nat.le_zero.mp le]
  | succ steps ih =>
      have earlier := ran.shorter (Nat.le_succ steps)
      obtain ⟨log, linear, fronts⟩ := ih earlier
      obtain ⟨more, longer⟩ := (ran.step steps (Nat.lt_succ_self steps)).linearizes
        earlier.reachable.invariant linear
      refine ⟨log ++ more, longer, fun i le => ?_⟩
      rcases Nat.le_or_eq_of_le_succ le with old | rfl
      · obtain ⟨front, back, same, here⟩ := fronts i old
        exact ⟨front, back ++ more, by rw [same, List.append_assoc], here⟩
      · exact ⟨log ++ more, [], (List.append_nil _).symm, longer⟩

/-! ## Simulation -/

/-- A run of locked updates is explained by calls of a simpler object in one order that
real time agrees with. -/
theorem Run.simulate {α υ : Type} {others : ι → α → υ → α → Prop}
    (ran : Run protocol request durable steps run) (view : σ → α) (told : τ → υ)
    (admitted : σ → Prop) (start : admitted durable)
    (simulates : ∀ call before result after, admitted before →
      Atomic protocol request call before result after →
      admitted after ∧ others call (view before) (told result) (view after)) :
    ∃ log : List (ι × υ), (log.map Prod.fst).Nodup ∧
      Serial others (view durable) log (view (run steps).durable) ∧
      (∀ call result, (run steps).phase call = .returned result → (call, told result) ∈ log) ∧
      ∀ moment ≤ steps, ∃ front back, log = front ++ back ∧
        Serial others (view durable) front (view (run moment).durable) ∧
        (∀ call result, (run moment).phase call = .returned result →
          (call, told result) ∈ front) ∧
        ∀ call, (run moment).phase call = .idle → call ∉ front.map Prod.fst := by
  obtain ⟨log, linear, fronts⟩ := ran.linearizable
  have names (log : List (ι × τ)) :
      (log.map fun entry => (entry.1, told entry.2)).map Prod.fst = log.map Prod.fst := by
    rw [List.map_map]
    rfl
  have tells {call : ι} {result : τ} {log : List (ι × τ)} (member : (call, result) ∈ log) :
      (call, told result) ∈ log.map fun entry => (entry.1, told entry.2) :=
    List.mem_map_of_mem (f := fun entry : ι × τ => (entry.1, told entry.2)) member
  refine ⟨_, names log ▸ linear.once, (linear.serial.simulate start simulates).2,
    fun call result returned => tells (linear.mem_of_returned returned), ?_⟩
  intro moment le
  obtain ⟨front, back, rfl, here⟩ := fronts moment le
  refine ⟨_, _, List.map_append, (here.serial.simulate start simulates).2,
    fun call result returned => tells (here.mem_of_returned returned), ?_⟩
  intro call idle
  rw [names]
  exact here.not_mem_of_idle idle

/-! ## Compare and set -/

/-- What a caller is told of its attempt. -/
inductive Verdict
  | stale
  | missed
  | applied
  | unknown
deriving DecidableEq

/-- An attempt to set a register that holds `before` from `expected` to `update`. The
caller that is told nothing may have set it. -/
inductive Attempt {α : Type} (expected update before : α) : Verdict → α → Prop
  | stale : before ≠ expected → Attempt expected update before .stale before
  | missed : before = expected → Attempt expected update before .missed before
  | applied : before = expected → Attempt expected update before .applied update
  | lost : Attempt expected update before .unknown before
  | unseen : before = expected → Attempt expected update before .unknown update

end LockedUpdate
