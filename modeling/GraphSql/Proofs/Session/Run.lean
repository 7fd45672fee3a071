import Mathlib.Logic.Function.Basic
import GraphSql.Proofs.Rewrite.Numbering
import GraphSql.Session.Extension

/-!
# Runs of sessions

A host has any number of sessions, called contexts, and takes steps in them in any order: it registers
states under keys, reads statements and plans them. `Host.step_cases` says all that a step can do to
what is kept under one key of one context. From it follows what every run preserves: the numbers in
use of each graph state are dense, what is kept under a number stays there and the number is not told
again, as long as the key is not registered again, and steps elsewhere change nothing.
-/

namespace GraphSql

/-! ## What a statement adds to the matches -/

/-- The matches after serving stops come about by allocations alone. -/
theorem Stop.correlation_serve (stops : List Stop) (correlation : Correlation) :
    ∃ patterns, (serve stops correlation).correlation =
      (correlation.allocateAll patterns).2 := by
  rcases calls_or_refusal stops with ⟨calls, rfl⟩ | ⟨calls, error, later, rfl⟩
  · exact ⟨calls.map MatchCall.pattern, by rw [serve_calls]⟩
  · exact ⟨calls.map MatchCall.pattern, by rw [serve_refusal]⟩

theorem Query.correlation_dispatch (query : Query) (correlation : Correlation) :
    ∃ patterns, (query.dispatch correlation).correlation =
      (correlation.allocateAll patterns).2 := by
  obtain ⟨patterns, same⟩ := Stop.correlation_serve query.stops correlation
  refine ⟨patterns, ?_⟩
  rw [← same, Query.dispatch, Query.extract_eq]
  rfl

/-- The matches after a statement was served come about by allocations alone. -/
theorem Statement.correlation_dispatch (statement : Statement) (correlation : Correlation) :
    ∃ patterns, (statement.dispatch correlation).correlation =
      (correlation.allocateAll patterns).2 := by
  induction statement with
  | select query => exact query.correlation_dispatch correlation
  | create definition =>
      cases definition with
      | propertyGraph graph => exact ⟨[], rfl⟩
      | view made => exact ⟨[], rfl⟩
      | table made =>
          cases source : made.query with
          | none => exact ⟨[], by simp [Statement.dispatch, source, Correlation.allocateAll]⟩
          | some query =>
              obtain ⟨patterns, same⟩ := query.correlation_dispatch correlation
              exact ⟨patterns, by simp [Statement.dispatch, source, Query.dispatchInside, same]⟩
  | drop removal => exact ⟨[], rfl⟩
  | explain inner type ih => exact ih
  | copy transfer =>
      simp only [Statement.dispatch, Transfer.dispatch]
      split
      · rw [TableRef.extract_eq]
        exact Stop.correlation_serve _ correlation
      · exact ⟨[], rfl⟩
  | insert insertion => exact insertion.query.correlation_dispatch correlation
  | pragma setting => exact ⟨[], rfl⟩
  | transaction type => exact ⟨[], rfl⟩

/-- Planning changes the matches of a graph state by allocations alone. -/
theorem Extension.correlation_planIn (state : GraphState) (data : ParseData) :
    ∃ patterns, (planIn state data).1.correlation = (state.correlation.allocateAll patterns).2 := by
  cases data with
  | statement read => exact read.correlation_dispatch state.correlation
  | foreign content => exact ⟨[], rfl⟩

/-! ## Steps -/

/-- A step of a host: a state is registered under a key, a text is read, parse data of any maker are
planned, or a text is read and planned. -/
inductive SessionStep (κ : Type) where
  | registerGraph (context : κ) (key : String)
  | registerOther (context : κ) (key : String) (number : Nat)
  | parse (extension : Extension) (text : String)
  | plan (context : κ) (extension : Extension) (data : ParseData)
  | run (context : κ) (extension : Extension) (text : String)

namespace SessionStep

variable {κ : Type}

/-- The context and the key a step is about; reading alone is about none. -/
def place? : SessionStep κ → Option (κ × String)
  | .registerGraph context key => some (context, key)
  | .registerOther context key _ => some (context, key)
  | .parse _ _ => none
  | .plan context extension _ => some (context, extension.stateKey)
  | .run context extension _ => some (context, extension.stateKey)

/-- Whether a step registers a state. -/
def registers : SessionStep κ → Bool
  | .registerGraph .. | .registerOther .. => true
  | .parse .. | .plan .. | .run .. => false

end SessionStep

/-- A host: the session of every context. -/
abbrev Host (κ : Type) := κ → Session

namespace Host

variable {κ : Type} [DecidableEq κ]

/-- A host whose sessions keep nothing. -/
def new (ids : κ → Int) : Host κ := fun context => .new (ids context)

/-- The host after a step. -/
def apply (host : Host κ) : SessionStep κ → Host κ
  | .registerGraph context key =>
    Function.update host context ((host context).register key (.graph .new))
  | .registerOther context key number =>
    Function.update host context ((host context).register key (.other number))
  | .parse _ _ => host
  | .plan context extension data =>
    Function.update host context (extension.plan (host context) data).1
  | .run context extension text =>
    Function.update host context (extension.run (host context) text).1

/-- The host after steps. -/
def run (host : Host κ) (steps : List (SessionStep κ)) : Host κ :=
  steps.foldl apply host

/-- What is kept under a key of a context. -/
def get? (host : Host κ) (place : κ × String) : Option SessionEntry :=
  (host place.1).get? place.2

omit [DecidableEq κ] in
@[simp] theorem get?_new (ids : κ → Int) (place : κ × String) : (new ids).get? place = none := rfl

theorem get?_update (host : Host κ) (context : κ) (session : Session) (place : κ × String) :
    Host.get? (Function.update host context session) place =
      if place.1 = context then session.get? place.2 else host.get? place := by
  simp only [Host.get?, Function.update_apply]
  split <;> rfl

end Host

/-! ## What a step can do -/

/-- Planning changes nothing in a session, or the graph state under the key of the extension. -/
theorem Extension.plan_cases (extension : Extension) (session : Session) (data : ParseData) :
    (extension.plan session data).1 = session ∨
      ∃ state, session.get? extension.stateKey = some (.graph state) ∧
        (extension.plan session data).1 =
          session.register extension.stateKey (.graph (planIn state data).1) := by
  cases kept : session.get? extension.stateKey with
  | none => exact .inl (by simp [plan, Session.graphState, kept])
  | some entry =>
      cases entry with
      | other number => exact .inl (by simp [plan, Session.graphState, kept])
      | graph state => exact .inr ⟨state, rfl, by simp [plan, Session.graphState, kept]⟩

/-- To read and plan is to plan, or nothing at all. -/
theorem Extension.run_cases (extension : Extension) (session : Session) (text : String) :
    (extension.run session text).1 = session ∨
      ∃ data, (extension.run session text).1 = (extension.plan session data).1 := by
  cases outcome : extension.parse text with
  | error error =>
      left
      unfold run
      rw [outcome]
  | ok data =>
      right
      unfold run
      rw [outcome]
      exact ⟨data, rfl⟩

namespace Host

variable {κ : Type} [DecidableEq κ]

/-- What a step that registers nothing does in its own place: nothing, or planning. -/
theorem get?_update_plan (host : Host κ) (context : κ) (extension : Extension) (data : ParseData)
    (place : κ × String) :
    let after : Host κ := Function.update host context (extension.plan (host context) data).1
    after.get? place = host.get? place ∨
      place = (context, extension.stateKey) ∧ ∃ state, host.get? place = some (.graph state) ∧
        after.get? place = some (.graph (Extension.planIn state data).1) := by
  intro after
  obtain ⟨other, key⟩ := place
  by_cases here : other = context
  · subst here
    have kept : after.get? (other, key) = _ := get?_update host other _ (other, key)
    rw [if_pos rfl] at kept
    rcases extension.plan_cases (host other) data with same | ⟨state, found, planned⟩
    · left
      rw [kept, same]
      rfl
    · rw [planned, Session.get?_register] at kept
      by_cases sameKey : key = extension.stateKey
      · subst sameKey
        exact .inr ⟨rfl, state, found, by rw [kept, if_pos rfl]⟩
      · left
        rw [kept, if_neg sameKey]
        rfl
  · left
    exact (get?_update host context _ (other, key)).trans (if_neg here)

/-- A registration is kept in its own place, and all other places stay as they were. -/
theorem get?_update_register (host : Host κ) (context : κ) (key : String) (entry : SessionEntry)
    (place : κ × String) :
    Host.get? (Function.update host context ((host context).register key entry)) place =
      if place = (context, key) then some entry else host.get? place := by
  obtain ⟨other, otherKey⟩ := place
  rw [get?_update]
  by_cases here : other = context
  · subst here
    simp [Session.get?_register, Host.get?]
  · simp [here]

/-- A step leaves what is kept in a place alone, registers a new state there, or plans parse data in
the graph state there. -/
theorem step_cases (host : Host κ) (step : SessionStep κ) (place : κ × String) :
    (host.apply step).get? place = host.get? place ∨
      (step.place? = some place ∧ step.registers = true ∧
        ((host.apply step).get? place = some (.graph .new) ∨
          ∃ number, (host.apply step).get? place = some (.other number))) ∨
      (step.place? = some place ∧ ∃ state data, host.get? place = some (.graph state) ∧
        (host.apply step).get? place = some (.graph (Extension.planIn state data).1)) := by
  cases step with
  | registerGraph context key =>
      simp only [apply, get?_update_register]
      by_cases here : place = (context, key)
      · exact .inr (.inl ⟨by rw [here]; rfl, rfl, .inl (if_pos here)⟩)
      · exact .inl (if_neg here)
  | registerOther context key number =>
      simp only [apply, get?_update_register]
      by_cases here : place = (context, key)
      · exact .inr (.inl ⟨by rw [here]; rfl, rfl, .inr ⟨number, if_pos here⟩⟩)
      · exact .inl (if_neg here)
  | parse extension text => exact .inl rfl
  | plan context extension data =>
      rcases get?_update_plan host context extension data place with same | ⟨here, state, planned⟩
      · exact .inl same
      · exact .inr (.inr ⟨by rw [here]; rfl, state, data, planned⟩)
  | run context extension text =>
      simp only [apply]
      rcases extension.run_cases (host context) text with same | ⟨data, same⟩
      · rw [same, Function.update_eq_self]
        exact .inl rfl
      · rw [same]
        rcases get?_update_plan host context extension data place with same | ⟨here, state, planned⟩
        · exact .inl same
        · exact .inr (.inr ⟨by rw [here]; rfl, state, data, planned⟩)

/-! ## What a run preserves -/

/-- The numbers in use of every graph state are dense. -/
def IsDense (host : Host κ) : Prop :=
  ∀ place state, host.get? place = some (.graph state) → state.correlation.IsDense

omit [DecidableEq κ] in
theorem isDense_new (ids : κ → Int) : (new ids).IsDense := by
  intro place state kept
  simp at kept

theorem IsDense.apply {host : Host κ} (dense : host.IsDense) (step : SessionStep κ) :
    (host.apply step).IsDense := by
  intro place state kept
  rcases step_cases host step place with same | ⟨-, -, new | ⟨number, other⟩⟩ |
    ⟨-, before, data, found, planned⟩
  · exact dense place state (same ▸ kept)
  · cases new.symm.trans kept
    exact Correlation.isDense_empty
  · cases other.symm.trans kept
  · cases planned.symm.trans kept
    obtain ⟨patterns, same⟩ := Extension.correlation_planIn before data
    rw [same]
    exact ((dense place before found).gains_allocateAll patterns).dense

theorem IsDense.run {host : Host κ} (dense : host.IsDense) (steps : List (SessionStep κ)) :
    (host.run steps).IsDense := by
  induction steps generalizing host with
  | nil => exact dense
  | cons step steps ih => exact ih (dense.apply step)

/-- In a place where nothing is registered, a step changes matches by allocations alone. -/
theorem apply_allocates {host : Host κ} {step : SessionStep κ} {place : κ × String}
    {state : GraphState} (kept : host.get? place = some (.graph state))
    (notAgain : step.place? = some place → step.registers = false) :
    ∃ after patterns, (host.apply step).get? place = some (.graph after) ∧
      after.correlation = (state.correlation.allocateAll patterns).2 := by
  rcases step_cases host step place with same | ⟨here, registers, -⟩ |
    ⟨-, before, data, found, planned⟩
  · exact ⟨state, [], same.trans kept, rfl⟩
  · rw [notAgain here] at registers
    cases registers
  · cases found.symm.trans kept
    obtain ⟨patterns, same⟩ := Extension.correlation_planIn state data
    exact ⟨_, patterns, planned, same⟩

/-- In a place where nothing is registered, a run changes matches by allocations alone. -/
theorem run_allocates {host : Host κ} {steps : List (SessionStep κ)} {place : κ × String}
    {state : GraphState} (kept : host.get? place = some (.graph state))
    (notAgain : ∀ step ∈ steps, step.place? = some place → step.registers = false) :
    ∃ after patterns, (host.run steps).get? place = some (.graph after) ∧
      after.correlation = (state.correlation.allocateAll patterns).2 := by
  induction steps generalizing host state with
  | nil => exact ⟨state, [], kept, rfl⟩
  | cons step steps ih =>
      obtain ⟨between, first, keptBetween, fromState⟩ :=
        apply_allocates kept (notAgain step List.mem_cons_self)
      obtain ⟨after, later, keptAfter, fromBetween⟩ :=
        ih keptBetween fun step member => notAgain step (List.mem_cons_of_mem _ member)
      refine ⟨after, first ++ later, keptAfter, ?_⟩
      rw [fromBetween, fromState, Correlation.allocateAll_append]

/-- After any steps the numbers in use of every graph state are dense. Whatever is kept under a
number stays there, and the number is not among those told afterwards, as long as the key is not
registered again. A step about another place changes nothing. -/
theorem run_preserves_matches (ids : κ → Int) (steps : List (SessionStep κ))
    (place : κ × String) :
    let host := (new ids).run steps
    (∀ state, host.get? place = some (.graph state) →
      state.correlation.IsDense ∧ state.correlation.size = state.correlation.next) ∧
    (∀ state later, host.get? place = some (.graph state) →
      (∀ step ∈ later, step.place? = some place → step.registers = false) →
      ∃ after patterns indices, (host.run later).get? place = some (.graph after) ∧
        state.correlation.allocateAll patterns = (indices, after.correlation) ∧
        indices.Nodup ∧
        ∀ index pattern, state.correlation.get? index = some pattern →
          after.correlation.get? index = some pattern ∧ index ∉ indices) ∧
    ∀ step, step.place? ≠ some place → (host.apply step).get? place = host.get? place := by
  intro host
  have dense : host.IsDense := (isDense_new ids).run steps
  refine ⟨?_, ?_, ?_⟩
  · intro state kept
    exact ⟨dense place state kept, (dense place state kept).size⟩
  · intro state later kept notAgain
    obtain ⟨after, patterns, keptAfter, same⟩ := run_allocates kept notAgain
    have denseState := dense place state kept
    have gains := denseState.gains_allocateAll patterns
    refine ⟨after, patterns, _, keptAfter, by rw [same], ?_, ?_⟩
    · rw [Correlation.indices_allocateAll]
      exact List.nodup_range'
    · intro index pattern stored
      have below := denseState.lt_next stored
      constructor
      · rw [same, gains.kept index below, stored]
      · rw [Correlation.indices_allocateAll, List.mem_range'_1]
        omega
  · intro step elsewhere
    rcases step_cases host step place with same | ⟨here, -⟩ | ⟨here, -⟩
    · exact same
    · exact absurd here elsewhere
    · exact absurd here elsewhere

/-- A match stays under its number when a plan of foreign parse data fails and another match is
planned, and what is registered for another context changes nothing. -/
theorem run_preserves_matches_of_two_contexts :
    let select (graph : String) : ParseData :=
      .statement (.select (.select (.all (.ofMatch ⟨graph, none, [], [], none⟩))))
    let place : Nat × String := (0, defaultStateKey)
    let host : Host Nat := (new fun _ => 1).run
      [.registerGraph 0 defaultStateKey, .registerOther 1 defaultStateKey 42,
        .plan 0 .usual (select "g")]
    let later := [.plan 0 .usual (.foreign "SELECT 1"), .registerGraph 1 defaultStateKey,
      .plan 0 .usual (select "h")]
    ∃ state after patterns indices, host.get? place = some (.graph state) ∧
      (host.run later).get? place = some (.graph after) ∧ indices.Nodup ∧
      state.correlation.allocateAll patterns = (indices, after.correlation) ∧
      after.correlation.get? 0 = some ⟨"g", none, [], [], none⟩ ∧ 0 ∉ indices ∧
      (host.apply (.registerOther 1 defaultStateKey 43)).get? place = host.get? place := by
  intro select place host later
  obtain ⟨-, keeps, frame⟩ := run_preserves_matches (fun _ => 1)
    [.registerGraph 0 defaultStateKey, .registerOther 1 defaultStateKey 42,
      .plan 0 .usual (select "g")] place
  have elsewhere (key : String) : some (1, key) ≠ some place := by
    simp [place]
  have noRegistration : ∀ step ∈ later, step.place? = some place → step.registers = false :=
    List.forall_mem_cons.2 ⟨fun _ => rfl, List.forall_mem_cons.2
      ⟨fun here => absurd here (elsewhere _), List.forall_mem_cons.2 ⟨fun _ => rfl, nofun⟩⟩⟩
  obtain ⟨after, patterns, indices, kept, allocated, nodup, stays⟩ :=
    keeps _ later rfl noRegistration
  obtain ⟨same, fresh⟩ := stays 0 ⟨"g", none, [], [], none⟩ rfl
  exact ⟨_, after, patterns, indices, rfl, kept, nodup, allocated, same, fresh,
    frame _ (elsewhere _)⟩

end Host

end GraphSql
