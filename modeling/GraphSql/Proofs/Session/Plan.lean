import GraphSql.Proofs.Session.Run

/-!
# What planning leaves behind

Planning first puts the parse data into the graph state, then looks whether they are a statement, and
only then serves it. So each way to fail leaves another state: none at all without a graph state, the
data without new matches where they are foreign, and otherwise whatever serving the statement left,
refused or not. `Extension.plan_and_run` says this for one call, and `Host.get?_run_plannedIn` for what
a run of any steps leaves in a place.
-/

namespace GraphSql

namespace Extension

/-- A session after the graph state under the key of the extension was replaced, and nothing else. -/
structure Installs (extension : Extension) (state : GraphState) (before after : Session) : Prop where
  id : after.id = before.id
  here : after.get? extension.stateKey = some (.graph state)
  elsewhere : ∀ key, key ≠ extension.stateKey → after.get? key = before.get? key

variable (extension : Extension) (session : Session)

theorem installs_register (state : GraphState) :
    extension.Installs state session (session.register extension.stateKey (.graph state)) where
  id := rfl
  here := by simp [Session.get?_register]
  elsewhere key differs := by simp [Session.get?_register, differs]

/-- Without a graph state nothing is planned. -/
theorem plan_of_missing (missing : ∀ state, session.get? extension.stateKey ≠ some (.graph state))
    (data : ParseData) :
    extension.plan session data = (session, .error (.missingSessionState extension.stateKey)) := by
  cases kept : session.get? extension.stateKey with
  | none => simp [plan, Session.graphState, kept]
  | some entry =>
      cases entry with
      | graph state => exact absurd kept (missing state)
      | other number => simp [plan, Session.graphState, kept]

/-- With a graph state the result is that of planning in it, and what planning left is installed. -/
theorem plan_of_graph {state : GraphState}
    (kept : session.get? extension.stateKey = some (.graph state)) (data : ParseData) :
    (extension.plan session data).2 = (planIn state data).2 ∧
      extension.Installs (planIn state data).1 session (extension.plan session data).1 := by
  have planned : extension.plan session data =
      (session.register extension.stateKey (.graph (planIn state data).1),
        (planIn state data).2) := by
    simp [plan, Session.graphState, kept]
  rw [planned]
  exact ⟨rfl, extension.installs_register session _⟩

theorem run_of_error {text : String} {error : GraphError}
    (refused : extension.parse text = .error error) :
    extension.run session text = (session, .error error) := by
  unfold run
  rw [refused]

theorem run_of_ok {text : String} {data : ParseData} (read : extension.parse text = .ok data) :
    extension.run session text = extension.plan session data := by
  unfold run
  rw [read]

/-- Without a graph state under its key an extension plans nothing and changes nothing. With one,
foreign parse data are installed and refused, and the matches stay; of a statement the result, the
statement installed and the matches are those that serving it leaves, also where it is refused. No
other key is touched. To read and plan is to read and then to plan, and nothing at all where reading
fails. -/
theorem plan_and_run :
    ((∀ state, session.get? extension.stateKey ≠ some (.graph state)) →
      ∀ data, extension.plan session data =
        (session, .error (.missingSessionState extension.stateKey))) ∧
    (∀ state, session.get? extension.stateKey = some (.graph state) →
      (∀ content,
        (extension.plan session (.foreign content)).2 = .error .missingParseData ∧
          extension.Installs ⟨some (.foreign content), state.correlation⟩ session
            (extension.plan session (.foreign content)).1) ∧
      ∀ read : Statement,
        let served := read.dispatch state.correlation
        (extension.plan session (.statement read)).2 = served.result ∧
          extension.Installs ⟨some (.statement served.tree), served.correlation⟩ session
            (extension.plan session (.statement read)).1) ∧
    ∀ text,
      (∀ error, extension.parse text = .error error →
        extension.run session text = (session, .error error)) ∧
      ∀ data, extension.parse text = .ok data →
        extension.run session text = extension.plan session data := by
  refine ⟨?missing, ?kept, ?run⟩
  case missing => exact extension.plan_of_missing session
  case kept =>
    intro state kept
    constructor
    · intro content
      exact extension.plan_of_graph session kept (.foreign content)
    · intro read
      exact extension.plan_of_graph session kept (.statement read)
  case run =>
    intro text
    constructor
    · intro error refused
      exact extension.run_of_error session refused
    · intro data read
      exact extension.run_of_ok session read

/-- A match is numbered although its statement is refused; foreign parse data take the place of the
statement and leave the match. -/
theorem plan_and_run_of_match :
    let other := (Session.new 7).register "other" (.other 42)
    let session := other.register defaultStateKey (.graph .new)
    let pattern : GraphMatch := ⟨"g", none, [], [], none⟩
    let read : Statement := .select (.select (.all (.ofMatch pattern)))
    let served := read.dispatch .empty
    (∀ data, usual.plan other data = (other, .error (.missingSessionState "duckpgq"))) ∧
      ((usual.plan session (.statement read)).2 = .error .mustUseBindEntryPoint ∧
        usual.Installs ⟨some (.statement served.tree), served.correlation⟩ session
          (usual.plan session (.statement read)).1 ∧
        served.correlation = ⟨1, [(0, pattern)]⟩) ∧
      ((usual.plan session (.foreign "SELECT 1")).2 = .error .missingParseData ∧
        usual.Installs ⟨some (.foreign "SELECT 1"), .empty⟩ session
          (usual.plan session (.foreign "SELECT 1")).1) ∧
      usual.run session "" = (session, .error (.multipleStatements 0)) := by
  intro other session pattern read served
  obtain ⟨missing, -, -⟩ := plan_and_run usual other
  obtain ⟨-, kept, runs⟩ := plan_and_run usual session
  obtain ⟨foreign, statement⟩ := kept .new rfl
  have refused : usual.parse "" = .error (.multipleStatements 0) := rfl
  refine ⟨missing ?_, ⟨(statement read).1, (statement read).2, rfl⟩, foreign "SELECT 1",
    (runs "").1 _ refused⟩
  intro state found
  have absent : (none : Option SessionEntry) = some (.graph state) := found
  cases absent

end Extension

/-! ## Runs -/

/-- A graph state after parse data were planned in it one after the other. -/
def GraphState.plannedIn (state : GraphState) (planned : List ParseData) : GraphState :=
  planned.foldl (fun state data => (Extension.planIn state data).1) state

/-- The parse data that a step plans. -/
def SessionStep.data? {κ : Type} : SessionStep κ → Option ParseData
  | .plan _ _ data => some data
  | .run _ extension text => (extension.parse text).toOption
  | .registerGraph .. | .registerOther .. | .parse .. => none

namespace Host

variable {κ : Type} [DecidableEq κ]

/-- The parse data that steps plan in a place, in order. -/
def plannedAt (place : κ × String) (steps : List (SessionStep κ)) : List ParseData :=
  (steps.filter fun step => step.place? = some place).filterMap SessionStep.data?

@[simp] theorem plannedAt_nil (place : κ × String) : plannedAt place [] = [] := rfl

theorem plannedAt_cons (place : κ × String) (step : SessionStep κ) (steps : List (SessionStep κ)) :
    plannedAt place (step :: steps) = plannedAt place [step] ++ plannedAt place steps := by
  rw [plannedAt, ← List.singleton_append, List.filter_append, List.filterMap_append]
  rfl

theorem plannedAt_of_data_none {step : SessionStep κ} (nothing : step.data? = none)
    (place : κ × String) : plannedAt place [step] = [] := by
  by_cases here : step.place? = some place <;> simp [plannedAt, here, nothing]

theorem plannedAt_of_data {step : SessionStep κ} {data : ParseData} (planned : step.data? = some data)
    (place : κ × String) :
    plannedAt place [step] = if step.place? = some place then [data] else [] := by
  by_cases here : step.place? = some place <;> simp [plannedAt, here, planned]

/-- Planning in the session of a context plans in the state of one place and leaves all others. -/
theorem get?_update_planIn {host : Host κ} {place : κ × String} {state : GraphState}
    (kept : host.get? place = some (.graph state)) (context : κ) (extension : Extension)
    (data : ParseData) :
    Host.get? (Function.update host context (extension.plan (host context) data).1) place =
      if (context, extension.stateKey) = place then
        some (.graph (Extension.planIn state data).1)
      else host.get? place := by
  by_cases here : (context, extension.stateKey) = place
  · subst here
    rw [get?_update, if_pos rfl, if_pos rfl]
    exact (extension.plan_of_graph (host context) kept data).2.here
  · rw [if_neg here]
    rcases get?_update_plan host context extension data place with same | ⟨same, -⟩
    · exact same
    · exact absurd same.symm here

/-- A step that registers nothing in a place plans there what it has to plan. -/
theorem get?_apply_plannedIn {host : Host κ} {step : SessionStep κ} {place : κ × String}
    {state : GraphState} (kept : host.get? place = some (.graph state))
    (notAgain : step.place? = some place → step.registers = false) :
    (host.apply step).get? place =
      some (.graph (state.plannedIn (plannedAt place [step]))) := by
  have plans (context : κ) (extension : Extension) (data : ParseData)
      (here : step.place? = some (context, extension.stateKey))
      (planned : step.data? = some data) :
      Host.get? (Function.update host context (extension.plan (host context) data).1) place =
        some (.graph (state.plannedIn (plannedAt place [step]))) := by
    rw [get?_update_planIn kept, plannedAt_of_data planned, here]
    by_cases same : (context, extension.stateKey) = place <;>
      simp [same, kept, GraphState.plannedIn]
  cases step with
  | registerGraph context key =>
      have away : place ≠ (context, key) := fun here =>
        Bool.noConfusion (notAgain (congrArg some here.symm))
      rw [plannedAt_of_data_none rfl, apply, get?_update_register, if_neg away]
      exact kept
  | registerOther context key number =>
      have away : place ≠ (context, key) := fun here =>
        Bool.noConfusion (notAgain (congrArg some here.symm))
      rw [plannedAt_of_data_none rfl, apply, get?_update_register, if_neg away]
      exact kept
  | parse extension text => exact kept
  | plan context extension data => exact plans context extension data rfl rfl
  | run context extension text =>
      rw [apply]
      cases read : extension.parse text with
      | error error =>
          rw [extension.run_of_error _ read, Function.update_eq_self, plannedAt_of_data_none]
          · exact kept
          · simp [SessionStep.data?, read, Except.toOption]
      | ok data =>
          rw [extension.run_of_ok _ read]
          exact plans context extension data rfl (by simp [SessionStep.data?, read, Except.toOption])

/-- After any steps that register nothing in a place, the graph state there is what planning in it,
one after the other, the parse data of the steps in that place leaves, whatever the other steps do. -/
theorem get?_run_plannedIn {host : Host κ} {steps : List (SessionStep κ)} {place : κ × String}
    {state : GraphState} (kept : host.get? place = some (.graph state))
    (notAgain : ∀ step ∈ steps, step.place? = some place → step.registers = false) :
    (host.run steps).get? place = some (.graph (state.plannedIn (plannedAt place steps))) := by
  induction steps generalizing host state with
  | nil => exact kept
  | cons step steps ih =>
      obtain ⟨first, later⟩ := List.forall_mem_cons.1 notAgain
      rw [plannedAt_cons, GraphState.plannedIn, List.foldl_append]
      exact ih (get?_apply_plannedIn kept first) later

end Host

end GraphSql
