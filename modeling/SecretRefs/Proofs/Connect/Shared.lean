import Mathlib.Data.List.Basic
import Mathlib.Logic.Function.Basic
import SecretRefs.Connect.Shared
import SecretRefs.Proofs.Session

/-!
# Calls for the shared client

Any number of calls ask for the client, each with settings of its own, and go on in any order.
While there is no client a call waits until it may make one: attempts are made one at a time.
An attempt finds the files and the HTTP library as they are at its time, and may fail because of
either. A call may be dropped before it returns.

Making a client puts it in the place of what was there, so that there is one client for all
(`one_client_for_all`) is not in the rules: it follows from `Steady`, by which nothing is there
while an attempt is under way. For the same reason the calls get what `SharedClient.get` gives
them one after the other, in the order in which they return (`Run.in_turn`).
-/

namespace SecretRefs.Connect

/-- How far a call for the shared client has come. -/
inductive CallStage where
  | unmade
  | waiting
  /-- It makes the client. -/
  | making
  | over
deriving DecidableEq

/-- What happens to a call for the shared client. -/
inductive CallMoment (Call : Type) where
  | asks (call : Call)
  | begins (call : Call)
  /-- The attempt that it began has come to an outcome, and it returns that. -/
  | attempted (call : Call) (plan : ClientPlan) (outcome : Except Failure Client)
  /-- It returns the client that is there. -/
  | found (call : Call) (plan : ClientPlan) (client : Client)
  /-- It is dropped before it returns. -/
  | dropped (call : Call)

/-- The client so far, and how far each call has come. -/
structure SharedCalls (Call : Type) where
  client : SharedClient
  stage : Call → CallStage

/-- A failed attempt leaves no client. -/
theorem SharedClient.get_of_error {plan : ClientPlan} {failure : Failure}
    (fails : plan.build = .error failure) :
    SharedClient.get plan none = (.error failure, plan.tokenEvents, none) := by
  unfold SharedClient.get
  rw [fails]

/-- The first client is there to stay. -/
theorem SharedClient.get_of_ok {plan : ClientPlan} {client : Client}
    (makes : plan.build = .ok client) :
    SharedClient.get plan none =
      (.ok client, plan.tokenEvents ++ [ClientPlan.builtEvent client], some client) := by
  unfold SharedClient.get
  rw [makes]

/-- What one more call gets after others, and what has become of the client then. -/
def SharedClient.serve (earlier : List (Except Failure Client) × SharedClient)
    (plan : ClientPlan) : List (Except Failure Client) × SharedClient :=
  let turn := SharedClient.get plan earlier.2
  (earlier.1 ++ [turn.1], turn.2.2)

namespace CallMoment

variable {Call : Type}

/-- What a call returns, with the plan that it came with. -/
def returned? : CallMoment Call → Option (ClientPlan × Except Failure Client)
  | .attempted _ plan outcome => some (plan, outcome)
  | .found _ plan client => some (plan, .ok client)
  | _ => none

/-- What happens as long as there is no client: calls return only failures, each of its own
attempt. -/
inductive IsVain (settings : Call → StoreSettings) : CallMoment Call → Prop where
  | asks (call : Call) : IsVain settings (.asks call)
  | begins (call : Call) : IsVain settings (.begins call)
  | failed {call : Call} {plan : ClientPlan} {failure : Failure}
      (own : plan.settings = settings call) (fails : plan.build = .error failure) :
      IsVain settings (.attempted call plan (.error failure))
  | dropped (call : Call) : IsVain settings (.dropped call)

/-- What happens once there is a client: calls return only this one, and none makes another. -/
inductive Shares (client : Client) : CallMoment Call → Prop where
  | asks (call : Call) : Shares client (.asks call)
  | found (call : Call) (plan : ClientPlan) : Shares client (.found call plan client)
  | dropped (call : Call) : Shares client (.dropped call)

end CallMoment

/-- A course of events that leads to a client, or to none so far. The attempt that makes the
client is the only one that succeeds. -/
inductive SharedCourse {Call : Type} (settings : Call → StoreSettings) :
    SharedClient → List (CallMoment Call) → Prop where
  | none {moments : List (CallMoment Call)}
      (vain : ∀ moment ∈ moments, moment.IsVain settings) : SharedCourse settings none moments
  | made {before after : List (CallMoment Call)} {maker : Call} {plan : ClientPlan}
      {client : Client} (vain : ∀ moment ∈ before, moment.IsVain settings)
      (own : plan.settings = settings maker) (makes : plan.build = .ok client)
      (shared : ∀ moment ∈ after, moment.Shares client) :
      SharedCourse settings (some client)
        (before ++ .attempted maker plan (.ok client) :: after)

namespace SharedCalls

variable {Call : Type} [DecidableEq Call]

/-- No call is made yet, and there is no client. -/
def start : SharedCalls Call :=
  ⟨none, fun _ => .unmade⟩

/-- A call comes to a stage. -/
def move (calls : SharedCalls Call) (call : Call) (stage : CallStage) : SharedCalls Call :=
  { calls with stage := Function.update calls.stage call stage }

/-- What may happen next. Files, home directory and HTTP library are as they are at that time. -/
inductive Step (settings : Call → StoreSettings) :
    SharedCalls Call → CallMoment Call → SharedCalls Call → Prop where
  | ask {calls : SharedCalls Call} {call : Call} (unmade : calls.stage call = .unmade) :
      Step settings calls (.asks call) (calls.move call .waiting)
  | begin {calls : SharedCalls Call} {call : Call} (waiting : calls.stage call = .waiting)
      (empty : calls.client = none) (free : ∀ other, calls.stage other ≠ .making) :
      Step settings calls (.begins call) (calls.move call .making)
  | fail {calls : SharedCalls Call} {call : Call} {plan : ClientPlan} {failure : Failure}
      (making : calls.stage call = .making) (own : plan.settings = settings call)
      (fails : plan.build = .error failure) :
      Step settings calls (.attempted call plan (.error failure)) (calls.move call .over)
  | make {calls : SharedCalls Call} {call : Call} {plan : ClientPlan} {client : Client}
      (making : calls.stage call = .making) (own : plan.settings = settings call)
      (makes : plan.build = .ok client) :
      Step settings calls (.attempted call plan (.ok client))
        { calls.move call .over with client := some client }
  | find {calls : SharedCalls Call} {call : Call} {plan : ClientPlan} {client : Client}
      (waiting : calls.stage call = .waiting) (own : plan.settings = settings call)
      (there : calls.client = some client) :
      Step settings calls (.found call plan client) (calls.move call .over)
  | drop {calls : SharedCalls Call} {call : Call}
      (underWay : calls.stage call = .waiting ∨ calls.stage call = .making) :
      Step settings calls (.dropped call) (calls.move call .over)

/-- Any number of steps from the start, with what happened in them. -/
inductive Run (settings : Call → StoreSettings) :
    List (CallMoment Call) → SharedCalls Call → Prop where
  | start : Run settings [] start
  | step {moments : List (CallMoment Call)} {moment : CallMoment Call}
      {calls after : SharedCalls Call} (earlier : Run settings moments calls)
      (step : Step settings calls moment after) : Run settings (moments ++ [moment]) after

variable {settings : Call → StoreSettings} {moments : List (CallMoment Call)}
  {moment : CallMoment Call} {calls after : SharedCalls Call}

/-- One attempt at most is under way, and there is no client then. -/
structure Steady (calls : SharedCalls Call) : Prop where
  alone : ∀ {one other}, calls.stage one = .making → calls.stage other = .making → one = other
  empty : ∀ {call}, calls.stage call = .making → calls.client = none

theorem stage_move (calls : SharedCalls Call) (call other : Call) (stage : CallStage) :
    (calls.move call stage).stage other = if other = call then stage else calls.stage other :=
  Function.update_apply calls.stage call stage other

/-- A call that came to a stage where it makes nothing is not the one that makes the client. -/
theorem making_of_move {call other : Call} {stage : CallStage} (idle : stage ≠ .making)
    (making : (calls.move call stage).stage other = .making) :
    other ≠ call ∧ calls.stage other = .making := by
  rw [stage_move] at making
  split at making
  · exact absurd making idle
  · rename_i differ
    exact ⟨differ, making⟩

namespace Steady

omit [DecidableEq Call] in
theorem start : (SharedCalls.start : SharedCalls Call).Steady :=
  ⟨nofun, nofun⟩

/-- It stays so if a call comes to a stage where it makes nothing. -/
theorem move (steady : calls.Steady) (call : Call) {stage : CallStage}
    (idle : stage ≠ .making) : (calls.move call stage).Steady where
  alone one other := steady.alone (making_of_move idle one).2 (making_of_move idle other).2
  empty making := steady.empty (making_of_move idle making).2

/-- When the call that makes the client comes to another stage, nobody makes it. -/
theorem free (steady : calls.Steady) {call : Call} {stage : CallStage} (idle : stage ≠ .making)
    (making : calls.stage call = .making) (other : Call) :
    (calls.move call stage).stage other ≠ .making := by
  intro still
  obtain ⟨differ, before⟩ := making_of_move idle still
  exact differ (steady.alone before making)

theorem step (steady : calls.Steady) (step : Step settings calls moment after) :
    after.Steady := by
  cases step with
  | ask | fail | find | drop => exact steady.move _ nofun
  | @begin call waiting empty free =>
    have maker {one : Call} (making : (calls.move call .making).stage one = .making) :
        one = call := by
      rw [stage_move] at making
      split at making
      · assumption
      · exact absurd making (free one)
    exact ⟨fun one other => (maker one).trans (maker other).symm, fun _ => empty⟩
  | @make call _ _ making =>
    have free : ∀ one, (calls.move call .over).stage one ≠ .making := steady.free nofun making
    exact ⟨fun {one} _ making => absurd making (free _), fun making => absurd making (free _)⟩

/-- A call that returns gets what it would get if it came now and alone. -/
theorem served (steady : calls.Steady) (step : Step settings calls moment after)
    (earlier : List (Except Failure Client)) :
    (([moment].filterMap CallMoment.returned?).map Prod.fst).foldl SharedClient.serve
        (earlier, calls.client) =
      (earlier ++ ([moment].filterMap CallMoment.returned?).map Prod.snd, after.client) := by
  cases step with
  | ask | begin | drop => exact congrArg (·, calls.client) (List.append_nil earlier).symm
  | @fail call plan failure making own fails =>
    change SharedClient.serve (earlier, calls.client) plan = (earlier ++ [_], calls.client)
    rw [steady.empty making, SharedClient.serve, SharedClient.get_of_error fails]
  | @make call plan client making own makes =>
    change SharedClient.serve (earlier, calls.client) plan = (earlier ++ [_], some client)
    rw [steady.empty making, SharedClient.serve, SharedClient.get_of_ok makes]
  | @find call plan client waiting own there =>
    change SharedClient.serve (earlier, calls.client) plan = (earlier ++ [_], calls.client)
    rw [there]
    rfl

end Steady

namespace Run

theorem steady (run : Run settings moments calls) : calls.Steady := by
  induction run with
  | start => exact .start
  | step _ step inductionHypothesis => exact inductionHypothesis.step step

/-- The calls of a run take their course: vain attempts, one that makes the client, and the
sharing of it. -/
theorem course (run : Run settings moments calls) :
    SharedCourse settings calls.client moments := by
  induction run with
  | start => exact .none nofun
  | @step moments moment calls after earlier step inductionHypothesis =>
    -- While there is no client only vain things may happen, and then only sharing ones.
    have vain (isVain : moment.IsVain settings) (course : SharedCourse settings none moments) :
        SharedCourse settings none (moments ++ [moment]) := by
      cases course with
      | none each =>
        exact .none (List.forall_mem_append.mpr ⟨each, List.forall_mem_singleton.mpr isVain⟩)
    have shared {client : Client} (shares : moment.Shares client)
        (course : SharedCourse settings (some client) moments) :
        SharedCourse settings (some client) (moments ++ [moment]) := by
      cases course with
      | made before own makes each =>
        rw [List.append_assoc, List.cons_append]
        exact .made before own makes
          (List.forall_mem_append.mpr ⟨each, List.forall_mem_singleton.mpr shares⟩)
    have either (isVain : moment.IsVain settings) (shares : ∀ client, moment.Shares client) :
        SharedCourse settings calls.client (moments ++ [moment]) := by
      cases there : calls.client with
      | none => exact vain isVain (there ▸ inductionHypothesis)
      | some client => exact shared (shares client) (there ▸ inductionHypothesis)
    cases step with
    | ask => exact either (.asks _) fun _ => .asks _
    | drop => exact either (.dropped _) fun _ => .dropped _
    | begin waiting empty free =>
      have course := vain (.begins _) (empty ▸ inductionHypothesis)
      rwa [← empty] at course
    | fail making own fails =>
      have empty := earlier.steady.empty making
      have course := vain (.failed own fails) (empty ▸ inductionHypothesis)
      rwa [← empty] at course
    | find waiting own there =>
      have course := shared (.found _ _) (there ▸ inductionHypothesis)
      rwa [← there] at course
    | make making own makes =>
      have course := earlier.steady.empty making ▸ inductionHypothesis
      cases course with
      | none each => exact .made each own makes nofun

/-- In whatever order the calls go on, they get what they would get one after the other. -/
theorem in_turn (run : Run settings moments calls) :
    ((moments.filterMap CallMoment.returned?).map Prod.fst).foldl SharedClient.serve ([], none) =
      ((moments.filterMap CallMoment.returned?).map Prod.snd, calls.client) := by
  induction run with
  | start => rfl
  | @step moments moment calls after earlier step inductionHypothesis =>
    rw [List.filterMap_append, List.map_append, List.map_append, List.foldl_append,
      inductionHypothesis]
    exact earlier.steady.served step _

/-- An attempt that failed leaves no client and none under way. -/
theorem after_failure {call : Call} {plan : ClientPlan} {failure : Failure}
    (run : Run settings (moments ++ [.attempted call plan (.error failure)]) calls) :
    calls.client = none ∧ ∀ other, calls.stage other ≠ .making := by
  generalize isAll : moments ++ [.attempted call plan (.error failure)] = all at run
  cases run with
  | start => simp at isAll
  | step earlier step =>
    obtain ⟨_, isMoment⟩ := List.append_inj' isAll rfl
    cases isMoment
    cases step with
    | fail making => exact ⟨earlier.steady.empty making, earlier.steady.free nofun making⟩

end Run

/-- Whatever the calls and their order, one attempt at most makes a client. Before it every call
that returns gives the failure of its own attempt; after it every call that returns gives this
client, and no attempt is made. The calls get what they would get one after the other. After an
attempt that failed there is no client, and a call that waits or is made then may try again. -/
theorem one_client_for_all (run : Run settings moments calls) :
    SharedCourse settings calls.client moments ∧
      ((moments.filterMap CallMoment.returned?).map Prod.fst).foldl SharedClient.serve
          ([], none) =
        ((moments.filterMap CallMoment.returned?).map Prod.snd, calls.client) ∧
      ∀ earlier call plan failure, moments = earlier ++ [.attempted call plan (.error failure)] →
        calls.client = none ∧ ∀ other,
          (calls.stage other = .waiting →
            Step settings calls (.begins other) (calls.move other .making)) ∧
          (calls.stage other = .unmade → ∃ asked, Step settings calls (.asks other) asked ∧
            Step settings asked (.begins other) (asked.move other .making)) := by
  refine ⟨run.course, run.in_turn, ?_⟩
  rintro earlier call plan failure rfl
  obtain ⟨empty, free⟩ := run.after_failure
  refine ⟨empty, fun other => ⟨fun waiting => .begin waiting empty free, fun unmade => ?_⟩⟩
  have idle : ∀ one, (calls.move other .waiting).stage one ≠ .making := by
    intro one making
    have before := making_of_move CallStage.noConfusion making
    exact free one before.2
  refine ⟨_, .ask unmade, .begin ?_ empty idle⟩
  rw [stage_move, if_pos rfl]

/-- Four calls: the first finds no token, the second an HTTP library that does not get ready, the
third makes the client, and the fourth gets this client, which is for another server than its own
settings name. -/
theorem third_attempt_shared :
    let settings : Fin 4 → StoreSettings := fun call =>
      { connectUrl := "http://vault-" ++ toString call, tokenPath := "/token" }
    let bare : Files := ⟨[], "/"⟩
    let stocked : Files := ⟨[(["token"], .file "ops_abc".toUTF8)], "/"⟩
    let missing : Failure := .configuration ("service token file not found at " ++ "/token")
    let unready : Failure :=
      .store ("failed to build HTTP client: " ++ "no certificates") (some (.http "no certificates"))
    let client : Client := ⟨"http://vault-2", "ops_abc", 30⟩
    let plan (call : Fin 4) : ClientPlan :=
      ⟨if call = 0 then bare else stocked, none, settings call,
        fun _ _ => if call = 1 then .error "no certificates" else .ok ()⟩
    let moments : List (CallMoment (Fin 4)) :=
      [.asks 0, .asks 1, .begins 0, .attempted 0 (plan 0) (.error missing), .begins 1,
        .attempted 1 (plan 1) (.error unready), .asks 2, .asks 3, .begins 2,
        .attempted 2 (plan 2) (.ok client), .found 3 (plan 3) client]
    ∃ calls, Run settings moments calls ∧ calls.client = some client ∧
      SharedCourse settings calls.client moments ∧
      [plan 0, plan 1, plan 2, plan 3].foldl SharedClient.serve ([], none) =
        ([.error missing, .error unready, .ok client, .ok client], calls.client) := by
  intro settings bare stocked missing unready client plan moments
  have noToken : (plan 0).build = .error missing := by decide +kernel
  have noLibrary : (plan 1).build = .error unready := by decide +kernel
  have makes : (plan 2).build = .ok client := by decide +kernel
  have both : Run settings ([] ++ [.asks 0] ++ [.asks 1]) _ :=
    .step (.step .start (.ask rfl)) (.ask rfl)
  have failed : Run settings (_ ++ [.begins 0] ++ [.attempted 0 _ (.error missing)]) _ :=
    .step (.step both (.begin rfl rfl (by decide))) (.fail rfl rfl noToken)
  have failedAgain : Run settings (_ ++ [.begins 1] ++ [.attempted 1 _ (.error unready)]) _ :=
    .step (.step failed (.begin rfl rfl (by decide))) (.fail rfl rfl noLibrary)
  have asked : Run settings (_ ++ [.asks 2] ++ [.asks 3]) _ :=
    .step (.step failedAgain (.ask rfl)) (.ask rfl)
  have made : Run settings (_ ++ [.begins 2] ++ [.attempted 2 _ (.ok client)]) _ :=
    .step (.step asked (.begin rfl rfl (by decide))) (.make rfl rfl makes)
  have run : Run settings (_ ++ [.found 3 (plan 3) client]) _ :=
    .step made (.find rfl rfl rfl)
  exact ⟨_, run, rfl, (one_client_for_all run).1, (one_client_for_all run).2.1⟩

end SharedCalls

end SecretRefs.Connect
