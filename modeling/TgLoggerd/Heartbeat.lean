import TgLoggerd.QueryNumbers
import TgLoggerd.Reactions

/-!
The heartbeat of the administrator polls. One setAlarm query is sent at the first
login, and each answer to one sends the next, logged in or not. So one query is on
its way at any time, until `close` or the closed state lets the chain end.
-/

namespace TgLoggerd

open Function SerialRun Requests

/-- A setAlarm query was sent under this number and is not answered yet. -/
def AlarmOut (config : Config) (events : List Event) (number : Nat) : Prop :=
  (∃ seconds handler, sentUnder (runEvents config events).log number =
      some (.setAlarm seconds, handler)) ∧
    ¬ QueryAnswered config events number

def pollingEnabled (config : Config) : Bool :=
  decide (0 < config.adminPollInterval) && config.groupAdminsHandler

def Ready (events : List Event) : Prop := .update (.authorizationState .ready) ∈ events

/-- The client is closing, or it stopped. -/
def Ended (events : List Event) : Prop :=
  .close ∈ events ∨ .update (.authorizationState .closed) ∈ events

def setsAlarm : Action → Bool
  | .send (.setAlarm _) _ => true
  | _ => false

/-- An action that neither sets an alarm nor waits for one. -/
def alarmFree : Action → Bool
  | .send (.setAlarm _) _ => false
  | .send _ (some .adminAlarm) => false
  | _ => true

/-- Every continuation of an alarm counts one. -/
def beats : Continuation → Nat
  | .adminAlarm => 1
  | _ => 0

/-- What the chain of alarms goes by. -/
structure AlarmPhase where
  started : Bool
  closing : Bool
  stopped : Bool

def Caches.phase (caches : Caches) : AlarmPhase :=
  ⟨caches.adminPollStarted, caches.closing, caches.stopped⟩

/-- A login starts the chain, `close` and the closed state end it. -/
def AlarmPhase.next (config : Config) (phase : AlarmPhase) (event : Event) : AlarmPhase :=
  ⟨phase.started ||
      pollingEnabled config && decide (event = .update (.authorizationState .ready)),
    phase.closing || decide (event = .close),
    phase.stopped || decide (event = .update (.authorizationState .closed))⟩

/-- A turn that sets an alarm. -/
def rearms (config : Config) (impl : Impl) : Event → Bool
  | .update (.authorizationState .ready) =>
      pollingEnabled config && !impl.caches.adminPollStarted
  | .answer requestId _ =>
      decide (impl.handlers requestId = some .adminAlarm) &&
        !(impl.caches.stopped || impl.caches.closing)
  | _ => false

/-- The alarms a turn sets. -/
inductive AlarmTurn (config : Config) (impl : Impl) (event : Event) : List Action → Prop where
  | free (actions : List Action) (silent : actions.all alarmFree)
      (idle : rearms config impl event = false) : AlarmTurn config impl event actions
  | armed (front : List Action) (silent : front.all alarmFree)
      (due : rearms config impl event = true) :
      AlarmTurn config impl event (front ++ armAdminAlarm config)

theorem admits_alarmFree : AdmitsMost alarmFree := by
  refine ⟨⟨?_⟩, fun _ => rfl, fun _ _ => rfl, fun _ _ _ _ => rfl⟩
  intro query handler plain
  cases query with
  | setAlarm seconds => cases plain
  | _ =>
      cases handler with
      | none => rfl
      | some waiting =>
          cases waiting with
          | adminAlarm => cases plain
          | _ => rfl

theorem setsAlarm_alarmFree (action : Action) (free : alarmFree action = true) :
    setsAlarm action = false := by
  rcases action with call | ⟨query, handler⟩
  · rfl
  · cases query with
    | setAlarm seconds => cases free
    | _ => rfl

theorem owes_alarmFree (actions : List Action) (silent : actions.all alarmFree) :
    owes beats actions = 0 := by
  apply owes_of_none
  intro action member
  have free := List.all_eq_true.mp silent action member
  rcases action with call | ⟨query, handler⟩
  · rfl
  · cases handler with
    | none => rfl
    | some waiting =>
        cases waiting with
        | adminAlarm => cases query <;> cases free
        | _ => rfl

theorem owed_beats (waiting : Option Continuation) :
    owed beats waiting = if waiting = some .adminAlarm then 1 else 0 := by
  cases waiting with
  | none => rfl
  | some waiting => cases waiting <;> rfl

section

variable (config : Config) (impl : Impl)

theorem alarmTurn_authorization (state : TdApi.AuthorizationState) :
    AlarmTurn config impl (.update (.authorizationState state))
      (onAuthorizationStateUpdate config impl.caches state).2 := by
  cases state with
  | ready =>
      simp only [onAuthorizationStateUpdate]
      split
      · next start =>
          -- The first login with polling enabled starts the chain.
          apply AlarmTurn.armed [.send .getMe (some .me)] rfl
          simpa [rearms, pollingEnabled, and_comm, and_assoc] using start
      · next other =>
          apply AlarmTurn.free _ rfl
          rw [Bool.eq_false_iff]
          intro due
          apply other
          simpa [rearms, pollingEnabled, and_comm, and_assoc] using due
  | _ => exact .free _ rfl rfl

theorem alarmTurn_update (u : TdApi.Update) :
    AlarmTurn config impl (.update u) (processUpdate config impl.caches u).2 := by
  by_cases login : ∃ state, u = .authorizationState state
  · obtain ⟨state, rfl⟩ := login
    exact alarmTurn_authorization config impl state
  · apply AlarmTurn.free
    · apply most_update config impl.caches admits_alarmFree u
      · intro state same
        exact absurd ⟨state, same⟩ login
      · intro user _ _
        exact admits_request config (fun _ => rfl) user.id
    · cases u with
      | authorizationState state => exact absurd ⟨state, rfl⟩ login
      | _ => rfl

/-- An alarm is set again, unless the client is to end. -/
theorem alarmTurn_alarm (requestId : Nat) (object : TdApi.Object)
    (found : impl.handlers requestId = some .adminAlarm) :
    AlarmTurn config impl (.answer requestId object) (onAdminAlarm config impl.caches).2 := by
  have due : rearms config impl (.answer requestId object) =
      !(impl.caches.stopped || impl.caches.closing) := by
    simp [rearms, found]
  simp only [onAdminAlarm]
  by_cases ending : (impl.caches.stopped || impl.caches.closing) = true
  · simp only [ending, ↓reduceIte]
    apply AlarmTurn.free _ rfl
    rw [due, ending]
    rfl
  · simp only [ending, Bool.false_eq_true, ↓reduceIte]
    have going : rearms config impl (.answer requestId object) = true := by
      rw [due, Bool.eq_false_iff.mpr ending]
      rfl
    split
    · exact .armed _ (admits_poll config admits_alarmFree.toAdmitsQueries _ _ _) going
    · exact .armed [] rfl going

theorem alarmTurn_event (event : Event) :
    AlarmTurn config impl event (reaction config impl event).2 := by
  cases event with
  | update u => exact alarmTurn_update config impl u
  | answer requestId object =>
      simp only [reaction]
      by_cases alarm : impl.handlers requestId = some .adminAlarm
      · rw [alarm]
        have same : resume config impl.caches .adminAlarm object =
            onAdminAlarm config impl.caches := by
          cases object <;> rfl
        simp only [same]
        exact alarmTurn_alarm config impl requestId object alarm
      · have idle : rearms config impl (.answer requestId object) = false := by
          simp [rearms, alarm]
        cases found : impl.handlers requestId with
        | none => exact .free _ rfl idle
        | some waiting =>
            refine .free _ ?_ idle
            apply most_resume config impl.caches admits_alarmFree waiting object
            rintro rfl
            exact absurd found alarm
  | close => exact .free _ rfl rfl

theorem aloof_phase : Aloof Caches.phase :=
  ⟨fun _ _ _ _ => rfl, fun _ _ _ _ => rfl, fun _ _ _ => rfl⟩

theorem phase_authorization (state : TdApi.AuthorizationState) :
    (onAuthorizationStateUpdate config impl.caches state).1.phase =
      impl.caches.phase.next config (.update (.authorizationState state)) := by
  cases state with
  | ready =>
      simp only [onAuthorizationStateUpdate, AlarmPhase.next, Caches.phase, decide_true, Bool.and_true]
      split
      · next start => simp [pollingEnabled, start]
      · next other =>
          cases started : impl.caches.adminPollStarted with
          | true => simp
          | false =>
              have off : pollingEnabled config = false := by
                simpa [pollingEnabled, started] using other
              simp [off]
  | _ => simp [onAuthorizationStateUpdate, AlarmPhase.next, Caches.phase]

/-- Nothing else has a say in the chain. -/
theorem phase_event (event : Event) :
    (reaction config impl event).1.phase = impl.caches.phase.next config event := by
  cases event with
  | update u =>
      by_cases login : ∃ state, u = .authorizationState state
      · obtain ⟨state, rfl⟩ := login
        exact phase_authorization config impl state
      · have same : impl.caches.phase.next config (.update u) = impl.caches.phase := by
          cases u with
          | authorizationState state => exact absurd ⟨state, rfl⟩ login
          | _ => simp [AlarmPhase.next]
        rw [same]
        apply aloof_update config Caches.phase aloof_phase impl.caches u
        · intro state given
          exact absurd ⟨state, given⟩ login
        · intro user _
          exact spared_profilePhoto config Caches.phase aloof_phase.files impl.caches user
  | answer requestId object =>
      have same : impl.caches.phase.next config (.answer requestId object) = impl.caches.phase := by
        simp [AlarmPhase.next]
      rw [same]
      simp only [reaction]
      cases found : impl.handlers requestId with
      | none => rfl
      | some waiting =>
          apply aloof_resume config Caches.phase aloof_phase impl.caches waiting object
          · rintro reply depth rfl
            exact spared_replied config Caches.phase impl.caches aloof_phase.files (fun _ _ => rfl) reply
              depth object
          · intro user _ _
            exact spared_profilePhoto config Caches.phase aloof_phase.files impl.caches user
          · rintro chatId rfl
            exact aloof_refreshed config Caches.phase aloof_phase impl.caches (fun _ _ => rfl) chatId
              object
  | close => simp [reaction, AlarmPhase.next, Caches.phase]

theorem owes_turn (event : Event) :
    owes beats (reaction config impl event).2 = if rearms config impl event then 1 else 0 := by
  have turn := alarmTurn_event config impl event
  generalize (reaction config impl event).2 = actions at turn
  cases turn with
  | free _ silent idle => rw [owes_alarmFree actions silent, if_neg (by simp [idle])]
  | armed front silent due =>
      rw [owes_append, owes_alarmFree front silent, if_pos due]
      rfl

end

/-- How many alarms are out in a phase. -/
def Beating (phase : AlarmPhase) (out : Nat) : Prop :=
  out ≤ 1 ∧ (phase.started = false → out = 0) ∧
    (phase.started = true → phase.closing = false → phase.stopped = false → out = 1)

section

variable (config : Config)

theorem beating_process (impl : Impl) (event : Event)
    (fresh : Fresh (impl.currentQueryId + 1) impl.handlers)
    (beating : Beating impl.caches.phase (owing beats impl)) :
    Beating (process config impl event).caches.phase (owing beats (process config impl event)) := by
  have counted := owing_process config beats impl fresh event
  obtain ⟨rest, paid⟩ := pays_of_owing beats impl fresh event
  rw [owes_turn] at counted
  rw [caches_process, phase_event]
  obtain ⟨most, none, one⟩ := beating
  simp only [Caches.phase] at none one
  cases event with
  | answer requestId object =>
      -- An answered alarm is set again unless the client is to end.
      have due : rearms config impl (.answer requestId object) = true ↔
          impl.handlers requestId = some .adminAlarm ∧
            impl.caches.stopped = false ∧ impl.caches.closing = false := by
        simp [rearms]
      simp only [pays, owed_beats, due] at counted paid
      simp only [Beating, AlarmPhase.next, Caches.phase, reduceCtorEq, decide_false, Bool.and_false,
        Bool.or_false]
      grind
  | update u =>
      have due : rearms config impl (.update u) = true ↔
          u = .authorizationState .ready ∧ pollingEnabled config = true ∧
            impl.caches.adminPollStarted = false := by
        cases u with
        | authorizationState state => cases state <;> simp [rearms]
        | _ => simp [rearms]
      simp only [pays, due] at counted paid
      simp only [Beating, AlarmPhase.next, Caches.phase, reduceCtorEq, decide_false, Bool.or_false]
      grind
  | close =>
      simp only [pays, rearms] at counted paid
      simp only [Beating, AlarmPhase.next, Caches.phase, reduceCtorEq, decide_false, Bool.or_false]
      grind

theorem beating_run (events : List Event) :
    Beating (runEvents config events).caches.phase (owing beats (runEvents config events)) := by
  induction events using List.reverseRecOn with
  | nil => exact ⟨Nat.zero_le 1, fun _ => rfl, fun started => by cases started⟩
  | append_singleton events event ih =>
      rw [runEvents_snoc]
      exact beating_process config _ event (fresh_run config events) ih

theorem phase_run (events : List Event) :
    ((runEvents config events).caches.adminPollStarted = true ↔
        pollingEnabled config = true ∧ Ready events) ∧
      (((runEvents config events).caches.stopped || (runEvents config events).caches.closing) =
          true ↔ Ended events) := by
  induction events using List.reverseRecOn with
  | nil => simp [runEvents, Impl.initial, act, Ready, Ended]
  | append_singleton events event ih =>
      have next := phase_event config (runEvents config events) event
      simp only [Caches.phase, AlarmPhase.next, AlarmPhase.mk.injEq] at next
      obtain ⟨started, closing, stopped⟩ := next
      rw [runEvents_snoc, caches_process, started, closing, stopped]
      simp only [Bool.or_eq_true, Bool.and_eq_true, decide_eq_true_eq, Ready, Ended] at ih ⊢
      rw [ih.1]
      simp only [List.mem_append, List.mem_singleton]
      constructor
      · grind
      · grind

/-- Only an alarm waits for one. -/
theorem alarms_paired (events : List Event) (action : Action)
    (member : action ∈ (runEvents config events).log) :
    alarmFree action = true ∨ ∃ seconds, action = .send (.setAlarm seconds) (some .adminAlarm) := by
  induction events using List.reverseRecOn with
  | nil =>
      rw [List.mem_singleton.mp member]
      exact Or.inl rfl
  | append_singleton events event ih =>
      rw [runEvents_snoc, log_process] at member
      rcases List.mem_append.mp member with old | new
      · exact ih old
      · have turn := alarmTurn_event config (runEvents config events) event
        generalize (reaction config _ event).2 = actions at turn new
        cases turn with
        | free _ silent idle => exact Or.inl (List.all_eq_true.mp silent action new)
        | armed front silent due =>
            rcases List.mem_append.mp new with early | last
            · exact Or.inl (List.all_eq_true.mp silent action early)
            · exact Or.inr ⟨_, List.mem_singleton.mp last⟩

/-- An alarm is out exactly while its continuation waits. -/
theorem alarmOut_iff (events : List Event) (number : Nat) :
    AlarmOut config events number ↔
      (runEvents config events).handlers number = some .adminAlarm := by
  rw [(numbered_run config events).waits, AlarmOut]
  apply and_congr_left
  intro _
  constructor
  · rintro ⟨seconds, handler, sent⟩
    rcases alarms_paired config events _ (sentUnder_mem _ number _ _ sent) with free | ⟨_, same⟩
    · cases free
    · cases same
      rw [sent]
      rfl
  · intro waits
    obtain ⟨⟨query, handler⟩, sent, rfl⟩ := Option.bind_eq_some_iff.mp waits
    rcases alarms_paired config events _ (sentUnder_mem _ number _ _ sent) with free | ⟨_, same⟩
    · cases query <;> cases free
    · cases same
      exact ⟨_, _, sent⟩

/-- At most one alarm is out at any time; from the first login until the client
ends it is exactly one; and once the client is to end, no answer sets another. -/
theorem one_heartbeat (events : List Event) :
    (∀ number other, AlarmOut config events number → AlarmOut config events other →
        number = other) ∧
      (pollingEnabled config = true → Ready events → ¬ Ended events →
        ∃! number, AlarmOut config events number) ∧
      (Ended events → ∀ number object,
        ∀ action ∈ (reaction config (runEvents config events) (.answer number object)).2,
          setsAlarm action = false) := by
  have beating := beating_run config events
  obtain ⟨started, ended⟩ := phase_run config events
  have waits (number : Nat) : AlarmOut config events number ↔
      owed beats ((runEvents config events).handlers number) ≠ 0 := by
    rw [alarmOut_iff, owed_beats]
    simp
  have unique (number other : Nat) (first : AlarmOut config events number)
      (second : AlarmOut config events other) : number = other :=
    unique_of_outstanding beats _ _ beating.1 (fresh_run config events) number other
      ((waits number).mp first) ((waits other).mp second)
  refine ⟨unique, ?_, ?_⟩
  · intro enabled ready going
    have out : owing beats (runEvents config events) = 1 := by
      rw [← ended, Bool.or_eq_true, not_or, Bool.not_eq_true, Bool.not_eq_true] at going
      exact beating.2.2 (started.mpr ⟨enabled, ready⟩) going.2 going.1
    have some : owing beats (runEvents config events) ≠ 0 := by
      rw [out]
      exact Nat.one_ne_zero
    obtain ⟨number, owes⟩ := exists_of_outstanding beats _ _ some
    exact ⟨number, (waits number).mpr owes, fun other held => unique other number held
      ((waits number).mpr owes)⟩
  · intro ending number object action member
    have idle : rearms config (runEvents config events) (.answer number object) = false := by
      simp [rearms, ended.mpr ending]
    have turn := alarmTurn_event config (runEvents config events) (.answer number object)
    generalize (reaction config _ _).2 = actions at turn member
    -- A turn that sets an alarm would have been due.
    cases turn with
    | free _ silent _ => exact setsAlarm_alarmFree action (List.all_eq_true.mp silent action member)
    | armed front silent due =>
        rw [idle] at due
        cases due

end

/-- One is out also after a second login. -/
theorem one_heartbeat_after_relogin :
    ∃! number, AlarmOut {}
      [.update (.authorizationState .ready), .update (.authorizationState .loggingOut),
        .update (.authorizationState .ready)] number :=
  (one_heartbeat {} _).2.1 (by decide) (by simp [Ready]) (by simp [Ended])

end TgLoggerd
