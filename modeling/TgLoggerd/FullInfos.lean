import TgLoggerd.Reactions

/-!
The getUserFullInfo query of a user. updateUser sends it when the user is not cached
yet; the answer to a getUser caches a user as well, and sends none. A user has it
exactly once if an updateUser was the first to cache the user.
-/

namespace TgLoggerd

open Function SerialRun

def asksInfo (userId : Int) : Action → Bool
  | .send (.getUserFullInfo asked) _ => decide (asked = userId)
  | _ => false

/-- An action that asks for no full info. -/
def infoless : Action → Bool
  | .send (.getUserFullInfo _) _ => false
  | _ => true

def Unasked (log : List Action) (userId : Int) : Prop :=
  ∀ action ∈ log, asksInfo userId action = false

/-- One query, and the user was handed over before it. -/
def FetchedOnce (log : List Action) (userId : Int) : Prop :=
  ∃ before request after, log = before ++ request :: after ∧ asksInfo userId request = true ∧
    (∃ u, .hand (.user u) ∈ before ∧ u.id = userId) ∧
    Unasked before userId ∧ Unasked after userId

/-- Where a getUser is answered with a user, the user is cached already. -/
def AnswersCached (impl : Impl) (event : Event) : Prop :=
  ∀ requestId u, event = .answer requestId (.user u) →
    impl.handlers requestId = some .savedUser → (impl.caches.users u.id).isSome

theorem admits_infoless : AdmitsMost infoless := by
  refine ⟨⟨?_⟩, fun _ => rfl, fun _ _ => rfl, fun _ _ _ _ => rfl⟩
  intro query handler plain
  cases query with
  | getUserFullInfo userId => cases plain
  | _ => rfl

theorem unasked_infoless (actions : List Action) (silent : actions.all infoless) (userId : Int) :
    Unasked actions userId := by
  intro action member
  have plain := List.all_eq_true.mp silent action member
  rcases action with call | ⟨query, handler⟩
  · rfl
  · cases query with
    | getUserFullInfo asked => cases plain
    | _ => rfl

theorem unasked_append (left right : List Action) (userId : Int) :
    Unasked (left ++ right) userId ↔ Unasked left userId ∧ Unasked right userId := by
  simp only [Unasked, List.mem_append, or_imp, forall_and]

theorem not_fetchedOnce_of_unasked (log : List Action) (userId : Int)
    (unasked : Unasked log userId) : ¬ FetchedOnce log userId := by
  rintro ⟨before, request, after, rfl, asks, _⟩
  have none := unasked request (by simp)
  rw [asks] at none
  cases none

theorem fetchedOnce_append (log actions : List Action) (userId : Int)
    (fetched : FetchedOnce log userId) (unasked : Unasked actions userId) :
    FetchedOnce (log ++ actions) userId := by
  obtain ⟨before, request, after, rfl, asks, handed, early, late⟩ := fetched
  exact ⟨before, request, after ++ actions, by simp, asks, handed, early,
    (unasked_append after actions userId).mpr ⟨late, unasked⟩⟩

/-- What a turn does about users and their full infos. -/
inductive InfoTurn (impl : Impl) (event : Event) : Caches × List Action → Prop where
  | other (result : Caches × List Action) (silent : result.2.all infoless)
      (same : result.1.users = impl.caches.users) : InfoTurn impl event result
  | known (u : TdApi.User) (result : Caches × List Action)
      (held : (impl.caches.users u.id).isSome) (silent : result.2.all infoless)
      (saved : result.1.users = update impl.caches.users u.id (some u)) :
      InfoTurn impl event result
  /-- The answer to a getUser is the first to bring the user. -/
  | answered (requestId : Nat) (u : TdApi.User) (result : Caches × List Action)
      (brings : event = .answer requestId (.user u))
      (waits : impl.handlers requestId = some .savedUser)
      (unseen : impl.caches.users u.id = none) (silent : result.2.all infoless)
      (saved : result.1.users = update impl.caches.users u.id (some u)) :
      InfoTurn impl event result
  | arrived (u : TdApi.User) (front : List Action) (caches : Caches)
      (unseen : impl.caches.users u.id = none) (silent : front.all infoless)
      (handed : .hand (.user (mapUser u)) ∈ front)
      (saved : caches.users = update impl.caches.users u.id (some u)) :
      InfoTurn impl event
        (caches, front ++ [.send (.getUserFullInfo u.id) (some (.fullInfo u.id))])

section

variable (config : Config)

theorem aloof_users : Aloof Caches.users :=
  ⟨fun _ _ _ _ => rfl, fun _ _ _ _ => rfl, fun _ _ _ => rfl⟩

theorem users_saveUser (caches : Caches) (u : TdApi.User) :
    (saveUser config caches u).1.users = update caches.users u.id (some u) := by
  have kept := spared_profilePhoto config Caches.users aloof_users.files caches u
  simp only [saveUser, kept]

theorem infoless_authorization (caches : Caches) (state : TdApi.AuthorizationState) :
    (onAuthorizationStateUpdate config caches state).2.all infoless := by
  cases state with
  | ready =>
      simp only [onAuthorizationStateUpdate]
      split <;> rfl
  | _ => rfl

variable (userSet : config.userHandler = true) (infoSet : config.userFullInfoHandler = true)

include userSet infoSet

/-- An updateUser asks for the full info of a user it finds uncached. -/
theorem infoTurn_user (impl : Impl) (u : TdApi.User) :
    InfoTurn impl (.update (.user (some u))) (processUpdate config impl.caches (.user (some u))) := by
  have silent := admits_saveUser config impl.caches admits_infoless.calls.toAdmitsEntities u
  have saved := users_saveUser config impl.caches u
  simp only [processUpdate]
  by_cases unseen : impl.caches.users u.id = none
  · simp only [unseen, Option.isNone_none, ↓reduceIte, requestUserFullInfo, infoSet]
    refine .arrived u _ _ unseen silent ?_ saved
    simp [saveUser, userSet]
  · have held : (impl.caches.users u.id).isSome := Option.isSome_iff_ne_none.mpr unseen
    have seen : (impl.caches.users u.id).isNone = false := by simpa using held
    simp only [seen, Bool.false_eq_true, ↓reduceIte, List.append_nil]
    exact .known u _ held silent saved

theorem infoTurn_update (impl : Impl) (u : TdApi.Update) :
    InfoTurn impl (.update u) (processUpdate config impl.caches u) := by
  by_cases given : ∃ user, u = .user (some user)
  · obtain ⟨user, rfl⟩ := given
    exact infoTurn_user config userSet infoSet impl user
  · apply InfoTurn.other
    · apply most_update config impl.caches admits_infoless u
      · intro state _
        exact infoless_authorization config impl.caches state
      · intro user same
        exact absurd ⟨user, same⟩ given
    · apply aloof_update config Caches.users aloof_users impl.caches u
      · intro state _
        exact aloof_authorization config Caches.users impl.caches (fun _ _ _ _ => rfl) state
      · intro user same
        exact absurd ⟨user, same⟩ given

omit userSet infoSet in
theorem infoTurn_resume (impl : Impl) (requestId : Nat) (object : TdApi.Object)
    (waiting : Continuation) (found : impl.handlers requestId = some waiting) :
    InfoTurn impl (.answer requestId object) (resume config impl.caches waiting object) := by
  have silent : (resume config impl.caches waiting object).2.all infoless := by
    apply most_resume config impl.caches admits_infoless waiting object
    intro _
    exact admits_alarm config admits_infoless.toAdmitsQueries (fun _ => rfl) impl.caches
  by_cases given : ∃ user, waiting = .savedUser ∧ object = .user user
  · obtain ⟨u, rfl, rfl⟩ := given
    have saved := users_saveUser config impl.caches u
    by_cases unseen : impl.caches.users u.id = none
    · exact .answered requestId u _ rfl found unseen silent saved
    · exact .known u _ (Option.isSome_iff_ne_none.mpr unseen) silent saved
  · apply InfoTurn.other _ silent
    apply aloof_resume config Caches.users aloof_users impl.caches waiting object
    · rintro reply depth rfl
      exact spared_replied config Caches.users impl.caches aloof_users.files (fun _ _ => rfl) reply
        depth object
    · intro user waits brings
      exact absurd ⟨user, waits, brings⟩ given
    · rintro chatId rfl
      exact aloof_refreshed config Caches.users aloof_users impl.caches (fun _ _ => rfl) chatId object

theorem infoTurn_event (impl : Impl) (event : Event) :
    InfoTurn impl event (reaction config impl event) := by
  cases event with
  | update u => exact infoTurn_update config userSet infoSet impl u
  | answer requestId object =>
      simp only [reaction]
      cases found : impl.handlers requestId with
      | none => exact .other _ rfl rfl
      | some waiting => exact infoTurn_resume config impl requestId object waiting found
  | close => exact .other _ rfl rfl

/-- A user that is cached stays so, and is asked about no more. -/
theorem cached_process (impl : Impl) (event : Event) (userId : Int)
    (cached : (impl.caches.users userId).isSome) :
    ((process config impl event).caches.users userId).isSome ∧
      Unasked (reaction config impl event).2 userId := by
  have grown (u : TdApi.User) : (update impl.caches.users u.id (some u) userId).isSome := by
    rw [update_apply]
    split
    · rfl
    · exact cached
  rw [caches_process]
  have turn := infoTurn_event config userSet infoSet impl event
  generalize reaction config impl event = result at turn
  cases turn with
  | other _ silent same =>
      rw [same]
      exact ⟨cached, unasked_infoless _ silent userId⟩
  | known u _ held silent saved =>
      rw [saved]
      exact ⟨grown u, unasked_infoless _ silent userId⟩
  | answered requestId u _ brings waits unseen silent saved =>
      rw [saved]
      exact ⟨grown u, unasked_infoless _ silent userId⟩
  | arrived u front caches unseen silent handed saved =>
      rw [saved]
      refine ⟨grown u, (unasked_append _ _ userId).mpr ⟨unasked_infoless _ silent userId, ?_⟩⟩
      intro action member
      rw [List.mem_singleton.mp member]
      apply decide_eq_false
      rintro rfl
      rw [unseen] at cached
      cases cached

/-- A user that is not cached was never asked about. -/
theorem unasked_run (events : List Event) (userId : Int)
    (unseen : (runEvents config events).caches.users userId = none) :
    Unasked (runEvents config events).log userId := by
  induction events using List.reverseRecOn with
  | nil =>
      intro action member
      rw [List.mem_singleton.mp member]
      rfl
  | append_singleton events event ih =>
      rw [runEvents_snoc] at unseen ⊢
      have before : (runEvents config events).caches.users userId = none := by
        by_contra held
        have kept := (cached_process config userSet infoSet (runEvents config events) event userId
          (Option.isSome_iff_ne_none.mpr held)).1
        rw [unseen] at kept
        cases kept
      rw [log_process, unasked_append]
      refine ⟨ih before, ?_⟩
      rw [caches_process] at unseen
      have turn := infoTurn_event config userSet infoSet (runEvents config events) event
      generalize reaction config _ event = result at turn unseen
      cases turn with
      | other _ silent same => exact unasked_infoless _ silent userId
      | known u _ held silent saved => exact unasked_infoless _ silent userId
      | answered requestId u _ brings waits unseen silent saved =>
          exact unasked_infoless _ silent userId
      | arrived u front caches first silent handed saved =>
          refine (unasked_append _ _ userId).mpr ⟨unasked_infoless _ silent userId, ?_⟩
          intro action member
          rw [List.mem_singleton.mp member]
          apply decide_eq_false
          rintro rfl
          rw [saved, update_self] at unseen
          cases unseen

/-- A user that was cached without being asked about is never asked about. -/
theorem unasked_from (impl : Impl) (userId : Int) (cached : (impl.caches.users userId).isSome)
    (unasked : Unasked impl.log userId) (events : List Event) :
    ((run (process config) impl events).caches.users userId).isSome ∧
      Unasked (run (process config) impl events).log userId := by
  apply run_invariant (process config) impl (fun state =>
    (state.caches.users userId).isSome ∧ Unasked state.log userId) ⟨cached, unasked⟩
  rintro state event ⟨held, silent⟩
  obtain ⟨kept, none⟩ := cached_process config userSet infoSet state event userId held
  rw [log_process, unasked_append]
  exact ⟨kept, silent, none⟩

omit userSet infoSet in
/-- The answer to a getUser caches the user and asks for nothing. -/
theorem answered_process (impl : Impl) (requestId : Nat) (u : TdApi.User)
    (waits : impl.handlers requestId = some .savedUser) (unasked : Unasked impl.log u.id) :
    ((process config impl (.answer requestId (.user u))).caches.users u.id).isSome ∧
      Unasked (process config impl (.answer requestId (.user u))).log u.id := by
  have reacts : reaction config impl (.answer requestId (.user u)) =
      saveUser config impl.caches u := by
    simp only [reaction, waits]
    rfl
  have silent := admits_saveUser config impl.caches admits_infoless.calls.toAdmitsEntities u
  rw [caches_process, log_process, reacts, users_saveUser, update_self, unasked_append]
  exact ⟨rfl, unasked, unasked_infoless _ silent u.id⟩

/-- The full info of a user is asked for once when an updateUser caches the user. -/
theorem fetchedOnce_process (events : List Event) (event : Event)
    (fine : AnswersCached (runEvents config events) event)
    (fetched : ∀ userId, ((runEvents config events).caches.users userId).isSome →
      FetchedOnce (runEvents config events).log userId) (userId : Int)
    (cached : ((process config (runEvents config events) event).caches.users userId).isSome) :
    FetchedOnce (process config (runEvents config events) event).log userId := by
  rw [log_process]
  by_cases before : ((runEvents config events).caches.users userId).isSome
  · exact fetchedOnce_append _ _ userId (fetched userId before)
      (cached_process config userSet infoSet _ event userId before).2
  · have unseen := Option.not_isSome_iff_eq_none.mp before
    have unasked := unasked_run config userSet infoSet events userId unseen
    -- What caches the user now is neither an answer nor about another user.
    have own (u : TdApi.User)
        (saved : (update (runEvents config events).caches.users u.id (some u) userId).isSome) :
        u.id = userId := by
      by_contra other
      rw [update_of_ne (Ne.symm other)] at saved
      exact before saved
    rw [caches_process] at cached
    have turn := infoTurn_event config userSet infoSet (runEvents config events) event
    generalize reaction config (runEvents config events) event = result at turn cached
    cases turn with
    | other _ silent same =>
        rw [same] at cached
        exact absurd cached before
    | known u _ held silent saved =>
        rw [saved] at cached
        exact absurd (own u cached ▸ held) before
    | answered requestId u _ brings waits fresh silent saved =>
        have held := fine requestId u brings waits
        rw [fresh] at held
        cases held
    | arrived u front caches fresh silent handed saved =>
        rw [saved] at cached
        obtain rfl := own u cached
        refine ⟨(runEvents config events).log ++ front, _, [], (List.append_assoc _ _ _).symm,
          decide_eq_true rfl, ?_, ?_, fun action member => by cases member⟩
        · exact ⟨mapUser u, List.mem_append_right _ handed, rfl⟩
        · exact (unasked_append _ _ _).mpr ⟨unasked, unasked_infoless _ silent _⟩

/-- Every cached user was asked about once, after having been handed over, exactly if no
answer to a getUser was the first to bring a user. -/
theorem full_infos_fetched_iff (events : List Event) :
    (∀ userId, ((runEvents config events).caches.users userId).isSome →
      FetchedOnce (runEvents config events).log userId) ↔
    EveryStep (process config) Impl.initial AnswersCached events := by
  constructor
  · rintro fetched before event after rfl requestId u rfl waits
    by_contra unseen
    have fresh := Option.not_isSome_iff_eq_none.mp unseen
    -- The answer caches the user unasked, and from then on nothing asks about it.
    have unasked := unasked_run config userSet infoSet before u.id fresh
    obtain ⟨cached, silent⟩ := answered_process config (runEvents config before) requestId u
      waits unasked
    obtain ⟨held, never⟩ := unasked_from config userSet infoSet _ u.id cached silent after
    have whole : runEvents config (before ++ .answer requestId (.user u) :: after) =
        run (process config) (process config (runEvents config before)
          (.answer requestId (.user u))) after := run_append _ _ _ _
    rw [← whole] at held never
    exact not_fetchedOnce_of_unasked _ _ never (fetched u.id held)
  · intro every
    induction events using List.reverseRecOn with
    | nil =>
        intro userId cached
        cases cached
    | append_singleton events event ih =>
        obtain ⟨earlier, last⟩ := (everyStep_snoc _ _ _ _ _).mp every
        rw [runEvents_snoc]
        exact fetchedOnce_process config userSet infoSet events event last (ih earlier)

end

/-- A message that was forwarded from a user nobody has told of. -/
def forwarded : Event :=
  .update (.newMessage
    { id := 1, chatId := 5, forwardInfo := some { origin := some (.user 7) } })

theorem full_infos_fetched_at_update :
    FetchedOnce (runEvents (Config.started 300 4)
      [forwarded, .update (.user (some { id := 7 })), .answer 2 (.user { id := 7 })]).log 7 := by
  refine (full_infos_fetched_iff (Config.started 300 4) rfl rfl _).mpr ?_ 7 (by decide)
  apply forall_split_cons
  · rintro requestId u ⟨⟩
  · apply forall_split_cons
    · rintro requestId u ⟨⟩
    · apply forall_split_cons
      · rintro requestId u ⟨⟩ _
        decide
      · exact forall_split_nil _

/-- The answer to the getUser comes before the updateUser. -/
theorem answered_user_never_asked_about :
    let impl := runEvents (Config.started 300 4)
      [forwarded, .answer 2 (.user { id := 7 }), .update (.user (some { id := 7 }))]
    (impl.caches.users 7).isSome ∧ ¬ FetchedOnce impl.log 7 := by
  intro impl
  refine ⟨by decide, not_fetchedOnce_of_unasked _ _ ?_⟩
  have none : impl.log.all (fun action => asksInfo 7 action = false) = true := by decide
  intro action member
  simpa using List.all_eq_true.mp none action member

end TgLoggerd
