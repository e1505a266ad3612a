import TgLoggerd.AdminPolling
import TgLoggerd.QueryNumbers
import TgLoggerd.Streaks

/-!
When a group leaves the poll set. It is to leave when three permission errors came for
it with no success between them. The misses of a chat are the streak of the answers to
its getSupergroupMembers queries, and evict it at three; a basic group is refreshed by
getBasicGroupFullInfo, and nothing waits for the answers to that.
-/

namespace TgLoggerd

open Function SerialRun Streaks

/-- 400 and 403 are permission errors. -/
def refusal (code : Int) : Outcome := if code = 400 ∨ code = 403 then .failed else .silent

def membersOutcome : TdApi.Object → Outcome
  | .chatMembers _ => .succeeded
  | .error code => refusal code
  | _ => .silent

def infoOutcome : TdApi.Object → Outcome
  | .error code => refusal code
  | _ => .succeeded

/-- What an answer to a getSupergroupMembers of the chat tells. -/
def membersAnswer (chatId : Int) (impl : Impl) : Event → Option Outcome
  | .answer number object =>
      if impl.handlers number = some (.groupAdmins chatId) then some (membersOutcome object)
      else none
  | _ => none

/-- What the first answer to a getBasicGroupFullInfo for the group of a polled chat tells. -/
def infoAnswer (config : Config) (chatId : Int) (before : List Event) : Event → Option Outcome
  | .answer number object =>
      let impl := runEvents config before
      match sentUnder impl.log number with
      | some (.getBasicGroupFullInfo groupId, _) =>
          if chatId ∈ impl.caches.adminPollSet ∧
              impl.caches.chatToGroup chatId = some groupId ∧
              ¬ QueryAnswered config before number then
            some (infoOutcome object)
          else none
      | _ => none
  | _ => none

def refreshAnswer (config : Config) (chatId : Int) (before : List Event) (event : Event) :
    Option Outcome :=
  match membersAnswer chatId (runEvents config before) event with
  | some outcome => some outcome
  | none => infoAnswer config chatId before event

def membersAnswers (config : Config) (events : List Event) (chatId : Int) : List Outcome :=
  outputs (process config) (fun impl event => (membersAnswer chatId impl event).toList)
    Impl.initial events

/-- The answers to all refreshes of a chat, in order. -/
def refreshAnswers (config : Config) (events : List Event) (chatId : Int) : List Outcome :=
  outputs (fun before event => before ++ [event])
    (fun before event => (refreshAnswer config chatId before event).toList) [] events

/-- So many permission errors came for the chat with no success between them. -/
def Unreachable (config : Config) (events : List Event) (chatId : Int) : Prop :=
  Reaches kAdminPollMaxMiss (refreshAnswers config events chatId)

/-- The same of the answers to getSupergroupMembers alone. -/
def Denied (config : Config) (events : List Event) (chatId : Int) : Prop :=
  Reaches kAdminPollMaxMiss (membersAnswers config events chatId)

def EverPolled (config : Config) (events : List Event) (chatId : Int) : Prop :=
  ∃ before after, events = before ++ after ∧ chatId ∈ (runEvents config before).caches.adminPollSet

/-- A group that was polled has left the set exactly if it is unreachable, and what a pass over
the queue sends is for groups that are not. -/
structure EvictionLaw (config : Config) (events : List Event) : Prop where
  left : ∀ chatId, EverPolled config events chatId →
    (chatId ∉ (runEvents config events).caches.adminPollSet ↔ Unreachable config events chatId)
  polls : ∀ action ∈ (pollAdminBatch config (runEvents config events).caches).2,
    ∃ chatId, ¬ Unreachable config events chatId ∧
      Refreshes (runEvents config events).caches chatId action

/-- The answers to getBasicGroupFullInfo make no chat unreachable and keep none reachable;
and no unreachable chat comes back under a group number not seen before. -/
structure AnswersHeard (config : Config) (events : List Event) : Prop where
  heard : ∀ before after, events = before ++ after → ∀ chatId,
    (Unreachable config before chatId ↔ Denied config before chatId)
  settled : ∀ before event after, events = before ++ event :: after → ∀ chatId groupId,
    Brings event chatId groupId → (runEvents config before).caches.groupState groupId = none →
      ¬ Unreachable config before chatId

section

variable (config : Config)

theorem aloof_misses : Aloof Caches.adminPollMiss :=
  ⟨fun _ _ _ _ => rfl, fun _ _ _ _ => rfl, fun _ _ _ => rfl⟩

theorem misses_countMiss (caches : Caches) (missed chatId : Int) :
    (countMiss caches missed).adminPollMiss chatId =
      if chatId = missed then some ((caches.adminPollMiss missed).getD 0 + 1)
      else caches.adminPollMiss chatId := by
  simp only [countMiss]
  split
  · exact update_apply _ _ _ _
  · exact update_apply _ _ _ _

theorem misses_members (caches : Caches) (missed chatId : Int) (object : TdApi.Object) :
    ((resume config caches (.groupAdmins missed) object).1.adminPollMiss chatId).getD 0 =
      if chatId = missed then next ((caches.adminPollMiss chatId).getD 0) (membersOutcome object)
      else (caches.adminPollMiss chatId).getD 0 := by
  cases object with
  | chatMembers members =>
      simp only [resume, update_apply, membersOutcome, next]
      split <;> rfl
  | error code =>
      by_cases denied : code = 400 ∨ code = 403
      · simp only [resume, denied, ↓reduceIte, misses_countMiss, membersOutcome, refusal, next]
        split
        · next own => rw [own, Option.getD_some]
        · rfl
      · simp [resume, denied, membersOutcome, refusal, next]
  | _ => simp [resume, membersOutcome, next]

/-- The misses of a chat are counted by the answers to its getSupergroupMembers alone. -/
theorem misses_event (impl : Impl) (event : Event) (chatId : Int) :
    ((reaction config impl event).1.adminPollMiss chatId).getD 0 =
      match membersAnswer chatId impl event with
      | none => (impl.caches.adminPollMiss chatId).getD 0
      | some outcome => next ((impl.caches.adminPollMiss chatId).getD 0) outcome := by
  cases event with
  | update u =>
      have same : (processUpdate config impl.caches u).1.adminPollMiss =
          impl.caches.adminPollMiss := by
        apply aloof_update config Caches.adminPollMiss aloof_misses impl.caches u
        · intro state _
          exact aloof_authorization config Caches.adminPollMiss impl.caches (fun _ _ _ _ => rfl) state
        · intro user _
          exact spared_profilePhoto config Caches.adminPollMiss aloof_misses.files impl.caches user
      simp only [reaction, same, membersAnswer]
  | answer number object =>
      simp only [reaction, membersAnswer]
      cases found : impl.handlers number with
      | none => simp
      | some waiting =>
          by_cases admins : ∃ missed, waiting = .groupAdmins missed
          · obtain ⟨missed, rfl⟩ := admins
            rw [misses_members]
            by_cases own : chatId = missed
            · simp [own]
            · simp [own, Ne.symm own]
          · have same : (resume config impl.caches waiting object).1.adminPollMiss =
                impl.caches.adminPollMiss := by
              apply aloof_resume config Caches.adminPollMiss aloof_misses impl.caches waiting object
              · rintro reply depth rfl
                exact spared_replied config Caches.adminPollMiss impl.caches aloof_misses.files
                  (fun _ _ => rfl) reply depth object
              · intro user _ _
                exact spared_profilePhoto config Caches.adminPollMiss aloof_misses.files impl.caches
                  user
              · intro missed waits
                exact absurd ⟨missed, waits⟩ admins
            have other : ¬ some waiting = some (.groupAdmins chatId) := by
              rintro ⟨⟩
              exact admins ⟨chatId, rfl⟩
            simp only [same, other, ↓reduceIte]
  | close => rfl

theorem misses_run (events : List Event) (chatId : Int) :
    ((runEvents config events).caches.adminPollMiss chatId).getD 0 =
      streak (membersAnswers config events chatId) := by
  induction events using List.reverseRecOn with
  | nil => rfl
  | append_singleton events event ih =>
      rw [runEvents_snoc, caches_process, misses_event, membersAnswers, outputs_snoc, streak_option, ih]
      rfl

/-- A permission error evicts its chat when it is the third in a row that was heard. -/
theorem evicts_iff (events : List Event) (event : Event) (chatId : Int) :
    Evicts (runEvents config events) event chatId ↔
      membersAnswer chatId (runEvents config events) event = some .failed ∧
        kAdminPollMaxMiss ≤ streak (membersAnswers config events chatId) + 1 := by
  rw [← misses_run]
  constructor
  · rintro ⟨number, code, rfl, waits, denied, last⟩
    refine ⟨?_, last⟩
    simp [membersAnswer, waits, membersOutcome, refusal, denied]
  · rintro ⟨failed, last⟩
    cases event with
    | answer number object =>
        simp only [membersAnswer] at failed
        split at failed
        · next waits =>
            cases object with
            | error code =>
                simp only [membersOutcome, refusal, Option.some.injEq] at failed
                split at failed
                · next denied => exact ⟨number, code, rfl, waits, denied, last⟩
                · cases failed
            | _ => cases failed
        · cases failed
    | update u => cases failed
    | close => cases failed

theorem denied_snoc (events : List Event) (event : Event) (chatId : Int) :
    Denied config (events ++ [event]) chatId ↔
      Denied config events chatId ∨ Evicts (runEvents config events) event chatId := by
  rw [Denied, membersAnswers, outputs_snoc, reaches_option _ (by decide), evicts_iff]
  rfl

/-- The chats that were evicted are those with permission errors enough. -/
theorem denied_iff (events : List Event) (chatId : Int) :
    Denied config events chatId ↔ Evicted config events chatId := by
  induction events using List.reverseRecOn with
  | nil =>
      constructor
      · intro denied
        exact absurd denied (not_reaches_nil _ (by decide))
      · rintro ⟨before, event, after, split, _⟩
        simp at split
  | append_singleton events event ih => rw [denied_snoc, evicted_snoc, ih]

theorem refreshAnswers_snoc (events : List Event) (event : Event) (chatId : Int) :
    refreshAnswers config (events ++ [event]) chatId =
      refreshAnswers config events chatId ++ (refreshAnswer config chatId events event).toList := by
  have history : run (fun before event => before ++ [event]) [] events = events := by
    induction events using List.reverseRecOn with
    | nil => rfl
    | append_singleton events event ih => rw [run_snoc, ih]
  rw [refreshAnswers, outputs_snoc, history]
  rfl

theorem unreachable_append (before after : List Event) (chatId : Int)
    (unreachable : Unreachable config before chatId) :
    Unreachable config (before ++ after) chatId := by
  induction after using List.reverseRecOn with
  | nil => rwa [List.append_nil]
  | append_singleton after event ih =>
      rw [← List.append_assoc, Unreachable, refreshAnswers_snoc]
      exact reaches_append _ _ _ ih

theorem everPolled_snoc (events : List Event) (event : Event) (chatId : Int) :
    EverPolled config (events ++ [event]) chatId ↔
      EverPolled config events chatId ∨
        chatId ∈ (process config (runEvents config events) event).caches.adminPollSet := by
  constructor
  · rintro ⟨before, after, split, member⟩
    rcases List.eq_nil_or_concat after with rfl | ⟨front, final, rfl⟩
    · rw [List.append_nil] at split
      rw [← split, runEvents_snoc] at member
      exact Or.inr member
    · rw [List.concat_eq_append, ← List.append_assoc] at split
      obtain ⟨rfl, _⟩ := List.append_inj' split rfl
      exact Or.inl ⟨before, front, rfl, member⟩
  · rintro (⟨before, after, rfl, member⟩ | member)
    · exact ⟨before, after ++ [event], by simp, member⟩
    · refine ⟨events ++ [event], [], by simp, ?_⟩
      rwa [runEvents_snoc]

theorem everPolled_of_mem (events : List Event) (chatId : Int)
    (member : chatId ∈ (runEvents config events).caches.adminPollSet) :
    EverPolled config events chatId :=
  ⟨events, [], by simp, member⟩

/-- A group that was polled and is no more was evicted. -/
theorem evicted_of_gone (events : List Event) (chatId : Int)
    (polled : EverPolled config events chatId)
    (gone : chatId ∉ (runEvents config events).caches.adminPollSet) :
    Evicted config events chatId := by
  induction events using List.reverseRecOn with
  | nil =>
      obtain ⟨before, after, split, member⟩ := polled
      obtain ⟨rfl, _⟩ := List.append_eq_nil_iff.mp split.symm
      exact absurd member gone
  | append_singleton events event ih =>
      rw [runEvents_snoc] at gone
      rw [evicted_snoc]
      rcases (everPolled_snoc config events event chatId).mp polled with earlier | now
      · by_cases still : chatId ∈ (runEvents config events).caches.adminPollSet
        · exact Or.inr (((keeps_process config (runEvents config events) event).stays chatId
            still).resolve_left gone)
        · exact Or.inl (ih earlier still)
      · exact absurd now gone

/-- A group whose refreshes are answered by member lists and errors for them alone, as
those of supergroups and channels are. -/
theorem refreshAnswers_of_members (events : List Event) (chatId : Int)
    (members : ∀ before event after, events = before ++ event :: after →
      infoAnswer config chatId before event = none) :
    refreshAnswers config events chatId = membersAnswers config events chatId := by
  induction events using List.reverseRecOn with
  | nil => rfl
  | append_singleton events event ih =>
      have earlier := ih fun before other after split =>
        members before other (after ++ [event]) (by simp [split])
      have same : refreshAnswer config chatId events event =
          membersAnswer chatId (runEvents config events) event := by
        rw [refreshAnswer, members events event [] rfl]
        split
        · next heard => exact heard.symm
        · next unheard => exact unheard.symm
      rw [refreshAnswers_snoc, membersAnswers, outputs_snoc, earlier, same]
      rfl

/-- A full info tells nothing of a group that was never polled. -/
theorem refreshAnswers_of_unpolled (events : List Event) (chatId : Int)
    (never : ¬ EverPolled config events chatId) :
    refreshAnswers config events chatId = membersAnswers config events chatId := by
  apply refreshAnswers_of_members
  intro before event after split
  have unpolled : chatId ∉ (runEvents config before).caches.adminPollSet := fun member =>
    never ⟨before, event :: after, split, member⟩
  cases event with
  | answer number object =>
      simp only [infoAnswer]
      split
      · rw [if_neg]
        exact fun polled => unpolled polled.1
      · rfl
  | update u => rfl
  | close => rfl

/-- Only an updateNewChat of a group not seen before lets a chat enter the set. -/
theorem brings_of_entered (impl : Impl) (event : Event) (chatId : Int)
    (absent : chatId ∉ impl.caches.adminPollSet)
    (entered : chatId ∈ (process config impl event).caches.adminPollSet) :
    ∃ groupId, Brings event chatId groupId ∧ impl.caches.groupState groupId = none := by
  cases polling_event config impl event with
  | nothing same =>
      have set : _ = impl.caches.adminPollSet := congrArg Prod.fst same
      exact absurd (set ▸ entered) absent
  | added chat groupId brings first _ known same =>
      have set : _ = insert chat.id impl.caches.adminPollSet := congrArg Prod.fst same
      simp only [Caches.polling] at set
      rw [set, Finset.mem_insert] at entered
      obtain rfl := entered.resolve_right absent
      exact ⟨groupId, brings, first⟩
  | evicted other evicts same =>
      have set : _ = impl.caches.adminPollSet.erase other := congrArg Prod.fst same
      simp only [Caches.polling] at set
      rw [set] at entered
      exact absurd (Finset.mem_of_mem_erase entered) absent
  | polled polls same =>
      have set : _ = (pollAdminBatch config impl.caches).1.adminPollSet := congrArg Prod.fst same
      simp only [Caches.polling, pollAdminBatch, (polling_poll config impl.caches _ _).1] at set
      exact absurd (set ▸ entered) absent

theorem gone_process (impl : Impl) (event : Event) (chatId : Int)
    (evicts : Evicts impl event chatId) :
    chatId ∉ (process config impl event).caches.adminPollSet := by
  obtain ⟨number, code, rfl, waits, denied, last⟩ := evicts
  simp only [caches_process, reaction, waits, resume, denied, ↓reduceIte, countMiss, ge_iff_le, last]
  exact Finset.notMem_erase _ _

/-- An evicted group stays away unless it comes back under a new number. -/
theorem gone_of_evicted (events : List Event) (chatId : Int)
    (settled : ∀ before event after, events = before ++ event :: after → ∀ groupId,
      Brings event chatId groupId → (runEvents config before).caches.groupState groupId = none →
        ¬ Evicted config before chatId)
    (evicted : Evicted config events chatId) :
    chatId ∉ (runEvents config events).caches.adminPollSet := by
  induction events using List.reverseRecOn with
  | nil =>
      obtain ⟨before, event, after, split, _⟩ := evicted
      simp at split
  | append_singleton events event ih =>
      rw [runEvents_snoc]
      rcases (evicted_snoc config events event chatId).mp evicted with earlier | now
      · -- It could enter again with an updateNewChat only, and that finds its group known.
        have away : chatId ∉ (runEvents config events).caches.adminPollSet := by
          apply ih _ earlier
          intro before other after split
          exact settled before other (after ++ [event]) (by simp [split])
        intro entered
        obtain ⟨groupId, brings, first⟩ := brings_of_entered config _ event chatId away entered
        exact settled events event [] rfl groupId brings first earlier
      · exact gone_process config _ event chatId now

/-- Every query of a pass refreshes a chat that is in the set. -/
theorem refreshes_poll (scan share : Nat) (caches : Caches) (action : Action)
    (member : action ∈ (pollAdmins config scan share caches).2) :
    ∃ chatId ∈ caches.adminPollSet, Refreshes caches chatId action := by
  induction scan generalizing share caches with
  | zero => cases member
  | succ scan ih =>
      cases share with
      | zero => cases member
      | succ share =>
          cases queue : caches.adminPollQueue with
          | nil => simp [pollAdmins, queue] at member
          | cons chatId others =>
              by_cases inSet : chatId ∈ caches.adminPollSet
              · simp only [pollAdmins, queue, inSet, ↓reduceIte] at member
                split at member
                -- No group is known for the chat, so it is skipped.
                · exact ih _ { caches with adminPollQueue := others ++ [chatId] } member
                · next groupId st found =>
                    rcases List.mem_append.mp member with now | later
                    · obtain ⟨number, chat, found⟩ := Option.bind_eq_some_iff.mp found
                      obtain ⟨state, held, same⟩ := Option.map_eq_some_iff.mp found
                      cases same
                      refine ⟨chatId, inSet, groupId, st, chat, held, ?_⟩
                      split at now
                      · next basic => rw [if_pos basic]; exact List.mem_singleton.mp now
                      · next other =>
                        rw [if_neg other]
                        simp only [fetchGroupAdmins] at now
                        split at now
                        · exact List.mem_singleton.mp now
                        · cases now
                    · exact ih _ { caches with adminPollQueue := others ++ [chatId] } later
              · simp only [pollAdmins, queue, inSet, ↓reduceIte] at member
                -- An evicted chat leaves the queue here and is asked for no more.
                exact ih _ { caches with adminPollQueue := others } member

end

example : (runEvents (Config.started 300 4) (broughtAgain.take 7)).caches.adminPollSet = ∅ ∧
    membersAnswers (Config.started 300 4) (broughtAgain.take 7) (-1001) =
      [.failed, .failed, .failed] := by
  decide

/-- A basic group is brought, and three times its full info is refused. -/
def refusedBasicGroup : List Event :=
  [.update (.authorizationState .ready),
    .update (.newChat (some { id := -7, type := some (.basicGroup 7), title := "Rust" })),
    .answer 4 (.error 403), .answer 3 .other, .answer 5 (.error 403), .answer 6 .other,
    .answer 7 (.error 403)]

end TgLoggerd
