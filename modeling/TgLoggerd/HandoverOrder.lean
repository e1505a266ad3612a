import TgLoggerd.Downloads
import TgLoggerd.EntityOrder

/-!
A file is handed over only after the row it will be linked to. A message, user or
group that is handled is handed over first, and then its file is requested; the
caches that remember owners of requested files hold owners whose row was handed
over.
-/

namespace TgLoggerd

open SerialRun

/-- The owner of files whose row a call writes. -/
def Call.upserts : Call → Option Owner
  | .privateMessage pm => some (.message pm.chatId pm.messageId false)
  | .groupMessage gm => some (.message gm.chatId gm.messageId true)
  | .user u => some (.user u.id)
  | .group g => some (.group g.id)
  | _ => none

def RowHanded (log : List Action) (owner : Owner) : Prop :=
  ∃ call, .hand call ∈ log ∧ call.upserts = some owner

/-- The files that caches wait for belong to rows handed over. -/
def Backed (caches : Caches) (log : List Action) : Prop :=
  ∀ fileId owner, Awaits caches fileId owner → RowHanded log owner

def FileReady (log : List Action) : Action → Prop
  | .hand call => ∀ owner, call.owner = some owner → RowHanded log owner
  | .send _ _ => True

abbrev RowsFirst (log actions : List Action) : Prop := EachReady FileReady log actions

/-- What a turn must post and leave behind. -/
structure Backing (log : List Action) (result : Caches × List Action) : Prop where
  rowsFirst : RowsFirst log result.2
  backed : Backed result.1 (log ++ result.2)

/-- An action that hands over no file. -/
def fileless : Action → Bool
  | .hand call => call.owner.isNone
  | .send _ _ => true

theorem admits_fileless : AdmitsRows fileless :=
  ⟨⟨fun _ _ _ => rfl⟩, fun _ => rfl, fun _ => rfl⟩

theorem rowHanded_append (log actions : List Action) (owner : Owner)
    (handed : RowHanded log owner) : RowHanded (log ++ actions) owner := by
  obtain ⟨call, member, writes⟩ := handed
  exact ⟨call, List.mem_append_left _ member, writes⟩

theorem rowHanded_last (log before after : List Action) (call : Call) (owner : Owner)
    (writes : call.upserts = some owner) :
    RowHanded (log ++ (before ++ .hand call :: after)) owner :=
  ⟨call, by simp, writes⟩

theorem rowHanded_handed (log : List Action) (chatId : Int) (handed : Handed log (.group chatId)) :
    RowHanded log (.group chatId) := by
  obtain ⟨call, member, names⟩ := handed
  refine ⟨call, member, ?_⟩
  cases call with
  | group g =>
      cases names
      rfl
  | _ => cases names

section

variable (log : List Action)

theorem rowsFirst_fileless (actions : List Action) (none : actions.all fileless) :
    RowsFirst log actions := by
  apply eachReady_of_forall
  intro action member before
  have plain := List.all_eq_true.mp none action member
  cases action with
  | hand call =>
      intro owner links
      simp [fileless, links] at plain
  | send query handler => trivial

/-- It is enough to look at the calls. -/
theorem rowsFirst_of_calls (actions : List Action)
    (calls : ∀ before call after, actions = before ++ .hand call :: after →
      ∀ owner, call.owner = some owner → RowHanded (log ++ before) owner) :
    RowsFirst log actions := by
  intro before action after split
  cases action with
  | hand call => exact calls before call after split
  | send query handler => trivial

theorem backing_fileless (caches : Caches) (backed : Backed caches log)
    (result : Caches × List Action) (same : result.1.pending = caches.pending)
    (none : result.2.all fileless) : Backing log result where
  rowsFirst := rowsFirst_fileless log _ none
  backed fileId owner awaited :=
    rowHanded_append log _ owner
      (backed fileId owner ((awaits_congr caches result.1 same fileId owner).mp awaited))

/-- Actions without files, before and after, and writes to other caches. -/
theorem backing_around (before after : List Action) (result : Caches × List Action)
    (other : Caches) (noneBefore : before.all fileless) (noneAfter : after.all fileless)
    (same : other.pending = result.1.pending) (backing : Backing (log ++ before) result) :
    Backing log (other, before ++ result.2 ++ after) where
  rowsFirst := by
    rw [RowsFirst, eachReady_append, eachReady_append]
    exact ⟨⟨rowsFirst_fileless log before noneBefore, backing.rowsFirst⟩,
      rowsFirst_fileless _ after noneAfter⟩
  backed fileId owner awaited := by
    have handed := backing.backed fileId owner ((awaits_congr result.1 other same _ _).mp awaited)
    rw [← List.append_assoc, ← List.append_assoc]
    exact rowHanded_append _ after owner handed

end

section

variable (interval : Rat) (batch : Nat)

theorem owner_request (caches : Caches) (request : Request) (call : Call) (owner : Owner)
    (member : .hand call ∈ (request.perform (Config.started interval batch) caches).2)
    (links : call.owner = some owner) : ∃ file, request.demand = some (owner, file) := by
  cases request with
  | nothing => cases member
  | messageFile message chatId =>
      simp only [Request.perform, maybeDownloadMessageFile, Config.started] at member
      simp only [Request.demand, messageDemand]
      cases found : message.content.bind messageContentFile with
      | none => simp [found] at member
      | some content =>
          obtain ⟨f, category, fileName⟩ := content
          simp only [found] at member
          split at member
          · simp only [emitMessageFile] at member
            split at member
            · cases List.mem_singleton.mp member
              cases links
              exact ⟨f, rfl⟩
            · cases member
          · cases List.mem_singleton.mp member
  | profilePhoto u =>
      simp only [Request.perform, maybeDownloadProfilePhoto, Config.started] at member
      simp only [Request.demand, userDemand]
      cases found : u.profilePhoto.join with
      | none => simp [found] at member
      | some big =>
          simp only [found] at member
          split at member
          · simp only [emitPhoto] at member
            split at member
            · cases List.mem_singleton.mp member
              cases links
              exact ⟨big, rfl⟩
            · cases member
          · cases List.mem_singleton.mp member
  | groupPhoto groupId photo =>
      simp only [Request.perform, maybeDownloadGroupPhoto, Config.started] at member
      simp only [Request.demand, photoDemand]
      cases found : photo.join with
      | none => simp [found] at member
      | some big =>
          simp only [found] at member
          split at member
          · simp only [emitGroupPhoto] at member
            split at member
            · cases List.mem_singleton.mp member
              cases links
              exact ⟨big, rfl⟩
            · cases member
          · cases List.mem_singleton.mp member

/-- A request on behalf of an owner whose row was handed over. -/
theorem backing_request (caches : Caches) (log : List Action) (backed : Backed caches log)
    (request : Request)
    (known : ∀ owner file, request.demand = some (owner, file) → RowHanded log owner) :
    Backing log (request.perform (Config.started interval batch) caches) where
  rowsFirst := by
    apply rowsFirst_of_calls
    intro before call after split owner links
    obtain ⟨file, wanted⟩ := owner_request interval batch caches request call owner
      (by simp [split]) links
    exact rowHanded_append log before owner (known owner file wanted)
  backed fileId owner awaited := by
    apply rowHanded_append
    have met := meets_request interval batch caches request
    cases wanted : request.demand with
    | none =>
        rw [wanted] at met
        exact backed fileId owner ((awaits_congr caches _ met fileId owner).mp awaited)
    | some pair =>
        obtain ⟨asker, file⟩ := pair
        rw [wanted] at met
        simp only [Meets] at met
        split at met
        · exact backed fileId owner ((awaits_congr caches _ met.1 fileId owner).mp awaited)
        · rcases met.1.only fileId owner awaited with ⟨_, rfl⟩ | before
          · exact known owner file wanted
          · exact backed fileId owner before

theorem backing_fileUpdate (caches : Caches) (log : List Action) (backed : Backed caches log)
    (f : TdApi.File) : Backing log (handleFileUpdate (Config.started interval batch) caches f) where
  rowsFirst := by
    apply rowsFirst_of_calls
    intro before call after split owner links
    apply rowHanded_append
    have member : .hand call ∈ (handleFileUpdate (Config.started interval batch) caches f).2 := by
      simp [split]
    simp only [handleFileUpdate, emitPhoto, emitGroupPhoto, emitMessageFile, Config.started] at member
    apply backed f.id
    split at member
    · split at member
      · next userId awaited =>
        split at member
        · cases List.mem_singleton.mp member
          cases links
          exact Or.inl (by rw [awaited]; rfl)
        · cases member
      · split at member
        · next groupId awaited =>
          split at member
          · cases List.mem_singleton.mp member
            cases links
            exact Or.inr (Or.inl (by rw [awaited]; rfl))
          · cases member
        · split at member
          · next ref awaited =>
            split at member
            · cases List.mem_singleton.mp member
              cases links
              exact Or.inr (Or.inr (by rw [awaited]; rfl))
            · cases member
          · cases member
    · cases member
  backed fileId owner awaited :=
    rowHanded_append log _ owner
      (backed fileId owner (only_fileUpdate interval batch caches f fileId owner awaited))

section

variable (caches : Caches) (log : List Action) (backed : Backed caches log)

theorem backed_snoc (actions : List Action) : Backed caches log → Backed caches (log ++ actions) :=
  fun backed fileId owner awaited => rowHanded_append log actions owner (backed fileId owner awaited)

theorem fileless_reply (config : Config) (message : TdApi.Message) (isGroup : Bool) (depth : Nat) :
    (resolveReplyMessage config caches message isGroup depth).all fileless := by
  simp only [resolveReplyMessage]
  split
  · split <;> rfl
  · rfl

/-- A message is handled in four parts. -/
theorem handleMessage_eq (chatId : Int) (message : TdApi.Message) (depth : Nat) :
    let asked := (Request.messageFile message chatId).perform (Config.started interval batch) caches
    handleMessage (Config.started interval batch) caches chatId message depth =
      (asked.1,
        forwardActions (Config.started interval batch) caches (extractForwardInfo message) ++
            [.hand (messageCall chatId message)] ++ asked.2 ++
          resolveReplyMessage (Config.started interval batch) asked.1 message
            (!isPrivateChat chatId) depth) := by
  simp only [handleMessage, messageCall, Request.perform]
  cases isPrivateChat chatId <;> rfl

theorem upserts_messageCall (chatId : Int) (message : TdApi.Message) :
    (messageCall chatId message).upserts =
      some (.message message.chatId message.id (!isPrivateChat chatId)) := by
  simp only [messageCall]
  cases isPrivateChat chatId <;> rfl

theorem fileless_messageCall (chatId : Int) (message : TdApi.Message) :
    fileless (.hand (messageCall chatId message)) = true := by
  simp only [messageCall]
  cases isPrivateChat chatId <;> rfl

include backed

theorem backing_message (chatId : Int) (message : TdApi.Message) (depth : Nat) :
    Backing log (handleMessage (Config.started interval batch) caches chatId message depth) := by
  rw [handleMessage_eq]
  apply backing_around log _ _ _ _ _ (fileless_reply _ _ _ _ _) rfl
  · apply backing_request interval batch caches _ (backed_snoc caches log _ backed)
    intro owner file wanted
    simp only [Request.demand, messageDemand, Option.map_eq_some_iff] at wanted
    obtain ⟨found, _, same⟩ := wanted
    cases same
    exact rowHanded_last log _ [] _ _ (upserts_messageCall chatId message)
  · rw [List.all_append, admits_forward _ caches admits_fileless, List.all_cons,
      fileless_messageCall]
    rfl

theorem backing_saveUser (u : TdApi.User) (after : List Action) (none : after.all fileless) :
    Backing log
      ((saveUser (Config.started interval batch) caches u).1,
        (saveUser (Config.started interval batch) caches u).2 ++ after) := by
  refine backing_around log [.hand (.user (mapUser u))] after
    ((Request.profilePhoto u).perform (Config.started interval batch) caches)
    (saveUser (Config.started interval batch) caches u).1 rfl none rfl ?_
  apply backing_request interval batch caches _ (backed_snoc caches log _ backed)
  intro owner file wanted
  simp only [Request.demand, userDemand, Option.map_eq_some_iff] at wanted
  obtain ⟨found, _, same⟩ := wanted
  cases same
  exact rowHanded_last log [] [] _ _ rfl

theorem backing_newChat (chat : TdApi.Chat) (fromChatList : Bool) :
    Backing log (handleNewChat (Config.started interval batch) caches chat fromChatList) := by
  have group (groupId : Int) (type : GroupType) : Backing log
      (handleGroupChat (Config.started interval batch) caches chat fromChatList groupId type) := by
    have seen := seenState_seen caches chat groupId type
    have emitted : emitGroup (Config.started interval batch) (seenCaches caches chat groupId type)
        groupId = [.hand (.group
          { id := chat.id
            type := (seenState caches chat groupId type).type
            title := (seenState caches chat groupId type).title
            description := (seenState caches chat groupId type).description
            activeUsernames := (seenState caches chat groupId type).activeUsernames
            disabledUsernames := (seenState caches chat groupId type).disabledUsernames
            collectibleUsernames := (seenState caches chat groupId type).collectibleUsernames })] := by
      simp [emitGroup, seenCaches, Config.started, seen]
    have asked (request : Action) : Backing
        (log ++ (emitGroup (Config.started interval batch) (seenCaches caches chat groupId type)
          groupId ++ [request]))
        ((Request.groupPhoto chat.id chat.photo).perform (Config.started interval batch)
          (seenCaches caches chat groupId type)) := by
      apply backing_request interval batch (seenCaches caches chat groupId type)
      · exact backed_snoc (seenCaches caches chat groupId type) log _ backed
      · intro owner file wanted
        simp only [Request.demand, photoDemand, Option.map_eq_some_iff] at wanted
        obtain ⟨found, _, same⟩ := wanted
        cases same
        rw [emitted]
        exact rowHanded_last log [] [request] _ _ rfl
    have before (request : Action) (plain : fileless request = true) :
        (emitGroup (Config.started interval batch) (seenCaches caches chat groupId type)
          groupId ++ [request]).all fileless := by
      rw [List.all_append, admits_emitGroup _ _ admits_fileless, List.all_cons, plain]
      rfl
    have members : (if type = .basicGroup then []
        else fetchGroupAdmins (Config.started interval batch) groupId chat.id).all fileless := by
      split
      · rfl
      · exact admits_fetchAdmins _ admits_fileless.toAdmitsQueries _ _
    have request : fileless (if type = .basicGroup then .send (.getBasicGroupFullInfo groupId) none
        else .send (.getSupergroupFullInfo groupId) none) = true := by
      split <;> rfl
    simp only [handleGroupChat]
    split
    · exact backing_around log _ _ _ _ (before _ request) members rfl (asked _)
    · have around := backing_around log _ [] _ _ (before _ request) rfl rfl (asked _)
      rw [List.append_nil] at around
      exact around
  simp only [handleNewChat]
  cases chat.type with
  | none => exact backing_fileless log caches backed _ rfl rfl
  | some type =>
      cases type with
      | basicGroup groupId => exact group groupId _
      | supergroup groupId isChannel => exact group groupId _
      | other => exact backing_fileless log caches backed _ rfl rfl

theorem backing_walked (chatId : Int) (message : TdApi.Message) (depth : Nat)
    (before after : List Action) (noneBefore : before.all fileless)
    (noneAfter : after.all fileless) :
    Backing log
      ((handleMessage (Config.started interval batch) caches chatId message depth).1,
        before ++ (handleMessage (Config.started interval batch) caches chatId message depth).2 ++
          after) :=
  backing_around log before after _ _ noneBefore noneAfter rfl
    (backing_message interval batch caches (log ++ before) (backed_snoc caches log before backed)
      chatId message depth)

theorem backing_resume (waiting : Continuation) (object : TdApi.Object) :
    Backing log (resume (Config.started interval batch) caches waiting object) := by
  have nothing := backing_fileless log caches backed
  cases waiting with
  | authentication => cases object <;> exact nothing _ rfl rfl
  | me => cases object <;> exact nothing _ rfl rfl
  | editedMessage =>
      cases object with
      | message m => exact backing_message interval batch caches log backed m.chatId m 0
      | _ => exact nothing _ rfl rfl
  | repliedMessage reply depth =>
      cases object with
      | message r =>
          exact backing_walked interval batch
            (markReplyResolved caches (reply.replyToChatId, reply.replyToMsgId)) log backed
            reply.replyToChatId r (depth + 1) _ [.hand (.messageReply reply)]
            (admits_messageEntities _ _ admits_fileless r) rfl
      | _ => exact nothing _ rfl rfl
  | savedUser =>
      cases object with
      | user u =>
          have saved := backing_saveUser interval batch caches log backed u [] rfl
          rw [List.append_nil] at saved
          exact saved
      | _ => exact nothing _ rfl rfl
  | savedChat =>
      cases object with
      | chat chat => exact backing_newChat interval batch caches log backed chat false
      | _ => exact nothing _ rfl rfl
  | fullInfo userId => cases object <;> exact nothing _ rfl rfl
  | groupAdmins chatId =>
      cases object with
      | chatMembers members => exact nothing _ rfl (admits_groupAdmins _ caches admits_fileless (fun _ => rfl) chatId members)
      | error code =>
          apply nothing
          · simp only [resume]
            split
            · exact (caches_miss caches chatId).2
            · rfl
          · rfl
      | _ => exact nothing _ rfl rfl
  | adminAlarm =>
      cases object <;>
        exact nothing _ (caches_alarm _ caches).2
          (admits_alarm _ admits_fileless.toAdmitsQueries (fun _ => rfl) caches)

theorem backing_update (tracked : Tracked caches log) (u : TdApi.Update) :
    Backing log (processUpdate (Config.started interval batch) caches u) := by
  have nothing := backing_fileless log caches backed
  have emitted (other : Caches) (groupId : Int) :=
    admits_emitGroup (Config.started interval batch) other admits_fileless groupId
  cases u with
  | authorizationState state =>
      exact nothing _ (caches_authorization _ caches state).2
        (admits_authorization _ (fun _ _ _ => rfl) caches state)
  | user user =>
      cases user with
      | none => exact nothing _ rfl rfl
      | some u =>
          apply backing_saveUser interval batch caches log backed u
          split
          · rfl
          · rfl
  | userFullInfo userId info => cases info <;> exact nothing _ rfl rfl
  | file file =>
      cases file with
      | none => exact nothing _ rfl rfl
      | some f => exact backing_fileUpdate interval batch caches log backed f
  | newChat chat =>
      cases chat with
      | none => exact nothing _ rfl rfl
      | some chat => exact backing_newChat interval batch caches log backed chat true
  | chatTitle chatId title =>
      simp only [processUpdate]
      split
      · exact nothing _ rfl rfl
      · exact nothing _ rfl (emitted _ _)
  | chatPhoto chatId photo =>
      simp only [processUpdate]
      split
      · exact nothing _ rfl rfl
      · next groupId known =>
        -- A chat with a known group was handed over.
        have handed : RowHanded log (.group chatId) :=
          rowHanded_handed log chatId
            ((tracked.handed (.group chatId)).mp (by rw [Cached, known]; rfl))
        apply backing_request interval batch caches log backed (.groupPhoto chatId photo)
        intro owner file wanted
        simp only [Request.demand, photoDemand, Option.map_eq_some_iff] at wanted
        obtain ⟨found, _, same⟩ := wanted
        cases same
        exact handed
  | supergroup supergroup =>
      cases supergroup with
      | none => exact nothing _ rfl rfl
      | some sg =>
          simp only [processUpdate, handleSupergroup]
          split
          · exact nothing _ rfl rfl
          · exact nothing _ rfl (emitted _ _)
  | supergroupFullInfo groupId info =>
      cases info with
      | none => exact nothing _ rfl rfl
      | some info =>
          apply nothing _ rfl
          simp only [processUpdate]
          split
          · exact emitted _ _
          · rfl
  | basicGroupFullInfo groupId info =>
      cases info with
      | none => exact nothing _ rfl rfl
      | some info =>
          simp only [processUpdate]
          split
          · apply nothing _ rfl
            rw [List.all_append, emitted, Bool.true_and]
            split
            · exact admits_groupAdmins _ _ admits_fileless (fun _ => rfl) _ _
            · rfl
          · exact nothing _ rfl rfl
  | newMessage message =>
      exact backing_walked interval batch caches log backed message.chatId message 0 [] _ rfl
        (admits_text _ _ (fun _ => rfl) message)
  | messageContent chatId messageId newContent => exact nothing _ rfl rfl
  | messageEdited chatId messageId => exact nothing _ rfl rfl
  | deleteMessages chatId messageIds isPermanent =>
      apply nothing _ rfl
      simp only [processUpdate, handleDeleteMessages, Config.started]
      rw [List.all_eq_true]
      intro action member
      split at member
      · obtain ⟨msgId, _, rfl⟩ := List.mem_map.mp member
        rfl
      · obtain ⟨msgId, _, rfl⟩ := List.mem_map.mp member
        rfl
  | other => exact nothing _ rfl rfl

end

theorem backing_event (impl : Impl) (tracked : Tracked impl.caches impl.log)
    (backed : Backed impl.caches impl.log) (event : Event) :
    Backing impl.log (reaction (Config.started interval batch) impl event) := by
  have nothing := backing_fileless impl.log impl.caches backed
  cases event with
  | update u => exact backing_update interval batch impl.caches impl.log backed tracked u
  | answer requestId object =>
      simp only [reaction]
      cases impl.handlers requestId with
      | none => exact nothing _ rfl rfl
      | some waiting => exact backing_resume interval batch impl.caches impl.log backed waiting object
  | close => exact nothing _ rfl rfl

/-- In everything the wrapper posts, rows come before their files. -/
theorem rowsFirst_run (events : List Event) :
    let impl := runEvents (Config.started interval batch) events
    Backed impl.caches impl.log ∧ RowsFirst [] impl.log := by
  induction events using List.reverseRecOn with
  | nil =>
      constructor
      · rintro fileId owner (user | group | message)
        · cases user
        · cases group
        · cases message
      · exact rowsFirst_fileless [] _ rfl
  | append_singleton events event ih =>
      have tracked := tracked_run interval batch events
      have backing := backing_event interval batch _ tracked ih.1 event
      rw [runEvents_snoc]
      simp only [caches_process, log_process]
      exact ⟨backing.backed, (eachReady_append _ _ _ _).mpr ⟨ih.2, backing.rowsFirst⟩⟩

end

end TgLoggerd
