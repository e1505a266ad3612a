import TgLoggerd.EntityWrites
import TgLoggerd.GroupEvents
import TgLoggerd.PhotoPipeline

/-!
What one event does to the photos of users and groups: which photo it delivers,
which ones are asked for or handed over, and which ones stop being waited for
without that.
-/

namespace TgLoggerd

open Function KeyedTable SerialRun

/-- The photo an update carries, with the user or group it is of. -/
def broughtPhoto : Event → Option (Subject × TdApi.File)
  | .update (.user (some u)) => u.profilePhoto.join.map fun big => (.user u.id, big)
  | .update (.newChat (some chat)) =>
      if (chatGroup chat.type).isSome then
        chat.photo.join.map fun big => (.group chat.id, big)
      else none
  | .update (.chatPhoto chatId photo) => photo.join.map fun big => (.group chatId, big)
  | _ => none

/-- The file of the photo delivered last for a user or group. -/
def newestPhoto (events : List Event) (subject : Subject) : Option Int :=
  ((events.filterMap broughtPhoto).filter fun brought => brought.1 = subject).getLast?.map
    fun brought => brought.2.id

/-- The group chat that an event makes known. -/
def announces (impl : Impl) : Event → Option Int
  | .update (.newChat (some chat)) => if (chatGroup chat.type).isSome then some chat.id else none
  | .answer requestId (.chat chat) =>
      if impl.handlers requestId = some .savedChat ∧ (chatGroup chat.type).isSome then
        some chat.id
      else none
  | _ => none

/-- A request for one owner takes the place of another one of the same kind. -/
def Displaces : Owner → Subject → Prop
  | .user asking, .user waiting => asking ≠ waiting
  | .group asking, .group waiting => asking ≠ waiting
  | _, _ => False

/-- The event takes from a user or group the file it waits for: another one
asks for the same file, or the file is complete and a user comes first. -/
def Loses (impl : Impl) (event : Event) (subject : Subject) (fileId : Int) : Prop :=
  (∃ owner file, demand impl event = some (owner, file) ∧ completedPath file = none ∧
    file.id = fileId ∧ Displaces owner subject) ∨
  Completes fileId event ∧ (impl.caches.pendingPhoto fileId).isSome ∧
    ∃ groupId, subject = .group groupId

/-- The file was asked for and has not been completed since. -/
def Outstanding (config : Config) (events : List Event) (fileId : Int) : Prop :=
  ∃ before event after, events = before ++ event :: after ∧
    fileId ∈ requested (reaction config (runEvents config before) event).2 ∧
    ∀ later ∈ after, ¬ Completes fileId later

theorem newestPhoto_snoc (events : List Event) (event : Event) (subject : Subject) :
    newestPhoto (events ++ [event]) subject =
      match broughtPhoto event with
      | some (other, file) => if other = subject then some file.id else newestPhoto events subject
      | none => newestPhoto events subject := by
  simp only [newestPhoto, List.filterMap_append, List.filter_append]
  cases brought : broughtPhoto event with
  | none => simp [brought]
  | some pair =>
      by_cases own : pair.1 = subject <;> simp [brought, own]

theorem outstanding_requested (config : Config) (events : List Event) (event : Event)
    (fileId : Int)
    (asked : fileId ∈ requested (reaction config (runEvents config events) event).2) :
    Outstanding config (events ++ [event]) fileId :=
  ⟨events, event, [], rfl, asked, by simp⟩

theorem outstanding_snoc (config : Config) (events : List Event) (event : Event) (fileId : Int)
    (outstanding : Outstanding config events fileId) (other : ¬ Completes fileId event) :
    Outstanding config (events ++ [event]) fileId := by
  obtain ⟨before, asking, after, split, asked, still⟩ := outstanding
  refine ⟨before, asking, after ++ [event], by simp [split], asked, ?_⟩
  intro later member
  rcases List.mem_append.mp member with earlier | last
  · exact still later earlier
  · cases List.mem_singleton.mp last
    exact other

theorem completed_not_outstanding (config : Config) (events : List Event) (fileId : Int)
    (completed : AllCompleted config events) : ¬ Outstanding config events fileId := by
  rintro ⟨before, event, after, split, asked, still⟩
  obtain ⟨later, member, completes⟩ := completed before event after split fileId asked
  exact still later member completes

theorem awaits_user (caches : Caches) (fileId userId : Int) :
    Awaits caches fileId (.user userId) ↔ caches.pendingPhoto fileId = some userId := by
  simp [Awaits, PendingMsgFile.owner]

theorem awaits_group (caches : Caches) (fileId groupId : Int) :
    Awaits caches fileId (.group groupId) ↔ caches.pendingGroupPhoto fileId = some groupId := by
  simp [Awaits, PendingMsgFile.owner]

section

variable (interval : Rat) (batch : Nat) (caches : Caches)

/-- A request leaves every other photo waited for, but for one it displaces. -/
theorem kept_request (request : Request) (fileId : Int) (subject : Subject)
    (awaited : Awaits caches fileId subject.owner)
    (undisplaced : ∀ owner file, request.demand = some (owner, file) → completedPath file = none →
      file.id = fileId → ¬ Displaces owner subject) :
    Awaits (request.perform (Config.started interval batch) caches).1 fileId subject.owner := by
  cases request with
  | nothing => exact awaited
  | messageFile message chatId =>
      simp only [Request.perform, maybeDownloadMessageFile]
      -- A message waits in a cache of its own.
      cases subject with
      | user userId =>
          simp only [Subject.owner, awaits_user] at awaited ⊢
          split
          · split <;> exact awaited
          · exact awaited
      | group groupId =>
          simp only [Subject.owner, awaits_group] at awaited ⊢
          split
          · split <;> exact awaited
          · exact awaited
  | profilePhoto u =>
      simp only [Request.demand, userDemand] at undisplaced
      simp only [Request.perform, maybeDownloadProfilePhoto, Config.started]
      cases wanted : u.profilePhoto.join with
      | none => exact awaited
      | some big =>
          by_cases complete : (completedPath big).isSome
          · simpa only [complete, ↓reduceIte] using awaited
          · have apart := undisplaced (.user u.id) big (by rw [wanted]; rfl)
              (Option.not_isSome_iff_eq_none.mp complete)
            simp only [complete, Bool.false_eq_true, ↓reduceIte]
            cases subject with
            | user userId =>
                simp only [Subject.owner, awaits_user, update_apply] at awaited ⊢
                by_cases same : fileId = big.id
                · have own := not_not.mp (apart same.symm)
                  rw [if_pos same, own]
                · rw [if_neg same]
                  exact awaited
            | group groupId =>
                simp only [Subject.owner, awaits_group] at awaited ⊢
                exact awaited
  | groupPhoto asking picture =>
      simp only [Request.demand, photoDemand] at undisplaced
      simp only [Request.perform, maybeDownloadGroupPhoto, Config.started]
      cases wanted : picture.join with
      | none => exact awaited
      | some big =>
          by_cases complete : (completedPath big).isSome
          · simpa only [complete, ↓reduceIte] using awaited
          · have apart := undisplaced (.group asking) big (by rw [wanted]; rfl)
              (Option.not_isSome_iff_eq_none.mp complete)
            simp only [complete, Bool.false_eq_true, ↓reduceIte]
            cases subject with
            | user userId =>
                simp only [Subject.owner, awaits_user] at awaited ⊢
                exact awaited
            | group groupId =>
                simp only [Subject.owner, awaits_group, update_apply] at awaited ⊢
                by_cases same : fileId = big.id
                · have own := not_not.mp (apart same.symm)
                  rw [if_pos same, own]
                · rw [if_neg same]
                  exact awaited

/-- The job a completed photo becomes. -/
theorem jobs_request (request : Request) (subject : Subject) (file : TdApi.File) (path : String)
    (demanded : request.demand = some (subject.owner, file))
    (complete : completedPath file = some path) :
    ∃ job ∈ fileJobs (request.perform (Config.started interval batch) caches).2,
      job.owner = subject.owner ∧ job.download.localPath = path := by
  cases request with
  | nothing => cases demanded
  | messageFile message chatId =>
      obtain ⟨found, _, same⟩ := Option.map_eq_some_iff.mp demanded
      cases subject <;> cases same
  | profilePhoto u =>
      obtain ⟨big, wanted, same⟩ := Option.map_eq_some_iff.mp demanded
      obtain ⟨owns, rfl⟩ := Prod.mk.inj same
      simp only [Request.perform, maybeDownloadProfilePhoto, Config.started, wanted, complete,
        Option.isSome_some, ↓reduceIte, emitPhoto]
      exact ⟨_, List.mem_singleton_self _, owns, rfl⟩
  | groupPhoto groupId picture =>
      obtain ⟨big, wanted, same⟩ := Option.map_eq_some_iff.mp demanded
      obtain ⟨owns, rfl⟩ := Prod.mk.inj same
      simp only [Request.perform, maybeDownloadGroupPhoto, Config.started, wanted, complete,
        Option.isSome_some, ↓reduceIte, emitGroupPhoto]
      exact ⟨_, List.mem_singleton_self _, owns, rfl⟩

/-- A completed file becomes a job for the photo that waits for it, unless a
user comes before a group. -/
theorem jobs_fileUpdate (f : TdApi.File) (path : String) (complete : completedPath f = some path)
    (subject : Subject) (awaited : Awaits caches f.id subject.owner)
    (first : ∀ groupId, subject = .group groupId → caches.pendingPhoto f.id = none) :
    ∃ job ∈ fileJobs (handleFileUpdate (Config.started interval batch) caches f).2,
      job.owner = subject.owner ∧ job.download.localPath = path := by
  cases subject with
  | user userId =>
      rw [Subject.owner, awaits_user] at awaited
      simp only [handleFileUpdate, complete, Option.isSome_some, ↓reduceIte, awaited, emitPhoto,
        Config.started]
      exact ⟨_, List.mem_singleton_self _, rfl, rfl⟩
  | group groupId =>
      rw [Subject.owner, awaits_group] at awaited
      simp only [handleFileUpdate, complete, Option.isSome_some, ↓reduceIte, awaited,
        first groupId rfl, emitGroupPhoto, Config.started]
      exact ⟨_, List.mem_singleton_self _, rfl, rfl⟩

/-- Only the chat of an event becomes known as a group's. -/
theorem chatToGroup_reaction (impl : Impl) (event : Event) (chatId : Int)
    (unannounced : announces impl event ≠ some chatId) :
    (reaction (Config.started interval batch) impl event).1.chatToGroup chatId =
      impl.caches.chatToGroup chatId := by
  cases writes_event (Config.started interval batch) impl event with
  | nothing same => exact congrFun (congrArg (·.2.2) same) chatId
  | user u same => exact congrFun (congrArg (·.2.2) same) chatId
  | state groupId st same => exact congrFun (congrArg (·.2.2) same) chatId
  | chat chat groupId st brings group same =>
      have written := congrFun (congrArg (·.2.2) same) chatId
      have isGroup : (chatGroup chat.type).isSome := by
        rw [← Option.isSome_map (f := GroupRef.id), group]
        rfl
      refine written.trans (update_of_ne ?_ _ _)
      rintro rfl
      rcases brings with rfl | ⟨requestId, rfl, waits⟩
      · exact unannounced (if_pos isGroup)
      · exact unannounced (if_pos ⟨waits, isGroup⟩)

/-- A user that comes with a photo is handed over. -/
theorem handed_brought (impl : Impl) (event : Event) (userId : Int) (file : TdApi.File)
    (brought : broughtPhoto event = some (.user userId, file)) :
    Handed (reaction (Config.started interval batch) impl event).2 (.user userId) := by
  cases event with
  | close => cases brought
  | answer requestId object => cases brought
  | update u =>
      cases u with
      | user user =>
          cases user with
          | none => cases brought
          | some u =>
              obtain ⟨big, _, same⟩ := Option.map_eq_some_iff.mp brought
              cases same
              exact ⟨.user (mapUser u), by simp [reaction, processUpdate, saveUser, Config.started],
                rfl⟩
      | newChat chat =>
          cases chat with
          | none => cases brought
          | some chat =>
              simp only [broughtPhoto] at brought
              split at brought
              · obtain ⟨big, _, same⟩ := Option.map_eq_some_iff.mp brought
                cases same
              · cases brought
      | chatPhoto chatId picture =>
          obtain ⟨big, _, same⟩ := Option.map_eq_some_iff.mp brought
          cases same
      | _ => cases brought

end

theorem fileJobs_subset (part all : List Action) (more : part ⊆ all) :
    fileJobs part ⊆ fileJobs all := by
  intro job member
  obtain ⟨action, posted, same⟩ := List.mem_filterMap.mp member
  exact List.mem_filterMap.mpr ⟨action, more posted, same⟩

/-- A photo that is brought is also demanded, if its chat is known. -/
theorem demand_of_brought (impl : Impl) (event : Event) (subject : Subject) (file : TdApi.File)
    (brought : broughtPhoto event = some (subject, file))
    (known : ∀ groupId picture, event = .update (.chatPhoto groupId picture) →
      subject = .group groupId → (impl.caches.chatToGroup groupId).isSome) :
    demand impl event = some (subject.owner, file) := by
  cases event with
  | close => cases brought
  | answer requestId object => cases brought
  | update u =>
      cases u with
      | user user =>
          cases user with
          | none => cases brought
          | some u =>
              obtain ⟨big, wanted, same⟩ := Option.map_eq_some_iff.mp brought
              cases same
              simp [demand, userDemand, wanted, Subject.owner]
      | newChat chat =>
          cases chat with
          | none => cases brought
          | some chat =>
              simp only [broughtPhoto] at brought
              simp only [demand, chatDemand]
              cases kind : chat.type with
              | none => simp [kind, chatGroup] at brought
              | some type =>
                  cases type with
                  | other => simp [kind, chatGroup] at brought
                  | basicGroup groupId =>
                      simp only [kind, chatGroup, Option.isSome_some, ↓reduceIte] at brought
                      obtain ⟨big, wanted, same⟩ := Option.map_eq_some_iff.mp brought
                      cases same
                      simp [photoDemand, wanted, Subject.owner]
                  | supergroup groupId isChannel =>
                      simp only [kind, chatGroup, Option.isSome_some, ↓reduceIte] at brought
                      obtain ⟨big, wanted, same⟩ := Option.map_eq_some_iff.mp brought
                      cases same
                      simp [photoDemand, wanted, Subject.owner]
      | chatPhoto chatId picture =>
          obtain ⟨big, wanted, same⟩ := Option.map_eq_some_iff.mp brought
          cases same
          simp [demand, known chatId picture rfl rfl, photoDemand, wanted, Subject.owner]
      | _ => cases brought

end TgLoggerd
