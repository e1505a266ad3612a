import TgLoggerd.PhotoEvents

/-!
Whether the photo column of a user or group ends at the photo delivered last.
Downloads complete in any order, and the workers of `files_` post links in any
order; the last link posted is the one that stays. So the newest photo is safe
until its own link is posted, and from then on only if no older one follows.
-/

namespace TgLoggerd

open Function KeyedTable SerialRun

section

variable {Key : Type} [DecidableEq Key] {collate : String → Key}

/-- What a worker of `files_` has in hand is the content, for the subject. -/
def Carries (content : String → Digest) (table : FileTable collate) (subject : Subject)
    (digest : Digest) : FileWorker → Prop
  | .idle => False
  | .storing job => job.owner = subject.owner ∧ content job.download.localPath = digest
  | .linking owner rowId => owner = subject.owner ∧ IsRow table digest rowId

variable (config : Config) (order : MapOrder) (content : String → Digest) (photo : Int → Digest)
  (p : Pipeline collate)

def Awaited (subject : Subject) (fileId : Int) : Prop :=
  Awaits p.impl.caches fileId subject.owner ∧ Outstanding config p.seen fileId

def Queued (subject : Subject) (digest : Digest) : Prop :=
  ∃ job ∈ p.files, job.owner = subject.owner ∧ content job.download.localPath = digest

/-- The row of the subject has the photo once the serial queue is empty. -/
def PhotoShown (subject : Subject) (digest : Digest) : Prop :=
  ∃ rowId, IsRow p.table digest rowId ∧ livePhoto (p.settled order) subject = some rowId

def InHand (subject : Subject) (digest : Digest) : Prop :=
  Queued content p subject digest ∨
    (∃ i, Carries content p.table subject digest (p.workers i)) ∨ PhotoShown order p subject digest

/-- The newest photo is on its way to the row, or there. -/
def Assured (subject : Subject) (fileId : Int) : Prop :=
  Awaited config p subject fileId ∨ InHand order content p subject (photo fileId)

/-- Once both queues are empty, the workers idle and all downloads complete,
every row shows the photo delivered last. -/
def NewestWins : Prop :=
  p.files = [] → (∀ i, p.workers i = .idle) → p.serial = [] → AllCompleted config p.seen →
    ∀ subject fileId, p.tables.stored subject → newestPhoto p.seen subject = some fileId →
      ∃ rowId, IsRow p.table (photo fileId) rowId ∧ livePhoto p.tables subject = some rowId

/-- What lies at the path of a completed file is the content of that file. -/
def Genuine : PipelineMove → Prop
  | .receive event => ∀ file path,
      (∃ owner, demand p.impl event = some (owner, file)) ∨ event = .update (.file (some file)) →
        completedPath file = some path → content path = photo file.id
  | _ => True

def StoreSucceeds : PipelineMove → Prop
  | .store i readable => ∀ job, p.workers i = .storing job →
      readable = true ∧ ∃ rowId, (storeDownloadedFile p.table
        (some (content job.download.localPath)) true job.download).1 = .ok (some rowId)
  | _ => True

/-- No event takes a newest photo from its owner before it is in hand, no group
becomes known after a photo update for it, and no older photo is linked unless
a link to the newest one is still to be posted. -/
def InOrder : PipelineMove → Prop
  | .receive event =>
      (∀ subject fileId, newestPhoto p.seen subject = some fileId →
        Awaits p.impl.caches fileId subject.owner → Loses p.impl event subject fileId →
          InHand order content p subject (photo fileId)) ∧
      ∀ chatId, announces p.impl event = some chatId → p.impl.caches.chatToGroup chatId = none →
        newestPhoto p.seen (.group chatId) = none ∨
          ∃ file, broughtPhoto event = some (.group chatId, file)
  | .post i => ∀ subject rowId fileId, p.workers i = .linking subject.owner rowId →
      newestPhoto p.seen subject = some fileId →
        IsRow p.table (photo fileId) rowId ∨ Awaited config p subject fileId ∨
          Queued content p subject (photo fileId) ∨
          ∃ j, j ≠ i ∧ Carries content p.table subject (photo fileId) (p.workers j)
  | _ => True

end

section

variable {Key : Type} [DecidableEq Key] {collate : String → Key} (interval : Rat) (batch : Nat)
  (order : MapOrder) (content : String → Digest) (photo : Int → Digest) (p : Pipeline collate)
  (event : Event) (subject : Subject) (fileId : Int)

/-- A photo that is waited for stays so, or its file is complete and a job. -/
theorem awaited_receive (genuine : Genuine content photo p (.receive event))
    (awaited : Awaited (Config.started interval batch) p subject fileId)
    (kept : ¬ Loses p.impl event subject fileId) :
    let received := pipelineStep (Config.started interval batch) order content p (.receive event)
    Awaited (Config.started interval batch) received subject fileId ∨
      Queued content received subject (photo fileId) := by
  intro received
  obtain ⟨waiting, outstanding⟩ := awaited
  by_cases completes : Completes fileId event
  · cases event with
    | update u =>
        cases u with
        | file file =>
            cases file with
            | none => cases completes
            | some f =>
                obtain ⟨rfl, complete⟩ := completes
                obtain ⟨path, there⟩ := Option.isSome_iff_exists.mp complete
                obtain ⟨job, posted, owns, lies⟩ := jobs_fileUpdate interval batch p.impl.caches f
                  path there subject waiting (by
                    rintro groupId rfl
                    by_contra taken
                    exact kept (Or.inr ⟨⟨rfl, complete⟩, Option.isSome_iff_ne_none.mpr taken,
                      groupId, rfl⟩))
                refine Or.inr ⟨job, List.mem_append_right _ posted, owns, ?_⟩
                rw [lies]
                exact genuine f path (Or.inr rfl) there
        | _ => cases completes
    | answer requestId object => cases completes
    | close => cases completes
  · refine Or.inl ⟨?_, outstanding_snoc _ _ _ _ outstanding completes⟩
    change Awaits (process (Config.started interval batch) p.impl event).caches fileId subject.owner
    rw [caches_process]
    by_cases file : ∃ f, event = .update (.file (some f))
    · obtain ⟨f, rfl⟩ := file
      exact kept_fileUpdate interval batch p.impl.caches f fileId subject.owner waiting completes
    · obtain ⟨request, before, asked, earlier, same, _⟩ :=
        asks_event interval batch p.impl event fun f hit => file ⟨f, hit⟩
      apply (awaits_congr _ _ same _ _).mpr
      apply kept_request interval batch before request fileId subject
        ((awaits_congr _ _ earlier _ _).mpr waiting)
      intro owner asking demanded missing own displaces
      exact kept (Or.inl ⟨owner, asking, asked ▸ demanded, missing, own, displaces⟩)

/-- A demanded photo is asked for, or is complete and a job. -/
theorem assured_demand (fed : p.impl = runEvents (Config.started interval batch) p.seen)
    (genuine : Genuine content photo p (.receive event)) (file : TdApi.File)
    (demanded : demand p.impl event = some (subject.owner, file)) :
    Assured (Config.started interval batch) order content photo
      (pipelineStep (Config.started interval batch) order content p (.receive event)) subject
      file.id := by
  have noFile : ∀ f, event ≠ .update (.file (some f)) := by
    rintro f rfl
    cases demanded
  cases there : completedPath file with
  | some path =>
      obtain ⟨request, before, asked, _, _, more⟩ :=
        asks_event interval batch p.impl event noFile
      obtain ⟨job, posted, owns, lies⟩ := jobs_request interval batch before request subject file
        path (asked.trans demanded) there
      refine Or.inr (Or.inl ⟨job, List.mem_append_right _ (fileJobs_subset _ _ more posted), owns,
        ?_⟩)
      rw [lies]
      exact genuine file path (Or.inl ⟨_, demanded⟩) there
  | none =>
      have met := meets_event interval batch p.impl event noFile
      rw [demanded, Meets, there] at met
      obtain ⟨remembered, asking⟩ := met
      refine Or.inl ⟨?_, ?_⟩
      · change Awaits (process (Config.started interval batch) p.impl event).caches _ _
        rw [caches_process]
        exact remembered.now
      · apply outstanding_requested
        rw [← fed]
        exact List.mem_filterMap.mpr ⟨_, asking, rfl⟩

/-- What holds all along a run in order. -/
structure PhotosSound : Prop where
  fed : p.impl = runEvents (Config.started interval batch) p.seen
  stored : ∀ subject, (p.settled order).stored subject ↔ Handed p.impl.log subject.entity
  users : ∀ userId fileId, newestPhoto p.seen (.user userId) = some fileId →
    (p.settled order).stored (.user userId)
  assured : ∀ subject fileId, newestPhoto p.seen subject = some fileId →
    (p.settled order).stored subject →
      Assured (Config.started interval batch) order content photo p subject fileId

theorem settled_receive (config : Config) :
    (pipelineStep config order content p (.receive event)).settled order =
      run (entityStep order) (p.settled order) (entityOps (reaction config p.impl event).2) :=
  run_append _ _ _ _

theorem inHand_receive (config : Config) (digest : Digest)
    (inHand : InHand order content p subject digest) :
    InHand order content (pipelineStep config order content p (.receive event)) subject digest := by
  rcases inHand with ⟨job, queued, ours⟩ | carried | ⟨rowId, row, live⟩
  · exact Or.inl ⟨job, List.mem_append_left _ queued, ours⟩
  · exact Or.inr (Or.inl carried)
  · refine Or.inr (Or.inr ⟨rowId, row, ?_⟩)
    rw [settled_receive, (settled_entityOps order _ subject _).1]
    exact live

theorem stored_receive (other : Subject) :
    ((pipelineStep (Config.started interval batch) order content p (.receive event)).settled
        order).stored other ↔
      (p.settled order).stored other ∨
        Handed (reaction (Config.started interval batch) p.impl event).2 other.entity := by
  rw [settled_receive, (settled_entityOps order _ other _).2]

theorem cached_iff_stored (sound : PhotosSound interval batch order content photo p) :
    Cached p.impl.caches subject.entity ↔ (p.settled order).stored subject := by
  rw [sound.stored, sound.fed]
  exact (tracked_run interval batch p.seen).handed subject.entity

/-- A photo that is brought is in order at once, if the row is there then. -/
theorem assured_brought (sound : PhotosSound interval batch order content photo p)
    (genuine : Genuine content photo p (.receive event)) (file : TdApi.File)
    (brought : broughtPhoto event = some (subject, file))
    (stored : (p.settled order).stored subject ∨
      Handed (reaction (Config.started interval batch) p.impl event).2 subject.entity) :
    Assured (Config.started interval batch) order content photo
      (pipelineStep (Config.started interval batch) order content p (.receive event)) subject
      file.id := by
  apply assured_demand interval batch order content photo p event subject sound.fed genuine file
  apply demand_of_brought p.impl event subject file brought
  rintro groupId picture rfl rfl
  rcases stored with before | handed
  · exact (cached_iff_stored interval batch order content photo p _ sound).mpr before
  · -- An unknown chat hands over nothing.
    cases known : p.impl.caches.chatToGroup groupId with
    | some _ => rfl
    | none =>
        obtain ⟨call, posted, _⟩ := handed
        simp [reaction, processUpdate, known] at posted

/-- A row that an event creates had no photo delivered before. -/
theorem unstored_newest (sound : PhotosSound interval batch order content photo p)
    (inOrder : InOrder (Config.started interval batch) order content photo p (.receive event))
    (newest : newestPhoto p.seen subject = some fileId)
    (other : ∀ file, broughtPhoto event ≠ some (subject, file))
    (fresh : ¬ (p.settled order).stored subject) :
    ¬ Handed (reaction (Config.started interval batch) p.impl event).2 subject.entity := by
  cases subject with
  | user userId => exact absurd (sound.users userId fileId newest) fresh
  | group groupId =>
      have unknown := fresh ∘ (cached_iff_stored interval batch order content photo p _ sound).mp
      have missing : p.impl.caches.chatToGroup groupId = none := by
        simpa [Cached, Subject.entity] using unknown
      intro handed
      have after := (tracked_run interval batch (p.seen ++ [event])).handed (.group groupId)
      rw [runEvents_snoc, ← sound.fed, log_process, handed_append,
        caches_process] at after
      have known := after.mpr (Or.inr handed)
      by_cases announced : announces p.impl event = some groupId
      · rcases inOrder.2 groupId announced missing with none | ⟨file, brought⟩
        · rw [newest] at none
          cases none
        · exact other file brought
      · rw [Cached, chatToGroup_reaction interval batch p.impl event groupId announced,
          missing] at known
        cases known

theorem photos_receive (sound : PhotosSound interval batch order content photo p)
    (genuine : Genuine content photo p (.receive event))
    (inOrder : InOrder (Config.started interval batch) order content photo p (.receive event)) :
    PhotosSound interval batch order content photo
      (pipelineStep (Config.started interval batch) order content p (.receive event)) where
  fed := by
    change process (Config.started interval batch) p.impl event = _
    rw [sound.fed]
    exact (run_snoc _ _ p.seen event).symm
  stored := by
    intro subject
    rw [stored_receive, sound.stored]
    change _ ↔ Handed (process (Config.started interval batch) p.impl event).log subject.entity
    rw [log_process, handed_append]
  users := by
    intro userId fileId newest
    rw [stored_receive]
    change newestPhoto (p.seen ++ [event]) (.user userId) = some fileId at newest
    rw [newestPhoto_snoc] at newest
    cases brought : broughtPhoto event with
    | none =>
        rw [brought] at newest
        exact Or.inl (sound.users userId fileId newest)
    | some pair =>
        obtain ⟨other, file⟩ := pair
        simp only [brought] at newest
        split at newest
        · rename_i own
          subst own
          exact Or.inr (handed_brought interval batch p.impl event userId file brought)
        · exact Or.inl (sound.users userId fileId newest)
  assured := by
    intro subject fileId newest stored
    rw [stored_receive] at stored
    change newestPhoto (p.seen ++ [event]) subject = some fileId at newest
    rw [newestPhoto_snoc] at newest
    by_cases own : ∃ file, broughtPhoto event = some (subject, file)
    · obtain ⟨file, brought⟩ := own
      simp only [brought, ↓reduceIte, Option.some.injEq] at newest
      subst newest
      exact assured_brought interval batch order content photo p event subject sound genuine file
        brought stored
    · -- The newest photo is the one of before, and so is its row.
      have other : ∀ file, broughtPhoto event ≠ some (subject, file) :=
        fun file brought => own ⟨file, brought⟩
      have before : newestPhoto p.seen subject = some fileId := by
        cases brought : broughtPhoto event with
        | none => rwa [brought] at newest
        | some pair =>
            obtain ⟨asking, file⟩ := pair
            simp only [brought] at newest
            rwa [if_neg (by rintro rfl; exact other file brought)] at newest
      have held : (p.settled order).stored subject := by
        by_contra fresh
        exact unstored_newest interval batch order content photo p event subject fileId sound
          inOrder before other fresh (stored.resolve_left fresh)
      rcases sound.assured subject fileId before held with awaited | inHand
      · by_cases loses : Loses p.impl event subject fileId
        · exact Or.inr (inHand_receive order content p event subject _ _
            (inOrder.1 subject fileId before awaited.1 loses))
        · rcases awaited_receive interval batch order content photo p event subject fileId genuine
            awaited loses with still | queued
          · exact Or.inl still
          · exact Or.inr (Or.inl queued)
      · exact Or.inr (inHand_receive order content p event subject _ _ inHand)

/-- A move that receives nothing only has to keep what is assured. -/
theorem photos_kept (q : Pipeline collate) (impl : q.impl = p.impl) (seen : q.seen = p.seen)
    (stored : ∀ subject, (q.settled order).stored subject = (p.settled order).stored subject)
    (assured : ∀ subject fileId, newestPhoto p.seen subject = some fileId →
      (p.settled order).stored subject → InHand order content p subject (photo fileId) →
        Assured (Config.started interval batch) order content photo q subject fileId)
    (sound : PhotosSound interval batch order content photo p) :
    PhotosSound interval batch order content photo q where
  fed := by
    rw [impl, seen]
    exact sound.fed
  stored := by
    intro subject
    rw [stored, impl]
    exact sound.stored subject
  users := by
    intro userId fileId newest
    rw [stored]
    rw [seen] at newest
    exact sound.users userId fileId newest
  assured := by
    intro subject fileId newest held
    rw [stored] at held
    rw [seen] at newest
    rcases sound.assured subject fileId newest held with awaited | inHand
    · refine Or.inl ?_
      rw [Awaited, impl, seen]
      exact awaited
    · exact assured subject fileId newest held inHand

omit [DecidableEq Key] in
theorem carries_mono (before after : FileTable collate) (digest : Digest)
    (rows : ∀ rowId, IsRow before digest rowId → IsRow after digest rowId) (worker : FileWorker)
    (carried : Carries content before subject digest worker) :
    Carries content after subject digest worker := by
  cases worker with
  | idle => exact carried
  | storing job => exact carried
  | linking owner rowId => exact ⟨carried.1, rows rowId carried.2⟩

omit [DecidableEq Key] in
/-- One worker moves on and takes what it carries along. -/
theorem carried_update (before after : FileTable collate) (digest : Digest)
    (rows : ∀ rowId, IsRow before digest rowId → IsRow after digest rowId)
    (workers : Nat → FileWorker) (i : Nat) (worker : FileWorker)
    (along : Carries content before subject digest (workers i) →
      Carries content after subject digest worker)
    (carried : ∃ j, Carries content before subject digest (workers j)) :
    ∃ j, Carries content after subject digest (update workers i worker j) := by
  obtain ⟨j, holds⟩ := carried
  refine ⟨j, ?_⟩
  by_cases same : j = i
  · subst same
    rw [update_self]
    exact along holds
  · rw [update_of_ne same]
    exact carries_mono content subject before after digest rows _ holds

theorem photos_take (config : Config) (i : Nat)
    (sound : PhotosSound interval batch order content photo p) :
    PhotosSound interval batch order content photo
      (pipelineStep config order content p (.take i)) := by
  simp only [pipelineStep]
  split
  · rename_i job rest free queue
    refine photos_kept interval batch order content photo p _ rfl rfl (fun _ => rfl) ?_ sound
    intro subject fileId _ _ inHand
    rcases inHand with ⟨other, member, ours⟩ | carried | shown
    · rw [queue] at member
      rcases List.mem_cons.mp member with rfl | later
      · have taken : Carries content p.table subject (photo fileId)
            (update p.workers i (.storing other) i) := by
          rw [update_self]
          exact ours
        exact Or.inr (Or.inr (Or.inl ⟨i, taken⟩))
      · exact Or.inr (Or.inl ⟨other, later, ours⟩)
    · refine Or.inr (Or.inr (Or.inl ?_))
      apply carried_update content subject p.table p.table _ (fun _ row => row) p.workers i _ _
        carried
      -- An idle worker carries nothing.
      rw [free]
      exact False.elim
    · exact Or.inr (Or.inr (Or.inr shown))
  · exact sound

theorem photos_store (config : Config) (i : Nat) (readable : Bool)
    (succeeds : StoreSucceeds content p (.store i readable))
    (sound : PhotosSound interval batch order content photo p) :
    PhotosSound interval batch order content photo
      (pipelineStep config order content p (.store i readable)) := by
  cases worker : p.workers i with
  | idle => simpa only [pipelineStep, worker] using sound
  | linking owner rowId => simpa only [pipelineStep, worker] using sound
  | storing job =>
      obtain ⟨rfl, rowId, stored⟩ := succeeds job worker
      obtain ⟨rows, own⟩ := rows_upsertFile p.table (content job.download.localPath) job.download
      simp only [pipelineStep, worker, ↓reduceIte]
      simp only [storeDownloadedFile] at stored ⊢
      cases result : upsertFile p.table (fileOf (content job.download.localPath) job.download) with
      | mk outcome after =>
          rw [result] at stored rows own
          cases outcome with
          | error refused => cases stored
          | ok fileId =>
              simp only [Except.map]
              refine photos_kept interval batch order content photo p _ rfl rfl (fun _ => rfl) ?_
                sound
              intro subject newest _ _ inHand
              rcases inHand with queued | carried | ⟨shownId, row, live⟩
              · exact Or.inr (Or.inl queued)
              · refine Or.inr (Or.inr (Or.inl ?_))
                apply carried_update content subject p.table after _ (rows _) p.workers i _ _
                  carried
                rw [worker]
                rintro ⟨owns, lies⟩
                exact ⟨owns, lies ▸ own fileId rfl⟩
              · exact Or.inr (Or.inr (Or.inr ⟨shownId, rows _ _ row, live⟩))

/-- A link that is posted is the newest photo's, or leaves that one to come. -/
theorem photos_post (i : Nat)
    (inOrder : InOrder (Config.started interval batch) order content photo p (.post i))
    (sound : PhotosSound interval batch order content photo p) :
    PhotosSound interval batch order content photo
      (pipelineStep (Config.started interval batch) order content p (.post i)) := by
  cases worker : p.workers i with
  | idle => simpa only [pipelineStep, worker] using sound
  | storing job => simpa only [pipelineStep, worker] using sound
  | linking owner rowId =>
      simp only [pipelineStep, worker]
      -- The link comes last in the queue.
      have settled : Pipeline.settled order
          { p with
            serial := p.serial ++ (linkOp owner rowId).toList
            workers := update p.workers i .idle } =
          run (entityStep order) (p.settled order) (linkOp owner rowId).toList :=
        run_append _ _ _ _
      have linked (subject : Subject) :=
        settled_linkOp order (p.settled order) subject owner rowId
      refine photos_kept interval batch order content photo p _ rfl rfl ?_ ?_ sound
      · intro subject
        rw [settled]
        exact (linked subject).2
      · intro subject fileId newest held inHand
        by_cases own : owner = subject.owner
        · rcases inOrder subject rowId fileId (own ▸ worker) newest with
            row | awaited | queued | ⟨j, apart, carried⟩
          · refine Or.inr (Or.inr (Or.inr ⟨rowId, row, ?_⟩))
            rw [settled, (linked subject).1, if_pos ⟨own, held⟩]
          · exact Or.inl awaited
          · exact Or.inr (Or.inl queued)
          · exact Or.inr (Or.inr (Or.inl ⟨j, by simpa only [update_of_ne apart] using carried⟩))
        · rcases inHand with queued | carried | ⟨shownId, row, live⟩
          · exact Or.inr (Or.inl queued)
          · refine Or.inr (Or.inr (Or.inl ?_))
            apply carried_update content subject p.table p.table _ (fun _ row => row) p.workers i _
              _ carried
            rw [worker]
            rintro ⟨owns, _⟩
            exact absurd owns own
          · refine Or.inr (Or.inr (Or.inr ⟨shownId, row, ?_⟩))
            rw [settled, (linked subject).1, if_neg fun hit => own hit.1]
            exact live

theorem photos_commit (config : Config) (sound : PhotosSound interval batch order content photo p) :
    PhotosSound interval batch order content photo
      (pipelineStep config order content p .commit) := by
  simp only [pipelineStep]
  split
  · exact sound
  · rename_i op rest queue
    have settled : Pipeline.settled order
        { p with
          serial := rest
          tables := entityStep order p.tables op } = p.settled order := by
      rw [Pipeline.settled, Pipeline.settled, queue]
      rfl
    refine photos_kept interval batch order content photo p _ rfl rfl ?_ ?_ sound
    · intro subject
      rw [settled]
    · intro subject fileId _ _ inHand
      rcases inHand with queued | carried | ⟨shownId, row, live⟩
      · exact Or.inr (Or.inl queued)
      · exact Or.inr (Or.inr (Or.inl carried))
      · refine Or.inr (Or.inr (Or.inr ⟨shownId, row, ?_⟩))
        rw [settled]
        exact live

theorem photos_initial : PhotosSound interval batch order content photo
    (Pipeline.initial : Pipeline collate) where
  fed := rfl
  stored := by
    intro subject
    have log : Impl.initial.log = [.send .getOption none] := rfl
    constructor
    · intro held
      cases subject <;> cases held
    · rintro ⟨call, member, _⟩
      rw [Pipeline.initial, log] at member
      cases List.mem_singleton.mp member
  users := by
    intro userId fileId newest
    cases newest
  assured := by
    intro subject fileId newest
    cases newest

/-- In a sound state with nothing left to do, the newest photos are the ones shown. -/
theorem newestWins_of_sound (sound : PhotosSound interval batch order content photo p) :
    NewestWins (Config.started interval batch) photo p := by
  intro files workers serial completed subject fileId stored newest
  have settled : p.settled order = p.tables := by
    rw [Pipeline.settled, serial]
    rfl
  rcases sound.assured subject fileId newest (settled ▸ stored) with
    ⟨_, outstanding⟩ | ⟨job, queued, _⟩ | ⟨i, carried⟩ | ⟨rowId, row, live⟩
  · exact absurd outstanding (completed_not_outstanding _ _ _ completed)
  · rw [files] at queued
    cases queued
  · rw [workers i] at carried
    exact carried.elim
  · rw [settled] at live
    exact ⟨rowId, row, live⟩

/-- The newest photos win in every run in order. -/
theorem newest_photo_wins (moves : List PipelineMove)
    (genuine : EveryStep (pipelineStep (Config.started interval batch) order content)
      (Pipeline.initial : Pipeline collate) (Genuine content photo) moves)
    (succeed : EveryStep (pipelineStep (Config.started interval batch) order content)
      (Pipeline.initial : Pipeline collate) (StoreSucceeds content) moves)
    (inOrder : EveryStep (pipelineStep (Config.started interval batch) order content)
      (Pipeline.initial : Pipeline collate)
      (InOrder (Config.started interval batch) order content photo) moves) :
    EveryState (pipelineStep (Config.started interval batch) order content)
      (Pipeline.initial : Pipeline collate)
      (NewestWins (Config.started interval batch) photo) moves := by
  rintro before after rfl
  apply newestWins_of_sound interval batch order content photo
  apply everyStep_invariant _ _ (PhotosSound interval batch order content photo)
    (fun p move => Genuine content photo p move ∧ StoreSucceeds content p move ∧
      InOrder (Config.started interval batch) order content photo p move)
    (photos_initial interval batch order content photo)
  · rintro p move sound ⟨genuine, succeeds, inOrder⟩
    cases move with
    | receive event =>
        exact photos_receive interval batch order content photo p event sound genuine inOrder
    | take i => exact photos_take interval batch order content photo p _ i sound
    | store i readable =>
        exact photos_store interval batch order content photo p _ i readable succeeds sound
    | post i => exact photos_post interval batch order content photo p i inOrder sound
    | commit => exact photos_commit interval batch order content photo p _ sound
  · intro front move back split
    have whole : before ++ after = front ++ move :: (back ++ after) := by simp [split]
    exact ⟨genuine front move _ whole, succeed front move _ whole, inOrder front move _ whole⟩

end

/-- Two photos of one user, with where TDLib puts them. -/
def firstPhoto : TdApi.File where
  id := 1
  remoteFile := some { id := "first" }

def secondPhoto : TdApi.File where
  id := 2
  remoteFile := some { id := "second" }

def downloadedTo (path : String) (file : TdApi.File) : TdApi.File :=
  { file with localFile := some { path := path, isDownloadingCompleted := true } }

def photoUpdate (file : TdApi.File) : Event :=
  .update (.user (some { id := 1, profilePhoto := some (some file) }))

def fileUpdate (file : TdApi.File) : Event := .update (.file (some file))

def Digest.filled (octet : UInt8) : Digest := ⟨List.replicate 32 octet, List.length_replicate⟩

def photoDigest (fileId : Int) : Digest := if fileId = 1 then .filled 0 else .filled 1

def photoAt (path : String) : Digest :=
  if path = "photos/1.jpg" then photoDigest 1 else photoDigest 2

/-- Where a run on these contents ends. -/
def photosAfter (moves : List PipelineMove) : Pipeline foldCase :=
  run (pipelineStep (Config.started 300 4) insertionOrder photoAt) Pipeline.initial moves

/-- A photo is requested, completed, stored and linked. -/
def linkedInTurn : List PipelineMove :=
  [.receive (photoUpdate firstPhoto),
    .receive (fileUpdate (downloadedTo "photos/1.jpg" firstPhoto)),
    .take 0, .store 0 true, .post 0, .commit, .commit]

/-- Both photos are requested, and the second one completes first. -/
def secondFirst : List PipelineMove :=
  [.receive (photoUpdate firstPhoto), .receive (photoUpdate secondPhoto),
    .receive (fileUpdate (downloadedTo "photos/2.jpg" secondPhoto)),
    .take 0, .store 0 true, .post 0,
    .receive (fileUpdate (downloadedTo "photos/1.jpg" firstPhoto)),
    .take 0, .store 0 true, .post 0, .commit, .commit, .commit, .commit]

theorem newest_photo_wins_in_turn :
    EveryState (pipelineStep (Config.started 300 4) insertionOrder photoAt)
      (Pipeline.initial : Pipeline foldCase)
      (NewestWins (Config.started 300 4) photoDigest) linkedInTurn := by
  apply newest_photo_wins 300 4 insertionOrder photoAt photoDigest
  · apply forall_split_cons
    · rintro file path (⟨owner, wanted⟩ | update) complete
      · cases wanted
        cases complete
      · cases update
    · apply forall_split_cons
      · rintro file path (⟨owner, wanted⟩ | update) complete
        · cases wanted
        · cases update
          cases complete
          rfl
      · exact forall_split_cons _ _ _ trivial (forall_split_cons _ _ _ trivial
          (forall_split_cons _ _ _ trivial (forall_split_cons _ _ _ trivial
            (forall_split_cons _ _ _ trivial (forall_split_nil _)))))
  · refine forall_split_cons _ _ _ trivial (forall_split_cons _ _ _ trivial
      (forall_split_cons _ _ _ trivial (forall_split_cons _ _ _ ?_
        (forall_split_cons _ _ _ trivial (forall_split_cons _ _ _ trivial
          (forall_split_cons _ _ _ trivial (forall_split_nil _)))))))
    intro job worker
    cases worker
    exact ⟨rfl, 1, by decide⟩
  · have asked : InOrder (Config.started 300 4) insertionOrder photoAt photoDigest
        (photosAfter []) (.receive (photoUpdate firstPhoto)) := by
      constructor
      · intro subject fileId newest
        cases newest
      · intro chatId announced
        cases announced
    have completed : InOrder (Config.started 300 4) insertionOrder photoAt photoDigest
        (photosAfter [.receive (photoUpdate firstPhoto)])
        (.receive (fileUpdate (downloadedTo "photos/1.jpg" firstPhoto))) := by
      constructor
      · rintro subject fileId newest _ (⟨owner, file, wanted, _⟩ | ⟨_, _, groupId, rfl⟩)
        · cases wanted
        · cases newest
      · intro chatId announced
        cases announced
    have posted : InOrder (Config.started 300 4) insertionOrder photoAt photoDigest
        (photosAfter (linkedInTurn.take 4)) (.post 0) := by
      intro subject rowId fileId worker newest
      obtain ⟨owns, rfl⟩ := FileWorker.linking.inj worker
      obtain rfl := owner_injective (.user 1) subject owns
      cases newest
      exact Or.inl (by unfold IsRow; decide)
    exact forall_split_cons _ _ _ asked (forall_split_cons _ _ _ completed
      (forall_split_cons _ _ _ trivial (forall_split_cons _ _ _ trivial
        (forall_split_cons _ _ _ posted (forall_split_cons _ _ _ trivial
          (forall_split_cons _ _ _ trivial (forall_split_nil _)))))))

theorem older_photo_linked_last :
    ¬ EveryState (pipelineStep (Config.started 300 4) insertionOrder photoAt)
      (Pipeline.initial : Pipeline foldCase)
      (NewestWins (Config.started 300 4) photoDigest) secondFirst := by
  intro every
  have wins : NewestWins (Config.started 300 4) photoDigest (photosAfter secondFirst) :=
    everyState_last _ _ _ _ every
  have idle : ∀ i, (photosAfter secondFirst).workers i = .idle := by
    intro i
    cases i with
    | zero => rfl
    | succ i => rfl
  have completed : AllCompleted (Config.started 300 4) (photosAfter secondFirst).seen := by
    have first : requested (reaction (Config.started 300 4)
        (runEvents (Config.started 300 4) []) (photoUpdate firstPhoto)).2 = [1] := by decide
    have second : requested (reaction (Config.started 300 4)
        (runEvents (Config.started 300 4) [photoUpdate firstPhoto])
        (photoUpdate secondPhoto)).2 = [2] := by decide
    apply forall_split_cons
    · rw [first]
      intro fileId member
      cases List.mem_singleton.mp member
      exact ⟨fileUpdate (downloadedTo "photos/1.jpg" firstPhoto), by simp, rfl, rfl⟩
    · apply forall_split_cons
      · rw [second]
        intro fileId member
        cases List.mem_singleton.mp member
        exact ⟨fileUpdate (downloadedTo "photos/2.jpg" secondPhoto), by simp, rfl, rfl⟩
      · apply forall_split_cons
        · intro fileId member
          cases member
        · apply forall_split_cons
          · intro fileId member
            cases member
          · exact forall_split_nil _
  obtain ⟨rowId, ⟨row, held, own, rfl⟩, live⟩ := wins (by decide) idle (by decide) completed
    (.user 1) 2 (by decide) (by decide)
  have shown : livePhoto (photosAfter secondFirst).tables (.user 1) = some 2 := by decide
  have rows : ∀ row ∈ (photosAfter secondFirst).table.rows,
      row.sha256 = photoDigest 2 → row.id = 1 := by decide
  rw [shown, rows row held own] at live
  cases live

end TgLoggerd
