import TgLoggerd.GroupStore
import TgLoggerd.Recording
import TgLoggerd.UserStore

/-!
The user and group tables under every interleaving of the five operations that
write them. Each attribute is a live column and a history table; what a call
carries for it counts when the row exists or is being created.
-/

namespace TgLoggerd

open KeyedTable SerialRun Recording

inductive EntityOp where
  | upsertUser (u : User)
  | upsertUserFullInfo (fi : UserFullInfo)
  | setUserProfilePhoto (userId : Int) (fileId : Nat)
  | upsertGroup (g : Group)
  | setGroupPhoto (groupId : Int) (fileId : Nat)
  deriving DecidableEq, Repr

inductive Subject where
  | user (id : Int)
  | group (id : Int)
  deriving DecidableEq, Repr

/-- The entity a call is about. -/
def EntityOp.subject : EntityOp → Subject
  | .upsertUser u => .user u.id
  | .upsertUserFullInfo fi => .user fi.userId
  | .setUserProfilePhoto userId _ => .user userId
  | .upsertGroup g => .group g.id
  | .setGroupPhoto groupId _ => .group groupId

/-- Only the upserts create a row. -/
def EntityOp.creates : EntityOp → Bool
  | .upsertUser _ => true
  | .upsertUserFullInfo _ => false
  | .setUserProfilePhoto _ _ => false
  | .upsertGroup _ => true
  | .setGroupPhoto _ _ => false

section

variable {Key : Type} [DecidableEq Key]

structure EntityTables (collate : String → Key) where
  users : UserTables collate
  groups : GroupRows collate

variable {collate : String → Key}

def EntityTables.empty : EntityTables collate := ⟨UserTables.empty, GroupRows.empty⟩

def EntityTables.stored (tables : EntityTables collate) : Subject → Bool
  | .user id => (tables.users.users.lookup id).isSome
  | .group id => (tables.groups.groups.lookup id).isSome

def entityStep (order : MapOrder) (tables : EntityTables collate) :
    EntityOp → EntityTables collate
  | .upsertUser u => { tables with users := upsertUser order tables.users u }
  | .upsertUserFullInfo fi => { tables with users := upsertUserFullInfo tables.users fi }
  | .setUserProfilePhoto userId fileId =>
      { tables with users := setUserProfilePhoto tables.users userId fileId }
  | .upsertGroup g => { tables with groups := upsertGroup order tables.groups g }
  | .setGroupPhoto groupId fileId =>
      { tables with groups := setGroupPhoto tables.groups groupId fileId }

def entityStore (order : MapOrder) (ops : List EntityOp) : EntityTables collate :=
  run (entityStep order) EntityTables.empty ops

/-- The values a history table holds of one owner, in insertion order. -/
def historyOf {Row Value : Type} (owner : Row → Int) (value : Row → Value) (rows : List Row)
    (id : Int) : List Value :=
  (rows.filter fun row => owner row = id).map value

/-- A live column with its history table. `carried` is what a call brings for
its own subject. -/
structure Attribute (collate : String → Key) (Value : Type) where
  entity : Int → Subject
  live : EntityTables collate → Int → Option Value
  history : EntityTables collate → Int → List Value
  carried : EntityOp → Option Value

def userName : Attribute collate (String × String) where
  entity := .user
  live tables id := (tables.users.users.lookup id).map UserRow.name
  history tables :=
    historyOf UserHistName.userId (fun row => (row.firstName, row.lastName)) tables.users.histName
  carried
    | .upsertUser u => some u.name
    | _ => none

def phoneNumber : Attribute collate String where
  entity := .user
  live tables id := (tables.users.users.lookup id).map UserRow.phoneNumber
  history tables :=
    historyOf UserHistPhoneNum.userId UserHistPhoneNum.phoneNumber tables.users.histPhoneNum
  carried
    | .upsertUser u => some u.phoneNumber
    | _ => none

def userPhoto : Attribute collate Nat where
  entity := .user
  live tables id := ((tables.users.users.lookup id).map UserRow.profilePhotoFileId).join
  history tables :=
    historyOf UserHistProfilePhoto.userId UserHistProfilePhoto.fileId tables.users.histProfilePhoto
  carried
    | .setUserProfilePhoto _ fileId => some fileId
    | _ => none

def userBio : Attribute collate String where
  entity := .user
  live tables id := (tables.users.users.lookup id).map UserRow.bio
  history tables := historyOf UserHistBio.userId UserHistBio.bio tables.users.histBio
  carried
    | .upsertUserFullInfo fi => some fi.bio
    | _ => none

def groupTitle : Attribute collate String where
  entity := .group
  live tables id := (tables.groups.groups.lookup id).map GroupRow.title
  history tables :=
    historyOf GroupHistTitle.groupId GroupHistTitle.title tables.groups.histTitle
  carried
    | .upsertGroup g => some g.title
    | _ => none

def groupDescription : Attribute collate String where
  entity := .group
  live tables id := (tables.groups.groups.lookup id).map GroupRow.description
  history tables :=
    historyOf GroupHistDescription.groupId GroupHistDescription.description
      tables.groups.histDescription
  carried
    | .upsertGroup g => some g.description
    | _ => none

def groupPhoto : Attribute collate Nat where
  entity := .group
  live tables id := ((tables.groups.groups.lookup id).map GroupRow.photoFileId).join
  history tables :=
    historyOf GroupHistPhoto.groupId GroupHistPhoto.fileId tables.groups.histPhoto
  carried
    | .setGroupPhoto _ fileId => some fileId
    | _ => none

/-- What a call supplies for an entity whose row exists or is being created. -/
def Attribute.supplied {Value : Type} (field : Attribute collate Value) (id : Int)
    (tables : EntityTables collate) (op : EntityOp) : Option Value :=
  if op.subject = field.entity id ∧ (op.creates ∨ tables.stored op.subject) then
    field.carried op
  else none

/-- The values supplied for an entity along a run. -/
def Attribute.values {Value : Type} (field : Attribute collate Value) (order : MapOrder)
    (id : Int) (ops : List EntityOp) : List Value :=
  outputs (entityStep order) (fun tables op => (field.supplied id tables op).toList)
    EntityTables.empty ops

/-- The live column is the last of the distinct values; the history is the
first one followed by all but the last. -/
def Attribute.Exact {Value : Type} [DecidableEq Value] (field : Attribute collate Value)
    (order : MapOrder) (ops : List EntityOp) (id : Int) : Prop :=
  let journal := (field.values order id ops).destutter (· ≠ ·)
  field.live (entityStore order ops) id = journal.getLast? ∧
    field.history (entityStore order ops) id = journal.head?.toList ++ journal.dropLast

theorem historyOf_append {Row Value : Type} (owner : Row → Int) (value : Row → Value)
    (rows : List Row) (make : Value → Row) (values : List Value) (subject id : Int)
    (owned : ∀ fresh, owner (make fresh) = subject) (kept : ∀ fresh, value (make fresh) = fresh) :
    historyOf owner value (rows ++ values.map make) id =
      historyOf owner value rows id ++ if subject = id then values else [] := by
  simp only [historyOf, List.filter_append, List.map_append, List.filter_map, Function.comp_def,
    owned, List.map_map, kept]
  split
  · next same => simp [same]
  · next differs => simp [differs]

/-- One call moves live column and history as the recording of values does. -/
def Attribute.Records {Value : Type} [DecidableEq Value] (field : Attribute collate Value)
    (order : MapOrder) (tables : EntityTables collate) (op : EntityOp) (id : Int) : Prop :=
  field.live (entityStep order tables op) id =
      (field.supplied id tables op).or (field.live tables id) ∧
    field.history (entityStep order tables op) id = field.history tables id ++
      (field.supplied id tables op).toList.flatMap (entry List.singleton (field.live tables id))

section

variable {Value : Type} [DecidableEq Value] (field : Attribute collate Value) (order : MapOrder)
  (tables : EntityTables collate) (op : EntityOp) (id : Int)

omit [DecidableEq Key] [DecidableEq Value] in
theorem supplied_uncarried (uncarried : field.carried op = none) :
    field.supplied id tables op = none := by
  simp [Attribute.supplied, uncarried]

theorem records_unsupplied (unsupplied : field.supplied id tables op = none)
    (live : field.live (entityStep order tables op) id = field.live tables id)
    (history : field.history (entityStep order tables op) id = field.history tables id) :
    field.Records order tables op id := by
  simp [Attribute.Records, unsupplied, live, history]

/-- A call that counts for its subject: live column and history of that entity
take the value, those of any other stay. -/
theorem records_carried (subject : Int) (value : Value)
    (about : ∀ other, op.subject = field.entity other ↔ subject = other)
    (carries : field.carried op = some value) (counts : op.creates ∨ tables.stored op.subject)
    (live : field.live (entityStep order tables op) id =
      if subject = id then some value else field.live tables id)
    (history : field.history (entityStep order tables op) id = field.history tables id ++
      if subject = id then entry List.singleton (field.live tables subject) value else []) :
    field.Records order tables op id := by
  by_cases own : subject = id
  · subst own
    have supplied : field.supplied subject tables op = some value := by
      rw [Attribute.supplied, if_pos ⟨(about subject).mpr rfl, counts⟩, carries]
    rw [if_pos rfl] at live history
    simp [Attribute.Records, supplied, live, history]
  · have unsupplied : field.supplied id tables op = none := by
      rw [Attribute.supplied, if_neg fun hit => own ((about id).mp hit.1)]
    rw [if_neg own] at live history
    exact records_unsupplied field order tables op id unsupplied live (by simpa using history)

end

omit [DecidableEq Key] in
theorem read_upsertUserFullInfo {Value : Type} (read : UserRow → Value)
    (tables : UserTables collate) (fi : UserFullInfo)
    (kept : ∀ row, read (overwriteFullInfo fi row) = read row) (id : Int) :
    ((upsertUserFullInfo tables fi).users.lookup id).map read =
      (tables.users.lookup id).map read := by
  rw [lookup_upsertUserFullInfo, Option.map_map]
  congr 1
  funext row
  simp only [Function.comp_apply]
  split
  · exact kept row
  · rfl

omit [DecidableEq Key] in
theorem read_setUserProfilePhoto {Value : Type} (read : UserRow → Value)
    (tables : UserTables collate) (userId : Int) (fileId : Nat)
    (kept : ∀ row, read { row with profilePhotoFileId := some fileId } = read row) (id : Int) :
    ((setUserProfilePhoto tables userId fileId).users.lookup id).map read =
      (tables.users.lookup id).map read := by
  rw [lookup_setUserProfilePhoto, Option.map_map]
  congr 1
  funext row
  simp only [Function.comp_apply]
  split
  · exact kept row
  · rfl

omit [DecidableEq Key] in
theorem read_setGroupPhoto {Value : Type} (read : GroupRow → Value)
    (tables : GroupRows collate) (groupId : Int) (fileId : Nat)
    (kept : ∀ row, read { row with photoFileId := some fileId } = read row) (id : Int) :
    ((setGroupPhoto tables groupId fileId).groups.lookup id).map read =
      (tables.groups.lookup id).map read := by
  rw [lookup_setGroupPhoto, Option.map_map]
  congr 1
  funext row
  simp only [Function.comp_apply]
  split
  · exact kept row
  · rfl

section

variable (order : MapOrder) (tables : EntityTables collate) (op : EntityOp) (id : Int)

/-- The user attributes that an upsert carries, as read from its row. -/
theorem upsertUser_live {Value : Type} (read : UserRow → Value) (u : User) (value : Value)
    (created : read (newUserRow u) = value) (written : ∀ row, read (overwriteUser u row) = value) :
    ((upsertUser order tables.users u).users.lookup id).map read =
      if u.id = id then some value else (tables.users.users.lookup id).map read := by
  rw [lookup_upsertUser_any]
  split
  · cases tables.users.users.lookup id with
    | none => simp [created]
    | some row => simp [written]
  · rfl

theorem upsertGroup_live {Value : Type} (read : GroupRow → Value) (g : Group) (value : Value)
    (created : read (newGroupRow g) = value)
    (written : ∀ row, read (overwriteGroup g row) = value) :
    ((upsertGroup order tables.groups g).groups.lookup id).map read =
      if g.id = id then some value else (tables.groups.groups.lookup id).map read := by
  rw [lookup_upsertGroup_any]
  split
  · cases tables.groups.groups.lookup id with
    | none => simp [created]
    | some row => simp [written]
  · rfl

theorem userName_records : userName.Records order tables op id := by
  cases op with
  | upsertUser u =>
      apply records_carried userName order tables _ id u.id u.name
      · simp [userName, EntityOp.subject]
      · rfl
      · exact Or.inl rfl
      · exact upsertUser_live order tables id UserRow.name u u.name rfl (fun _ => rfl)
      · exact (congrArg (historyOf _ _ · id) (histName_upsertUser order tables.users u)).trans
          (historyOf_append _ _ _ _ _ u.id id (fun _ => rfl) (fun _ => rfl))
  | upsertUserFullInfo fi =>
      apply records_unsupplied
      · exact supplied_uncarried _ _ _ _ rfl
      · exact read_upsertUserFullInfo UserRow.name tables.users fi (fun _ => rfl) id
      · exact congrArg (historyOf _ _ · id) (upsertUserFullInfo_others tables.users fi).1
  | setUserProfilePhoto userId fileId =>
      apply records_unsupplied
      · exact supplied_uncarried _ _ _ _ rfl
      · exact read_setUserProfilePhoto UserRow.name tables.users userId fileId (fun _ => rfl) id
      · exact congrArg (historyOf _ _ · id)
          (setUserProfilePhoto_others tables.users userId fileId).1
  | upsertGroup g => exact records_unsupplied _ _ _ _ _ (supplied_uncarried _ _ _ _ rfl) rfl rfl
  | setGroupPhoto groupId fileId =>
      exact records_unsupplied _ _ _ _ _ (supplied_uncarried _ _ _ _ rfl) rfl rfl

theorem phoneNumber_records : phoneNumber.Records order tables op id := by
  cases op with
  | upsertUser u =>
      apply records_carried phoneNumber order tables _ id u.id u.phoneNumber
      · simp [phoneNumber, EntityOp.subject]
      · rfl
      · exact Or.inl rfl
      · exact upsertUser_live order tables id UserRow.phoneNumber u u.phoneNumber rfl (fun _ => rfl)
      · exact (congrArg (historyOf _ _ · id) (histPhoneNum_upsertUser order tables.users u)).trans
          (historyOf_append _ _ _ _ _ u.id id (fun _ => rfl) (fun _ => rfl))
  | upsertUserFullInfo fi =>
      apply records_unsupplied
      · exact supplied_uncarried _ _ _ _ rfl
      · exact read_upsertUserFullInfo UserRow.phoneNumber tables.users fi (fun _ => rfl) id
      · exact congrArg (historyOf _ _ · id) (upsertUserFullInfo_others tables.users fi).2.1
  | setUserProfilePhoto userId fileId =>
      apply records_unsupplied
      · exact supplied_uncarried _ _ _ _ rfl
      · exact read_setUserProfilePhoto UserRow.phoneNumber tables.users userId fileId
          (fun _ => rfl) id
      · exact congrArg (historyOf _ _ · id)
          (setUserProfilePhoto_others tables.users userId fileId).2.1
  | upsertGroup g => exact records_unsupplied _ _ _ _ _ (supplied_uncarried _ _ _ _ rfl) rfl rfl
  | setGroupPhoto groupId fileId =>
      exact records_unsupplied _ _ _ _ _ (supplied_uncarried _ _ _ _ rfl) rfl rfl

theorem userPhoto_records : userPhoto.Records order tables op id := by
  cases op with
  | upsertUser u =>
      apply records_unsupplied
      · exact supplied_uncarried _ _ _ _ rfl
      · simp only [userPhoto, entityStep, lookup_upsertUser_any]
        split
        · cases tables.users.users.lookup id <;> rfl
        · rfl
      · exact congrArg (historyOf _ _ · id) (histProfilePhoto_upsertUser order tables.users u)
  | upsertUserFullInfo fi =>
      apply records_unsupplied
      · exact supplied_uncarried _ _ _ _ rfl
      · exact congrArg Option.join
          (read_upsertUserFullInfo UserRow.profilePhotoFileId tables.users fi (fun _ => rfl) id)
      · exact congrArg (historyOf _ _ · id) (upsertUserFullInfo_others tables.users fi).2.2
  | setUserProfilePhoto userId fileId =>
      cases found : tables.users.users.lookup userId with
      | none =>
          have same : entityStep order tables (.setUserProfilePhoto userId fileId) = tables := by
            rw [entityStep, setUserProfilePhoto_absent _ _ _ found]
          apply records_unsupplied
          · simp [Attribute.supplied, EntityOp.subject, EntityOp.creates, EntityTables.stored,
              found]
          · rw [same]
          · rw [same]
      | some row =>
          apply records_carried userPhoto order tables _ id userId fileId
          · simp [userPhoto, EntityOp.subject]
          · rfl
          · exact Or.inr (by simp [EntityTables.stored, EntityOp.subject, found])
          · simp only [userPhoto, entityStep, lookup_setUserProfilePhoto]
            by_cases own : userId = id
            · subst own
              simp [found]
            · simp [own]
          · have added := histProfilePhoto_set tables.users userId fileId row found
            simp only [userPhoto, found, Option.map_some, Option.join_some]
            exact (congrArg (historyOf _ _ · id) added).trans
              (historyOf_append _ _ _ _ _ userId id (fun _ => rfl) (fun _ => rfl))
  | upsertGroup g => exact records_unsupplied _ _ _ _ _ (supplied_uncarried _ _ _ _ rfl) rfl rfl
  | setGroupPhoto groupId fileId =>
      exact records_unsupplied _ _ _ _ _ (supplied_uncarried _ _ _ _ rfl) rfl rfl

theorem groupTitle_records : groupTitle.Records order tables op id := by
  cases op with
  | upsertUser u => exact records_unsupplied _ _ _ _ _ (supplied_uncarried _ _ _ _ rfl) rfl rfl
  | upsertUserFullInfo fi =>
      exact records_unsupplied _ _ _ _ _ (supplied_uncarried _ _ _ _ rfl) rfl rfl
  | setUserProfilePhoto userId fileId =>
      exact records_unsupplied _ _ _ _ _ (supplied_uncarried _ _ _ _ rfl) rfl rfl
  | upsertGroup g =>
      apply records_carried groupTitle order tables _ id g.id g.title
      · simp [groupTitle, EntityOp.subject]
      · rfl
      · exact Or.inl rfl
      · exact upsertGroup_live order tables id GroupRow.title g g.title rfl (fun _ => rfl)
      · exact (congrArg (historyOf _ _ · id) (histTitle_upsertGroup order tables.groups g)).trans
          (historyOf_append _ _ _ _ _ g.id id (fun _ => rfl) (fun _ => rfl))
  | setGroupPhoto groupId fileId =>
      apply records_unsupplied
      · exact supplied_uncarried _ _ _ _ rfl
      · exact read_setGroupPhoto GroupRow.title tables.groups groupId fileId (fun _ => rfl) id
      · exact congrArg (historyOf _ _ · id) (setGroupPhoto_others tables.groups groupId fileId).1

theorem groupDescription_records : groupDescription.Records order tables op id := by
  cases op with
  | upsertUser u => exact records_unsupplied _ _ _ _ _ (supplied_uncarried _ _ _ _ rfl) rfl rfl
  | upsertUserFullInfo fi =>
      exact records_unsupplied _ _ _ _ _ (supplied_uncarried _ _ _ _ rfl) rfl rfl
  | setUserProfilePhoto userId fileId =>
      exact records_unsupplied _ _ _ _ _ (supplied_uncarried _ _ _ _ rfl) rfl rfl
  | upsertGroup g =>
      apply records_carried groupDescription order tables _ id g.id g.description
      · simp [groupDescription, EntityOp.subject]
      · rfl
      · exact Or.inl rfl
      · exact upsertGroup_live order tables id GroupRow.description g g.description rfl
          (fun _ => rfl)
      · exact (congrArg (historyOf _ _ · id)
          (histDescription_upsertGroup order tables.groups g)).trans
          (historyOf_append _ _ _ _ _ g.id id (fun _ => rfl) (fun _ => rfl))
  | setGroupPhoto groupId fileId =>
      apply records_unsupplied
      · exact supplied_uncarried _ _ _ _ rfl
      · exact read_setGroupPhoto GroupRow.description tables.groups groupId fileId (fun _ => rfl) id
      · exact congrArg (historyOf _ _ · id) (setGroupPhoto_others tables.groups groupId fileId).2

theorem groupPhoto_records : groupPhoto.Records order tables op id := by
  cases op with
  | upsertUser u => exact records_unsupplied _ _ _ _ _ (supplied_uncarried _ _ _ _ rfl) rfl rfl
  | upsertUserFullInfo fi =>
      exact records_unsupplied _ _ _ _ _ (supplied_uncarried _ _ _ _ rfl) rfl rfl
  | setUserProfilePhoto userId fileId =>
      exact records_unsupplied _ _ _ _ _ (supplied_uncarried _ _ _ _ rfl) rfl rfl
  | upsertGroup g =>
      apply records_unsupplied
      · exact supplied_uncarried _ _ _ _ rfl
      · simp only [groupPhoto, entityStep, lookup_upsertGroup_any]
        split
        · cases tables.groups.groups.lookup id <;> rfl
        · rfl
      · exact congrArg (historyOf _ _ · id) (histPhoto_upsertGroup order tables.groups g)
  | setGroupPhoto groupId fileId =>
      cases found : tables.groups.groups.lookup groupId with
      | none =>
          have same : entityStep order tables (.setGroupPhoto groupId fileId) = tables := by
            rw [entityStep, setGroupPhoto_absent _ _ _ found]
          apply records_unsupplied
          · simp [Attribute.supplied, EntityOp.subject, EntityOp.creates, EntityTables.stored,
              found]
          · rw [same]
          · rw [same]
      | some row =>
          apply records_carried groupPhoto order tables _ id groupId fileId
          · simp [groupPhoto, EntityOp.subject]
          · rfl
          · exact Or.inr (by simp [EntityTables.stored, EntityOp.subject, found])
          · simp only [groupPhoto, entityStep, lookup_setGroupPhoto]
            by_cases own : groupId = id
            · subst own
              simp [found]
            · simp [own]
          · have added := histPhoto_set tables.groups groupId fileId row found
            simp only [groupPhoto, found, Option.map_some, Option.join_some]
            exact (congrArg (historyOf _ _ · id) added).trans
              (historyOf_append _ _ _ _ _ groupId id (fun _ => rfl) (fun _ => rfl))

theorem stored_entityStep (entity : Subject) :
    (entityStep order tables op).stored entity =
      (tables.stored entity || op.creates && decide (op.subject = entity)) := by
  cases entity with
  | user id =>
      cases op with
      | upsertUser u =>
          simp only [EntityTables.stored, entityStep, lookup_upsertUser_any, EntityOp.creates,
            EntityOp.subject, Subject.user.injEq]
          by_cases own : u.id = id <;> simp [own]
      | upsertUserFullInfo fi =>
          simp [EntityTables.stored, entityStep, lookup_upsertUserFullInfo, EntityOp.creates]
      | setUserProfilePhoto userId fileId =>
          simp [EntityTables.stored, entityStep, lookup_setUserProfilePhoto, EntityOp.creates]
      | upsertGroup g => simp [EntityTables.stored, entityStep, EntityOp.subject]
      | setGroupPhoto groupId fileId => simp [EntityTables.stored, entityStep, EntityOp.subject]
  | group id =>
      cases op with
      | upsertUser u => simp [EntityTables.stored, entityStep, EntityOp.subject]
      | upsertUserFullInfo fi => simp [EntityTables.stored, entityStep, EntityOp.subject]
      | setUserProfilePhoto userId fileId =>
          simp [EntityTables.stored, entityStep, EntityOp.subject]
      | upsertGroup g =>
          simp only [EntityTables.stored, entityStep, lookup_upsertGroup_any, EntityOp.creates,
            EntityOp.subject, Subject.group.injEq]
          by_cases own : g.id = id <;> simp [own]
      | setGroupPhoto groupId fileId =>
          simp [EntityTables.stored, entityStep, lookup_setGroupPhoto, EntityOp.creates]

/-- A bio starts as the column's default when the row is created. -/
def suppliedBio (id : Int) (tables : EntityTables collate) (op : EntityOp) : Option String :=
  if op.creates ∧ op.subject = .user id ∧ ¬ tables.stored (.user id) then some ""
  else userBio.supplied id tables op

theorem userBio_records :
    userBio.live (entityStep order tables op) id =
        (suppliedBio id tables op).or (userBio.live tables id) ∧
      userBio.history (entityStep order tables op) id = userBio.history tables id ++
        (suppliedBio id tables op).toList.flatMap
          (entry (fun _ => []) (userBio.live tables id)) := by
  cases op with
  | upsertUser u =>
      have kept : userBio.history (entityStep order tables (.upsertUser u)) id =
          userBio.history tables id :=
        congrArg (historyOf _ _ · id) (histBio_upsertUser order tables.users u)
      rw [kept]
      simp only [suppliedBio, userBio, entityStep, lookup_upsertUser_any, EntityOp.creates,
        EntityOp.subject, EntityTables.stored, Attribute.supplied]
      by_cases own : u.id = id
      · subst own
        cases tables.users.users.lookup u.id with
        | none => simp [newUserRow, entry]
        | some row => simp [overwriteUser]
      · simp [own]
  | upsertUserFullInfo fi =>
      simp only [suppliedBio, EntityOp.creates, Bool.false_eq_true, false_and, ↓reduceIte]
      cases found : tables.users.users.lookup fi.userId with
      | none =>
          have same : entityStep order tables (.upsertUserFullInfo fi) = tables := by
            rw [entityStep, upsertUserFullInfo_absent _ _ found]
          have unsupplied : userBio.supplied id tables (.upsertUserFullInfo fi) = none := by
            simp [Attribute.supplied, EntityOp.subject, EntityOp.creates, EntityTables.stored,
              found]
          simp [same, unsupplied]
      | some row =>
          have added := (congrArg (historyOf UserHistBio.userId UserHistBio.bio · id)
            (histBio_upsertUserFullInfo tables.users fi row found)).trans
            (historyOf_append _ _ _ _ _ fi.userId id (fun _ => rfl) (fun _ => rfl))
          by_cases own : fi.userId = id
          · subst own
            have supplied : userBio.supplied fi.userId tables (.upsertUserFullInfo fi) =
                some fi.bio := by
              simp [Attribute.supplied, EntityOp.subject, EntityTables.stored, found, userBio]
            rw [supplied]
            refine ⟨?_, ?_⟩
            · simp [userBio, entityStep, lookup_upsertUserFullInfo, found, overwriteFullInfo]
            · rw [if_pos rfl] at added
              simpa [userBio, entityStep, found] using added
          · have unsupplied : userBio.supplied id tables (.upsertUserFullInfo fi) = none := by
              simp [Attribute.supplied, EntityOp.subject, userBio, own]
            rw [unsupplied]
            refine ⟨?_, ?_⟩
            · simp [userBio, entityStep, lookup_upsertUserFullInfo, own]
            · rw [if_neg own] at added
              simpa [userBio, entityStep] using added
  | setUserProfilePhoto userId fileId =>
      have unsupplied : suppliedBio id tables (.setUserProfilePhoto userId fileId) = none := by
        simp [suppliedBio, EntityOp.creates, supplied_uncarried, userBio]
      rw [unsupplied]
      refine ⟨read_setUserProfilePhoto UserRow.bio tables.users userId fileId (fun _ => rfl) id, ?_⟩
      simpa [userBio, entityStep] using congrArg (historyOf UserHistBio.userId UserHistBio.bio · id)
        (setUserProfilePhoto_others tables.users userId fileId).2.2
  | upsertGroup g =>
      have unsupplied : suppliedBio id tables (.upsertGroup g) = none := by
        simp [suppliedBio, EntityOp.subject, supplied_uncarried, userBio]
      simp [unsupplied, userBio, entityStep]
  | setGroupPhoto groupId fileId =>
      have unsupplied : suppliedBio id tables (.setGroupPhoto groupId fileId) = none := by
        simp [suppliedBio, EntityOp.subject, supplied_uncarried, userBio]
      simp [unsupplied, userBio, entityStep]

end

theorem exact_of_records {Value : Type} [DecidableEq Value] (field : Attribute collate Value)
    (order : MapOrder) (id : Int)
    (records : ∀ tables op, field.Records order tables op id)
    (unset : field.live EntityTables.empty id = none)
    (blank : field.history EntityTables.empty id = []) (ops : List EntityOp) :
    field.Exact order ops id := by
  let recorder : Recorder (@entityStep _ _ collate order) List.singleton :=
    { live := fun tables => field.live tables id
      record := fun tables => field.history tables id
      supplied := field.supplied id
      live_step := fun tables op => (records tables op).1
      record_step := fun tables op => (records tables op).2 }
  have law := recorder_run recorder EntityTables.empty unset blank ops
  exact ⟨law.1, law.2.trans (recorded_singleton _)⟩

/-- The bio starts from the default; its history holds all values but the last. -/
def BioExact (order : MapOrder) (ops : List EntityOp) (id : Int) : Prop :=
  (entityStore order ops : EntityTables collate).stored (.user id) →
    let journal :=
      ("" :: (userBio : Attribute collate _).values order id ops).destutter (· ≠ ·)
    userBio.live (entityStore order ops : EntityTables collate) id = journal.getLast? ∧
      userBio.history (entityStore order ops : EntityTables collate) id = journal.dropLast

def bioValues (collate : String → Key) (order : MapOrder) (id : Int) (ops : List EntityOp) :
    List String :=
  outputs (entityStep order) (fun tables op => (suppliedBio id tables op).toList)
    (EntityTables.empty : EntityTables collate) ops

/-- The row is created once, and no full info counts before that. -/
theorem bioValues_eq (order : MapOrder) (id : Int) (ops : List EntityOp) :
    bioValues collate order id ops =
      if (entityStore order ops : EntityTables collate).stored (.user id) then
        "" :: (userBio : Attribute collate _).values order id ops
      else [] := by
  suffices both : bioValues collate order id ops =
      (if (entityStore order ops : EntityTables collate).stored (.user id) then
        "" :: (userBio : Attribute collate _).values order id ops
      else []) ∧
      ((entityStore order ops : EntityTables collate).stored (.user id) = false →
        (userBio : Attribute collate _).values order id ops = []) from both.1
  induction ops using List.reverseRecOn with
  | nil => exact ⟨rfl, fun _ => rfl⟩
  | append_singleton ops op ih =>
      obtain ⟨values, early⟩ := ih
      have grown : bioValues collate order id (ops ++ [op]) = bioValues collate order id ops ++
          (suppliedBio id (entityStore order ops) op).toList := outputs_snoc _ _ _ _ _
      have counted : (userBio : Attribute collate _).values order id (ops ++ [op]) =
          (userBio : Attribute collate _).values order id ops ++
            (userBio.supplied id (entityStore order ops) op).toList := outputs_snoc _ _ _ _ _
      have after : (entityStore order (ops ++ [op]) : EntityTables collate) =
          entityStep order (entityStore order ops) op := run_snoc _ _ _ _
      rw [grown, counted, after, values, stored_entityStep]
      generalize (entityStore order ops : EntityTables collate) = tables at early ⊢
      cases stored : tables.stored (.user id) with
      | true => simp [suppliedBio, stored]
      | false =>
          have uncounted : op.creates = false → userBio.supplied id tables op = none := by
            intro setter
            rw [Attribute.supplied, if_neg]
            rintro ⟨about, counts⟩
            change op.subject = .user id at about
            simp [setter, about, stored] at counts
          by_cases creates : op.creates
          · have uncarried : userBio.supplied id tables op = none := by
              apply supplied_uncarried
              cases op <;> first | rfl | cases creates
            by_cases about : op.subject = .user id <;>
              simp [suppliedBio, stored, creates, about, uncarried, early stored]
          · have setter : op.creates = false := by simpa using creates
            simp [suppliedBio, stored, setter, uncounted setter, early stored]

theorem bio_exact (order : MapOrder) (ops : List EntityOp) (id : Int) :
    @BioExact _ _ collate order ops id := by
  intro stored
  let recorder : Recorder (@entityStep _ _ collate order) (fun _ : String => []) :=
    { live := fun tables => userBio.live tables id
      record := fun tables => userBio.history tables id
      supplied := suppliedBio id
      live_step := fun tables op => (userBio_records order tables op id).1
      record_step := fun tables op => (userBio_records order tables op id).2 }
  have law := recorder_run recorder EntityTables.empty rfl rfl ops
  have values : recorder.values EntityTables.empty ops =
      "" :: (userBio : Attribute collate _).values order id ops :=
    (bioValues_eq order id ops).trans (if_pos stored)
  rw [values] at law
  exact ⟨law.1, law.2.trans (by simp [recorded])⟩

/-- History rows are only ever added. -/
def EntityTables.HistoryKept (before after : EntityTables collate) : Prop :=
  before.users.histName <+: after.users.histName ∧
    before.users.histPhoneNum <+: after.users.histPhoneNum ∧
    before.users.histProfilePhoto <+: after.users.histProfilePhoto ∧
    before.users.histBio <+: after.users.histBio ∧
    before.groups.histTitle <+: after.groups.histTitle ∧
    before.groups.histDescription <+: after.groups.histDescription ∧
    before.groups.histPhoto <+: after.groups.histPhoto

/-- A call leaves every other entity and every attribute it does not carry. -/
def Attribute.Framed {Value : Type} (field : Attribute collate Value) (order : MapOrder)
    (tables : EntityTables collate) (op : EntityOp) : Prop :=
  ∀ id, op.subject ≠ field.entity id ∨ field.carried op = none →
    field.history (entityStep order tables op) id = field.history tables id ∧
      (op.subject ≠ field.entity id ∨ tables.stored (field.entity id) →
        field.live (entityStep order tables op) id = field.live tables id)

theorem framed_of_records {Value : Type} [DecidableEq Value] (field : Attribute collate Value)
    (order : MapOrder) (tables : EntityTables collate) (op : EntityOp)
    (records : ∀ id, field.Records order tables op id) : field.Framed order tables op := by
  intro id frame
  have unsupplied : field.supplied id tables op = none := by
    rcases frame with other | uncarried
    · rw [Attribute.supplied, if_neg fun hit => other hit.1]
    · exact supplied_uncarried field tables op id uncarried
  have law := records id
  simp only [Attribute.Records, unsupplied, Option.none_or, Option.toList_none,
    List.flatMap_nil, List.append_nil] at law
  exact ⟨law.2, fun _ => law.1⟩

theorem bio_framed (order : MapOrder) (tables : EntityTables collate) (op : EntityOp) :
    userBio.Framed order tables op := by
  intro id frame
  have law := userBio_records order tables op id
  have unsupplied : userBio.supplied id tables op = none := by
    rcases frame with other | uncarried
    · rw [Attribute.supplied, if_neg fun hit => other hit.1]
    · exact supplied_uncarried userBio tables op id uncarried
  by_cases created : op.creates ∧ op.subject = .user id ∧ ¬ tables.stored (.user id)
  · have absent : userBio.live tables id = none := by
      simpa [userBio, EntityTables.stored] using created.2.2
    rw [suppliedBio, if_pos created, absent] at law
    refine ⟨by simpa [entry] using law.2, ?_⟩
    rintro (other | stored)
    · exact absurd created.2.1 other
    · exact absurd stored created.2.2
  · simp only [suppliedBio, if_neg created, unsupplied, Option.none_or, Option.toList_none,
      List.flatMap_nil, List.append_nil] at law
    exact ⟨law.2, fun _ => law.1⟩

theorem entityStep_absent (order : MapOrder) (tables : EntityTables collate) (op : EntityOp)
    (setter : op.creates = false) (absent : tables.stored op.subject = false) :
    entityStep order tables op = tables := by
  cases op with
  | upsertUser u => cases setter
  | upsertUserFullInfo fi =>
      have missing : tables.users.users.lookup fi.userId = none := by
        simpa [EntityTables.stored, EntityOp.subject] using absent
      rw [entityStep, upsertUserFullInfo_absent _ _ missing]
  | setUserProfilePhoto userId fileId =>
      have missing : tables.users.users.lookup userId = none := by
        simpa [EntityTables.stored, EntityOp.subject] using absent
      rw [entityStep, setUserProfilePhoto_absent _ _ _ missing]
  | upsertGroup g => cases setter
  | setGroupPhoto groupId fileId =>
      have missing : tables.groups.groups.lookup groupId = none := by
        simpa [EntityTables.stored, EntityOp.subject] using absent
      rw [entityStep, setGroupPhoto_absent _ _ _ missing]

theorem entityStep_kept (order : MapOrder) (tables : EntityTables collate) (op : EntityOp) :
    tables.HistoryKept (entityStep order tables op) := by
  by_cases counts : op.creates ∨ tables.stored op.subject
  · cases op with
    | upsertUser u =>
        simp [EntityTables.HistoryKept, entityStep, histName_upsertUser, histPhoneNum_upsertUser]
    | upsertUserFullInfo fi =>
        obtain ⟨row, found⟩ : ∃ row, tables.users.users.lookup fi.userId = some row := by
          simpa [EntityOp.creates, EntityTables.stored, EntityOp.subject,
            Option.isSome_iff_exists] using counts
        simp [EntityTables.HistoryKept, entityStep, upsertUserFullInfo_others,
          histBio_upsertUserFullInfo _ _ row found]
    | setUserProfilePhoto userId fileId =>
        obtain ⟨row, found⟩ : ∃ row, tables.users.users.lookup userId = some row := by
          simpa [EntityOp.creates, EntityTables.stored, EntityOp.subject,
            Option.isSome_iff_exists] using counts
        simp [EntityTables.HistoryKept, entityStep, setUserProfilePhoto_others,
          histProfilePhoto_set _ _ _ row found]
    | upsertGroup g =>
        simp [EntityTables.HistoryKept, entityStep, histTitle_upsertGroup,
          histDescription_upsertGroup]
    | setGroupPhoto groupId fileId =>
        obtain ⟨row, found⟩ : ∃ row, tables.groups.groups.lookup groupId = some row := by
          simpa [EntityOp.creates, EntityTables.stored, EntityOp.subject,
            Option.isSome_iff_exists] using counts
        simp [EntityTables.HistoryKept, entityStep, setGroupPhoto_others,
          histPhoto_set _ _ _ row found]
  · rw [not_or] at counts
    rw [entityStep_absent order tables op (by simpa using counts.1) (by simpa using counts.2)]
    simp [EntityTables.HistoryKept]

/-- Live columns and histories are the distinct supplied values of every run, and
one more call changes nothing that it does not carry. -/
theorem attributeHistories_exact (order : MapOrder) (ops : List EntityOp) :
    (∀ id, (userName : Attribute collate _).Exact order ops id ∧
      (phoneNumber : Attribute collate _).Exact order ops id ∧
      (userPhoto : Attribute collate _).Exact order ops id ∧
      (groupTitle : Attribute collate _).Exact order ops id ∧
      (groupDescription : Attribute collate _).Exact order ops id ∧
      (groupPhoto : Attribute collate _).Exact order ops id ∧
      @BioExact _ _ collate order ops id) ∧
    ∀ op, let tables : EntityTables collate := entityStore order ops
      (op.creates = false → tables.stored op.subject = false →
        entityStep order tables op = tables) ∧
      tables.HistoryKept (entityStep order tables op) ∧
      userName.Framed order tables op ∧ phoneNumber.Framed order tables op ∧
      userPhoto.Framed order tables op ∧ userBio.Framed order tables op ∧
      groupTitle.Framed order tables op ∧ groupDescription.Framed order tables op ∧
      groupPhoto.Framed order tables op := by
  constructor
  · intro id
    refine ⟨?_, ?_, ?_, ?_, ?_, ?_, bio_exact order ops id⟩
    · exact exact_of_records _ _ _ (fun _ _ => userName_records _ _ _ _) rfl rfl ops
    · exact exact_of_records _ _ _ (fun _ _ => phoneNumber_records _ _ _ _) rfl rfl ops
    · exact exact_of_records _ _ _ (fun _ _ => userPhoto_records _ _ _ _) rfl rfl ops
    · exact exact_of_records _ _ _ (fun _ _ => groupTitle_records _ _ _ _) rfl rfl ops
    · exact exact_of_records _ _ _ (fun _ _ => groupDescription_records _ _ _ _) rfl rfl ops
    · exact exact_of_records _ _ _ (fun _ _ => groupPhoto_records _ _ _ _) rfl rfl ops
  · intro op tables
    refine ⟨entityStep_absent order tables op, entityStep_kept order tables op,
      ?_, ?_, ?_, bio_framed order tables op, ?_, ?_, ?_⟩
    · exact framed_of_records _ _ _ _ (userName_records _ _ _)
    · exact framed_of_records _ _ _ _ (phoneNumber_records _ _ _)
    · exact framed_of_records _ _ _ _ (userPhoto_records _ _ _)
    · exact framed_of_records _ _ _ _ (groupTitle_records _ _ _)
    · exact framed_of_records _ _ _ _ (groupDescription_records _ _ _)
    · exact framed_of_records _ _ _ _ (groupPhoto_records _ _ _)

/-- A bio is taken over after the user row exists; a description comes and goes. -/
theorem attributeHistories_exact_at_run :
    @BioExact _ _ foldCase insertionOrder
        [.upsertUserFullInfo { userId := 7, bio := "early" }, .upsertUser { id := 7 },
          .upsertUserFullInfo { userId := 7, bio := "here" }] 7 ∧
      (groupDescription : Attribute foldCase _).history
        (entityStore insertionOrder
          [.upsertGroup { id := -100, description := "rules" }, .setGroupPhoto (-100) 3,
            .upsertGroup { id := -100 }]) (-100) = ["rules", "rules"] :=
  ⟨((attributeHistories_exact insertionOrder _).1 7).2.2.2.2.2.2,
    ((attributeHistories_exact insertionOrder _).1 (-100)).2.2.2.2.1.2.trans (by decide)⟩

end

end TgLoggerd
