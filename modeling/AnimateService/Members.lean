import AnimateService.CanvasSteps

/-!
# Members by name

The members of a canvas are linked to clients by their names alone. A member keeps its name, names
on a canvas are distinct, and a section connects nobody but the user it is performed for.
-/
namespace AnimateService

open LinkedList

/-! ## Members keep their names -/

/-- The names of a record's members. -/
def CanvasRecord.names (canvas : CanvasRecord) : List Bytes := canvas.users.map SharedUser.username

/-- A write to the flags of a member keeps the names. -/
theorem names_updateUser (canvas : CanvasRecord) (user : UserPtr) (write : SharedUser → SharedUser)
    (kept : ∀ member, (write member).username = member.username) :
    (canvas.updateUser user write).names = canvas.names := by
  apply List.ext_getElem?
  intro index
  simp only [CanvasRecord.names, List.getElem?_map, CanvasRecord.users_updateUser]
  split
  · cases canvas.users[index]? <;> simp [kept]
  · rfl

/-- Connecting keeps the names. -/
theorem names_connect (canvas : CanvasRecord) (username : Bytes) :
    (canvas.connect username).names = canvas.names := by
  unfold CanvasRecord.connect
  split
  · exact names_updateUser _ _ _ fun _ => rfl
  · rfl

/-- Departing keeps the names. -/
theorem names_depart (canvas : CanvasRecord) (username : Bytes) :
    (canvas.depart username).names = canvas.names := by
  unfold CanvasRecord.depart
  split
  · exact names_updateUser _ _ _ fun _ => rfl
  · rfl

/-- Arriving keeps the names. -/
theorem names_arrive (canvas : CanvasRecord) (user : UserPtr) :
    (canvas.arrive user).names = canvas.names :=
  names_updateUser _ _ _ fun _ => rfl

/-- Records with the same members have the same names. -/
theorem names_congr {canvas other : CanvasRecord} (same : canvas.users = other.users) :
    canvas.names = other.names := congrArg (List.map SharedUser.username) same

/-- Sharing adds at most one name, behind the others. -/
theorem names_share (canvas : CanvasRecord) (target : Bytes) (memory : Bool) :
    canvas.names <+: (canvasRecordShare canvas target memory).2.names := by
  unfold canvasRecordShare
  split
  · exact List.prefix_rfl
  · cases memory with
    | false => exact List.prefix_rfl
    | true => simp [CanvasRecord.names]

/-- Releasing keeps the names. -/
theorem names_release (canvas : CanvasRecord) : canvas.release.names = canvas.names := by
  simp [CanvasRecord.names, CanvasRecord.release, Function.comp_def]

/-- A section keeps the names of a record's members and adds at most one behind them. -/
theorem RecordChange.names {store : HandleStore} {record : CanvasPtr} {canvas after : CanvasRecord}
    {step : CanvasStep} (change : RecordChange store record canvas step after) :
    canvas.names <+: after.names := by
  cases change with
  | kept stays => exact List.prefix_rfl
  | looked found member => exact (names_connect canvas _).symm ▸ List.prefix_rfl
  | shared found member => exact names_connect canvas _ ▸ names_share _ _ _
  | completed found member complete =>
    simp only [names_release, names_arrive, names_connect, List.prefix_rfl]
  | arrived found member short =>
    simp only [names_arrive, names_connect, List.prefix_rfl]
  | destroyed found member =>
    simp only [names_congr CanvasRecord.destroyFor_users, names_depart, names_connect,
      List.prefix_rfl]
  | disconnected named member =>
    simp only [names_congr CanvasRecord.disconnect_users, names_depart, List.prefix_rfl]

/-- The member at an address has a name. -/
def MemberNamed (store : HandleStore) (record : CanvasPtr) (user : UserPtr) (name : Bytes) : Prop :=
  ∃ canvas, store.canvases[record]? = some canvas ∧ canvas.names[user]? = some name

/-- A member found by its name has that name. -/
theorem memberNamed_of_found {store : HandleStore} {record : CanvasPtr} {canvas : CanvasRecord}
    {user : UserPtr} {name : Bytes} (present : store.canvases[record]? = some canvas)
    (found : findSharedUser canvas name = some user) : MemberNamed store record user name := by
  obtain ⟨member, there, named⟩ := CanvasRecord.findSharedUser_some found
  exact ⟨canvas, present, by simp [CanvasRecord.names, there, named]⟩

/-- A member has one name. -/
theorem MemberNamed.unique {store : HandleStore} {record : CanvasPtr} {user : UserPtr}
    {name other : Bytes} (named : MemberNamed store record user name)
    (renamed : MemberNamed store record user other) : name = other := by
  obtain ⟨canvas, present, called⟩ := named
  obtain ⟨same, there, again⟩ := renamed
  obtain rfl := Option.some.inj (present.symm.trans there)
  exact Option.some.inj (called.symm.trans again)

/-- A section keeps the name of a member. -/
theorem CanvasStep.apply_named {store : HandleStore} {record : CanvasPtr} {user : UserPtr}
    {name : Bytes} (step : CanvasStep) (named : MemberNamed store record user name) :
    MemberNamed (step.apply store) record user name := by
  obtain ⟨canvas, present, called⟩ := named
  obtain ⟨after, there, change⟩ := CanvasStep.apply_record present step
  obtain ⟨inside, at_user⟩ := List.getElem?_eq_some_iff.mp called
  exact ⟨after, there, by rw [List.prefix_iff_getElem?.mp change.names user inside, at_user]⟩

/-! ## Who is connected -/

/-- The names of a record's connected members. -/
def CanvasRecord.connectedNames (canvas : CanvasRecord) : Set Bytes :=
  {name | ∃ member ∈ canvas.users, member.connected = true ∧ member.username = name}

/-- A user is connected to some canvas. -/
def ConnectedNamed (store : HandleStore) (name : Bytes) : Prop :=
  ∃ canvas ∈ store.canvases, name ∈ canvas.connectedNames

/-- A member after a write to one address is an old member or the written one. -/
theorem mem_updateUser {canvas : CanvasRecord} {user : UserPtr} {write : SharedUser → SharedUser}
    {member : SharedUser} (inside : member ∈ (canvas.updateUser user write).users) :
    ∃ old ∈ canvas.users, member = old ∨ canvas.users[user]? = some old ∧ member = write old := by
  obtain ⟨index, present⟩ := List.mem_iff_getElem?.mp inside
  rw [CanvasRecord.users_updateUser] at present
  split at present
  · rename_i same
    subst same
    obtain ⟨old, there, rfl⟩ := Option.map_eq_some_iff.mp present
    exact ⟨old, List.mem_of_getElem? there, .inr ⟨there, rfl⟩⟩
  · exact ⟨member, List.mem_of_getElem? present, .inl rfl⟩

/-- A lookup connects nobody but the user it is made for. -/
theorem connectedNames_connect (canvas : CanvasRecord) (name : Bytes) :
    (canvas.connect name).connectedNames ⊆ insert name canvas.connectedNames := by
  rintro other ⟨member, inside, connected, rfl⟩
  unfold CanvasRecord.connect at inside
  split at inside
  · rename_i user found
    obtain ⟨old, there, rfl | ⟨at_user, rfl⟩⟩ := mem_updateUser inside
    · exact .inr ⟨member, there, connected, rfl⟩
    · obtain ⟨hit, present, named⟩ := CanvasRecord.findSharedUser_some found
      obtain rfl := Option.some.inj (at_user.symm.trans present)
      exact .inl named
  · exact .inr ⟨member, inside, connected, rfl⟩

/-- Departing connects nobody. -/
theorem connectedNames_depart (canvas : CanvasRecord) (name : Bytes) :
    (canvas.depart name).connectedNames ⊆ canvas.connectedNames := by
  rintro other ⟨member, inside, connected, rfl⟩
  unfold CanvasRecord.depart at inside
  split at inside
  · obtain ⟨old, there, rfl | ⟨-, rfl⟩⟩ := mem_updateUser inside
    · exact ⟨member, there, connected, rfl⟩
    · cases connected
  · exact ⟨member, inside, connected, rfl⟩

/-- Arriving connects nobody. -/
theorem connectedNames_arrive (canvas : CanvasRecord) (user : UserPtr) :
    (canvas.arrive user).connectedNames ⊆ canvas.connectedNames := by
  rintro other ⟨member, inside, connected, rfl⟩
  obtain ⟨old, there, rfl | ⟨-, rfl⟩⟩ := mem_updateUser inside
  · exact ⟨member, there, connected, rfl⟩
  · exact ⟨old, there, connected, rfl⟩

/-- Releasing connects nobody. -/
theorem connectedNames_release (canvas : CanvasRecord) :
    canvas.release.connectedNames ⊆ canvas.connectedNames := by
  rintro other ⟨member, inside, connected, rfl⟩
  obtain ⟨old, there, rfl⟩ := List.mem_map.mp inside
  exact ⟨old, there, connected, rfl⟩

/-- Sharing connects nobody. -/
theorem connectedNames_share (canvas : CanvasRecord) (target : Bytes) (memory : Bool) :
    (canvasRecordShare canvas target memory).2.connectedNames ⊆ canvas.connectedNames := by
  rintro other ⟨member, inside, connected, rfl⟩
  unfold canvasRecordShare at inside
  split at inside
  · exact ⟨member, inside, connected, rfl⟩
  · split at inside
    · rcases List.mem_append.mp inside with old | new
      · exact ⟨member, old, connected, rfl⟩
      · rw [List.mem_singleton.mp new] at connected
        cases connected
    · exact ⟨member, inside, connected, rfl⟩

/-- Records with the same members have the same connected names. -/
theorem connectedNames_congr {canvas other : CanvasRecord} (same : canvas.users = other.users) :
    canvas.connectedNames = other.connectedNames := by
  simp only [CanvasRecord.connectedNames, same]

/-- The user that a section is performed for, as a member's name. -/
def CanvasStep.user : CanvasStep → Option Bytes
  | .createCanvas _ _ _ owner _ => some (copyUsername owner)
  | .shareCanvas _ username _ _ | .lookup _ username | .barrier _ username
  | .destroyCanvas _ username | .disconnect username => some username
  | .elsewhere _ _ _ => none

/-- The name that a section connects to a canvas. -/
def CanvasStep.connects (store : HandleStore) : CanvasStep → Option Bytes
  | .createCanvas _ _ _ owner memory => if memory then some (copyUsername owner) else none
  | .shareCanvas canvasId username _ _ | .lookup canvasId username | .barrier canvasId username =>
    (canvasFor store canvasId username).map fun _ => username
  | .destroyCanvas _ _ | .disconnect _ | .elsewhere _ _ _ => none

/-- The connected names are those of the connected members. -/
theorem mem_connectedNames {canvas : CanvasRecord} {name : Bytes} :
    name ∈ canvas.connectedNames ↔
      ∃ user, user ∈ canvas.barrier.connected ∧ canvas.names[user]? = some name := by
  constructor
  · rintro ⟨member, inside, connected, rfl⟩
    obtain ⟨user, present⟩ := List.mem_iff_getElem?.mp inside
    exact ⟨user, ⟨member, present, connected⟩, by simp [CanvasRecord.names, present]⟩
  · rintro ⟨user, ⟨member, present, connected⟩, named⟩
    refine ⟨member, List.mem_of_getElem? present, connected, ?_⟩
    simpa [CanvasRecord.names, present] using named

/-- A departure connects nobody. -/
theorem connectedNames_leave {canvas after : CanvasRecord} {user : UserPtr}
    (left : after.barrier = canvas.barrier.leave user) (names : after.names = canvas.names) :
    after.connectedNames ⊆ canvas.connectedNames := by
  intro name connected
  obtain ⟨other, inside, named⟩ := mem_connectedNames.mp connected
  rw [left] at inside
  exact mem_connectedNames.mpr ⟨other, inside.1, names ▸ named⟩

/-- A change of a record connects nobody but the name that the section connects. -/
theorem RecordChange.connects {store : HandleStore} {record : CanvasPtr}
    {canvas after : CanvasRecord} {step : CanvasStep} {name : Bytes}
    (present : store.canvases[record]? = some canvas)
    (change : RecordChange store record canvas step after) (connected : name ∈ after.connectedNames) :
    name ∈ canvas.connectedNames ∨ step.connects store = some name := by
  have looked : ∀ {canvasId : UInt64} {user : Bytes}, canvasFor store canvasId user = some record →
      name ∈ (canvas.connect user).connectedNames → name ∈ canvas.connectedNames ∨
        (canvasFor store canvasId user).map (fun _ => user) = some name := by
    intro canvasId user found inside
    rcases connectedNames_connect canvas user inside with rfl | old
    · exact .inr (by rw [found]; rfl)
    · exact .inl old
  have barrier := change.barrier present
  cases change with
  | kept stays => exact .inl connected
  | looked found member => exact looked found connected
  | shared found member => exact looked found (connectedNames_share _ _ _ connected)
  | completed found member complete =>
    exact looked found (connectedNames_arrive _ _ (connectedNames_release _ connected))
  | arrived found member short => exact looked found (connectedNames_arrive _ _ connected)
  | destroyed found member =>
    rename_i canvasId username user
    have departs : (CanvasStep.destroyCanvas canvasId username).departure store record = some user := by
      simp [CanvasStep.departure, found, present, member]
    refine .inl (connectedNames_leave (barrier.of_departure departs) ?_ connected)
    rw [names_congr CanvasRecord.destroyFor_users, names_depart, names_connect]
  | disconnected named member =>
    rw [connectedNames_congr CanvasRecord.disconnect_users] at connected
    exact .inl (connectedNames_depart _ _ connected)

/-- A section connects nobody but the name that it connects. -/
theorem CanvasStep.apply_connects {store : HandleStore} {step : CanvasStep} {name : Bytes}
    (connected : ConnectedNamed (step.apply store) name) :
    ConnectedNamed store name ∨ step.connects store = some name := by
  obtain ⟨canvas, inside, there⟩ := connected
  obtain ⟨record, present⟩ := List.mem_iff_getElem?.mp inside
  cases old : store.canvases[record]? with
  | none =>
    obtain ⟨object, width, height, owner, rfl, rfl⟩ := CanvasStep.apply_added old present
    obtain ⟨member, only, -, rfl⟩ := there
    rw [List.mem_singleton.mp only]
    exact .inr rfl
  | some before =>
    obtain ⟨after, found, change⟩ := CanvasStep.apply_record old step
    obtain rfl := Option.some.inj (present.symm.trans found)
    exact (change.connects old there).imp_left fun here => ⟨before, List.mem_of_getElem? old, here⟩

/-- The name that a section connects is its user's. -/
theorem CanvasStep.user_of_connects {store : HandleStore} {step : CanvasStep} {name : Bytes}
    (connects : step.connects store = some name) : step.user = some name := by
  cases step with
  | createCanvas object width height owner memory =>
    cases memory with
    | false => cases connects
    | true => exact connects
  | shareCanvas canvasId username target memory | lookup canvasId username
  | barrier canvasId username => exact congrArg some (Option.map_eq_some_iff.mp connects).choose_spec.2
  | _ => cases connects

/-- A section connects nobody but its user. -/
theorem CanvasStep.apply_connected {store : HandleStore} {step : CanvasStep} {name : Bytes}
    (connected : ConnectedNamed (step.apply store) name) :
    ConnectedNamed store name ∨ step.user = some name :=
  (CanvasStep.apply_connects connected).imp_right CanvasStep.user_of_connects

/-! ## Distinct names -/

/-- The members of every canvas have distinct names, none of them empty. -/
def NamesFormed (store : HandleStore) : Prop :=
  ∀ canvas ∈ store.canvases, canvas.names.Nodup ∧ [] ∉ canvas.names

/-- A section gives no member an empty name or one that does not fit. -/
def CanvasStep.Formed : CanvasStep → Prop
  | .createCanvas _ _ _ owner _ => copyUsername owner ≠ []
  | .shareCanvas _ _ target _ => copyUsername target = target ∧ target ≠ []
  | _ => True

/-- A name that finds nobody is nobody's. -/
theorem findSharedUser_none {canvas : CanvasRecord} {name : Bytes}
    (missing : findSharedUser canvas name = none) : name ∉ canvas.names := by
  intro member
  obtain ⟨user, inside, named⟩ := List.mem_map.mp member
  have rejected := newest?_none.mp missing user inside
  simp [named] at rejected

/-- A section shares a canvas only with a name that fits. -/
def CanvasStep.Fits : CanvasStep → Prop
  | .shareCanvas _ _ target _ => copyUsername target = target
  | _ => True

/-- A well-formed name fits. -/
theorem CanvasStep.Formed.fits {step : CanvasStep} (proper : step.Formed) : step.Fits := by
  cases step with
  | shareCanvas canvasId username target memory => exact proper.1
  | _ => trivial

/-- Sharing adds a name that fits and was not there, or nothing. -/
theorem names_share_eq (canvas : CanvasRecord) (memory : Bool) {target : Bytes}
    (fits : copyUsername target = target) :
    (canvasRecordShare canvas target memory).2.names =
      if memory = true ∧ target ∉ canvas.names then canvas.names ++ [target] else canvas.names := by
  unfold canvasRecordShare
  split
  · rename_i user found
    obtain ⟨member, present, named⟩ := CanvasRecord.findSharedUser_some found
    have inside : target ∈ canvas.names :=
      List.mem_map.mpr ⟨member, List.mem_of_getElem? present, named⟩
    simp [inside]
  · rename_i missing
    have outside := findSharedUser_none missing
    cases memory with
    | false => simp
    | true =>
      rw [if_pos rfl, if_pos ⟨rfl, outside⟩]
      simp [CanvasRecord.names, fits]

/-- Sharing keeps the names distinct. -/
theorem share_distinct {canvas : CanvasRecord} {memory : Bool} {target : Bytes}
    (fits : copyUsername target = target) (distinct : canvas.names.Nodup) :
    (canvasRecordShare canvas target memory).2.names.Nodup := by
  rw [names_share_eq canvas memory fits]
  split
  · rename_i added
    refine List.nodup_append.mpr ⟨distinct, List.pairwise_singleton _ _, ?_⟩
    rintro name inside other single rfl
    rw [List.mem_singleton.mp single] at inside
    exact added.2 inside
  · exact distinct

/-- A change of a record keeps its names distinct. -/
theorem RecordChange.distinct {store : HandleStore} {record : CanvasPtr}
    {canvas after : CanvasRecord} {step : CanvasStep}
    (change : RecordChange store record canvas step after) (fits : step.Fits)
    (distinct : canvas.names.Nodup) : after.names.Nodup := by
  cases change with
  | kept stays => exact distinct
  | looked found member => rwa [names_connect]
  | shared found member => exact share_distinct fits (by rwa [names_connect])
  | completed found member complete => rwa [names_release, names_arrive, names_connect]
  | arrived found member short => rwa [names_arrive, names_connect]
  | destroyed found member =>
    rwa [names_congr CanvasRecord.destroyFor_users, names_depart, names_connect]
  | disconnected named member => rwa [names_congr CanvasRecord.disconnect_users, names_depart]

/-- A section keeps the names on every canvas distinct. -/
theorem CanvasStep.apply_distinct {store : HandleStore} {step : CanvasStep} (fits : step.Fits)
    (distinct : ∀ canvas ∈ store.canvases, canvas.names.Nodup) :
    ∀ canvas ∈ (step.apply store).canvases, canvas.names.Nodup := by
  refine CanvasStep.apply_all ?_ ?_ distinct
  · rintro id object width height owner rfl
    exact List.pairwise_singleton _ _
  · exact fun record canvas after _ before change => change.distinct fits before

/-- A change of a record keeps its names formed. -/
theorem RecordChange.formed {store : HandleStore} {record : CanvasPtr}
    {canvas after : CanvasRecord} {step : CanvasStep}
    (change : RecordChange store record canvas step after) (proper : step.Formed)
    (formed : canvas.names.Nodup ∧ [] ∉ canvas.names) :
    after.names.Nodup ∧ [] ∉ after.names := by
  refine ⟨change.distinct proper.fits formed.1, ?_⟩
  cases change with
  | kept stays => exact formed.2
  | looked found member => exact names_connect canvas _ ▸ formed.2
  | shared found member =>
    rw [names_share_eq _ _ proper.1, names_connect]
    split
    · simp only [List.mem_append, List.mem_singleton, not_or]
      exact ⟨formed.2, Ne.symm proper.2⟩
    · exact formed.2
  | completed found member complete =>
    rw [names_release, names_arrive, names_connect]
    exact formed.2
  | arrived found member short =>
    rw [names_arrive, names_connect]
    exact formed.2
  | destroyed found member =>
    rw [names_congr CanvasRecord.destroyFor_users, names_depart, names_connect]
    exact formed.2
  | disconnected named member =>
    rw [names_congr CanvasRecord.disconnect_users, names_depart]
    exact formed.2

/-- A section keeps the names of all members formed. -/
theorem CanvasStep.apply_formed {store : HandleStore} {step : CanvasStep} (proper : step.Formed)
    (formed : NamesFormed store) : NamesFormed (step.apply store) := by
  refine CanvasStep.apply_all ?_ ?_ formed
  · rintro id object width height owner rfl
    exact ⟨by simp [CanvasRecord.names], by simpa [CanvasRecord.names] using Ne.symm proper⟩
  · exact fun record canvas after _ before change => change.formed proper before

/-- A member that departs from a canvas with distinct names is connected there no more. -/
theorem connectedNames_depart_self {canvas : CanvasRecord} (distinct : canvas.names.Nodup)
    (name : Bytes) : name ∉ (canvas.depart name).connectedNames := by
  rintro ⟨member, inside, connected, named⟩
  unfold CanvasRecord.depart at inside
  split at inside
  · rename_i user found
    obtain ⟨index, present⟩ := List.mem_iff_getElem?.mp inside
    rw [CanvasRecord.users_updateUser] at present
    split at present
    · obtain ⟨old, -, rfl⟩ := Option.map_eq_some_iff.mp present
      cases connected
    · rename_i apart
      -- the other member of that name would be a second one
      obtain ⟨hit, there, called⟩ := CanvasRecord.findSharedUser_some found
      have here : canvas.names[index]? = some name := by simp [CanvasRecord.names, present, named]
      have at_user : canvas.names[user]? = some name := by simp [CanvasRecord.names, there, called]
      obtain ⟨inside_user, -⟩ := List.getElem?_eq_some_iff.mp at_user
      exact apart ((List.getElem?_inj inside_user distinct).mp (at_user.trans here.symm))
  · rename_i missing
    exact findSharedUser_none missing (List.mem_map.mpr ⟨member, inside, named⟩)

/-- After `handles_disconnect_user` the user is connected nowhere. -/
theorem disconnect_not_connected {store : HandleStore} {name : Bytes} (formed : NamesFormed store)
    (named : name ≠ []) : ¬ ConnectedNamed (handlesDisconnectUser store name).1 name := by
  rintro ⟨canvas, inside, connected⟩
  unfold handlesDisconnectUser at inside
  rw [if_neg named] at inside
  obtain ⟨old, member, rfl⟩ := List.mem_map.mp inside
  rw [connectedNames_congr CanvasRecord.disconnect_users] at connected
  exact connectedNames_depart_self (formed old member).1 name connected

end AnimateService
