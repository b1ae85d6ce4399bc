import AnimateService.HandleBook
import AnimateService.Library.Registry
import AnimateService.Members

/-!
# The handle store is a map

The three lists of the handle store are registries that the book describes, so a lookup finds a
record exactly where the book has an entry that admits its user, and it finds that record. Handles
are the successive values of one counter, which does not wrap within 2⁶⁴ - 2 additions.
-/
namespace AnimateService

open LinkedList Registry Transition

/-! ## What the book says of a record -/

/-- The entry of a canvas record. -/
structure CanvasEntry.Describes (entry : CanvasEntry) (record : CanvasPtr) (canvas : CanvasRecord) :
    Prop where
  /-- It is that record. -/
  record_eq : entry.record = record
  /-- The library canvas is gone exactly when the canvas is destroyed. -/
  object : canvas.canvas = if entry.destroyed then none else some entry.object
  /-- So is the record marked. -/
  deleted : canvas.deleted = entry.destroyed
  /-- The members have their names. -/
  members : ∀ name, name ∈ entry.members ↔ name ∈ canvas.names
  /-- Those that take part are connected. -/
  connected : ∀ name, name ∈ entry.connected ↔ name ∈ canvas.connectedNames
  /-- Names are distinct. -/
  distinct : canvas.names.Nodup

/-- What sprite and placement records have in common. -/
structure OwnedRecord where
  /-- The library object. -/
  object : Option Object
  /-- The creator. -/
  owner : Bytes
  /-- It is destroyed. -/
  deleted : Bool

/-- A sprite record as the record of its owner. -/
def SpriteRecord.owned (record : SpriteRecord) : OwnedRecord :=
  ⟨record.sprite, record.owner, record.deleted⟩

/-- A placement record as the record of its owner. -/
def PlacementRecord.owned (record : PlacementRecord) : OwnedRecord :=
  ⟨record.placement, record.owner, record.deleted⟩

/-- The entry of a sprite or placement record. -/
structure OwnedEntry.Describes (entry : OwnedEntry) (record : Nat) (owned : OwnedRecord) : Prop where
  /-- It is that record. -/
  record_eq : entry.record = record
  /-- The library object is gone exactly when it is destroyed. -/
  object : owned.object = if entry.destroyed then none else some entry.object
  /-- So is the record marked. -/
  deleted : owned.deleted = entry.destroyed
  /-- The owner has its name. -/
  owner : owned.owner = entry.owner

/-- The book describes the store, whose counter is behind all handles that were returned. -/
structure BookedStore.Keeps (state : BookedStore) : Prop where
  /-- The counter has not wrapped. -/
  counter : state.store.nextId.toNat = state.returned.length + 1
  /-- Handles are returned in order. -/
  returned : ∀ index (id : UInt64), state.returned[index]? = some id → id.toNat = index + 1
  /-- The canvases. -/
  canvases : Registered CanvasRecord.id CanvasEntry.Describes state.store.canvases state.book.canvases
  /-- The sprites. -/
  sprites : Registered SpriteRecord.id (fun entry record sprite => entry.Describes record sprite.owned)
    state.store.sprites state.book.sprites
  /-- The placements. -/
  placements : Registered PlacementRecord.id
    (fun entry record placement => entry.Describes record placement.owned)
    state.store.placements state.book.placements
  /-- Canvases are counted. -/
  canvasCount : state.book.canvasCount = state.store.canvases.length
  /-- Sprites are counted. -/
  spriteCount : state.book.spriteCount = state.store.sprites.length
  /-- Placements are counted. -/
  placementCount : state.book.placementCount = state.store.placements.length
  /-- All handles in use were returned by the counter. -/
  used : ∀ id ∈ state.store.canvases.map CanvasRecord.id ++ state.store.sprites.map SpriteRecord.id ++
    state.store.placements.map PlacementRecord.id, 0 < id.toNat ∧ id.toNat < state.store.nextId.toNat

/-- A new store with an empty book. -/
theorem keeps_initial : BookedStore.Keeps {} where
  counter := rfl
  returned := by simp
  canvases := registered_nil
  sprites := registered_nil
  placements := registered_nil
  canvasCount := rfl
  spriteCount := rfl
  placementCount := rfl
  used := by simp

/-! ## Lookups -/

section Lookups

variable {canvas : CanvasRecord} {record : CanvasPtr} {entry : CanvasEntry} {username : Bytes}

/-- A member is found exactly under a member's name. -/
theorem findSharedUser_isSome :
    (findSharedUser canvas username).isSome = true ↔ username ∈ canvas.names := by
  cases found : findSharedUser canvas username with
  | none => exact iff_of_false Bool.false_ne_true (findSharedUser_none found)
  | some user =>
    obtain ⟨member, present, named⟩ := CanvasRecord.findSharedUser_some found
    exact iff_of_true rfl (List.mem_map.mpr ⟨member, List.mem_of_getElem? present, named⟩)

/-- A canvas record answers exactly to its handle and to whom its entry admits. -/
theorem CanvasEntry.Describes.answers (described : entry.Describes record canvas) (id : UInt64) :
    canvas.answers id username = true ↔ canvas.id = id ∧ entry.admits username = true := by
  have member := described.members username
  simp only [CanvasRecord.answers, CanvasEntry.admits, Bool.and_eq_true, decide_eq_true_eq,
    findSharedUser_isSome, member, described.object, described.deleted]
  cases entry.destroyed <;> simp

/-- So do sprite and placement records. -/
theorem OwnedEntry.Describes.answers {owned : OwnedRecord} {entry : OwnedEntry} {index : Nat}
    (described : entry.Describes index owned) :
    (owned.object.isSome && !owned.deleted && decide (owned.owner = username)) = true ↔
      entry.admits username = true := by
  simp only [OwnedEntry.admits, described.object, described.deleted, described.owner]
  cases entry.destroyed <;> simp

variable {state : BookedStore}

/-- No canvas has the invalid handle. -/
theorem BookedStore.Keeps.canvas_valid (keeps : state.Keeps) {id : UInt64}
    (known : state.book.canvases id = some entry) : id ≠ invalidHandle := by
  obtain ⟨index, node, there, rfl⟩ := keeps.canvases.node_of id entry known
  have positive := (keeps.used node.id (by
    simp only [List.mem_append]
    exact .inl (.inl (List.mem_map_of_mem (List.mem_of_getElem? there))))).1
  rintro invalid
  rw [invalid] at positive
  exact absurd positive (by decide)

/-- `handles_get_canvas` finds exactly what the book has. -/
theorem BookedStore.Keeps.canvasFor_iff (keeps : state.Keeps) {id : UInt64} :
    canvasFor state.store id username = some record ↔ ∃ entry,
      state.book.canvases id = some entry ∧ entry.admits username = true ∧ entry.record = record := by
  have keyed : ∀ canvas : CanvasRecord, canvas.answers id username = true → canvas.id = id := by
    intro canvas accepted
    simp only [CanvasRecord.answers, Bool.and_eq_true, decide_eq_true_eq] at accepted
    exact accepted.1.1.1
  unfold canvasFor
  split
  · rename_i invalid
    refine iff_of_false (fun impossible => by cases impossible) ?_
    rintro ⟨entry, known, -⟩
    exact keeps.canvas_valid known invalid
  · rw [keeps.canvases.newest?_iff keyed]
    constructor
    · rintro ⟨entry, canvas, known, there, described, accepted⟩
      exact ⟨entry, known, ((described.answers id).mp accepted).2, described.record_eq⟩
    · rintro ⟨entry, known, admitted, rfl⟩
      obtain ⟨index, canvas, there, named, described⟩ := keeps.canvases.node_of_entry known
      obtain rfl := described.record_eq
      exact ⟨entry, canvas, known, there, described, (described.answers id).mpr ⟨named, admitted⟩⟩

/-- A lookup among records with owners finds exactly what their entries have. -/
theorem owned_lookup_iff {Node : Type} {key : Node → UInt64} {owned : Node → OwnedRecord}
    {nodes : List Node} {entries : UInt64 → Option OwnedEntry}
    (registered : Registered key (fun entry index node => entry.Describes index (owned node)) nodes
      entries) (valid : ∀ node ∈ nodes, 0 < (key node).toNat) {id : UInt64} {record : Nat} :
    (if id = invalidHandle then none
      else newest? (fun node => key node = id && (owned node).object.isSome && !(owned node).deleted &&
        (owned node).owner = username) nodes) = some record ↔
      ∃ entry, entries id = some entry ∧ entry.admits username = true ∧ entry.record = record := by
  have accepts : ∀ node (entry : OwnedEntry) index, entry.Describes index (owned node) →
      ((key node = id && (owned node).object.isSome && !(owned node).deleted &&
        (owned node).owner = username) = true ↔ key node = id ∧ entry.admits username = true) := by
    intro node entry index described
    rw [← described.answers]
    simp only [Bool.and_eq_true, decide_eq_true_eq, and_assoc]
  split
  · rename_i invalid
    refine iff_of_false (fun impossible => by cases impossible) ?_
    rintro ⟨entry, known, -⟩
    obtain ⟨index, node, there, named⟩ := registered.node_of id entry known
    have positive := valid node (List.mem_of_getElem? there)
    rw [named, invalid] at positive
    exact absurd positive (by decide)
  · have keyed : ∀ node, (key node = id && (owned node).object.isSome && !(owned node).deleted &&
        (owned node).owner = username) = true → key node = id := by
      intro node accepted
      simp only [Bool.and_eq_true, decide_eq_true_eq] at accepted
      exact accepted.1.1.1
    rw [registered.newest?_iff keyed]
    constructor
    · rintro ⟨entry, node, known, there, described, accepted⟩
      exact ⟨entry, known, ((accepts node entry record described).mp accepted).2,
        described.record_eq⟩
    · rintro ⟨entry, known, admitted, rfl⟩
      obtain ⟨index, node, there, named, described⟩ := registered.node_of_entry known
      obtain rfl := described.record_eq
      exact ⟨entry, node, known, there, described,
        (accepts node entry _ described).mpr ⟨named, admitted⟩⟩

/-- `handles_get_sprite` finds exactly what the book has. -/
theorem BookedStore.Keeps.handlesGetSprite_iff (keeps : state.Keeps) {id : UInt64} {record : Nat} :
    handlesGetSprite state.store id username = some record ↔ ∃ entry,
      state.book.sprites id = some entry ∧ entry.admits username = true ∧ entry.record = record :=
  owned_lookup_iff keeps.sprites fun node inside => (keeps.used node.id (by
    simp only [List.mem_append]
    exact .inl (.inr (List.mem_map_of_mem inside)))).1

/-- `handles_get_placement` finds exactly what the book has. -/
theorem BookedStore.Keeps.handlesGetPlacement_iff (keeps : state.Keeps) {id : UInt64}
    {record : Nat} :
    handlesGetPlacement state.store id username = some record ↔ ∃ entry,
      state.book.placements id = some entry ∧ entry.admits username = true ∧ entry.record = record :=
  owned_lookup_iff keeps.placements fun node inside => (keeps.used node.id (by
    simp only [List.mem_append]
    exact .inr (List.mem_map_of_mem inside))).1

end Lookups

/-! ## What an operation does to the entry of a canvas -/

section Entries

variable {canvas after : CanvasRecord} {record : CanvasPtr} {entry : CanvasEntry} {username : Bytes}
  {user : UserPtr}

/-- Who is connected is decided by the names and the connected addresses. -/
theorem connectedNames_of_barrier (names : after.names = canvas.names)
    (connected : after.barrier.connected = canvas.barrier.connected) :
    after.connectedNames = canvas.connectedNames := by
  ext name
  simp only [mem_connectedNames, names, connected]

/-- A lookup connects the member that it is made for. -/
theorem connectedNames_connect_eq (found : findSharedUser canvas username = some user) :
    (canvas.connect username).connectedNames = insert username canvas.connectedNames := by
  refine Set.Subset.antisymm (connectedNames_connect canvas username) ?_
  have named : canvas.names[user]? = some username := by
    obtain ⟨member, present, named⟩ := CanvasRecord.findSharedUser_some found
    simp [CanvasRecord.names, present, named]
  have joined := CanvasRecord.barrier_connect found
  rintro name (rfl | connected)
  · refine mem_connectedNames.mpr ⟨user, ?_, by rwa [names_connect]⟩
    rw [joined]
    exact Set.mem_insert _ _
  · obtain ⟨other, inside, called⟩ := mem_connectedNames.mp connected
    refine mem_connectedNames.mpr ⟨other, ?_, by rwa [names_connect]⟩
    rw [joined]
    exact Set.mem_insert_of_mem _ inside

/-- Departing disconnects the member of that name and no other. -/
theorem connectedNames_depart_eq (distinct : canvas.names.Nodup) :
    (canvas.depart username).connectedNames = canvas.connectedNames \ {username} := by
  ext name
  constructor
  · intro connected
    refine ⟨connectedNames_depart canvas username connected, ?_⟩
    rintro rfl
    exact connectedNames_depart_self distinct name connected
  · rintro ⟨connected, other⟩
    cases found : findSharedUser canvas username with
    | none => simpa only [CanvasRecord.depart, found] using connected
    | some user =>
      obtain ⟨member, present, named⟩ := CanvasRecord.findSharedUser_some found
      obtain ⟨index, inside, called⟩ := mem_connectedNames.mp connected
      refine mem_connectedNames.mpr ⟨index, ?_, by rwa [names_depart]⟩
      rw [CanvasRecord.barrier_depart found]
      refine ⟨inside, ?_⟩
      rintro rfl
      rw [CanvasRecord.names, List.getElem?_map, present] at called
      exact other ((Option.some.inj called).symm.trans named)

/-- Somebody is connected exactly if a name is. -/
theorem canvasHasConnectedUser_names :
    canvasHasConnectedUser canvas = true ↔ ∃ name, name ∈ canvas.connectedNames := by
  simp only [canvasHasConnectedUser, List.any_eq_true]
  constructor
  · rintro ⟨member, inside, connected⟩
    exact ⟨member.username, member, inside, connected, rfl⟩
  · rintro ⟨name, member, inside, connected, -⟩
    exact ⟨member, inside, connected⟩

/-- A record with the same names, connected names and object has the same entry. -/
theorem CanvasEntry.Describes.congr (described : entry.Describes record canvas)
    (names : after.names = canvas.names) (connected : after.connectedNames = canvas.connectedNames)
    (object : after.canvas = canvas.canvas) (deleted : after.deleted = canvas.deleted) :
    entry.Describes record after where
  record_eq := described.record_eq
  object := object.trans described.object
  deleted := deleted.trans described.deleted
  members := by simpa only [names] using described.members
  connected := by simpa only [connected] using described.connected
  distinct := names ▸ described.distinct

/-- A lookup joins. -/
theorem CanvasEntry.Describes.join (described : entry.Describes record canvas)
    (found : findSharedUser canvas username = some user) :
    (entry.join username).Describes record (canvas.connect username) where
  record_eq := described.record_eq
  object := (connect_object canvas username).1.trans described.object
  deleted := (connect_object canvas username).2.1.trans described.deleted
  members := fun name => (described.members name).trans (by rw [names_connect])
  connected := by
    intro name
    rw [connectedNames_connect_eq found]
    simp [CanvasEntry.join, described.connected name]
  distinct := by simpa only [names_connect] using described.distinct

/-- Arriving at a barrier is not in the book. -/
theorem CanvasEntry.Describes.arrive (described : entry.Describes record canvas)
    (found : findSharedUser canvas username = some user) :
    entry.Describes record (canvas.arrive user) := by
  refine described.congr (names_arrive canvas user) (connectedNames_of_barrier (names_arrive canvas user)
    ?_) rfl rfl
  rw [CanvasRecord.barrier_arrive found]
  rfl

/-- Neither is the release of a barrier. -/
theorem CanvasEntry.Describes.release (described : entry.Describes record canvas) :
    entry.Describes record canvas.release := by
  refine described.congr (names_release canvas) (connectedNames_of_barrier (names_release canvas)
    ?_) rfl rfl
  rw [CanvasRecord.barrier_release]
  rfl

/-- Departing leaves. -/
theorem CanvasEntry.Describes.leave (described : entry.Describes record canvas) (username : Bytes) :
    (entry.leave username).Describes record (canvas.depart username) where
  record_eq := described.record_eq
  object := (depart_object canvas username).1.trans described.object
  deleted := (depart_object canvas username).2.1.trans described.deleted
  members := fun name => (described.members name).trans (by rw [names_depart])
  connected := by
    intro name
    rw [connectedNames_depart_eq described.distinct]
    simp [CanvasEntry.leave, described.connected name, and_comm]
  distinct := by simpa only [names_depart] using described.distinct

/-- Disconnecting leaves and destroys nothing. -/
theorem CanvasEntry.Describes.disconnect (described : entry.Describes record canvas)
    (username : Bytes) : (entry.leave username).Describes record (canvas.disconnect username).1 := by
  have left := described.leave username
  unfold CanvasRecord.disconnect
  split
  · unfold maybeDestroyCanvas
    split
    · rename_i object there
      split
      · rename_i last
        -- a record that is marked has no object left
        have marked : (canvas.depart username).deleted = true := (Bool.and_eq_true_iff.mp last).1
        rw [left.deleted] at marked
        rw [left.object, marked] at there
        cases there
      · exact left
    · exact left
  · rename_i missing
    simpa only [CanvasRecord.depart, missing] using left

/-- What destroying does to the record of a live canvas. -/
theorem destroyFor_eq {object : Object} (alive : canvas.canvas = some object)
    (unmarked : canvas.deleted = false) (username : Bytes) :
    (canvas.destroyFor username).1 =
      if canvasHasConnectedUser (canvas.depart username) then canvas.depart username
      else { canvas.depart username with deleted := true, canvas := none } := by
  obtain ⟨same, mark, -⟩ := depart_object canvas username
  rw [alive] at same
  rw [unmarked] at mark
  unfold CanvasRecord.destroyFor
  dsimp only
  split
  · simp only [maybeDestroyCanvas, same, mark, Bool.false_and, Bool.false_eq_true, ↓reduceIte]
  · rename_i nobody
    unfold canvasHasConnectedUser at nobody
    simp only [maybeDestroyCanvas, same, canvasHasConnectedUser, nobody, Bool.not_false,
      Bool.and_true, ↓reduceIte]

/-- Destroying a live canvas leaves, and destroys it if nobody is connected any more. -/
theorem CanvasEntry.Describes.destroyFor (described : entry.Describes record canvas)
    (live : entry.destroyed = false) (username : Bytes) :
    (entry.destroyFor username).Describes record (canvas.destroyFor username).1 := by
  have left := described.leave username
  have nobody : (entry.leave username).connected = ∅ ↔
      canvasHasConnectedUser (canvas.depart username) = false := by
    rw [Finset.eq_empty_iff_forall_notMem, ← Bool.not_eq_true, canvasHasConnectedUser_names,
      not_exists]
    exact forall_congr' fun name => not_congr (left.connected name)
  have alive : canvas.canvas = some entry.object := by
    rw [described.object, live]
    rfl
  rw [destroyFor_eq alive (described.deleted.trans live)]
  split
  · rename_i connected
    have stays : (entry.destroyFor username).destroyed = false := by
      simp [CanvasEntry.destroyFor, nobody, connected]
    refine { left with object := ?_, deleted := ?_ }
    · rw [(depart_object canvas username).1, alive, stays]
      rfl
    · rw [(depart_object canvas username).2.1, described.deleted, live, stays]
  · rename_i connected
    have gone : (entry.destroyFor username).destroyed = true := by
      simpa [CanvasEntry.destroyFor, nobody] using connected
    refine { left with object := ?_, deleted := gone.symm }
    rw [gone]
    rfl

/-- Sharing adds a member that is not connected. -/
theorem CanvasEntry.Describes.shareWith (described : entry.Describes record canvas) {target : Bytes}
    (fits : target.length ≤ maxUsernameLen) (memory : Bool) :
    ({ entry with members := if memory then insert target entry.members else entry.members } :
      CanvasEntry).Describes record (canvasRecordShare canvas target memory).2 := by
  have connected : (canvasRecordShare canvas target memory).2.connectedNames =
      canvas.connectedNames := by
    refine Set.Subset.antisymm (connectedNames_share canvas target memory) fun name inside => ?_
    obtain ⟨user, there, named⟩ := mem_connectedNames.mp inside
    refine mem_connectedNames.mpr ⟨user, ?_, ?_⟩
    · rwa [CanvasRecord.barrier_share]
    · obtain ⟨bound, at_user⟩ := List.getElem?_eq_some_iff.mp named
      rw [List.prefix_iff_getElem?.mp (names_share canvas target memory) user bound, at_user]
  have kept : (canvasRecordShare canvas target memory).2.canvas = canvas.canvas ∧
      (canvasRecordShare canvas target memory).2.deleted = canvas.deleted := by
    unfold canvasRecordShare
    split
    · exact ⟨rfl, rfl⟩
    · split <;> exact ⟨rfl, rfl⟩
  have names : (∀ name, name ∈ (canvasRecordShare canvas target memory).2.names ↔
      name ∈ canvas.names ∨ memory = true ∧ name = target) ∧
      (canvasRecordShare canvas target memory).2.names.Nodup := by
    have short : copyUsername target = target := List.take_of_length_le fits
    refine ⟨fun name => ?_, share_distinct short described.distinct⟩
    rw [names_share_eq canvas memory short]
    by_cases inside : target ∈ canvas.names
    · simp only [inside, not_true_eq_false, and_false, ↓reduceIte]
      refine (or_iff_left_of_imp ?_).symm
      rintro ⟨-, rfl⟩
      exact inside
    · cases memory with
      | false => simp
      | true => simp [inside]
  constructor
  case record_eq => exact described.record_eq
  case object => exact kept.1.trans described.object
  case deleted => exact kept.2.trans described.deleted
  case members =>
    intro name
    rw [names.1 name, ← described.members name]
    cases memory <;> simp [or_comm]
  case connected =>
    intro name
    rw [connected]
    exact described.connected name
  case distinct => exact names.2

end Entries

/-! ## Operations -/

section Operations

variable {state : BookedStore} {id : UInt64} {username : Bytes}

/-- What a book says of the canvases is kept by an operation on one of them. -/
theorem BookedStore.Keeps.onCanvas (keeps : state.Keeps) {after : HandleStore}
    {change : CanvasEntry → CanvasEntry}
    (missing : canvasFor state.store id username = none → after = state.store)
    (found : ∀ record canvas user, canvasFor state.store id username = some record →
      state.store.canvases[record]? = some canvas → findSharedUser canvas username = some user →
      ∃ write, after = state.store.updateCanvas record write ∧ (write canvas).id = canvas.id ∧
        ∀ entry : CanvasEntry, entry.destroyed = false → entry.Describes record canvas →
          (change entry).Describes record (write canvas)) :
    BookedStore.Keeps
      { store := after, book := state.book.onCanvas id username change, returned := state.returned } := by
  cases hit : canvasFor state.store id username with
  | none =>
    have same : state.book.onCanvas id username change = state.book := by
      unfold HandleBook.onCanvas
      split
      · rename_i entry known
        refine if_neg fun admitted => ?_
        have there := keeps.canvasFor_iff.mpr ⟨entry, known, admitted, rfl⟩
        rw [hit] at there
        cases there
      · rfl
    rw [missing hit, same]
    exact keeps
  | some record =>
    obtain ⟨entry, known, admitted, named⟩ := keeps.canvasFor_iff.mp hit
    obtain ⟨index, canvas, present, keyed, described⟩ := keeps.canvases.node_of_entry known
    obtain rfl : index = record := described.record_eq.symm.trans named
    obtain ⟨live, member⟩ := Bool.and_eq_true_iff.mp admitted
    have inside := (described.members username).mp (of_decide_eq_true member)
    obtain ⟨user, at_user⟩ := Option.isSome_iff_exists.mp (findSharedUser_isSome.mpr inside)
    obtain ⟨write, rfl, keys, describes⟩ := found index canvas user hit present at_user
    have same : state.book.onCanvas id username change =
        { state.book with
          canvases := Function.update state.book.canvases id (some (change entry)) } := by
      simp only [HandleBook.onCanvas, known, admitted, ↓reduceIte]
    have ids : (state.store.canvases.modify index write).map CanvasRecord.id =
        state.store.canvases.map CanvasRecord.id :=
      map_modify fun other there => Option.some.inj (present.symm.trans there) ▸ keys
    rw [same, ← keyed]
    exact
      { keeps with
        canvases := keeps.canvases.modify present keys
          (describes entry (by simpa using live) described)
        canvasCount := keeps.canvasCount.trans (List.length_modify ..).symm
        used := by
          simp only [HandleStore.updateCanvas, ids]
          exact keeps.used }

/-- A lookup. -/
theorem BookedStore.Keeps.getCanvas (keeps : state.Keeps) :
    BookedStore.Keeps
      { store := (handlesGetCanvas state.store id username).2
        book := state.book.onCanvas id username (CanvasEntry.join username)
        returned := state.returned } := by
  refine keeps.onCanvas (fun none => by rw [handlesGetCanvas_none none]) ?_
  intro record canvas user found present member
  refine ⟨fun canvas => canvas.connect username, by rw [handlesGetCanvas_some found],
    (connect_object canvas username).2.2, fun entry live described => described.join member⟩

/-- A canvas is shared. -/
theorem BookedStore.Keeps.share (keeps : state.Keeps) {target : Bytes}
    (fits : target.length ≤ maxUsernameLen) (memory : Bool) :
    BookedStore.Keeps
      { store := (shareSection state.store id username target memory).2
        book := state.book.onCanvas id username (CanvasEntry.share username target memory)
        returned := state.returned } := by
  refine keeps.onCanvas (fun none => by simp only [shareSection, handlesGetCanvas_none none]) ?_
  intro record canvas user found present member
  refine ⟨fun canvas => (canvasRecordShare (canvas.connect username) target memory).2, ?_, ?_, ?_⟩
  · simp only [shareSection, handlesGetCanvas_some found, updateCanvas_updateCanvas]
  · have kept : ∀ canvas : CanvasRecord, (canvasRecordShare canvas target memory).2.id = canvas.id := by
      intro canvas
      unfold canvasRecordShare
      split
      · rfl
      · split <;> rfl
    exact (kept _).trans (connect_object canvas username).2.2
  · exact fun entry live described => (described.join member).shareWith fits memory

/-- A barrier call. -/
theorem BookedStore.Keeps.barrier (keeps : state.Keeps) :
    BookedStore.Keeps
      { store := (barrierSection state.store id username).2
        book := state.book.onCanvas id username (CanvasEntry.join username)
        returned := state.returned } := by
  refine keeps.onCanvas
    (fun none => by simp only [barrierSection, handlesGetCanvas_none none]) ?_
  intro record canvas user found present member
  obtain ⟨looked, at_user, there, hit, outcome⟩ := barrierSection_some found
  obtain rfl := Option.some.inj (present.symm.trans there)
  have again : findSharedUser (canvas.connect username) username = some at_user := by
    rw [findSharedUser_connect, hit]
  rcases outcome with ⟨-, result⟩ | ⟨-, result⟩
  · exact ⟨_, congrArg Prod.snd result, (connect_object canvas username).2.2,
      fun entry live described => ((described.join hit).arrive again).release⟩
  · exact ⟨_, congrArg Prod.snd result, (connect_object canvas username).2.2,
      fun entry live described => (described.join hit).arrive again⟩

/-- Neither destroying nor disconnecting changes the handle. -/
theorem maybeDestroyCanvas_id (canvas : CanvasRecord) : (maybeDestroyCanvas canvas).1.id = canvas.id := by
  unfold maybeDestroyCanvas
  split
  · split <;> rfl
  · rfl

/-- Letting a function act on a canvas is a write to it. -/
theorem onCanvas_eq (store : HandleStore) (record : CanvasPtr)
    (act : CanvasRecord → CanvasRecord × List Call) :
    (store.onCanvas record act).1 = store.updateCanvas record fun canvas => (act canvas).1 := by
  have canvases : (store.onCanvas record act).1.canvases =
      (store.updateCanvas record fun canvas => (act canvas).1).canvases := by
    apply List.ext_getElem?
    intro index
    rw [canvases_onCanvas, canvases_updateCanvas]
  have others : (store.onCanvas record act).1 =
      { store with canvases := (store.onCanvas record act).1.canvases } := by
    unfold HandleStore.onCanvas
    split <;> rfl
  rw [others, canvases]
  rfl

/-- A canvas is destroyed for a member. -/
theorem BookedStore.Keeps.destroyCanvas (keeps : state.Keeps) :
    BookedStore.Keeps
      { store := (handlesDestroyCanvasForUser state.store id username).2.1
        book := state.book.onCanvas id username (CanvasEntry.destroyFor username)
        returned := state.returned } := by
  refine keeps.onCanvas
    (fun none => by simp only [handlesDestroyCanvasForUser, handlesGetCanvas_none none]) ?_
  intro record canvas user found present member
  refine ⟨fun canvas => ((canvas.connect username).destroyFor username).1, ?_, ?_, ?_⟩
  · simp only [handlesDestroyCanvasForUser, handlesGetCanvas_some found, onCanvas_eq,
      updateCanvas_updateCanvas]
  · have kept : ∀ canvas : CanvasRecord, (canvas.destroyFor username).1.id = canvas.id := by
      intro canvas
      unfold CanvasRecord.destroyFor
      rw [maybeDestroyCanvas_id]
      split <;> exact (depart_object canvas username).2.2
    exact (kept _).trans (connect_object canvas username).2.2
  · intro entry live described
    have rejoined : (entry.join username).destroyFor username = entry.destroyFor username := by
      have left : (entry.join username).leave username = entry.leave username := by
        simp [CanvasEntry.leave, CanvasEntry.join]
      unfold CanvasEntry.destroyFor
      rw [left]
    exact rejoined ▸ (described.join member).destroyFor live username

/-- A user is disconnected. -/
theorem BookedStore.Keeps.disconnect (keeps : state.Keeps) (named : username ≠ []) :
    BookedStore.Keeps
      { store := (handlesDisconnectUser state.store username).1
        book := { state.book with
          canvases := fun id => (state.book.canvases id).map (CanvasEntry.leave username) }
        returned := state.returned } := by
  have kept : ∀ canvas : CanvasRecord, (canvas.disconnect username).1.id = canvas.id := by
    intro canvas
    unfold CanvasRecord.disconnect
    split
    · rw [maybeDestroyCanvas_id, (depart_object canvas username).2.2]
    · rfl
  have ids : (state.store.canvases.map fun canvas => (canvas.disconnect username).1).map
      CanvasRecord.id = state.store.canvases.map CanvasRecord.id := by
    rw [List.map_map]
    exact List.map_congr_left fun canvas _ => kept canvas
  simp only [handlesDisconnectUser, if_neg named]
  exact
    { keeps with
      canvases := keeps.canvases.rewrite kept
        fun entry index canvas _ described => described.disconnect username
      canvasCount := keeps.canvasCount.trans (List.length_map ..).symm
      used := by
        simp only [ids]
        exact keeps.used }

/-- A sprite or placement is destroyed by its owner. -/
theorem Registered.destroyOwned {Node : Type} {key : Node → UInt64} {owned : Node → OwnedRecord}
    {nodes : List Node} {entries : UInt64 → Option OwnedEntry} {write : Node → Node} {record : Nat}
    (registered : Registered key (fun entry index node => entry.Describes index (owned node)) nodes
      entries)
    (keys : ∀ node, key (write node) = key node)
    (gone : ∀ node, owned (write node) = ⟨none, (owned node).owner, true⟩)
    (found : ∃ entry, entries id = some entry ∧ entry.admits username = true ∧
      entry.record = record) :
    Registered key (fun entry index node => entry.Describes index (owned node))
      (nodes.modify record write) (destroyOwned entries id username) := by
  obtain ⟨entry, known, admitted, named⟩ := found
  obtain ⟨index, node, there, rfl, described⟩ := registered.node_of_entry known
  obtain rfl : index = record := described.record_eq.symm.trans named
  have same : AnimateService.destroyOwned entries (key node) username =
      Function.update entries (key node) (some { entry with destroyed := true }) := by
    simp only [AnimateService.destroyOwned, known, admitted, ↓reduceIte]
  rw [same]
  refine registered.modify there (keys node) ?_
  rw [gone]
  exact { described with object := rfl, deleted := rfl }

/-- Nothing is destroyed for a user that nothing is found for. -/
theorem destroyOwned_missing {entries : UInt64 → Option OwnedEntry}
    (missing : ¬ ∃ entry, entries id = some entry ∧ entry.admits username = true) :
    destroyOwned entries id username = entries := by
  unfold destroyOwned
  split
  · rename_i entry known
    exact if_neg fun admitted => missing ⟨entry, known, admitted⟩
  · rfl

/-- A sprite is destroyed, unless the library fails to. -/
theorem BookedStore.Keeps.destroySprite (keeps : state.Keeps) (failed : Bool) :
    BookedStore.Keeps
      { store := (handlesDestroySprite state.store id username failed).2.1
        book := if failed then state.book
          else { state.book with sprites := AnimateService.destroyOwned state.book.sprites id username }
        returned := state.returned } := by
  cases found : handlesGetSprite state.store id username with
  | none =>
    have missing : ¬ ∃ entry, state.book.sprites id = some entry ∧ entry.admits username = true := by
      rintro ⟨entry, known, admitted⟩
      have there := keeps.handlesGetSprite_iff.mpr ⟨entry, known, admitted, rfl⟩
      rw [found] at there
      cases there
    rw [destroyOwned_missing missing]
    simp only [handlesDestroySprite, found, ite_self]
    exact keeps
  | some record =>
    obtain ⟨entry, known, admitted, named⟩ := keeps.handlesGetSprite_iff.mp found
    obtain ⟨index, sprite, there, -, described⟩ := keeps.sprites.node_of_entry known
    obtain rfl : index = record := described.record_eq.symm.trans named
    have live : entry.destroyed = false := by
      simpa using (Bool.and_eq_true_iff.mp admitted).1
    have object : spriteRecordPtr state.store index = some entry.object := by
      have held := described.object
      rw [live] at held
      simp only [spriteRecordPtr, there, Option.bind_some]
      exact held
    cases failed with
    | true =>
      simp only [handlesDestroySprite, found, object, ↓reduceIte]
      exact keeps
    | false =>
      simp only [handlesDestroySprite, found, object, Bool.false_eq_true, ↓reduceIte]
      have ids : (state.store.sprites.modify index fun record : SpriteRecord =>
          { record with sprite := none, deleted := true }).map SpriteRecord.id =
            state.store.sprites.map SpriteRecord.id := map_modify fun _ _ => rfl
      exact
        { keeps with
          sprites := Registered.destroyOwned keeps.sprites (fun _ => rfl) (fun _ => rfl)
            ⟨entry, known, admitted, named⟩
          spriteCount := keeps.spriteCount.trans (List.length_modify ..).symm
          used := by
            simp only [ids]
            exact keeps.used }

/-- A placement is destroyed. -/
theorem BookedStore.Keeps.destroyPlacement (keeps : state.Keeps) :
    BookedStore.Keeps
      { store := (handlesDestroyPlacement state.store id username).2.1
        book := { state.book with
          placements := AnimateService.destroyOwned state.book.placements id username }
        returned := state.returned } := by
  cases found : handlesGetPlacement state.store id username with
  | none =>
    have missing : ¬ ∃ entry,
        state.book.placements id = some entry ∧ entry.admits username = true := by
      rintro ⟨entry, known, admitted⟩
      have there := keeps.handlesGetPlacement_iff.mpr ⟨entry, known, admitted, rfl⟩
      rw [found] at there
      cases there
    rw [destroyOwned_missing missing]
    simp only [handlesDestroyPlacement, found]
    exact keeps
  | some record =>
    have ids : (state.store.placements.modify record fun placement : PlacementRecord =>
        { placement with placement := none, deleted := true }).map PlacementRecord.id =
          state.store.placements.map PlacementRecord.id := map_modify fun _ _ => rfl
    simp only [handlesDestroyPlacement, found]
    exact
      { keeps with
        placements := Registered.destroyOwned keeps.placements (fun _ => rfl) (fun _ => rfl)
          (keeps.handlesGetPlacement_iff.mp found)
        placementCount := keeps.placementCount.trans (List.length_modify ..).symm
        used := by
          simp only [ids]
          exact keeps.used }

/-- The counter's value is a handle. -/
theorem BookedStore.Keeps.handle (keeps : state.Keeps) :
    handleOf state.store.nextId = some state.store.nextId := by
  refine if_neg fun invalid => ?_
  have counter := keeps.counter
  rw [invalid] at counter
  cases counter

/-- The counter returns a fresh handle and goes on. -/
structure BookedStore.Fresh (state : BookedStore) : Prop where
  /-- The counter does not wrap. -/
  counter : (state.store.nextId + 1).toNat = (state.returned ++ [state.store.nextId]).length + 1
  /-- It is the next one to be returned. -/
  returned : ∀ index (id : UInt64), (state.returned ++ [state.store.nextId])[index]? = some id →
    id.toNat = index + 1
  /-- It is in use nowhere. -/
  unused : state.store.nextId ∉ state.store.canvases.map CanvasRecord.id ++
    state.store.sprites.map SpriteRecord.id ++ state.store.placements.map PlacementRecord.id
  /-- With it, the handles in use are still behind the counter. -/
  used : ∀ ids : List UInt64, (∀ id ∈ ids, id = state.store.nextId ∨
      id ∈ state.store.canvases.map CanvasRecord.id ++ state.store.sprites.map SpriteRecord.id ++
        state.store.placements.map PlacementRecord.id) →
    ∀ id ∈ ids, 0 < id.toNat ∧ id.toNat < (state.store.nextId + 1).toNat

/-- While there is room for another handle, the counter's is fresh. -/
theorem BookedStore.Keeps.fresh (keeps : state.Keeps)
    (room : state.returned.length + 1 < 2 ^ 64 - 1) : state.Fresh := by
  have counter := keeps.counter
  have after : (state.store.nextId + 1).toNat = state.returned.length + 2 := by
    rw [UInt64.toNat_add, counter]
    exact Nat.mod_eq_of_lt (by simpa using by omega)
  constructor
  case counter =>
    rw [after, List.length_append]
    rfl
  case returned =>
    intro index id there
    rcases Nat.lt_or_ge index state.returned.length with before | behind
    · rw [List.getElem?_append_left before] at there
      exact keeps.returned index id there
    · rw [List.getElem?_append_right behind] at there
      obtain ⟨inside, rfl⟩ := List.getElem?_eq_some_iff.mp there
      simp only [List.length_singleton] at inside
      rw [List.getElem_singleton]
      omega
  case unused =>
    intro inside
    exact Nat.lt_irrefl _ (keeps.used _ inside).2
  case used =>
    intro ids old id member
    rcases old id member with rfl | before
    · omega
    · have bounds := keeps.used id before
      omega

/-- An addition under the fresh handle keeps the book if it keeps what is said of the records. -/
theorem BookedStore.Fresh.grow (fresh : state.Fresh) {after : BookedStore}
    (canvases : Registered CanvasRecord.id CanvasEntry.Describes after.store.canvases
      after.book.canvases)
    (sprites : Registered SpriteRecord.id
      (fun entry record sprite => entry.Describes record sprite.owned) after.store.sprites
      after.book.sprites)
    (placements : Registered PlacementRecord.id
      (fun entry record placement => entry.Describes record placement.owned) after.store.placements
      after.book.placements)
    (counts : after.book.canvasCount = after.store.canvases.length ∧
      after.book.spriteCount = after.store.sprites.length ∧
      after.book.placementCount = after.store.placements.length)
    (counter : after.store.nextId = state.store.nextId + 1)
    (returned : after.returned = state.returned ++ [state.store.nextId])
    (added : ∀ id ∈ after.store.canvases.map CanvasRecord.id ++ after.store.sprites.map SpriteRecord.id ++
      after.store.placements.map PlacementRecord.id, id = state.store.nextId ∨
        id ∈ state.store.canvases.map CanvasRecord.id ++ state.store.sprites.map SpriteRecord.id ++
          state.store.placements.map PlacementRecord.id) : after.Keeps where
  counter := by rw [counter, returned, fresh.counter]
  returned := by
    rw [returned]
    exact fresh.returned
  canvases := canvases
  sprites := sprites
  placements := placements
  canvasCount := counts.1
  spriteCount := counts.2.1
  placementCount := counts.2.2
  used := by
    rw [counter]
    exact fresh.used _ added

/-- A canvas is added. -/
theorem BookedStore.Keeps.addCanvas (keeps : state.Keeps) (fresh : state.Fresh) {canvas : Object}
    {width height : UInt64} {owner : Bytes} (fits : owner.length ≤ maxUsernameLen) :
    BookedStore.Keeps
      { store := (handlesAddCanvas state.store canvas width height owner true).2
        book := state.book.follow (some state.store.nextId) (.addCanvas canvas width height owner true)
        returned := state.returned ++ [state.store.nextId] } := by
  have unused := fresh.unused
  simp only [List.mem_append, not_or] at unused
  refine fresh.grow ?_ keeps.sprites keeps.placements ⟨?_, keeps.spriteCount,
    keeps.placementCount⟩ rfl rfl ?_
  · refine keeps.canvases.concat unused.1.1 ?_
    constructor
    case record_eq => exact keeps.canvasCount
    case object => rfl
    case deleted => rfl
    case members => simp [CanvasRecord.names, copyUsername, List.take_of_length_le fits]
    case connected =>
      intro name
      simp [CanvasRecord.connectedNames, copyUsername, List.take_of_length_le fits,
        @eq_comm _ name]
    case distinct => simp [CanvasRecord.names]
  · simp [HandleBook.follow, handlesAddCanvas, keeps.canvasCount]
  · intro id inside
    simp only [handlesAddCanvas, ↓reduceIte, List.map_append, List.map_cons, List.map_nil,
      List.mem_append, List.mem_singleton] at inside ⊢
    tauto

/-- A sprite is added. -/
theorem BookedStore.Keeps.addSprite (keeps : state.Keeps) (fresh : state.Fresh) {sprite : Object}
    {owner : Bytes} (fits : owner.length ≤ maxUsernameLen) :
    BookedStore.Keeps
      { store := (handlesAddSprite state.store sprite owner true).2
        book := state.book.follow (some state.store.nextId) (.addSprite sprite owner true)
        returned := state.returned ++ [state.store.nextId] } := by
  have unused := fresh.unused
  simp only [List.mem_append, not_or] at unused
  refine fresh.grow keeps.canvases ?_ keeps.placements ⟨keeps.canvasCount, ?_,
    keeps.placementCount⟩ rfl rfl ?_
  · exact keeps.sprites.concat unused.1.2
      ⟨keeps.spriteCount, rfl, rfl, List.take_of_length_le fits⟩
  · simp [HandleBook.follow, handlesAddSprite, keeps.spriteCount]
  · intro id inside
    simp only [handlesAddSprite, ↓reduceIte, List.map_append, List.map_cons, List.map_nil,
      List.mem_append, List.mem_singleton] at inside ⊢
    tauto

/-- A placement is added. -/
theorem BookedStore.Keeps.addPlacement (keeps : state.Keeps) (fresh : state.Fresh)
    {placement : Object} {canvasId spriteId : UInt64} {owner : Bytes}
    (fits : owner.length ≤ maxUsernameLen) :
    BookedStore.Keeps
      { store := (handlesAddPlacement state.store placement canvasId spriteId owner true).2
        book := state.book.follow (some state.store.nextId)
          (.addPlacement placement canvasId spriteId owner true)
        returned := state.returned ++ [state.store.nextId] } := by
  have unused := fresh.unused
  simp only [List.mem_append, not_or] at unused
  refine fresh.grow keeps.canvases keeps.sprites ?_ ⟨keeps.canvasCount, keeps.spriteCount, ?_⟩
    rfl rfl ?_
  · exact keeps.placements.concat unused.2
      ⟨keeps.placementCount, rfl, rfl, List.take_of_length_le fits⟩
  · simp [HandleBook.follow, handlesAddPlacement, keeps.placementCount]
  · intro id inside
    simp only [handlesAddPlacement, ↓reduceIte, List.map_append, List.map_cons, List.map_nil,
      List.mem_append, List.mem_singleton] at inside ⊢
    tauto

/-- The names that the operation writes fit their buffers, and it disconnects no nameless user. -/
def StoreOperation.Fits : StoreOperation → Prop
  | .addCanvas _ _ _ owner _ | .addSprite _ owner _ | .addPlacement _ _ _ owner _ =>
    owner.length ≤ maxUsernameLen
  | .share _ _ target _ => target.length ≤ maxUsernameLen
  | .disconnect username => username ≠ []
  | _ => True

/-- Proper names fit. -/
theorem StoreOperation.WellNamed.fits {operation : StoreOperation} (named : operation.WellNamed) :
    operation.Fits := by
  cases operation with
  | addCanvas | addSprite | addPlacement => exact named.2
  | share => exact named.2.2
  | disconnect => exact List.ne_nil_of_length_pos named.1
  | _ => trivial

/-- Every operation with names that fit keeps the book, while there is room for the handle that it
returns. -/
theorem BookedStore.Keeps.perform_fitting (keeps : state.Keeps) {operation : StoreOperation}
    (fits : operation.Fits)
    (room : (state.returned ++ (operation.perform state.store).1.toList).length < 2 ^ 64 - 1) :
    BookedStore.Keeps
      { store := (operation.perform state.store).2
        book := state.book.follow (operation.perform state.store).1 operation
        returned := state.returned ++ (operation.perform state.store).1.toList } := by
  -- without memory nothing is added
  have refused : handleOf invalidHandle = none := rfl
  have handle := keeps.handle
  have fresh : (state.returned ++ [state.store.nextId]).length < 2 ^ 64 - 1 → state.Fresh := by
    rw [List.length_append]
    exact keeps.fresh
  cases operation with
  | addCanvas canvas width height owner memory =>
    cases memory with
    | false => simpa [StoreOperation.perform, handlesAddCanvas, refused, HandleBook.follow] using keeps
    | true =>
      simp only [StoreOperation.perform, handlesAddCanvas, ↓reduceIte, handle, Option.toList_some]
        at room ⊢
      exact keeps.addCanvas (fresh room) fits
  | addSprite sprite owner memory =>
    cases memory with
    | false => simpa [StoreOperation.perform, handlesAddSprite, refused, HandleBook.follow] using keeps
    | true =>
      simp only [StoreOperation.perform, handlesAddSprite, ↓reduceIte, handle, Option.toList_some]
        at room ⊢
      exact keeps.addSprite (fresh room) fits
  | addPlacement placement canvasId spriteId owner memory =>
    cases memory with
    | false =>
      simpa [StoreOperation.perform, handlesAddPlacement, refused, HandleBook.follow] using keeps
    | true =>
      simp only [StoreOperation.perform, handlesAddPlacement, ↓reduceIte, handle, Option.toList_some]
        at room ⊢
      exact keeps.addPlacement (fresh room) fits
  | getCanvas id username => simpa [StoreOperation.perform, HandleBook.follow] using keeps.getCanvas
  | share id username target memory =>
    simpa [StoreOperation.perform, HandleBook.follow] using keeps.share fits memory
  | barrier id username => simpa [StoreOperation.perform, HandleBook.follow] using keeps.barrier
  | destroyCanvas id username =>
    simpa [StoreOperation.perform, HandleBook.follow] using keeps.destroyCanvas
  | destroySprite id username failed =>
    simpa [StoreOperation.perform, HandleBook.follow] using keeps.destroySprite failed
  | destroyPlacement id username =>
    simpa [StoreOperation.perform, HandleBook.follow] using keeps.destroyPlacement
  | disconnect username =>
    simpa [StoreOperation.perform, HandleBook.follow] using keeps.disconnect fits

/-- An operation with proper names keeps book and store in agreement. -/
theorem BookedStore.Keeps.perform (keeps : state.Keeps) {operation : StoreOperation}
    (named : operation.WellNamed)
    (room : (state.returned ++ (operation.perform state.store).1.toList).length < 2 ^ 64 - 1) :
    BookedStore.Keeps
      { store := (operation.perform state.store).2
        book := state.book.follow (operation.perform state.store).1 operation
        returned := state.returned ++ (operation.perform state.store).1.toList } :=
  keeps.perform_fitting named.fits room

end Operations

/-! ## Runs -/

/-- What the book says of a store that is a map: of every lookup, and of the handles. -/
structure BookedStore.IsMap (state : BookedStore) : Prop where
  /-- Handles are valid. -/
  valid : invalidHandle ∉ state.returned
  /-- Whatever is added next gets a handle that is valid and was not returned before, if there is
  memory for its record. -/
  fresh : (∀ canvas width height owner,
      (handlesAddCanvas state.store canvas width height owner true).1 ∉
        invalidHandle :: state.returned) ∧
    (∀ sprite owner, (handlesAddSprite state.store sprite owner true).1 ∉
      invalidHandle :: state.returned) ∧
    ∀ placement canvasId spriteId owner,
      (handlesAddPlacement state.store placement canvasId spriteId owner true).1 ∉
        invalidHandle :: state.returned
  /-- No handle is returned twice, whatever kind it is for. -/
  distinct : state.returned.Nodup
  /-- The members of a canvas have distinct names. -/
  members : ∀ canvas ∈ state.store.canvases, canvas.names.Nodup
  /-- A canvas is found exactly if the book admits the user, and it is the one of the entry. -/
  canvases : ∀ id username record,
    (handlesGetCanvas state.store id username).1 = some record ↔ ∃ entry,
      state.book.canvases id = some entry ∧ entry.admits username = true ∧ entry.record = record ∧
        canvasRecordPtr state.store record = some entry.object
  /-- A sprite is found exactly if the book admits the user, and it is the one of the entry. -/
  sprites : ∀ id username record, handlesGetSprite state.store id username = some record ↔
    ∃ entry, state.book.sprites id = some entry ∧ entry.admits username = true ∧
      entry.record = record ∧ spriteRecordPtr state.store record = some entry.object
  /-- A placement is found exactly if the book admits the user, and it is the one of the entry. -/
  placements : ∀ id username record, handlesGetPlacement state.store id username = some record ↔
    ∃ entry, state.book.placements id = some entry ∧ entry.admits username = true ∧
      entry.record = record ∧ placementRecordPtr state.store record = some entry.object

/-- The handle that the counter returns next is valid and was not returned before. -/
theorem BookedStore.Keeps.next_notMem {state : BookedStore} (keeps : state.Keeps) :
    state.store.nextId ∉ invalidHandle :: state.returned := by
  have counter := keeps.counter
  intro inside
  rcases List.mem_cons.mp inside with invalid | again
  · rw [invalid] at counter
    cases counter
  · obtain ⟨index, there⟩ := List.mem_iff_getElem?.mp again
    have early := keeps.returned index _ there
    have below := (List.getElem?_eq_some_iff.mp there).1
    omega

/-- A store that the book describes is a map. -/
theorem BookedStore.Keeps.isMap {state : BookedStore} (keeps : state.Keeps) : state.IsMap where
  valid := by
    intro inside
    obtain ⟨index, there⟩ := List.mem_iff_getElem?.mp inside
    have counted := keeps.returned index invalidHandle there
    exact absurd counted (Nat.succ_ne_zero index).symm
  fresh := ⟨fun _ _ _ _ => keeps.next_notMem, fun _ _ => keeps.next_notMem,
    fun _ _ _ _ => keeps.next_notMem⟩
  distinct := by
    refine List.nodup_iff_getElem?_ne_getElem?.mpr fun first second before inside same => ?_
    have there := List.getElem?_eq_getElem inside
    have here := same.trans there
    have apart := keeps.returned first _ here
    have again := keeps.returned second _ there
    omega
  members := by
    intro canvas inside
    obtain ⟨record, there⟩ := List.mem_iff_getElem?.mp inside
    obtain ⟨entry, -, described⟩ := keeps.canvases.entry_of record canvas there
    exact described.distinct
  canvases := by
    intro id username record
    have looked : (handlesGetCanvas state.store id username).1 = canvasFor state.store id username := by
      unfold handlesGetCanvas
      split
      · rename_i found
        exact found.symm
      · rename_i missing
        exact missing.symm
    rw [looked, keeps.canvasFor_iff]
    refine exists_congr fun entry => and_congr_right fun known => and_congr_right fun admitted =>
      (and_iff_left_of_imp ?_).symm
    rintro rfl
    obtain ⟨index, canvas, there, -, described⟩ := keeps.canvases.node_of_entry known
    have live : entry.destroyed = false := by simpa using (Bool.and_eq_true_iff.mp admitted).1
    have held := described.object
    rw [live] at held
    rw [canvasRecordPtr, described.record_eq, there]
    exact held
  sprites := by
    intro id username record
    rw [keeps.handlesGetSprite_iff]
    refine exists_congr fun entry => and_congr_right fun known => and_congr_right fun admitted =>
      (and_iff_left_of_imp ?_).symm
    rintro rfl
    obtain ⟨index, sprite, there, -, described⟩ := keeps.sprites.node_of_entry known
    have live : entry.destroyed = false := by simpa using (Bool.and_eq_true_iff.mp admitted).1
    have held := described.object
    rw [live] at held
    rw [spriteRecordPtr, described.record_eq, there]
    exact held
  placements := by
    intro id username record
    rw [keeps.handlesGetPlacement_iff]
    refine exists_congr fun entry => and_congr_right fun known => and_congr_right fun admitted =>
      (and_iff_left_of_imp ?_).symm
    rintro rfl
    obtain ⟨index, placement, there, -, described⟩ := keeps.placements.node_of_entry known
    have live : entry.destroyed = false := by simpa using (Bool.and_eq_true_iff.mp admitted).1
    have held := described.object
    rw [live] at held
    rw [placementRecordPtr, described.record_eq, there]
    exact held

/-- An operation returns a handle only if it is an addition. -/
theorem perform_returned (store : HandleStore) (operation : StoreOperation) :
    (operation.perform store).1.toList.length ≤ if operation.isAddition then 1 else 0 := by
  have one : ∀ handle : Option UInt64, handle.toList.length ≤ 1 := by
    rintro (_ | handle) <;> simp
  cases operation <;> first | exact Nat.zero_le _ | exact one _

/-- A run returns at most one handle for each of its additions. -/
theorem storeMachine_returned {state last : BookedStore} {operations : List StoreOperation}
    (ran : storeMachine.run state operations = some last) :
    last.returned.length ≤
      state.returned.length + (operations.filter StoreOperation.isAddition).length := by
  induction operations generalizing state with
  | nil =>
    cases ran
    exact Nat.le_refl _
  | cons operation operations ih =>
    obtain ⟨next, step, rest⟩ := Machine.run_cons_some.mp ran
    have extended : next.returned =
        state.returned ++ (operation.perform state.store).1.toList := by
      cases step
      rfl
    have later := ih rest
    have now := perform_returned state.store operation
    rw [extended, List.length_append] at later
    rw [List.filter_cons]
    split <;> rename_i added
    · rw [if_pos added] at now
      rw [List.length_cons]
      omega
    · rw [if_neg added] at now
      omega

/-- In every order of the operations, with fewer than 2⁶⁴ - 1 additions and proper usernames, the
handle store is a map with fresh handles. -/
theorem handle_store_is_map {operations : List StoreOperation} {last : BookedStore}
    (named : ∀ operation ∈ operations, operation.WellNamed)
    (few : (operations.filter StoreOperation.isAddition).length < 2 ^ 64 - 1)
    (ran : storeMachine.run {} operations = some last) : last.IsMap := by
  have kept : ∀ state operation next, operation.WellNamed →
      (state.returned.length < 2 ^ 64 - 1 → state.Keeps) →
      storeMachine.step state operation = some next →
      next.returned.length < 2 ^ 64 - 1 → next.Keeps := by
    intro state operation next proper keeps step room
    cases step
    have before : state.returned.length < 2 ^ 64 - 1 := by
      simp only [List.length_append] at room
      omega
    exact (keeps before).perform proper room
  have keeps := Machine.run_invariant_on kept named (fun _ => keeps_initial) ran
  have returned := storeMachine_returned ran
  exact (keeps (by simpa using Nat.lt_of_le_of_lt returned (by simpa using few))).isMap

/-- Ann adds one record of every kind and shares the canvas with bob, who destroys his part of it
before ann disconnects, looks it up again and fails to destroy her sprite once. -/
def annThenBob : List StoreOperation :=
  [.addCanvas 0 4 4 (bytes "ann") true, .addSprite 1 (bytes "ann") true,
    .addPlacement 2 1 2 (bytes "ann") true, .share 1 (bytes "ann") (bytes "bob") true,
    .barrier 1 (bytes "bob"), .destroyCanvas 1 (bytes "bob"), .disconnect (bytes "ann"),
    .getCanvas 1 (bytes "ann"), .destroySprite 2 (bytes "ann") true,
    .destroyPlacement 3 (bytes "ann")]

/-- It ends with a map in which bob is still a member. -/
theorem handle_store_is_map_annAndBob : ∃ last, storeMachine.run {} annThenBob = some last ∧
    last.returned = [1, 2, 3] ∧ last.IsMap ∧
    (handlesGetCanvas last.store 1 (bytes "bob")).1 = some 0 := by
  obtain ⟨last, ran, seen⟩ := Option.map_eq_some_iff.mp (by decide +kernel :
    (storeMachine.run {} annThenBob).map (fun last =>
      (last.returned, (handlesGetCanvas last.store 1 (bytes "bob")).1)) = some ([1, 2, 3], some 0))
  obtain ⟨returned, looked⟩ := Prod.mk.inj seen
  refine ⟨last, ran, returned, handle_store_is_map ?_ (by decide) ran, looked⟩
  intro operation inside
  simp only [annThenBob, List.mem_cons, List.not_mem_nil, or_false] at inside
  rcases inside with rfl | rfl | rfl | rfl | rfl | rfl | rfl | rfl | rfl | rfl <;>
    simp [StoreOperation.WellNamed, ProperName, bytes, maxUsernameLen]

end AnimateService
