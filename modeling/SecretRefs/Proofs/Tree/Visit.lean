import SecretRefs.Proofs.Tree.Running
import SecretRefs.Proofs.Tree.Schedule

/-!
# Visits forget no call

A visit leaves every call that is under way `Heeded`: either its lane and all lanes around it ask
for a visit, or the turn put the lane off, or the lane waits for the clock to go on. It also makes
the load of what it visits smaller, or else it changes nothing except that fewer lanes ask for a
visit (`Eased`). `visits_visit` says so of all visits, by one lemma for each way in which visits
are put together.
-/

namespace SecretRefs.Tree.Schedule

open SecretRefs.Tree.Task

/-! ## What a visit does to a situation -/

/-- Whether a call is not forgotten: it was waited for since an earlier instant and its lane asks
for a visit or is put off, or its lane waits. -/
def Heeded (situation : Situation) (lane : Lane) (awake : Bool) (since : Option Nat) : Prop :=
  (∀ instant ∈ since, instant ≤ situation.instant) ∧
    ((∀ instant ∈ since, instant < situation.instant) ∧
        (awake = true ∨ lane ∈ situation.putOff) ∨
      lane ∈ situation.waiting)

/-- What is due asks for a visit. -/
theorem heeded_awake {situation : Situation} (lane : Lane) : Heeded situation lane true none := by
  refine ⟨fun _ member => ?_, .inl ⟨fun _ member => ?_, .inl rfl⟩⟩
  · cases member
  · cases member

/-- Whether a situation can come later in a turn. -/
structure Later (start last : Situation) : Prop where
  instant : last.instant = start.instant
  putOff : start.putOff ⊆ last.putOff
  waiting : start.waiting ⊆ last.waiting
  opened : start.opened ≤ last.opened
  again : start.again = true → last.again = true

theorem Later.refl (situation : Situation) : Later situation situation :=
  ⟨rfl, fun _ => id, fun _ => id, Nat.le_refl _, id⟩

theorem Later.trans {start middle last : Situation} (first : Later start middle)
    (second : Later middle last) : Later start last where
  instant := second.instant.trans first.instant
  putOff := fun _ member => second.putOff (first.putOff member)
  waiting := fun _ member => second.waiting (first.waiting member)
  opened := Nat.le_trans first.opened second.opened
  again := fun asked => second.again (first.again asked)

theorem Later.heeded {start last : Situation} (later : Later start last) {lane : Lane}
    {awake asks : Bool} {since : Option Nat} (wakes : awake = true → asks = true)
    (heeded : Heeded start lane awake since) : Heeded last lane asks since := by
  unfold Heeded at heeded ⊢
  rw [later.instant]
  refine ⟨heeded.1, heeded.2.imp ?_ fun member => later.waiting member⟩
  exact And.imp_right (Or.imp wakes fun member => later.putOff member)

/-- Whatever is running stays so in a later situation. -/
theorem Later.running {start last : Situation} (later : Later start last) {room : Nat} {lane : Lane}
    {awake asks : Bool} {task : Task} (running : Running (Heeded start) room lane awake task)
    (wakes : awake = true → asks = true) : Running (Heeded last) room lane asks task :=
  running.mono (fun _ _ _ _ => later.heeded) wakes

/-- What becomes of the load of a part. It gets smaller, or nothing changes in the situation and
fewer lanes ask for a visit, so that a turn in which nothing is put off can be told from a turn
that has to be followed by another. The lanes that are opened have new numbers. -/
structure Eased (start last : Situation) (before after : Load) : Prop where
  weight : after.weight ≤ before.weight
  capacity : after.capacity ≤ before.capacity
  numbered : ∀ number, after.numbered number ≤
    before.numbered number + if start.opened ≤ number ∧ number < last.opened then 1 else 0
  idle : after.weight = before.weight → 0 < start.left →
    last.left = start.left ∧ last.putOff = start.putOff ∧ last.waiting = start.waiting ∧
      after.queued + last.again.toNat ≤ before.queued + start.again.toNat

namespace Eased

variable {start middle last : Situation} {before between after rest : Load}

/-- What makes the load smaller need not be told further. -/
theorem of_lt (lighter : after.weight < before.weight) (capacity : after.capacity ≤ before.capacity)
    (numbered : ∀ number, after.numbered number ≤
      before.numbered number + if start.opened ≤ number ∧ number < last.opened then 1 else 0) :
    Eased start last before after where
  weight := Nat.le_of_lt lighter
  capacity := capacity
  numbered := numbered
  idle := fun same => absurd same (Nat.ne_of_lt lighter)

/-- Nothing is left. -/
theorem of_pos (some : 0 < before.weight) : Eased start last before (.ofParts 0 0) :=
  .of_lt some (Nat.zero_le _) fun _ => Nat.zero_le _

/-- Nothing is done. -/
theorem of_same (left : last.left = start.left) (putOff : last.putOff = start.putOff)
    (waiting : last.waiting = start.waiting) (again : last.again = start.again) (load : Load) :
    Eased start last load load where
  weight := Nat.le_refl _
  capacity := Nat.le_refl _
  numbered := fun _ => Nat.le_add_right _ _
  idle := fun _ _ => ⟨left, putOff, waiting, again ▸ Nat.le_refl _⟩

/-- What is left is told by a load that is no greater. -/
theorem of_le (weight : after.weight ≤ before.weight) (capacity : after.capacity ≤ before.capacity)
    (queued : after.queued ≤ before.queued)
    (numbered : ∀ number, after.numbered number ≤ before.numbered number) (situation : Situation) :
    Eased situation situation before after where
  weight := weight
  capacity := capacity
  numbered := fun number => Nat.le_add_right_of_le (numbered number)
  idle := fun _ _ => ⟨rfl, rfl, rfl, Nat.add_le_add_right queued _⟩

theorem refl (situation : Situation) (load : Load) : Eased situation situation load load :=
  .of_same rfl rfl rfl rfl load

theorem trans (first : Eased start middle before between) (second : Eased middle last between after)
    (opened : start.opened ≤ middle.opened ∧ middle.opened ≤ last.opened) :
    Eased start last before after where
  weight := Nat.le_trans second.weight first.weight
  capacity := Nat.le_trans second.capacity first.capacity
  numbered number := by
    have one := first.numbered number
    have other := second.numbered number
    split at one <;> split at other <;> split <;> omega
  idle same some := by
    have weight := first.weight
    have lighter := second.weight
    obtain ⟨left, putOff, waiting, fewer⟩ := first.idle (by omega) some
    obtain ⟨lastLeft, lastPutOff, lastWaiting, stillFewer⟩ := second.idle (by omega) (left ▸ some)
    exact ⟨lastLeft.trans left, lastPutOff.trans putOff, lastWaiting.trans waiting, by omega⟩

/-- Whether the array that is visited asks for another visit may be left open. -/
theorem unmark (eased : Eased start { last with again := true } before after) :
    Eased start last before after where
  weight := eased.weight
  capacity := eased.capacity
  numbered := eased.numbered
  idle same some := by
    obtain ⟨left, putOff, waiting, fewer⟩ := eased.idle same some
    have marked := last.again.toNat_le
    rw [Bool.toNat_true] at fewer
    exact ⟨left, putOff, waiting, by omega⟩

/-- Parts beside the one that is visited do not matter. -/
theorem beside (eased : Eased start last before after) (rest : Load) :
    Eased start last (before + rest) (after + rest) where
  weight := Nat.add_le_add_right eased.weight _
  capacity := Nat.add_le_add_right eased.capacity _
  numbered number := by
    have part := eased.numbered number
    simp only [Load.add_numbered]
    omega
  idle same some := by
    rw [Load.add_weight, Load.add_weight] at same
    obtain ⟨left, putOff, waiting, fewer⟩ := eased.idle (Nat.add_right_cancel same) some
    refine ⟨left, putOff, waiting, ?_⟩
    simp only [Load.add_queued]
    omega

theorem ahead (eased : Eased start last before after) (rest : Load) :
    Eased start last (rest + before) (rest + after) := by
  rw [Load.add_comm rest, Load.add_comm rest]
  exact eased.beside rest

end Eased

/-! ## What steps do -/

/-- Whether a step only leads to later situations, and if it does not fail to one in which what
it comes to holds. -/
def Proceeds {α : Type} (step : Step α) (start : Situation) (post : α → Situation → Prop) : Prop :=
  Later start (step.run start).2 ∧
    ∀ value, (step.run start).1 = .ok value → post value (step.run start).2

namespace Proceeds

variable {α β : Type} {step : Step α} {next : α → Step β} {start changed : Situation}
  {middle : α → Situation → Prop} {post other : β → Situation → Prop}

theorem pure {value : β} (holds : post value start) : Proceeds (pure value) start post :=
  ⟨.refl start, fun | _, rfl => holds⟩

theorem throw (failure : Failure) : Proceeds (throw failure) start post :=
  ⟨.refl start, nofun⟩

theorem bind (first : Proceeds step start middle)
    (rest : ∀ value situation, Later start situation → middle value situation →
      Proceeds (next value) situation post) : Proceeds (step >>= next) start post := by
  obtain ⟨later, holds⟩ := first
  unfold Proceeds
  rw [run_bind]
  generalize step.run start = run at later holds ⊢
  obtain ⟨failure | value, situation⟩ := run
  · exact ⟨later, nofun⟩
  · obtain ⟨stillLater, lastHolds⟩ := rest value situation later (holds value rfl)
    exact ⟨later.trans stillLater, lastHolds⟩

theorem imp {step : Step β} (proceeds : Proceeds step start other)
    (weaker : ∀ value last, Later start last → other value last → post value last) :
    Proceeds step start post :=
  ⟨proceeds.1, fun value isValue => weaker value _ proceeds.1 (proceeds.2 value isValue)⟩

theorem get {next : Situation → Step β} (rest : Proceeds (next start) start post) :
    Proceeds (get >>= next) start post := by
  unfold Proceeds
  rw [run_get_bind]
  exact rest

theorem set {next : PUnit → Step β} (later : Later start changed)
    (rest : Proceeds (next ()) changed post) : Proceeds (set changed >>= next) start post := by
  unfold Proceeds
  rw [run_set_bind]
  exact ⟨later.trans rest.1, rest.2⟩

theorem modify {change : Situation → Situation} {next : PUnit → Step β}
    (later : Later start (change start)) (rest : Proceeds (next ()) (change start) post) :
    Proceeds (modify change >>= next) start post := by
  unfold Proceeds
  rw [run_modify_bind]
  exact ⟨later.trans rest.1, rest.2⟩

end Proceeds

/-- What a visit of a part with a load comes to. -/
structure Stands (start : Situation) (room : Nat) (lane : Lane) (before : Load) (after : Task)
    (last : Situation) : Prop where
  running : after.tree? = none → Running (Heeded last) room lane last.again after
  eased : Eased start last before after.load

namespace Stands

variable {start middle last : Situation} {room : Nat} {lane : Lane} {before between : Load}
  {task : Task}

theorem finished (some : 0 < before.weight) (tree : Json) :
    Stands start room lane before (.finished tree) last :=
  ⟨nofun, .of_pos some⟩

/-- A visit may come after something else. -/
theorem after (stands : Stands middle room lane between task last)
    (eased : Eased start middle before between) (later : Later start middle)
    (stillLater : Later middle last) : Stands start room lane before task last :=
  ⟨stands.running, eased.trans stands.eased ⟨later.opened, stillLater.opened⟩⟩

end Stands

/-! ## Calls -/

section Calls

variable {room : Nat} {lane : Lane} {reference : Reference} {since : Option Nat}
  {start : Situation}

theorem callLoad_pos (since : Option Nat) : 0 < (callLoad since).weight := by
  cases since <;> exact Nat.succ_pos _

theorem proceeds_endCall (reference : Reference) {before : Load} (some : 0 < before.weight) :
    Proceeds (endCall reference) start (Stands start room lane before) := by
  refine .get (.set ⟨rfl, fun _ => id, fun _ => id, Nat.le_refl _, id⟩ ?_)
  split
  · exact .pure (.finished some _)
  · exact .throw _

theorem proceeds_putOff (lane : Lane) (start : Situation) :
    Proceeds (putOff lane) start fun _ last => lane ∈ last.putOff := by
  have changed : (putOff lane).run start = (.ok (), if start.putOff.head? == some lane then start
      else { start with putOff := lane :: start.putOff }) := rfl
  unfold Proceeds
  rw [changed]
  split
  · rename_i isHead
    exact ⟨.refl start, fun _ _ => List.mem_of_head? (beq_iff_eq.mp isHead)⟩
  · exact ⟨⟨rfl, List.subset_cons_self _ _, fun _ => id, Nat.le_refl _, id⟩,
      fun _ _ => List.mem_cons_self⟩

/-- To look at a call ends it or does not forget it. -/
theorem proceeds_lookAt (heeded : Heeded start lane true since) :
    Proceeds (lookAt lane reference since) start
      (Stands start (room + 1) lane (callLoad since)) := by
  obtain ⟨past, heeded⟩ := heeded
  unfold lookAt
  refine .get ?_
  split
  · rename_i noneLeft
    refine (proceeds_putOff lane start).bind fun _ last later isPutOff => .pure ?_
    refine ⟨fun _ => .calling ⟨later.instant ▸ past, ?_⟩, ?_⟩
    · rw [later.instant]
      exact heeded.imp (fun ⟨waited, _⟩ => ⟨waited, .inr isPutOff⟩)
        fun member => later.waiting member
    · exact ⟨Nat.le_refl _, Nat.le_refl _, fun _ => Nat.le_add_right _ _,
        fun _ someLeft => absurd (beq_iff_eq.mp noneLeft) (Nat.ne_of_gt someLeft)⟩
  · split
    · split
      · exact proceeds_endCall reference (callLoad_pos _)
      · rename_i instant notEarlier
        refine .pure ⟨fun _ => .calling ⟨past, .inr ?_⟩, .refl _ _⟩
        exact heeded.resolve_left fun ⟨waited, _⟩ => notEarlier (waited instant rfl)
    · split
      · have waits : Later start { start with waiting := start.waiting ++ [lane] } :=
          ⟨rfl, fun _ => id, List.subset_append_left _ _, Nat.le_refl _, id⟩
        refine .set waits (.pure ⟨fun _ => .calling ⟨?_, .inr ?_⟩, ?_⟩)
        · rintro _ ⟨⟩
          exact Nat.le_refl _
        · exact List.mem_append_right _ List.mem_cons_self
        · exact .of_lt (Nat.lt_succ_self 1) (Nat.le_refl _) fun _ => Nat.zero_le _
      · exact proceeds_endCall reference (callLoad_pos _)

/-- To start a call ends it or does not forget it. -/
theorem proceeds_startCall (store : String) (text : String) :
    Proceeds (startCall store lane reference) start
      (Stands start (room + 1) lane (dueLoad (.string text))) := by
  unfold startCall
  refine .modify ⟨rfl, fun _ => id, fun _ => id, Nat.le_refl _, id⟩ (.get ?_)
  dsimp only
  generalize start.memory.enter (.resolve reference) = entered
  obtain ⟨failure | ⟨⟩, memory⟩ := entered
  · exact .set ⟨rfl, fun _ => id, fun _ => id, Nat.le_refl _, id⟩ (.throw _)
  · refine .set ⟨rfl, fun _ => id, fun _ => id, Nat.le_refl _, id⟩ ?_
    have looked (begun : Situation) : Proceeds (lookAt lane reference none) begun
        (Stands begun (room + 1) lane (callLoad none)) :=
      proceeds_lookAt (heeded_awake lane)
    refine (looked _).imp fun task last later stands => ?_
    refine stands.after (.of_lt ?_ ?_ ?_) ?_ later
    · exact Nat.lt_succ_self 2
    · exact Nat.zero_le _
    · exact fun _ => Nat.zero_le _
    · exact ⟨rfl, fun _ => id, fun _ => id, Nat.le_refl _, id⟩

end Calls

/-! ## Containers -/

section Containers

variable {room : Nat} {lane : Lane} {start last : Situation} {before : Load}

/-- Whether every visit with room for a running task proceeds, and what is done is let be. -/
structure Visits (room : Nat) (lane : Lane) (visit : Task → Step Task) : Prop where
  running : ∀ task start, Running (Heeded start) room lane true task →
    Proceeds (visit task) start (Stands start room lane task.load)
  finished : ∀ tree, visit (.finished tree) = pure (.finished tree)

theorem Visits.proceeds {visit : Task → Step Task} (visits : Visits room lane visit) {task : Task}
    (goesOn : task.tree? = none → Running (Heeded start) room lane true task) :
    Proceeds (visit task) start (Stands start room lane task.load) := by
  by_cases unfinished : task.tree? = none
  · exact visits.running task start (goesOn unfinished)
  · cases task with
    | finished tree =>
      rw [visits.finished]
      exact .pure ⟨nofun, .refl _ _⟩
    | _ => exact absurd rfl unfinished

/-- What visits of parts come to. -/
structure StandAll (start : Situation) (room : Nat) (lane : Lane) (before : Load)
    (after : List Task) (last : Situation) : Prop where
  running : ∀ task ∈ after, task.tree? = none → Running (Heeded last) room lane last.again task
  eased : Eased start last before (loadOf after)

/-- The elements of an array are visited one after another. -/
theorem proceeds_mapM {visit : Task → Step Task} (visits : Visits room lane visit)
    (tasks : List Task)
    (goOn : ∀ task ∈ tasks, task.tree? = none → Running (Heeded start) room lane true task) :
    Proceeds (tasks.mapM visit) start (StandAll start room lane (loadOf tasks)) := by
  induction tasks generalizing start with
  | nil =>
    rw [List.mapM_nil]
    exact .pure ⟨nofun, .refl _ _⟩
  | cons task rest inductionHypothesis =>
    rw [List.mapM_cons, loadOf]
    refine (visits.proceeds (goOn task List.mem_cons_self)).bind
      fun visited middle later stands => ?_
    have others := inductionHypothesis fun one member unfinished =>
      later.running (goOn one (List.mem_cons_of_mem _ member) unfinished) id
    refine others.bind fun after last stillLater standAll => .pure ⟨?_, ?_⟩
    · rintro one (_ | ⟨_, member⟩) unfinished
      · exact stillLater.running (stands.running unfinished) stillLater.again
      · exact standAll.running one member unfinished
    · exact (stands.eased.beside _).trans (standAll.eased.ahead _)
        ⟨later.opened, stillLater.opened⟩

/-- A short array is done when its elements are. -/
theorem StandAll.ofElements {after : List Task}
    (standAll : StandAll start room lane before after last) :
    Stands start (room + 1) lane before (Task.ofElements after) last := by
  obtain ⟨running, eased⟩ := standAll
  unfold Task.ofElements
  cases found : trees? after with
  | some trees =>
    rw [eq_finished_of_trees? found, loadOf_finished] at eased
    exact ⟨nofun, eased⟩
  | none =>
    refine ⟨fun _ => .sequence running ?_, eased⟩
    by_contra allDone
    obtain ⟨trees, isTrees⟩ := exists_trees? fun task member unfinished =>
      allDone ⟨task, member, unfinished⟩
    rw [isTrees] at found
    cases found

theorem proceeds_ofElements {step : Step (List Task)}
    (proceeds : Proceeds step start (StandAll start room lane before)) :
    Proceeds (Task.ofElements <$> step) start (Stands start (room + 1) lane before) := by
  rw [map_eq_pure_bind]
  exact proceeds.bind fun _ _ _ standAll => .pure standAll.ofElements

theorem running_due {tree : Json} (fits : size tree ≤ room) :
    Running (Heeded start) room lane true (.due tree) :=
  .due fits (heeded_awake lane)

/-- An entry of a mapping is visited; if it is done, the mapping goes on with the next. -/
theorem proceeds_entry {step : Step Task} {next : Task → Step Task} {part : Load}
    (before : Json.Entries) (key : String) {after : Json.Entries}
    (visited : Proceeds step start (Stands start room lane part))
    (fits : ∀ entry ∈ after, size entry.2 ≤ room)
    (finished : ∀ tree middle, Proceeds (next (.finished tree)) middle
      (Stands middle (room + 1) lane (entriesLoad after)))
    (others : ∀ task, (∀ tree, task ≠ .finished tree) →
      next task = pure (.mapping before key task after)) :
    Proceeds (step >>= next) start (Stands start (room + 1) lane (part + entriesLoad after)) := by
  refine visited.bind fun task middle later stands => ?_
  have eased := stands.eased.beside (entriesLoad after)
  by_cases isFinished : ∃ tree, task = .finished tree
  · obtain ⟨tree, rfl⟩ := isFinished
    rw [load, Load.nothing_add] at eased
    refine (finished tree middle).imp fun last situation stillLater lastStands => ?_
    exact lastStands.after eased later stillLater
  · have unfinished : task.tree? = none := by
      cases task with
      | finished tree => exact absurd ⟨tree, rfl⟩ isFinished
      | _ => rfl
    rw [others task (not_exists.mp isFinished)]
    exact .pure ⟨fun _ => .mapping (stands.running unfinished) fits, eased⟩

/-- The entries of a mapping are visited one after another as far as they are done at once. -/
theorem proceeds_visitEntries {visit : Task → Step Task} (visits : Visits room lane visit)
    (before after : Json.Entries) (fits : ∀ entry ∈ after, size entry.2 ≤ room) :
    Proceeds (visitEntries visit before after) start
      (Stands start (room + 1) lane (entriesLoad after)) := by
  induction after generalizing before start with
  | nil => exact .pure ⟨nofun, .refl _ _⟩
  | cons entry after inductionHypothesis =>
    obtain ⟨key, value⟩ := entry
    have fitRest : ∀ entry ∈ after, size entry.2 ≤ room := fun entry member =>
      fits entry (List.mem_cons_of_mem _ member)
    have begun : Eased start start (entriesLoad ((key, value) :: after))
        (dueLoad value + entriesLoad after) := by
      refine .of_le ?_ ?_ (Nat.le_refl 0) (fun _ => Nat.le_refl 0) start
      · simp only [entriesLoad, dueLoad, entriesSize, Load.add_weight, Load.ofParts_weight]
        omega
      · simp only [entriesLoad, dueLoad, entriesSize, Load.add_capacity, Load.ofParts_capacity]
        omega
    rw [visitEntries]
    have visited := visits.running _ start (running_due (fits (key, value) List.mem_cons_self))
    refine (proceeds_entry before key visited fitRest
      (fun tree middle => inductionHypothesis (before ++ [(key, tree)]) fitRest)
      fun task unfinished => ?_).imp fun task last later stands =>
        stands.after begun (.refl start) later
    cases task with
    | finished tree => exact absurd rfl (unfinished tree)
    | _ => rfl

end Containers

/-! ## Lanes -/

section Lanes

variable {room : Nat} {lane : Lane} {start last : Situation}

/-- What a visit of a lane comes to, and whether the lane asks for another one. -/
structure LaneStands (start : Situation) (room : Nat) (lane : Lane) (before : Load)
    (visited : Task × Bool) (last : Situation) : Prop where
  again : last.again = (start.again || visited.2)
  running : visited.1.isOver = false → Running (Heeded last) room lane visited.2 visited.1
  eased : Eased { start with again := false } { last with again := visited.2 } before visited.1.load

theorem proceeds_visitLane {visit : Task → Step Task} (visits : Visits room lane visit)
    {task : Task} (running : Running (Heeded start) room lane true task) :
    Proceeds (visitLane visit task) start (LaneStands start room lane task.load) := by
  obtain ⟨later, stands⟩ := visits.running task { start with again := false } running
  unfold Proceeds visitLane
  rw [run_get_bind, run_set_bind, run_bind, run_tryCatch]
  generalize (visit task).run _ = run at later stands ⊢
  obtain ⟨failure | visited, last⟩ := run
  · refine ⟨⟨later.instant, later.putOff, later.waiting, later.opened, ?_⟩, ?_⟩
    · intro asked
      exact Bool.or_eq_true_iff.mpr (.inl asked)
    · rintro _ ⟨⟩
      exact ⟨rfl, nofun, .of_pos running.weight_pos⟩
  · obtain ⟨goesOn, eased⟩ := stands visited rfl
    refine ⟨⟨later.instant, later.putOff, later.waiting, later.opened, ?_⟩, ?_⟩
    · intro asked
      exact Bool.or_eq_true_iff.mpr (.inl asked)
    · rintro _ ⟨⟩
      refine ⟨rfl, fun unfinished => ?_, eased⟩
      exact goesOn (tree?_of_isOver unfinished)

variable {first position : Nat} {queue queueAfter : List Nat} {tasks : List Task}
  {task after : Task} {asks : Bool}

/-- The load of a lane that is replaced by another. -/
theorem loadOf_set (found : tasks[position]? = some task) :
    ∃ rest, loadOf tasks = task.load + rest ∧
      ∀ other, loadOf (tasks.set position other) = other.load + rest := by
  obtain ⟨earlier, later, rfl, changed⟩ := split_of_getElem? found
  have order (one : Task) : loadOf (earlier ++ one :: later) =
      one.load + (loadOf earlier + loadOf later) := by
    rw [loadOf_append, loadOf, ← Load.add_assoc, Load.add_comm (loadOf earlier), Load.add_assoc]
  refine ⟨loadOf earlier + loadOf later, order task, fun other => ?_⟩
  rw [changed, order]

/-- The queue after its first lane is visited: the lane is at its end if it asks for another
visit. -/
structure Requeues (position : Nat) (queue queueAfter : List Nat) (asks : Bool) : Prop where
  nodup : queueAfter.Nodup
  keeps : ∀ other ∈ queue, other ∈ queueAfter
  only : ∀ other ∈ queueAfter, other ∈ queue ∨ other = position
  asking : asks = true → position ∈ queueAfter
  length : queueAfter.length ≤ queue.length + asks.toNat

theorem requeues_rest (nodup : (position :: queue).Nodup) : Requeues position queue queue false :=
  ⟨(List.nodup_cons.mp nodup).2, fun _ => id, fun _ => .inl, nofun, Nat.le_refl _⟩

theorem requeues_enqueue (nodup : (position :: queue).Nodup) (asks : Bool) :
    Requeues position queue (if asks then enqueue position queue else queue) asks := by
  cases asks with
  | false => exact requeues_rest nodup
  | true =>
    obtain ⟨isFirst, nodup⟩ := List.nodup_cons.mp nodup
    refine ⟨nodup_enqueue nodup position, fun _ member => mem_enqueue.mpr (.inl member),
      fun _ => mem_enqueue.mp, fun _ => mem_enqueue.mpr (.inr rfl), ?_⟩
    rw [if_pos rfl, enqueue, if_neg (by rwa [List.contains_iff_mem]), List.length_append]
    exact Nat.le_refl _

/-- The lanes go on after one of them is visited. -/
theorem running_lanes
    (running : Running (Heeded start) (room + 1) lane true (.lanes first (position :: queue) tasks))
    (later : Later start last) (requeues : Requeues position queue queueAfter asks)
    (visited : after.isOver = false →
      Running (Heeded last) room (some (first + position)) asks after)
    (goesOn : ∃ task ∈ tasks.set position after, task.isOver = false) :
    Running (Heeded last) (room + 1) lane true
      (.lanes first queueAfter (tasks.set position after)) := by
  cases running with
  | lanes nodup inside each _ =>
    refine .lanes requeues.nodup (fun other member => ?_) (fun other task found unfinished => ?_)
      goesOn
    · rw [List.length_set]
      rcases requeues.only other member with inQueue | rfl
      · exact inside other (List.mem_cons_of_mem _ inQueue)
      · exact inside other List.mem_cons_self
    · rw [Bool.true_and]
      by_cases isPosition : other = position
      · subst isPosition
        rw [List.getElem?_set_self (inside other List.mem_cons_self)] at found
        cases found
        exact (visited unfinished).mono (fun _ _ _ _ => (Later.refl last).heeded) fun asked =>
          List.contains_iff_mem.mpr (requeues.asking asked)
      · rw [List.getElem?_set_ne (Ne.symm isPosition)] at found
        refine later.running (each other task found unfinished) fun asked => ?_
        rw [Bool.true_and, List.contains_iff_mem] at asked
        exact List.contains_iff_mem.mpr
          (requeues.keeps other ((List.mem_cons.mp asked).resolve_left isPosition))

/-- The load of the lanes gets smaller, or fewer of them ask for a visit, even if the array asks
for one then. -/
theorem eased_lanes (found : tasks[position]? = some task)
    (eased : Eased { start with again := false } { last with again := asks } task.load after.load)
    (length : queueAfter.length ≤ queue.length + asks.toNat) :
    Eased start { last with again := true } (Task.lanes first (position :: queue) tasks).load
      (Task.lanes first queueAfter (tasks.set position after)).load := by
  obtain ⟨rest, isLoad, isLoadAfter⟩ := loadOf_set found
  obtain ⟨weight, capacity, numbered, idle⟩ := eased
  rw [load, load, isLoad, isLoadAfter, List.length_set]
  refine ⟨?_, ?_, fun number => ?_, fun same some => ?_⟩
  · simp only [Load.add_weight, lanesLoad]
    omega
  · simp only [Load.add_capacity, lanesLoad]
    omega
  · have part := numbered number
    simp only [Load.add_numbered, lanesLoad_numbered] at part ⊢
    omega
  · simp only [Load.add_weight, lanesLoad] at same
    obtain ⟨left, putOff, waiting, fewer⟩ := idle (by omega) some
    refine ⟨left, putOff, waiting, ?_⟩
    simp only [Load.add_queued, lanesLoad, List.length_cons, Bool.toNat_true, Bool.toNat_false]
      at fewer ⊢
    omega

/-- The number of lanes that are not over. -/
def runningLanes (tasks : List Task) : Nat :=
  tasks.countP fun task => !task.isOver

theorem runningLanes_set (found : tasks[position]? = some task) (goesOn : task.isOver = false)
    (after : Task) :
    runningLanes (tasks.set position after) + after.isOver.toNat = runningLanes tasks := by
  obtain ⟨earlier, later, rfl, changed⟩ := split_of_getElem? found
  rw [runningLanes, runningLanes, changed]
  simp only [List.countP_append, List.countP_cons, goesOn]
  cases after.isOver with
  | false =>
    simp only [Bool.toNat_false]
    omega
  | true =>
    simp only [Bool.toNat_true, Bool.not_true, Bool.not_false, Bool.false_eq_true, reduceIte]
    omega

theorem runningLanes_pos {task : Task} (member : task ∈ tasks) (goesOn : task.isOver = false) :
    0 < runningLanes tasks :=
  List.countP_pos_iff.mpr ⟨task, member, by rw [goesOn]; rfl⟩

/-- A bound for the visits before an array ends its own: each lane that is not over is visited once
until the next one is over, and the queue is gone through once more. -/
def roundsLeft (visited : Nat) (queue : List Nat) (tasks : List Task) : Nat :=
  runningLanes tasks * (tasks.length + 1) + (runningLanes tasks - visited) + queue.length

/-- A lane that is over is never visited again, so there are fewer rounds to come. -/
theorem roundsLeft_of_over (visited : Nat) (found : tasks[position]? = some task)
    (wentOn : task.isOver = false) (isOver : after.isOver = true) :
    roundsLeft 0 queue (tasks.set position after) <
      roundsLeft visited (position :: queue) tasks := by
  have count := runningLanes_set found wentOn after
  have atMost : runningLanes (tasks.set position after) ≤ (tasks.set position after).length :=
    List.countP_le_length
  rw [List.length_set] at atMost
  rw [isOver, Bool.toNat_true] at count
  have product : runningLanes tasks * (tasks.length + 1) =
      runningLanes (tasks.set position after) * (tasks.length + 1) + (tasks.length + 1) := by
    rw [← count, Nat.succ_mul]
  rw [roundsLeft, roundsLeft, List.length_set, List.length_cons]
  omega

/-- Fewer lanes are to be visited until one is over, be it that this one asks for a visit again. -/
theorem roundsLeft_of_goesOn {visited : Nat} (found : tasks[position]? = some task)
    (wentOn : task.isOver = false) (goesOn : after.isOver = false)
    (fewer : visited < runningLanes tasks) (length : queueAfter.length ≤ queue.length + 1) :
    roundsLeft (visited + 1) queueAfter (tasks.set position after) <
      roundsLeft visited (position :: queue) tasks := by
  have count := runningLanes_set found wentOn after
  rw [goesOn, Bool.toNat_false, Nat.add_zero] at count
  rw [roundsLeft, roundsLeft, List.length_set, List.length_cons, count]
  omega

/-- The lanes of an array are visited until it ends its visit, which takes no more steps than it
may take. -/
theorem proceeds_visitLanes {visit : Lane → Task → Step Task}
    (visits : ∀ lane, Visits room lane (visit lane)) (steps visited asking : Nat)
    (running : Running (Heeded start) (room + 1) lane true (.lanes first queue tasks))
    (fewer : visited < runningLanes tasks) (enough : roundsLeft visited queue tasks ≤ steps) :
    Proceeds (visitLanes visit first steps visited asking queue tasks) start
      (Stands start (room + 1) lane (Task.lanes first queue tasks).load) := by
  induction steps generalizing visited asking queue tasks start with
  | zero =>
    have some := Nat.le_mul_of_pos_right (runningLanes tasks) (Nat.succ_pos tasks.length)
    rw [roundsLeft] at enough
    omega
  | succ steps inductionHypothesis =>
    have begun := running
    cases begun with
    | lanes nodup inside each goesOn =>
    match queue with
    | [] =>
      refine .pure ⟨fun _ => .lanes nodup inside (fun position task found unfinished => ?_) goesOn,
        .refl _ _⟩
      have same := each position task found unfinished
      simpa using same
    | position :: queue =>
      obtain ⟨task, found⟩ : ∃ task, tasks[position]? = some task :=
        ⟨_, List.getElem?_eq_getElem (inside position List.mem_cons_self)⟩
      unfold visitLanes
      simp only [found, Option.getD_some]
      split
      · rename_i isOver
        have isSame : tasks.set position task = tasks := by
          obtain ⟨_, _, rfl, changed⟩ := split_of_getElem? found
          exact changed task
        have rest := running_lanes running (Later.refl start) (requeues_rest nodup)
          (fun unfinished : task.isOver = false => absurd isOver (by rw [unfinished]; nofun))
          (isSame.symm ▸ goesOn)
        rw [isSame] at rest
        rw [roundsLeft, List.length_cons] at enough
        refine (inductionHypothesis visited asking rest fewer (by rw [roundsLeft]; omega)).imp
          fun after last later stands => stands.after ?_ (.refl start) later
        refine ⟨Nat.le_refl _, Nat.le_refl _, fun _ => Nat.le_add_right _ _,
          fun _ _ => ⟨rfl, rfl, rfl, ?_⟩⟩
        simp only [load, lanesLoad, Load.add_queued, List.length_cons]
        omega
      · rename_i isRunning
        rw [Bool.not_eq_true] at isRunning
        have goesFirst := each position task found isRunning
        rw [List.contains_iff_mem.mpr List.mem_cons_self, Bool.and_self] at goesFirst
        refine (proceeds_visitLane (visits (some (first + position))) goesFirst).bind ?_
        rintro ⟨after, again⟩ middle later stands
        have onward {queueAfter : List Nat} {asks : Bool} (asked askingAfter : Nat)
            (requeues : Requeues position queue queueAfter asks)
            (length : queueAfter.length ≤ queue.length + again.toNat)
            (goesOn : after.isOver = false →
              Running (Heeded middle) room (some (first + position)) asks after)
            (stillRunning : ∃ task ∈ tasks.set position after, task.isOver = false)
            (fewer : asked < runningLanes (tasks.set position after))
            (lessLeft : roundsLeft asked queueAfter (tasks.set position after) <
              roundsLeft visited (position :: queue) tasks) :
            Proceeds (visitLanes visit first steps asked askingAfter queueAfter
                (tasks.set position after)) middle
              (Stands start (room + 1) lane (Task.lanes first (position :: queue) tasks).load) := by
          have rest := running_lanes running later requeues goesOn stillRunning
          refine (inductionHypothesis asked askingAfter rest fewer (by omega)).imp
            fun last situation stillLater lastStands => ?_
          exact lastStands.after (eased_lanes found stands.eased length).unmark later stillLater
        simp only
        split
        · rename_i isOver
          split
          · exact .pure (.finished running.weight_pos _)
          · exact .throw _
          · rename_i other notFailed isFirst
            have member := List.mem_of_find?_eq_some isFirst
            have otherGoesOn : other.isOver = false := by
              have unfinished := List.find?_some isFirst
              cases other with
              | finished tree => cases unfinished
              | failed failure => exact absurd rfl (notFailed failure)
              | _ => rfl
            exact onward 0 0 (requeues_rest nodup) (Nat.le_add_right _ _)
              (fun unfinished => absurd isOver (by rw [unfinished]; nofun))
              ⟨other, member, otherGoesOn⟩ (runningLanes_pos member otherGoesOn)
              (roundsLeft_of_over visited found isRunning isOver)
        · rename_i stillGoesOn
          rw [Bool.not_eq_true] at stillGoesOn
          have requeues := requeues_enqueue nodup again
          have within := inside position List.mem_cons_self
          have stillRunning : ∃ task ∈ tasks.set position after, task.isOver = false :=
            ⟨after, List.mem_set within after, stillGoesOn⟩
          generalize (if again = true then enqueue position queue else queue) = queueAfter
            at requeues ⊢
          generalize (if again = true then asking + 1 else asking) = askingAfter
          split
          · have marks : Later middle { middle with again := true } :=
              ⟨rfl, fun _ => id, fun _ => id, Nat.le_refl _, fun _ => rfl⟩
            refine .modify marks (.pure ?_)
            refine ⟨fun _ => ?_, eased_lanes found stands.eased requeues.length⟩
            exact running_lanes running (later.trans marks) requeues
              (fun unfinished => marks.running (stands.running unfinished) id) stillRunning
          · rename_i notYet
            rw [Bool.or_eq_true_iff, not_or, decide_eq_true_iff, beq_iff_eq] at notYet
            have notAll : visited + 1 ≠ runningLanes (tasks.set position after) := notYet.2
            have count := runningLanes_set found isRunning after
            rw [stillGoesOn, Bool.toNat_false, Nat.add_zero] at count
            exact onward (visited + 1) _ requeues requeues.length stands.running stillRunning
              (by omega) (roundsLeft_of_goesOn found isRunning stillGoesOn fewer
                (Nat.le_trans requeues.length (Nat.add_le_add_left again.toNat_le _)))

/-- A visit of a long array takes no more steps than it may take. -/
theorem proceeds_visitArray {visit : Lane → Task → Step Task}
    (visits : ∀ lane, Visits room lane (visit lane))
    (running : Running (Heeded start) (room + 1) lane true (.lanes first queue tasks)) :
    Proceeds (visitArray visit first queue tasks) start
      (Stands start (room + 1) lane (Task.lanes first queue tasks).load) := by
  have begun := running
  cases begun with
  | lanes nodup inside each goesOn =>
    obtain ⟨task, member, goesOn⟩ := goesOn
    have some := runningLanes_pos member goesOn
    have atMost : runningLanes tasks ≤ tasks.length := List.countP_le_length
    have rounds := Nat.mul_le_mul_right (tasks.length + 1) atMost
    have queued := Running.length_queue_le nodup inside
    refine proceeds_visitLanes visits _ 0 0 running some ?_
    have product : (tasks.length + 1) * (tasks.length + 2) =
        tasks.length * (tasks.length + 1) + tasks.length + (tasks.length + 2) := by
      rw [Nat.succ_mul, Nat.mul_succ tasks.length]
    rw [roundsLeft, product]
    omega

/-- To open the lanes of a long array gives them numbers that no other lanes have. -/
theorem proceeds_openLanes {visit : Lane → Task → Step Task}
    (visits : ∀ lane, Visits room lane (visit lane)) {elements : List Json}
    (some : elements ≠ []) (fits : ∀ element ∈ elements, size element ≤ room) :
    Proceeds (openLanes visit elements) start
      (Stands start (room + 1) lane (dueLoad (.array elements))) := by
  have opens : Later start { start with opened := start.opened + elements.length } :=
    ⟨rfl, fun _ => id, fun _ => id, Nat.le_add_right _ _, id⟩
  have running (situation : Situation) : Running (Heeded situation) (room + 1) lane true
      (.lanes start.opened (List.range elements.length) (elements.map .due)) := by
    refine .lanes List.nodup_range (fun position member => ?_) (fun position task found _ => ?_) ?_
    · rw [List.length_map]
      exact List.mem_range.mp member
    · rw [List.getElem?_map, Option.map_eq_some_iff] at found
      obtain ⟨element, found, rfl⟩ := found
      obtain ⟨within, -⟩ := List.getElem?_eq_some_iff.mp found
      rw [List.contains_iff_mem.mpr (List.mem_range.mpr within)]
      exact running_due (fits element (List.mem_of_getElem? found))
    · obtain ⟨element, member⟩ := List.exists_mem_of_ne_nil elements some
      exact ⟨.due element, List.mem_map_of_mem member, rfl⟩
  unfold openLanes
  refine .get (.modify opens ((proceeds_visitArray visits (running _)).imp
    fun task last later stands => stands.after (.of_lt ?_ ?_ fun number => ?_) opens later))
  · simp only [load, loadOf_due, lanesLoad, dueLoad, size, Load.add_weight, Load.ofParts_weight]
    omega
  · have length := length_le_elementsSize elements
    simp only [load, loadOf_due, lanesLoad, dueLoad, size, Load.add_capacity, Load.ofParts_capacity,
      List.length_map]
    omega
  · simp only [load, loadOf_due, dueLoad, Load.add_numbered, lanesLoad_numbered,
      Load.ofParts_numbered, List.length_map]
    omega

end Lanes

/-! ## Visits -/

/-- Every visit forgets no call and makes the load smaller or changes nothing. The induction is on
the depth. -/
theorem visits_visit (store : String) (room : Nat) (lane : Lane) :
    Visits room lane (visit store room lane) := by
  induction room generalizing lane with
  | zero =>
    exact ⟨fun task start running => absurd running.room_pos (Nat.lt_irrefl 0), fun _ => rfl⟩
  | succ room inductionHypothesis =>
    refine ⟨fun task start running => ?_, fun _ => rfl⟩
    cases running with
    | @due _ _ _ tree fits isHeeded =>
      have finished (tree result : Json) : Proceeds (pure (.finished result)) start
          (Stands start (room + 1) lane (dueLoad tree)) :=
        .pure (.finished (Nat.mul_pos (Nat.succ_pos 2) (size_pos tree)) result)
      cases tree with
      | string text =>
        rw [visit]
        cases Reference.parse? text with
        | some reference => exact proceeds_startCall store text
        | none => exact finished _ _
      | array elements =>
        have fitEach : ∀ element ∈ elements, size element ≤ room := fun element member =>
          Nat.le_trans (size_le_elementsSize member) (Nat.le_of_succ_le_succ fits)
        rw [visit]
        split
        · have visited : Proceeds ((elements.map .due).mapM (visit store room lane)) start
              (StandAll start room lane (loadOf (elements.map .due))) := by
            refine proceeds_mapM (inductionHypothesis lane) _ fun task member _ => ?_
            obtain ⟨element, isElement, rfl⟩ := List.mem_map.mp member
            exact running_due (fitEach element isElement)
          rw [List.mapM_map] at visited
          refine (proceeds_ofElements visited).imp fun after last later stands =>
            stands.after (.of_lt ?_ ?_ fun _ => ?_) (.refl start) later
          · simp only [load, loadOf_due, dueLoad, size, Load.ofParts_weight]
            omega
          · simp only [load, loadOf_due, dueLoad, size, Load.ofParts_capacity]
            omega
          · rw [loadOf_due]
            exact Nat.zero_le _
        · rename_i isLong
          refine proceeds_openLanes inductionHypothesis ?_ fitEach
          rintro rfl
          exact isLong (Nat.zero_le _)
      | object entries =>
        have fitEach : ∀ entry ∈ entries, size entry.2 ≤ room := fun entry member =>
          Nat.le_trans (size_le_entriesSize member) (Nat.le_of_succ_le_succ fits)
        rw [visit]
        refine (proceeds_visitEntries (inductionHypothesis lane) [] entries fitEach).imp
          fun after last later stands => stands.after (.of_lt ?_ ?_ fun _ => ?_) (.refl start) later
        · simp only [load, dueLoad, entriesLoad, size, Load.ofParts_weight]
          omega
        · simp only [load, dueLoad, entriesLoad, size, Load.ofParts_capacity]
          omega
        · exact Nat.zero_le _
      | _ => exact finished _ _
    | calling isHeeded => exact proceeds_lookAt isHeeded
    | sequence each goesOn =>
      rw [visit]
      exact proceeds_ofElements (proceeds_mapM (inductionHypothesis lane) _ each)
    | lanes nodup inside each goesOn =>
      exact proceeds_visitArray inductionHypothesis (.lanes nodup inside each goesOn)
    | @mapping _ _ _ before after key current goesOn fits =>
      rw [visit]
      refine proceeds_entry before key ((inductionHypothesis lane).running _ start goesOn) fits
        (fun tree middle => proceeds_visitEntries (inductionHypothesis lane) _ after fits)
        fun task unfinished => ?_
      cases task with
      | finished tree => exact absurd rfl (unfinished tree)
      | _ => rfl

end SecretRefs.Tree.Schedule
