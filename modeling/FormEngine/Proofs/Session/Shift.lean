import FormEngine.Proofs.Form.Twin
import FormEngine.Proofs.Session.Reach

/-!
Agendas whose tasks are the same but for counts. An agenda moves its tasks about without looking into
them, so that it makes no difference whether they are altered before or after; and what is altered here,
the numbers of validations and beginnings, is no measure of the work that is still to be done.
-/

namespace FormEngine

def Timer.map {α β : Type} (f : α → β) (t : Timer α) : Timer β := ⟨t.deadline, f t.action⟩

namespace Timers

variable {α β : Type} (f : α → β)

def map (h : Timers α) : Timers β := Array.map (Timer.map f) h

theorem size_map (h : Timers α) : (map f h).size = h.size := Array.size_map

theorem earlier_map (h : Timers α) (i j : Nat) : earlier (map f h) i j = earlier h i j := by
  unfold earlier map
  rw [Array.getElem?_map, Array.getElem?_map]
  cases h[i]? with
  | none => rfl
  | some s =>
    cases h[j]? with
    | none => rfl
    | some t => rfl

theorem swap_map (h : Timers α) (i j : Nat) :
    (map f h).swapIfInBounds i j = map f (h.swapIfInBounds i j) := by
  unfold map
  rw [Array.swapIfInBounds_def, Array.swapIfInBounds_def]
  simp only [Array.size_map]
  split
  · split
    · refine Array.ext (by simp) fun k _ _ => ?_
      simp only [Array.getElem_swap, Array.getElem_map]
      split
      · rfl
      · split <;> rfl
    · rfl
  · rfl

theorem rise_map (h : Timers α) (i : Nat) : rise (map f h) i = map f (rise h i) := by
  induction h, i using rise.induct with
  | case1 h =>
    unfold rise
    simp
  | case2 h i hi parent earlier ih =>
    unfold rise
    simp only [hi, if_false]
    rw [earlier_map, if_pos earlier, if_pos earlier, swap_map]
    exact ih
  | case3 h i hi parent later =>
    unfold rise
    simp only [hi, if_false]
    rw [earlier_map, if_neg later, if_neg later]

theorem heir?_map (h : Timers α) (i : Nat) : heir? (map f h) i = heir? h i := by
  unfold heir?
  simp only [size_map, earlier_map]

theorem sink_map (h : Timers α) (fuel i : Nat) :
    sink (map f h) fuel i = (map f (sink h fuel i).1, (sink h fuel i).2) := by
  induction fuel generalizing h i with
  | zero => rfl
  | succ fuel ih =>
    unfold sink
    rw [heir?_map]
    split
    · rw [swap_map, ih]
    · rfl

theorem insert_map (h : Timers α) (deadline : Time) (action : α) :
    (map f h).insert deadline (f action) = map f (h.insert deadline action) := by
  have pushed : (map f h).push ⟨deadline, f action⟩ = map f (h.push ⟨deadline, action⟩) := by
    unfold map
    rw [Array.map_push]
    rfl
  unfold insert
  rw [size_map, pushed, rise_map]

theorem first?_map (h : Timers α) : (map f h).first? = h.first?.map (Timer.map f) :=
  Array.getElem?_map

theorem dropFirst_map (h : Timers α) : (map f h).dropFirst = map f h.dropFirst := by
  have popped (h : Timers α) : (map f h).pop = map f h.pop := Array.map_pop.symm
  unfold dropFirst
  dsimp only
  rw [size_map, swap_map, popped, size_map, sink_map, rise_map]

theorem takeWhile_map (due : Time → Bool) (fuel : Nat) (h : Timers α) :
    takeWhile due fuel (map f h) =
      ((takeWhile due fuel h).1.map f, map f (takeWhile due fuel h).2) := by
  induction fuel generalizing h with
  | zero => rfl
  | succ fuel ih =>
    unfold takeWhile
    rw [first?_map]
    cases h.first? with
    | none => rfl
    | some t =>
      dsimp only [Option.map_some, Timer.map]
      split
      · rw [dropFirst_map, ih]
        rfl
      · rfl

end Timers

def Job.map (f : Task → Task) : Job → Job
  | .resume task => .resume (f task)
  | .wake task => .wake (f task)
  | .checkValidity => .checkValidity
  | .forget id => .forget id

namespace Agenda

variable (f : Task → Task) (a : Agenda)

/-- The agenda with other tasks in the places of its own. -/
def map : Agenda := { a with ready := a.ready.map (Job.map f), timers := a.timers.map f }

theorem add_map (job : Job) : (a.map f).add (job.map f) = (a.add job).map f := by
  unfold add map
  dsimp only
  rw [List.map_append, List.map_singleton]

theorem sleep_map (span : Span) (task : Task) :
    (a.map f).sleep span (f task) = (a.sleep span task).map f := by
  unfold sleep
  split
  · unfold map
    dsimp only
    rw [Timers.insert_map]
  · exact add_map f a (.resume task)

theorem toNextTimer?_map : (a.map f).toNextTimer? = a.toNextTimer?.map (map f) := by
  unfold toNextTimer? map
  dsimp only
  rw [Timers.first?_map]
  cases a.timers.first? with
  | none => rfl
  | some t =>
    dsimp only [Option.map_some, Timer.map]
    rw [Timers.size_map, Timers.takeWhile_map]
    dsimp only
    rw [List.map_append, List.map_map, List.map_map]
    rfl

/-- Where two ways to alter tasks come to the same for all tasks of an agenda, they do for the agenda. -/
theorem map_congr {f g : Task → Task} {a : Agenda} (same : ∀ task ∈ a.tasks, f task = g task) :
    a.map f = a.map g := by
  unfold tasks at same
  unfold map
  congr 1
  · refine List.map_congr_left fun job hj => ?_
    cases job with
    | resume task =>
      exact congrArg Job.resume (same task (List.mem_append_left _ (List.mem_filterMap.mpr ⟨_, hj, rfl⟩)))
    | wake task =>
      exact congrArg Job.wake (same task (List.mem_append_left _ (List.mem_filterMap.mpr ⟨_, hj, rfl⟩)))
    | checkValidity => rfl
    | forget id => rfl
  · refine Array.map_congr_left fun t ht => ?_
    have alike := same t.action
      (List.mem_append_right _ (List.mem_map.mpr ⟨t, Array.mem_toList_iff.mpr ht, rfl⟩))
    exact congrArg (Timer.mk t.deadline) alike

end Agenda

/-- The inquiry with the number that it has in a form that is ahead. -/
def Inquiry.shift (k : Kinship) (q : Inquiry) : Inquiry :=
  { q with generation := q.generation + k.generations q.field.id }

/-- The task with the counts that it has in a form that is ahead. -/
def Task.shift (k : Kinship) : Task → Task
  | .inquiry id q stage => .inquiry id (q.shift k) stage
  | .submission id (.handing epoch handler values) =>
    .submission id (.handing (epoch + k.epochs) handler values)
  | task => task

theorem Task.work_shift (k : Kinship) (task : Task) : (task.shift k).work = task.work := by
  cases task with
  | inquiry id q stage => cases stage <;> rfl
  | submission id stage => cases stage <;> rfl
  | pause id => rfl

theorem Task.submissionSteps_shift (k : Kinship) (task : Task) :
    (task.shift k).submissionSteps = task.submissionSteps := by
  cases task with
  | inquiry id q stage => rfl
  | submission id stage => cases stage <;> rfl
  | pause id => rfl

namespace Agenda

variable (k : Kinship) (a : Agenda)

def shift : Agenda := a.map (Task.shift k)

/-- Only the numbers about the fields of inquiries matter. -/
theorem shift_congr (other : Kinship) (epochs : k.epochs = other.epochs)
    (same : ∀ x ∈ a.inquiries,
      k.generations x.2.1.field.id = other.generations x.2.1.field.id) :
    a.shift k = a.shift other := by
  refine map_congr fun task ht => ?_
  cases task with
  | inquiry id q stage =>
    have number := same (id, q, stage) (List.mem_filterMap.mpr ⟨_, ht, rfl⟩)
    dsimp only at number
    rw [Task.shift, Task.shift, Inquiry.shift, Inquiry.shift, number]
  | submission id stage =>
    cases stage with
    | begun => rfl
    | handing epoch handler values => rw [Task.shift, Task.shift, epochs]
  | pause id => rfl

theorem work_shift : (a.shift k).work = a.work := by
  have job (job : Job) : (job.map (Task.shift k)).work = job.work := by
    cases job with
    | resume task => exact task.work_shift k
    | wake task => exact congrArg (· + 1) (task.work_shift k)
    | checkValidity => rfl
    | forget id => rfl
  unfold work shift map Timers.map
  dsimp only
  rw [List.foldl_map, Array.foldl_map]
  simp only [job, Timer.map, Task.work_shift]

theorem submissionSteps_shift : (a.shift k).submissionSteps = a.submissionSteps := by
  have job (job : Job) : (job.map (Task.shift k)).submissionSteps = job.submissionSteps := by
    cases job with
    | resume task => exact task.submissionSteps_shift k
    | wake task => exact task.submissionSteps_shift k
    | checkValidity => rfl
    | forget id => rfl
  unfold submissionSteps shift map Timers.map
  dsimp only
  rw [List.foldl_map, Array.foldl_map]
  simp only [job, Timer.map, Task.submissionSteps_shift]

theorem openInquiry_shift (q : Inquiry) :
    (a.shift k).openInquiry (q.shift k) = (a.openInquiry q).shift k := by
  have added := add_map (Task.shift k) a (.resume (.inquiry a.nextTask q .begun))
  unfold openInquiry
  dsimp only
  rw [show (a.shift k).nextTask = a.nextTask from rfl]
  exact congrArg (fun b : Agenda => { b with
    pending := a.pending ++ [a.nextTask], nextTask := a.nextTask + 1 }) added

end Agenda

end FormEngine
