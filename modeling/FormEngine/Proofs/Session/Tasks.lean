import FormEngine.Form.Agenda

/-!
The tasks that an agenda holds, whether they wait for their turn or sleep. The heap of timers moves its
entries about but neither loses nor doubles one, so that every operation of an agenda adds or removes
just the tasks it names. The order of tasks is left open. Besides tasks there are checks of the validity
that wait; they are counted.
-/

namespace FormEngine

namespace Timers

variable {α : Type}

theorem swap_perm (h : Timers α) (i j : Nat) :
    (h.swapIfInBounds i j).toList.Perm h.toList := by
  rw [Array.swapIfInBounds_def]
  split
  · split
    · exact (Array.swap_perm _ _).toList
    · exact .refl _
  · exact .refl _

theorem rise_perm (h : Timers α) (i : Nat) : (rise h i).toList.Perm h.toList := by
  induction h, i using rise.induct with
  | case1 h =>
      unfold rise
      simp
  | case2 h i hi parent earlier ih =>
      unfold rise
      simp only [hi, if_false]
      rw [if_pos earlier]
      exact ih.trans (swap_perm h i parent)
  | case3 h i hi parent later =>
      unfold rise
      simp only [hi, if_false]
      rw [if_neg later]

theorem sink_perm (h : Timers α) (fuel i : Nat) : (sink h fuel i).1.toList.Perm h.toList := by
  induction fuel generalizing h i with
  | zero => exact .refl _
  | succ fuel ih =>
      unfold sink
      split
      · exact (ih _ _).trans (swap_perm h _ _)
      · exact .refl _

theorem insert_perm (h : Timers α) (deadline : Time) (action : α) :
    (h.insert deadline action).toList.Perm (⟨deadline, action⟩ :: h.toList) := by
  refine (rise_perm _ _).trans ?_
  rw [Array.toList_push]
  exact List.perm_append_singleton _ _

/-- The last entry takes the place of the first one; what is popped is what was first. -/
theorem dropFirst_perm (h : Timers α) (t : Timer α) (ht : h.first? = some t) :
    (t :: h.dropFirst.toList).Perm h.toList := by
  have rested : h.dropFirst.toList.Perm ((h.swapIfInBounds 0 (h.size - 1)).pop).toList :=
    (rise_perm _ _).trans (sink_perm _ _ _)
  refine (rested.cons t).trans (.trans ?_ (swap_perm h 0 (h.size - 1)))
  obtain ⟨hs, hg⟩ := Array.getElem?_eq_some_iff.mp ht
  have last : (h.swapIfInBounds 0 (h.size - 1)).toList.getLast? = some t := by
    rw [List.getLast?_eq_getElem?, Array.getElem?_toList, Array.length_toList,
      Array.size_swapIfInBounds, Array.getElem?_eq_some_iff]
    refine ⟨by rw [Array.size_swapIfInBounds]; omega, ?_⟩
    rw [Array.getElem_swapIfInBounds_right hs]
    exact hg
  obtain ⟨before, hb⟩ := List.getLast?_eq_some_iff.mp last
  rw [Array.toList_pop, hb, List.dropLast_concat]
  exact (List.perm_append_singleton _ _).symm

/-- Timers that go off and those that stay are all the timers. -/
theorem takeWhile_perm (due : Time → Bool) (fuel : Nat) (h : Timers α) :
    ((takeWhile due fuel h).1 ++ (takeWhile due fuel h).2.toList.map Timer.action).Perm
      (h.toList.map Timer.action) := by
  induction fuel generalizing h with
  | zero => exact .refl _
  | succ fuel ih =>
      unfold takeWhile
      split
      · exact .refl _
      · next t ht =>
        split
        · exact ((ih h.dropFirst).cons t.action).trans ((dropFirst_perm h t ht).map Timer.action)
        · exact .refl _

end Timers

/-- The task that a job takes on. -/
def Job.task? : Job → Option Task
  | .resume task | .wake task => some task
  | .checkValidity | .forget _ => none

/-- Whether a job is a check of the validity that was put off. -/
def Job.isCheck : Job → Bool
  | .checkValidity => true
  | _ => false

namespace Agenda

/-- The tasks that wait for their turn, then those that sleep. -/
def tasks (a : Agenda) : List Task :=
  a.ready.filterMap Job.task? ++ a.timers.toList.map Timer.action

theorem tasks_add (a : Agenda) (job : Job) :
    (a.add job).tasks.Perm (job.task?.toList ++ a.tasks) := by
  unfold tasks add
  rw [List.filterMap_append, List.append_assoc, ← List.append_assoc]
  refine .trans ?_ (.of_eq (List.append_assoc _ _ _))
  refine .append_right _ (.trans List.perm_append_comm ?_)
  cases job <;> exact .refl _

/-- Jobs that take on no task leave the tasks as they are. -/
theorem tasks_add_none (a : Agenda) (job : Job) (h : job.task? = none) :
    (a.add job).tasks = a.tasks := by
  simp [tasks, add, h]

theorem tasks_sleep (a : Agenda) (span : Span) (task : Task) :
    (a.sleep span task).tasks.Perm (task :: a.tasks) := by
  unfold sleep
  split
  · refine .trans (.append_left _ ((Timers.insert_perm _ _ task).map Timer.action)) ?_
    exact List.perm_middle
  · exact tasks_add a (.resume task)

theorem tasks_openInquiry (a : Agenda) (q : Inquiry) :
    (a.openInquiry q).tasks.Perm (.inquiry a.nextTask q .begun :: a.tasks) :=
  tasks_add a _

theorem tasks_openSubmission (a : Agenda) :
    a.openSubmission.2.tasks.Perm (.submission a.nextTask .begun :: a.tasks) :=
  tasks_add a _

theorem tasks_openPause (a : Agenda) (span : Span) :
    (a.openPause span).2.tasks.Perm (.pause a.nextTask :: a.tasks) :=
  tasks_sleep a span _

theorem tasks_toNextTimer {a later : Agenda} (h : a.toNextTimer? = some later) :
    later.tasks.Perm a.tasks := by
  obtain ⟨t, -, rfl⟩ := Option.map_eq_some_iff.mp h
  unfold tasks
  dsimp only
  rw [List.filterMap_append, List.filterMap_map, List.append_assoc]
  refine .append_left _ ?_
  have woken : (Job.task? ∘ Job.wake) = some := rfl
  rw [woken, List.filterMap_some]
  exact Timers.takeWhile_perm _ _ _

/-- Taking the first job off takes its task off. -/
theorem tasks_ready {a : Agenda} {job : Job} {ready : List Job} (h : a.ready = job :: ready) :
    a.tasks = job.task?.toList ++ { a with ready }.tasks := by
  unfold tasks
  rw [h]
  cases job <;> rfl

/-- How many checks of the validity wait for their turn. -/
def checks (a : Agenda) : Nat := a.ready.countP Job.isCheck

theorem checks_add (a : Agenda) (job : Job) :
    (a.add job).checks = a.checks + if job.isCheck then 1 else 0 := by
  simp [checks, add, List.countP_append, List.countP_singleton]

theorem checks_sleep (a : Agenda) (span : Span) (task : Task) :
    (a.sleep span task).checks = a.checks := by
  unfold sleep
  split
  · rfl
  · exact checks_add a (.resume task)

theorem checks_ready {a : Agenda} {job : Job} {ready : List Job} (h : a.ready = job :: ready) :
    a.checks = { a with ready }.checks + if job.isCheck then 1 else 0 := by
  unfold checks
  rw [h, List.countP_cons]

theorem checks_toNextTimer {a later : Agenda} (h : a.toNextTimer? = some later) :
    later.checks = a.checks := by
  obtain ⟨t, -, rfl⟩ := Option.map_eq_some_iff.mp h
  simp [checks, List.countP_append, List.countP_map, Function.comp_def, Job.isCheck]

end Agenda

end FormEngine
