import FormEngine.Text.Blank
import Mathlib.Data.List.TakeWhile

/-!
Trimming. What is dropped at the ends of a text is of the class that is dropped, so that a text without
such characters is left as it is, and characters of no such class are all kept.
-/

namespace FormEngine

section Trimming

variable {p : Char → Bool}

theorem dropWhile_eq {cs : List Char} (kept : ∀ c ∈ cs, p c = false) : cs.dropWhile p = cs := by
  cases cs with
  | nil => rfl
  | cons c cs => exact List.dropWhile_cons_of_neg (by simp [kept c List.mem_cons_self])

theorem trimWhere_eq {cs : List Char} (kept : ∀ c ∈ cs, p c = false) : trimWhere p cs = cs := by
  unfold trimWhere
  rw [dropWhile_eq kept, dropWhile_eq fun c hc => kept c (List.mem_reverse.mp hc), List.reverse_reverse]

theorem length_trimWhere_le (cs : List Char) : (trimWhere p cs).length ≤ cs.length := by
  have shorter (cs : List Char) : (cs.dropWhile p).length ≤ cs.length :=
    (List.dropWhile_suffix p).length_le
  unfold trimWhere
  rw [List.length_reverse]
  refine (shorter _).trans ?_
  rw [List.length_reverse]
  exact shorter cs

variable {c : Char} (kept : p c = false) (cs : List Char)

include kept

theorem count_dropWhile : (cs.dropWhile p).count c = cs.count c := by
  have absent : (cs.takeWhile p).count c = 0 := by
    refine List.count_eq_zero.mpr fun member => ?_
    rw [List.mem_takeWhile_imp member] at kept
    cases kept
  have whole := congrArg (List.count c) (List.takeWhile_append_dropWhile (p := p) (l := cs))
  rwa [List.count_append, absent, Nat.zero_add] at whole

theorem count_trimWhere : (trimWhere p cs).count c = cs.count c := by
  unfold trimWhere
  rw [List.count_reverse, count_dropWhile kept, List.count_reverse, count_dropWhile kept]

end Trimming

theorem length_stripBlank_le (s : String) : (stripBlank s).length ≤ s.length := by
  rw [stripBlank, String.length_ofList, ← String.length_toList]
  exact length_trimWhere_le s.toList

end FormEngine
