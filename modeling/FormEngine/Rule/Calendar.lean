import FormEngine.Rule.Temporal

/-!
Which values stand for a date, a time of day or a moment: texts, and numbers that count seconds. What
stands for none has a complaint about it.
-/

namespace FormEngine

namespace Calendar

open Temporal

/-- The moment that a number of seconds stands for, if the value is a number. -/
def momentOfNumber? (v : Value) : Option (Except Misfit Moment) :=
  match v with
  | .int i =>
    if Word.isSigned i then some (momentOfCount i 0)
    else
      let x := Binary64.ofInt i
      if x.isFinite then some (momentOfDouble x) else none
  | .float x => some (momentOfDouble x)
  | _ => none

/-- The years of the calendar start at one. -/
def yearIssue? (day : Date) (before : String) : Option String :=
  if day.year = 0 then some (before ++ "year 0 is out of range") else none

def dateFormat : String := "Input should be a valid date in the format YYYY-MM-DD, "

/-- The start of a day, as a date. -/
def dateOfMomentIssue? (result : Except Misfit Moment) : Option String :=
  match result with
  | .ok m =>
    if m.time = ⟨0, 0⟩ then yearIssue? m.date dateFormat
    else some "Datetimes provided to dates should have zero time - e.g. be exact dates"
  | .error e => some ("Input should be a valid date or datetime, " ++ e.message)

def dateIssue? (v : Value) : Option String :=
  match v.text? with
  | some s =>
    match dateOfText s with
    | .ok day => yearIssue? day dateFormat
    | .error _ => dateOfMomentIssue? (momentOfText s)
  | none =>
    match momentOfNumber? v with
    | some result => dateOfMomentIssue? result
    | none => some "Input should be a valid date"

def momentIssue? (v : Value) : Option String :=
  let year := fun day => yearIssue? day "Input should be a valid datetime, "
  match v.text? with
  | some s =>
    match momentOfText s, dateOfText s with
    | .ok m, _ => year m.date
    | .error _, .ok day => year day
    | .error _, .error e => some ("Input should be a valid datetime or date, " ++ e.message)
  | none =>
    match momentOfNumber? v with
    | some (.ok m) => year m.date
    | some (.error e) => some ("Input should be a valid datetime, " ++ e.message)
    | none => some "Input should be a valid datetime"

def timeOfNumber? (v : Value) : Option (Except Misfit TimeOfDay) :=
  let ofDouble := fun x => do
    let (second, micro) ← splitCount x
    timeOfSeconds second micro
  match v with
  | .int i =>
    if Word.isSigned i then some (timeOfSeconds i 0)
    else
      let x := Binary64.ofInt i
      if x.isFinite then some (ofDouble x) else none
  | .float x => some (ofDouble x)
  | _ => none

def timeIssue? (v : Value) : Option String :=
  let wrong := fun (e : Misfit) =>
    some ("Input should be in a valid time format, " ++ e.message)
  match v.text? with
  | some s =>
    match timeOfText s with
    | .ok _ => none
    | .error e => wrong e
  | none =>
    match timeOfNumber? v with
    | some (.ok _) => none
    | some (.error e) => wrong e
    | none => some "Input should be a valid time"

end Calendar

end FormEngine
