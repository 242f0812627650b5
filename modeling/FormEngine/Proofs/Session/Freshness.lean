import FormEngine.Proofs.Form.Fresh
import FormEngine.Proofs.Session.Specimen
import FormEngine.Proofs.Session.Supersession
import FormEngine.Host.Script

/-!
What is made of each field is never stale. Whatever a session does, the fields are shown, enabled and
required as the values have it, although a commit evaluates only those that depend on what changed.
This takes predicates that read their own field alone, and functions that alter no value in place.
-/

namespace FormEngine

/-- Where no function of the host alters its argument in place, those of the fields do not. -/
theorem Host.KeepsValues.parsed {host : Host} (keeps : host.KeepsValues) (s : ParsedSchema) :
    s.KeepsValues host := fun _ _ f _ => keeps f

/-- As long as the value of its field is the one it is about, its rules are those of the schema. -/
def Inquiry.IsKnown (f : Form) (q : Inquiry) : Prop :=
  q.isCurrent f = true → f.asks q.field.id = q.rules

namespace Session

variable {app : Application}

open Form (StaysFresh)

/-- Tasks are of no concern here. -/
def overlook : Task → Option Unit := fun _ => none

/-- An inquiry that has its turn is known to the form. -/
theorem Reachable.known {s : Session} (h : Reachable app s) {id : Nat} {q : Inquiry}
    {stage : InquiryStage} {ready : List Job}
    (hr : s.agenda.ready = .resume (.inquiry id q stage) :: ready) : q.IsKnown s.form :=
  fun current => (h.stands hr (Inquiry.isLatest_of_isCurrent current)).rules

end Session

end FormEngine
