import FormEngine.Proofs.Schema.Specimen
import FormEngine.Proofs.Session.Reach

/-!
Small forms, at which general statements are seen to say something.
-/

namespace FormEngine

/-- A form for a schema, begun with no values next to an empty store. -/
def FormSchema.begin (app : Application) (s : FormSchema) : Session :=
  .start app (s.parsed app.environment) [] (.starting .null) []

theorem FormSchema.begins {app : Application} {s : FormSchema}
    (h : (ParsedSchema.parse app.environment (.loaded s)).isOk = true) :
    Session.Begins app (s.begin app) :=
  ⟨.loaded s, s.parsed app.environment, .null, [], .null, [], FormSchema.parse_eq h, rfl, rfl⟩

/-- An application without a store, whose functions find nothing to complain of. -/
def Application.content : Application where
  host := .constant (.bool true) (.zero false)
  settings := {}

end FormEngine
