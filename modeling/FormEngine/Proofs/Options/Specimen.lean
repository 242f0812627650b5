import FormEngine.Proofs.Options.Source

/-!
A loader before it is asked for anything, and plain sources of options to ask it for.
-/

namespace FormEngine

namespace OptionsCall

/-- A loader that was asked for nothing yet, next to a store. -/
def beside (store : Value) : LoadRun := { loader := ⟨.null, store, []⟩, now := .start }

/-- Options from a source, with all else as it is by default. -/
def plain (source : OptionSource) : DynamicOptions :=
  ⟨source, none, .get, [], [], none, none, none, [], true, none, 300000, 0, 1000⟩

end OptionsCall

end FormEngine
