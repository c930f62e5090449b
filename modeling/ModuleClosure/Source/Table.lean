import ModuleClosure.Source

/-!
# Tables of descriptions

A table answers with the descriptions it holds and keeps the names it was asked for.
-/
namespace ModuleClosure.Source

/-- A table of descriptions by their own names; a later one of the same name wins. -/
def tableOf (modules : List Description) : NameMap Description :=
  .ofEntries (modules.map fun d => (d.name, d))

/-- The source over a table. Its state is the list of names asked for. -/
def table (modules : NameMap Description) : Source (List String) where
  fetch name asked :=
    { outcome := match modules[name]? with
        | some d => .ok d
        | none => .error (.noAddress name)
      state := asked ++ [name] }
  reach := modules.size

end ModuleClosure.Source
