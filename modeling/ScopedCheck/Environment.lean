import ScopedCheck.Text.Utf8

namespace ScopedCheck

/-- The variables that a program is started with; the first one of a name counts. Neither their names nor
their values need to be text. -/
structure Environment where
  bindings : List (Utf8.Bytes × Utf8.Bytes)
  deriving DecidableEq, Repr

namespace Environment

def ofTexts (texts : List (String × String)) : Environment :=
  ⟨texts.map fun (name, value) => (Utf8.encode name, Utf8.encode value)⟩

instance : Coe (List (String × String)) Environment := ⟨ofTexts⟩

def value? (environment : Environment) (name : String) : Option Utf8.Bytes :=
  environment.bindings.lookup (Utf8.encode name)

end Environment

end ScopedCheck
