import ScopedCheck.Path

namespace ScopedCheck.Checker

/-- The checker's name in a directory of programs. -/
def programName : String := "vue-tsc"

def noEmitFlag : String := "--noEmit"

/-- The config comes first, then the flags that are passed on; nothing is ever emitted. -/
def arguments (config : Path) (flags : List String) : List String :=
  "-p" :: config.text :: (flags ++ [noEmitFlag])

end ScopedCheck.Checker
