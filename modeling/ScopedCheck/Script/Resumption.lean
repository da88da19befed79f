namespace ScopedCheck.Script

inductive Resumption (ν ε σ α : Type) where
  | done (result : Except ε α) (state : σ)
  | waits (need : ν) (state : σ) (resume : σ → Resumption ν ε σ α)

namespace Resumption

variable {ν ε σ α β : Type}

/-- Goes on with the result, once there is one. -/
def bind (f : α → σ → Resumption ν ε σ β) : Resumption ν ε σ α → Resumption ν ε σ β
  | done (.ok a) s => f a s
  | done (.error e) s => done (.error e) s
  | waits need s resume => waits need s fun t => (resume t).bind f

/-- Goes on after an error, if there is one. -/
def recover (f : ε → σ → Resumption ν ε σ α) : Resumption ν ε σ α → Resumption ν ε σ α
  | done (.ok a) s => done (.ok a) s
  | done (.error e) s => f e s
  | waits need s resume => waits need s fun t => (resume t).recover f

end Resumption

/-- A computation that is run from a state. -/
def Resumable (ν ε σ α : Type) := σ → Resumption ν ε σ α

namespace Resumable

variable {ν ε σ α β : Type}

instance : Monad (Resumable ν ε σ) where
  pure a := fun s => .done (.ok a) s
  bind m f := fun s => (m s).bind f

instance : MonadStateOf σ (Resumable ν ε σ) where
  get := fun s => .done (.ok s) s
  set s := fun _ => .done (.ok ()) s
  modifyGet f := fun s => let (a, t) := f s; .done (.ok a) t

instance : MonadExceptOf ε (Resumable ν ε σ) where
  throw e := fun s => .done (.error e) s
  tryCatch m f := fun s => (m s).recover f

/-- Waits until the need is met. -/
def await (need : ν) : Resumable ν ε σ Unit :=
  fun s => .waits need s fun t => .done (.ok ()) t

end Resumable

end ScopedCheck.Script
