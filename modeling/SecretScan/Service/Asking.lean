import SecretScan.Service.Basic

/-!
# Computations that ask services

What a computation asks can be left open: either it is done, or it has a question to a service and
goes on with the answer, whatever the answer is and whenever it comes.
-/

namespace SecretScan

/-- A question to a service: does it accept this value? -/
structure Question where
  service : Service
  value : String
  deriving DecidableEq, Repr

/-- An answer to a question; it may be a failure. -/
abbrev Answer := Except Failure Verdict

/-- A computation with its questions left open. -/
inductive Asking (α : Type) where
  | done (a : α)
  | ask (q : Question) (next : Answer → Asking α)

namespace Asking

/-- One computation after another. -/
def bind {α β : Type} : Asking α → (α → Asking β) → Asking β
  | done a, f => f a
  | ask q next, f => ask q fun a => (next a).bind f

instance : Monad Asking where
  pure := done
  bind := bind

/-- Every question is left open. -/
def inquiry : Inquiry Asking := fun s value => ask ⟨s, value⟩ done

/-- Asks the questions that were left open, one after the other. -/
def run {m : Type → Type} [Monad m] {α : Type} (inquiry : Inquiry m) : Asking α → m α
  | done a => pure a
  | ask q next => inquiry q.service q.value >>= fun a => run inquiry (next a)

end Asking

end SecretScan
