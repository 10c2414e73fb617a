import Dictation.Fault

namespace Dictation

/-- The surroundings of a program that runs in `m`. -/
structure Host (m : Type → Type) where
  read : Text → m (Except FileFault Text)
  write : Text → Text → m (Except FileFault Unit)
  isPresent : Text → m Bool
  valueOf? : Text → m (Option Text)
  /-- Carries a state over the lines of input, until they end or a step is the last. -/
  overLines : {σ : Type} → σ → (σ → Text → m (ForInStep σ)) → m σ
  out : Text → m Unit
  err : Text → m Unit

end Dictation
