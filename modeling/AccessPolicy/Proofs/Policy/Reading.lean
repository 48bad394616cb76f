import AccessPolicy.Policy.Reader
import AccessPolicy.Proofs.Result

/-! Readings one after the other: what they yield together, and what is recorded of them. -/

namespace AccessPolicy.Policy.Reading

variable {ε φ α β : Type} {first : Reading ε α} {later : α → Reading ε β} {value : α} {fault : ε}

@[simp] theorem result_pure : (pure value : Reading ε α).result = .ok value := rfl

@[simp] theorem events_pure : (pure value : Reading ε α).events = [] := rfl

@[simp] theorem result_silent {result : Except ε α} : (silent result).result = result := rfl

@[simp] theorem events_silent {result : Except ε α} : (silent result).events = [] := rfl

@[simp] theorem result_noting {events : List Log.Event} :
    (noting events : Reading ε Unit).result = .ok () := rfl

@[simp] theorem events_noting {events : List Log.Event} :
    (noting events : Reading ε Unit).events = events := rfl

@[simp] theorem result_mapFault {reword : ε → φ} :
    (first.mapFault reword).result = first.result.mapError reword := rfl

@[simp] theorem events_mapFault {reword : ε → φ} :
    (first.mapFault reword).events = first.events := rfl

/-- Two readings yield what the second one does with the result of the first. -/
@[simp] theorem result_bind :
    (first >>= later).result = first.result >>= fun value => (later value).result := by
  rw [Bind.bind, Monad.toBind, instMonad]
  dsimp only [andThen]
  cases first.result <;> rfl

/-- What is recorded of two readings is recorded of the first, and then of the second. -/
theorem events_bind_of_ok (found : first.result = .ok value) :
    (first >>= later).events = first.events ++ (later value).events := by
  rw [Bind.bind, Monad.toBind, instMonad]
  simp only [andThen, found]

/-- Behind a fault nothing more is recorded. -/
theorem events_bind_of_error (failed : first.result = .error fault) :
    (first >>= later).events = first.events := by
  rw [Bind.bind, Monad.toBind, instMonad]
  simp only [andThen, failed]

end AccessPolicy.Policy.Reading
