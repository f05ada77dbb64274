-- Runs: what happens on the way, in order, and what comes out.
import CodeAtlas.Project.Note
import CodeAtlas.Provider

namespace CodeAtlas

/-- Something that a provider is asked for. -/
inductive Call where
  | list (path : Label)
  | fetch (reference : Label)
  deriving DecidableEq

/-- Something that happens in a run: the provider is asked, a file or a stage is reached, or
something is noted. -/
inductive Event where
  | asked (call : Call)
  | reached (name : Label)
  | noted (note : Note)
  deriving DecidableEq

/-- The call, if the provider is asked. -/
def Event.call? : Event → Option Call
  | asked call => some call
  | _ => none

/-- The name, if a file or a stage is reached. -/
def Event.progress? : Event → Option Label
  | reached name => some name
  | _ => none

/-- A run: its events, and its result unless it fails. -/
structure Run (α : Type) where
  events : List Event
  result : Except Failure α

namespace Run

variable {α β : Type}

/-- A run in which nothing happens. -/
def done (a : α) : Run α := ⟨[], .ok a⟩

/-- Goes on with the result of a run. A run that fails ends there. -/
def next (r : Run α) (f : α → Run β) : Run β :=
  match r.result with
  | .ok a => ⟨r.events ++ (f a).events, (f a).result⟩
  | .error e => ⟨r.events, .error e⟩

instance : Monad Run where
  pure := done
  bind := next

def fail (e : Failure) : Run α := ⟨[], .error e⟩

/-- A run in which only this happens. -/
def emit (events : List Event) : Run Unit := ⟨events, .ok ()⟩

/-- Asks a provider to list a folder. -/
def list (p : Provider) (path : Label) : Run (List Entry) := ⟨[.asked (.list path)], p.list path⟩

/-- Asks a provider for a text, which has to be one that can be encoded. -/
def fetch (p : Provider) (reference : Label) : Run String :=
  ⟨[.asked (.fetch reference)], p.textOf reference⟩

/-- What the provider was asked for, in order. -/
def calls (r : Run α) : List Call := r.events.filterMap Event.call?

/-- The names of what was reached, in order. -/
def progress (r : Run α) : List Label := r.events.filterMap Event.progress?

/-! ## One run after another -/

theorem pure_eq_done (a : α) : (pure a : Run α) = done a := rfl

theorem bind_eq_next (r : Run α) (f : α → Run β) : r >>= f = r.next f := rfl

theorem next_of_ok {r : Run α} {a : α} (h : r.result = .ok a) (f : α → Run β) :
    r.next f = ⟨r.events ++ (f a).events, (f a).result⟩ := by
  simp [next, h]

theorem next_of_error {r : Run α} {e : Failure} (h : r.result = .error e) (f : α → Run β) :
    r.next f = ⟨r.events, .error e⟩ := by
  simp [next, h]

instance : LawfulMonad Run :=
  LawfulMonad.mk' Run
    (by rintro α ⟨events, _ | a⟩ <;> simp [Functor.map, next, done])
    (by intro α β a f; simp [bind_eq_next, pure_eq_done, next, done])
    (by
      rintro α β γ ⟨events, _ | a⟩ f g
      · rfl
      · simp only [bind_eq_next, next]
        cases (f a).result <;> simp)

end Run

end CodeAtlas
