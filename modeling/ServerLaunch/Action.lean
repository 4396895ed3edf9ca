import ServerLaunch.LaunchError
import ServerLaunch.Number.Binary64

/-!
# Actions

What the launcher does, step by step, as values. An action runs on a state and gives an
outcome, the state afterwards and the events on the way, in order. All three are there
whether it succeeds or fails: a failure does not undo what was done before it.

Nothing is claimed here about what the events mean. They are what an observer of the
launcher sees of it besides the files.

## Main definitions

* `Status`: the stages of provisioning that a host is told about.
* `Event`: an observable step.
* `Run`: what running an action gives.
* `Action`: an action, with its sequencing.
* `Action.attempt`: an action whose failure is a value.

**Main statements.** Sequencing passes on the state and appends the events (`run_bind`),
and is associative with `pure` as its unit (the `LawfulMonad` instance).
-/
namespace ServerLaunch

/-- The stages of provisioning that a host is told about. -/
inductive Status where
  | checkingForUpdate
  | downloading
  | failed
deriving DecidableEq, Repr

namespace Status

/-- The stages in the order in which they are listed. -/
def all : List Status := [checkingForUpdate, downloading, failed]

/-- No stage is missing from the list. -/
theorem mem_all (status : Status) : status ∈ all := by cases status <;> decide

/-- The name under which a stage is listed. -/
def name : Status → String
  | checkingForUpdate => "CHECKING_FOR_UPDATE"
  | downloading => "DOWNLOADING"
  | failed => "FAILED"

/-- The text by which a stage is sent to a host. -/
def value : Status → String
  | checkingForUpdate => "checking_for_update"
  | downloading => "downloading"
  | failed => "failed"

end Status

/-- A step that an observer sees. -/
inductive Event where
  | status (server : String) (status : Status)
  | latest (package : String)
  | installed (package directory : String)
  | install (package : String) (version : Version) (directory : String)
  | request (url : String) (timeout : Number.Binary64)
  | process (arguments : List String) (directory : String)
deriving DecidableEq, Repr

/-- What running an action gives: its outcome, the state afterwards and the events. -/
structure Run (S α : Type) where
  outcome : Except Failure α
  final : S
  events : List Event

/-- What was found stays when failures are replaced. -/
@[simp] theorem mapError_ok {ε ε' α : Type} (f : ε → ε') (value : α) :
    (Except.ok value : Except ε α).mapError f = .ok value := rfl

@[simp] theorem mapError_error {ε ε' α : Type} (f : ε → ε') (e : ε) :
    (Except.error e : Except ε α).mapError f = .error (f e) := rfl

/-- Rules for how something ends, if they never lead anywhere else and always lead somewhere,
say just how it ends. -/
theorem iff_eq_of_covered {α : Type} {Rules : α → Prop} {value : α}
    (only : ∀ {x}, Rules x → value = x) (covered : ∃ x, Rules x) (x : α) :
    Rules x ↔ value = x := by
  refine ⟨only, ?_⟩
  rintro rfl
  obtain ⟨x, h⟩ := covered
  rwa [only h]

/-- An action on a state. -/
structure Action (S α : Type) where
  run : S → Run S α

namespace Action

variable {S S' α β γ : Type}

/-- Two actions that run alike are the same. -/
theorem ext {a b : Action S α} (h : a.run = b.run) : a = b := by
  cases a
  cases b
  cases h
  rfl

/-! ## Sequencing -/

/-- The action that gives a value and does nothing. -/
protected def pure (value : α) : Action S α := ⟨fun s => ⟨.ok value, s, []⟩⟩

/-- One action, then another that depends on what it gave. After a failure the other one
does not run. -/
protected def bind (first : Action S α) (next : α → Action S β) : Action S β :=
  ⟨fun s =>
    let r := first.run s
    match r.outcome with
    | .error failure => ⟨.error failure, r.final, r.events⟩
    | .ok value =>
      let r' := (next value).run r.final
      ⟨r'.outcome, r'.final, r.events ++ r'.events⟩⟩

instance : Monad (Action S) where
  pure := Action.pure
  bind := Action.bind

@[simp] theorem run_pure (value : α) (s : S) :
    (pure value : Action S α).run s = ⟨.ok value, s, []⟩ := rfl

/-- Sequencing passes on the state and appends the events. -/
theorem run_bind (first : Action S α) (next : α → Action S β) (s : S) :
    (first >>= next).run s =
      match (first.run s).outcome with
      | .error failure => ⟨.error failure, (first.run s).final, (first.run s).events⟩
      | .ok value =>
        ⟨((next value).run (first.run s).final).outcome,
          ((next value).run (first.run s).final).final,
          (first.run s).events ++ ((next value).run (first.run s).final).events⟩ := rfl

instance : LawfulMonad (Action S) := LawfulMonad.mk' _
  (by
    intro α x
    apply Action.ext
    funext s
    change (x >>= pure).run s = x.run s
    rw [run_bind]
    rcases h : x.run s with ⟨outcome, final, events⟩
    cases outcome <;> simp)
  (by
    intro α β value f
    apply Action.ext
    funext s
    simp [run_bind])
  (by
    intro α β γ x f g
    apply Action.ext
    funext s
    simp only [run_bind]
    rcases h : x.run s with ⟨outcome, final, events⟩
    cases outcome with
    | error failure => rfl
    | ok value =>
      simp only
      rcases h' : (f value).run final with ⟨outcome', final', events'⟩
      cases outcome' <;> simp [List.append_assoc])

/-- A value that is only passed on through a function. -/
theorem run_map (f : α → β) (action : Action S α) (s : S) :
    (f <$> action).run s =
      ⟨(action.run s).outcome.map f, (action.run s).final, (action.run s).events⟩ := by
  rw [← bind_pure_comp, run_bind]
  cases (action.run s).outcome <;> simp [Except.map]

/-! ## Single steps -/

/-- End early. -/
def fail (failure : Failure) : Action S α := ⟨fun s => ⟨.error failure, s, []⟩⟩

@[simp] theorem run_fail (failure : Failure) (s : S) :
    (fail failure : Action S α).run s = ⟨.error failure, s, []⟩ := rfl

/-- Look at the state and give what is found there, or fail. -/
def observe (f : S → Except Failure α) : Action S α := ⟨fun s => ⟨f s, s, []⟩⟩

@[simp] theorem run_observe (f : S → Except Failure α) (s : S) :
    (observe f).run s = ⟨f s, s, []⟩ := rfl

/-- Change the state. -/
def update (f : S → S) : Action S Unit := ⟨fun s => ⟨.ok (), f s, []⟩⟩

@[simp] theorem run_update (f : S → S) (s : S) : (update f).run s = ⟨.ok (), f s, []⟩ := rfl

/-- Let an observer see a step. -/
def emit (event : Event) : Action S Unit := ⟨fun s => ⟨.ok (), s, [event]⟩⟩

@[simp] theorem run_emit (event : Event) (s : S) :
    (emit event : Action S Unit).run s = ⟨.ok (), s, [event]⟩ := rfl

/-- Change the state as far as a change gets, and give its outcome. -/
def change (f : S → Except Fault α × S) : Action S α :=
  ⟨fun s => ⟨(f s).1.mapError .fault, (f s).2, []⟩⟩

@[simp] theorem run_change (f : S → Except Fault α × S) (s : S) :
    (change f).run s = ⟨(f s).1.mapError .fault, (f s).2, []⟩ := rfl

/-! ## Failures and states of others -/

/-- An action that never fails: what it gives is the outcome. -/
def attempt (action : Action S α) : Action S (Except Failure α) :=
  ⟨fun s => ⟨.ok (action.run s).outcome, (action.run s).final, (action.run s).events⟩⟩

@[simp] theorem run_attempt (action : Action S α) (s : S) :
    action.attempt.run s =
      ⟨.ok (action.run s).outcome, (action.run s).final, (action.run s).events⟩ := rfl

/-- An action with its failures replaced. -/
def mapFailure (f : Failure → Failure) (action : Action S α) : Action S α :=
  ⟨fun s => ⟨(action.run s).outcome.mapError f, (action.run s).final, (action.run s).events⟩⟩

@[simp] theorem run_mapFailure (f : Failure → Failure) (action : Action S α) (s : S) :
    (action.mapFailure f).run s =
      ⟨(action.run s).outcome.mapError f, (action.run s).final, (action.run s).events⟩ := rfl

/-- An action on a part of the state. -/
def within (get : S' → S) (set : S' → S → S') (action : Action S α) : Action S' α :=
  ⟨fun s =>
    let r := action.run (get s)
    ⟨r.outcome, set s r.final, r.events⟩⟩

@[simp] theorem run_within (get : S' → S) (set : S' → S → S') (action : Action S α) (s : S') :
    (action.within get set).run s =
      ⟨(action.run (get s)).outcome, set s (action.run (get s)).final,
        (action.run (get s)).events⟩ := rfl

end Action

end ServerLaunch
