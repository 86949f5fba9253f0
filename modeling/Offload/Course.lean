/-! # Courses of work

A piece of work that can be seen while it is done: it writes output, gives warnings, and ends in a
result or a fault. What was seen before a fault stays seen. A course is a value, so what happened
and in which order can be read off it; `bind_events_of_ok` and `bind_events_of_error` say how the
courses of two steps make up the course of both, and of more steps it does not matter which two are
taken together (`andThen_assoc`).
-/

namespace Offload

/-- Something that is seen of the work. -/
inductive Course.Event where
  | output (text : String)
  | warning (message : String)
deriving DecidableEq, Repr

/-- What was seen of the work, in order, and how it ended. -/
structure Course (ε α : Type) where
  events : List Course.Event
  result : Except ε α
deriving Repr

namespace Course

variable {ε α β : Type}

/-- Do one piece of work and then the next, unless the first one fails. -/
def andThen (first : Course ε α) (next : α → Course ε β) : Course ε β :=
  match first.result with
  | .ok value => ⟨first.events ++ (next value).events, (next value).result⟩
  | .error fault => ⟨first.events, .error fault⟩

instance : Monad (Course ε) where
  pure value := ⟨[], .ok value⟩
  bind := andThen

/-- Work that is not seen. -/
def quietly (result : Except ε α) : Course ε α := ⟨[], result⟩

/-- Write output. -/
def write (text : String) : Course ε Unit := ⟨[.output text], .ok ()⟩

/-- Give warnings in order. -/
def warn (messages : List String) : Course ε Unit := ⟨messages.map .warning, .ok ()⟩

/-- All output together. -/
def output (course : Course ε α) : String :=
  String.join (course.events.filterMap fun
    | .output text => some text
    | .warning _ => none)

/-- All warnings in order. -/
def warnings (course : Course ε α) : List String :=
  course.events.filterMap fun
    | .output _ => none
    | .warning message => some message

@[simp] theorem pure_events (value : α) : (pure value : Course ε α).events = [] := rfl

@[simp] theorem pure_result (value : α) : (pure value : Course ε α).result = .ok value := rfl

theorem bind_events_of_ok {first : Course ε α} {value : α} (success : first.result = .ok value)
    (next : α → Course ε β) : (first >>= next).events = first.events ++ (next value).events := by
  change (andThen first next).events = _
  simp [andThen, success]

theorem bind_result_of_ok {first : Course ε α} {value : α} (success : first.result = .ok value)
    (next : α → Course ε β) : (first >>= next).result = (next value).result := by
  change (andThen first next).result = _
  simp [andThen, success]

theorem bind_events_of_error {first : Course ε α} {fault : ε} (failed : first.result = .error fault)
    (next : α → Course ε β) : (first >>= next).events = first.events := by
  change (andThen first next).events = _
  simp [andThen, failed]

theorem bind_result_of_error {first : Course ε α} {fault : ε} (failed : first.result = .error fault)
    (next : α → Course ε β) : (first >>= next).result = .error fault := by
  change (andThen first next).result = _
  simp [andThen, failed]

theorem quietly_bind (value : α) (next : α → Course ε β) :
    (quietly (.ok value) >>= next) = next value := rfl

theorem andThen_assoc {γ : Type} (first : Course ε α) (second : α → Course ε β)
    (third : β → Course ε γ) : (first.andThen second).andThen third =
      first.andThen fun value => (second value).andThen third := by
  unfold andThen
  cases first.result with
  | error fault => rfl
  | ok value =>
    dsimp only
    cases (second value).result with
    | error fault => rfl
    | ok value => simp only [List.append_assoc]

theorem andThen_pure (course : Course ε α) : course.andThen pure = course := by
  obtain ⟨events, result⟩ := course
  cases result with
  | error fault => rfl
  | ok value => simp [andThen]

instance : LawfulMonad (Course ε) :=
  LawfulMonad.mk' (Course ε) andThen_pure (fun _ _ => rfl) andThen_assoc

theorem bind_result (first : Course ε α) (next : α → Course ε β) :
    (first >>= next).result = first.result >>= fun value => (next value).result := by
  cases done : first.result with
  | error fault => exact bind_result_of_error done next
  | ok value => exact bind_result_of_ok done next

/-- Of two steps the second is seen only where the first one succeeds. -/
theorem bind_events (first : Course ε α) (next : α → Course ε β) : (first >>= next).events =
    first.events ++ first.result.toOption.elim [] fun value => (next value).events := by
  cases done : first.result with
  | error fault =>
    rw [bind_events_of_error done]
    exact (List.append_nil _).symm
  | ok value => exact bind_events_of_ok done next

end Course

end Offload
