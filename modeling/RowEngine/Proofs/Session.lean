import RowEngine.Operator.Basic

/-!
# Operators at work

A consumer asks an operator for rows, starts it over and closes it, and the task it belongs to may be
stopped. Most consumers only ask for rows and start over; such a session is a task that is not
stopped, of which one also knows which rows have been received.
-/

namespace RowEngine.Operator

variable {op : Operator}

inductive Command where
  | next
  | rescan
  | close
  | stop
  deriving DecidableEq, Repr

/-- An operator at work. A task that has been stopped stays so. -/
structure Task (op : Operator) where
  state : op.State
  stopped : Bool

namespace Task

def start (op : Operator) : Task op := ⟨op.start, false⟩

/-- Carries out a command; what comes of it makes no difference to the commands after it. -/
def after (task : Task op) : Command → Task op
  | .next => { task with state := (op.next task.stopped task.state).state }
  | .rescan => { task with state := (op.rescan task.state).state }
  | .close => { task with state := (op.close task.state).state }
  | .stop => { task with stopped := true }

def run (task : Task op) (commands : List Command) : Task op :=
  commands.foldl after task

theorem run_append (task : Task op) (commands more : List Command) :
    task.run (commands ++ more) = (task.run commands).run more :=
  List.foldl_append

/-- Once a task has been stopped, and not before, it is stopped. -/
theorem stopped_run (task : Task op) (commands : List Command) :
    (task.run commands).stopped = (task.stopped || decide (.stop ∈ commands)) := by
  induction commands generalizing task with
  | nil => simp [run]
  | cons command commands ih =>
    rw [run, List.foldl_cons, ← run, ih]
    cases command <;> simp [after]

/-- A property of the state that each of some commands keeps holds after all of them. -/
theorem run_keeps_of_mem {Inv : op.State → Prop} {commands : List Command}
    (h : ∀ command ∈ commands, ∀ task : Task op, Inv task.state → Inv (task.after command).state)
    (task : Task op) (hs : Inv task.state) : Inv (task.run commands).state := by
  induction commands generalizing task with
  | nil => exact hs
  | cons command commands ih =>
    obtain ⟨hfirst, hrest⟩ := List.forall_mem_cons.mp h
    exact ih hrest (task.after command) (hfirst task hs)

/-- A property that every command keeps holds after any commands. -/
theorem run_keeps {Inv : op.State → Prop}
    (hnext : ∀ stopped s, Inv s → Inv (op.next stopped s).state)
    (hrescan : ∀ s, Inv s → Inv (op.rescan s).state) (hclose : ∀ s, Inv s → Inv (op.close s).state)
    (task : Task op) (hs : Inv task.state) (commands : List Command) :
    Inv (task.run commands).state := by
  refine run_keeps_of_mem (fun command _ task hs => ?_) task hs
  cases command with
  | next => exact hnext task.stopped task.state hs
  | rescan => exact hrescan task.state hs
  | close => exact hclose task.state hs
  | stop => exact hs

end Task

/-- The commands of a consumer that neither closes nor stops what it reads. -/
inductive Request where
  | next
  | rescan
  deriving DecidableEq, Repr

def Request.command : Request → Command
  | next => .next
  | rescan => .rescan

structure Session (op : Operator) where
  state : op.State
  /-- The rows received since the last start. -/
  seen : List Row

namespace Session

def start (op : Operator) : Session op := ⟨op.start, []⟩

def task (session : Session op) : Task op := ⟨session.state, false⟩

def received (session : Session op) : Request → List Row
  | .next =>
    match (op.next false session.state).outcome with
    | .ok (some row) => session.seen ++ [row]
    | _ => session.seen
  | .rescan => []

def after (session : Session op) (request : Request) : Session op :=
  ⟨(session.task.after request.command).state, session.received request⟩

def run (session : Session op) (requests : List Request) : Session op :=
  requests.foldl after session

@[simp] theorem state_after_next (session : Session op) :
    (session.after .next).state = (op.next false session.state).state := rfl

@[simp] theorem state_after_rescan (session : Session op) :
    (session.after .rescan).state = (op.rescan session.state).state := rfl

theorem after_next_row {session : Session op} {row : Row}
    (h : (op.next false session.state).outcome = .ok (some row)) :
    session.after .next = ⟨(op.next false session.state).state, session.seen ++ [row]⟩ := by
  rw [after, received, h]
  rfl

theorem after_next_error {session : Session op} {e : Failure}
    (h : (op.next false session.state).outcome = .error e) :
    session.after .next = ⟨(op.next false session.state).state, session.seen⟩ := by
  rw [after, received, h]
  rfl

theorem task_after (session : Session op) (request : Request) :
    (session.after request).task = session.task.after request.command := by
  cases request <;> rfl

/-- The requests of a session do to the operator what they do as the commands of a task. -/
theorem task_run (session : Session op) (requests : List Request) :
    (session.run requests).task = session.task.run (requests.map Request.command) := by
  induction requests generalizing session with
  | nil => rfl
  | cons request requests ih =>
    rw [run, List.foldl_cons, ← run, ih, task_after]
    rfl

/-- A property that every request keeps holds after any requests. -/
theorem run_keeps {Inv : op.State → Prop}
    (hnext : ∀ stopped s, Inv s → Inv (op.next stopped s).state)
    (hrescan : ∀ s, Inv s → Inv (op.rescan s).state) (session : Session op)
    (hs : Inv session.state) (requests : List Request) : Inv (session.run requests).state := by
  have hcommands : ∀ command ∈ requests.map Request.command, ∀ task : Task op,
      Inv task.state → Inv (task.after command).state := by
    intro command hmem task hs
    obtain ⟨request, -, rfl⟩ := List.mem_map.mp hmem
    cases request with
    | next => exact hnext task.stopped task.state hs
    | rescan => exact hrescan task.state hs
  have hstate := Task.run_keeps_of_mem hcommands session.task hs
  rwa [← task_run] at hstate

end Session

end RowEngine.Operator
