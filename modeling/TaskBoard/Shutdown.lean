/-!
# Shutdown

Tasks in the background are registered, and at the end all of them are told to stop and
waited for.  The signal is given once and stays.  Others subscribe to it, or wait for it.  A
shutdown gives the signal, takes the tasks registered so far out of the list, and says whether
all of them ended in time.  A service and its clones have all of this in common, so it does not
matter which of them is called.

    after a shutdown no task is left to be waited for           (tasks_shutdown)
    a shutdown gives the signal                                 (isTriggered_shutdown)
-/

namespace TaskBoard

/-- A signal as its reader sees it: what was sent last, and whether that was since the reader
last looked. -/
structure StopSignal where
  stop : Bool
  isNew : Bool
  deriving Repr, DecidableEq

namespace StopSignal

/-- Nothing has been sent. -/
def initial : StopSignal := ⟨false, false⟩

/-- Something has just been sent. -/
def sent (stop : Bool) : StopSignal := ⟨stop, true⟩

end StopSignal

/-- How a task in the background ends. -/
inductive BackgroundTask
  /-- It has ended. -/
  | ended
  /-- It ends on the signal. -/
  | onSignal
  /-- It never ends. -/
  | never
  deriving Repr, DecidableEq

/-- Whether a task has ended, or will in time, if the signal has been given or not. -/
def BackgroundTask.hasEnded (signalled : Bool) : BackgroundTask → Bool
  | .ended => true
  | .onSignal => signalled
  | .never => false

structure Shutdown where
  /-- The signal as the service sees it, which never looks at what is new. -/
  reader : StopSignal
  /-- The signal as each subscriber sees it. -/
  subscribers : List StopSignal
  /-- Of all who have waited for the signal, whether their wait is over. -/
  waiters : List Bool
  /-- The tasks to be waited for. -/
  tasks : List BackgroundTask
  deriving Repr, DecidableEq

/-- What a service is called for. -/
inductive ShutdownCall
  | register (t : BackgroundTask)
  | subscribe
  | trigger
  | wait
  | shutdown
  deriving Repr, DecidableEq

namespace Shutdown

def initial : Shutdown := ⟨.initial, [], [], []⟩

def register (s : Shutdown) (t : BackgroundTask) : Shutdown := { s with tasks := s.tasks ++ [t] }

/-- A new subscriber sees what the service sees. -/
def subscribe (s : Shutdown) : Shutdown := { s with subscribers := s.subscribers ++ [s.reader] }

/-- Whether the signal has been given. -/
def isTriggered (s : Shutdown) : Bool := s.reader.stop

/-- Gives the signal, to everyone who reads it or waits for it. -/
def trigger (s : Shutdown) : Shutdown :=
  { s with
    reader := .sent true
    subscribers := s.subscribers.map fun _ => .sent true
    waiters := s.waiters.map fun _ => true }

/-- Waits for the signal.  The wait is over at once if the signal has been given. -/
def wait (s : Shutdown) : Shutdown := { s with waiters := s.waiters ++ [s.isTriggered] }

/-- Takes the tasks out of the list. -/
def takeTasks (s : Shutdown) : List BackgroundTask × Shutdown := (s.tasks, { s with tasks := [] })

/-- Gives the signal and waits for the tasks; tells whether all of them ended in time. -/
def shutdown (s : Shutdown) : Bool × Shutdown :=
  let (tasks, s) := s.trigger.takeTasks
  (tasks.all (·.hasEnded s.isTriggered), s)

def step (s : Shutdown) : ShutdownCall → Shutdown
  | .register t => s.register t
  | .subscribe => s.subscribe
  | .trigger => s.trigger
  | .wait => s.wait
  | .shutdown => s.shutdown.2

/-- The service after all the calls. -/
def run (s : Shutdown) (calls : List ShutdownCall) : Shutdown := calls.foldl step s

/-! ## Lemmas -/

theorem tasks_shutdown (s : Shutdown) : s.shutdown.2.tasks = [] := rfl

theorem isTriggered_shutdown (s : Shutdown) : s.shutdown.2.isTriggered = true := rfl

/-- The answer is about the tasks in the list. -/
theorem answer_shutdown (s : Shutdown) : s.shutdown.1 = s.tasks.all (·.hasEnded true) := rfl

end Shutdown

end TaskBoard
