/-
**What callbacks can rely on.**

Whatever is registered and whenever a manager is installed, also from within callbacks and to any
depth, and however callbacks end: nothing is fired before the manager is installed; between
callbacks each of them has either ended for good, never to be fired again, or waits exactly once;
and an install answers how many of the callbacks that it took, and fired in their order, ended well.
The default vendor record is stored by the first install only. `Machine.IsFaithful` lists these
properties, and `run_isFaithful` proves them of every run of a new manager.
-/

import FirmwareTables.Proofs.Manager.Installs

namespace FirmwareTables

/-! ### Being installed -/

namespace Ledger

variable {before after : Ledger} {history events : List Event}

/-- What a history says about the installation. -/
structure Begins (history : List Event) (ledger : Ledger) : Prop where
  /-- A manager is installed as soon as an install is called. -/
  installed : ledger.installed ↔ ∃ depth taken, .opened depth taken ∈ history
  /-- Nothing goes on with a manager that is not installed. -/
  busy : ledger.stack ≠ [] → ledger.installed

theorem Begins.start : Begins [] ⟨false, 0, [], []⟩ where
  installed := by simp
  busy absurd := (absurd rfl).elim

/-- Everything but an install leaves the installation as it is. -/
theorem Step.installed (step : Step before events after) :
    (after.installed = before.installed ∧ ∀ depth taken, .opened depth taken ∉ events) ∨
      after.installed = true ∧ ∃ depth taken, .opened depth taken ∈ events := by
  cases step with
  | none | changed | waits | begins | fires | closes | completes | retries | fails =>
    exact .inl ⟨rfl, by simp⟩
  | opens | refuses => exact .inr ⟨rfl, _, _, List.mem_cons_self⟩

theorem Begins.next (begins : Begins history before) (step : Step before events after) :
    Begins (history ++ events) after where
  installed := by
    rcases step.installed with ⟨same, none⟩ | ⟨now, depth, taken, member⟩
    · rw [same, begins.installed]
      refine exists_congr fun depth => exists_congr fun taken => ?_
      rw [List.mem_append, or_iff_left (none depth taken)]
    · exact iff_of_true now ⟨depth, taken, List.mem_append_right _ member⟩
  busy nonempty := by
    cases step with
    | begins | opens | refuses => rfl
    | none | changed | waits => exact begins.busy nonempty
    | fires | closes | completes | retries | fails => exact begins.busy (List.cons_ne_nil _ _)

/-- **Nothing is fired before the installation.** -/
theorem Begins.fires (begins : Begins history before) (step : Step before events after)
    {depth number : Nat} (fired : .fired depth number ∈ events) : before.installed := by
  cases step with
  | begins => rfl
  | fires => exact begins.busy (List.cons_ne_nil _ _)
  | none => cases fired
  | changed | waits | opens | refuses | closes | completes | retries | fails => simp at fired

end Ledger

/-! ### What lies on what -/

section

variable {σ : Type}

/-- A callback runs on anything, an install only on a callback that waits for it. -/
inductive IsPiled : List (Frame σ) → Prop
  /-- Nothing goes on. -/
  | nothing : IsPiled []
  /-- A callback runs. -/
  | running {below : List (Frame σ)} (callback : Callback σ) (script : Script σ) :
    IsPiled below → IsPiled (.running callback script :: below)
  /-- The manager was installed from outside. -/
  | outermost (queue : List (Callback σ)) (completed : Nat) :
    IsPiled [.installing queue completed]
  /-- A callback has installed the manager. -/
  | nested {below : List (Frame σ)} (queue : List (Callback σ)) (completed : Nat)
    (callback : Callback σ) (next : Except RepositoryError Nat → Script σ) :
    IsPiled below → IsPiled (.installing queue completed :: .waiting callback next :: below)

namespace IsPiled

open Machine

variable {below : List (Frame σ)} (manager : Manager σ)

theorem countCompleted (piled : IsPiled below) : IsPiled (countCompleted below) := by
  cases piled with
  | nothing => exact .nothing
  | running callback script rest => exact .running callback script rest
  | outermost queue completed => exact .outermost queue _
  | nested queue completed callback next rest => exact .nested queue _ callback next rest

theorem startRegister (piled : IsPiled below) (scripts : Nat → Script σ) :
    IsPiled (startRegister manager scripts below).stack := by
  unfold Machine.startRegister
  dsimp only
  split
  · exact .running _ _ piled
  · exact piled

theorem endCallback (piled : IsPiled below) (callback : Callback σ)
    (outcome : Except RepositoryError Unit) :
    IsPiled (endCallback manager callback outcome below).stack := by
  unfold Machine.endCallback
  split
  · exact piled.countCompleted
  · exact piled
  · exact piled

/-- What is going on stays piled up like this. -/
theorem next {machine next : Machine σ} {events : List Event} (piled : IsPiled machine.stack)
    (move : Move machine events next) : IsPiled next.stack := by
  obtain ⟨manager, stack, answer⟩ := machine
  cases move with
  | step busy =>
    cases piled with
    | nothing => cases busy
    | running callback script below =>
      cases script with
      | finish outcome => exact below.endCallback manager callback outcome
      | act change next => exact .running _ _ below
      | register scripts next => exact (running callback next below).startRegister manager scripts
      | install next =>
        unfold Machine.step startInstall
        dsimp only
        split
        · exact .nested _ _ _ _ below
        · exact .running _ _ below
    | outermost queue completed =>
      cases queue with
      | nil => exact .nothing
      | cons callback queue => exact .running _ _ (.outermost _ _)
    | nested queue completed callback next below =>
      cases queue with
      | nil => exact .running _ _ below
      | cons first queue => exact .running _ _ (.nested _ _ _ _ below)
  | register idle scripts => exact nothing.startRegister manager scripts
  | install idle =>
    unfold Manager.install startInstall
    dsimp only
    split
    · exact .outermost _ _
    · exact .nothing
  | change idle configuration host => exact .nothing

end IsPiled

/-! ### Answers and the default record -/

namespace Manager

variable (manager : Manager σ) {depth other : Nat}

theorem closed_not_mem_registering {completed : Nat} :
    .closed other completed ∉ manager.registering depth := by
  unfold registering
  split <;> simp

theorem closed_not_mem_installing {completed : Nat} :
    .closed other completed ∉ manager.installing depth := by
  simp [installing]

theorem opened_not_mem_registering {taken : Except RepositoryError (List Nat)} :
    .opened other taken ∉ manager.registering depth := by
  unfold registering
  split <;> simp

end Manager

namespace Machine

variable {machine next : Machine σ} {events : List Event} {depth completed : Nat}

/-- An install ends: whoever waits for it goes on with its answer, and if nobody does, the answer
is what the machine comes to. -/
def Answers (machine next : Machine σ) (completed : Nat) : Prop :=
  (machine.stack = [.installing [] completed] ∧
    next = ⟨machine.manager, [], some (.ok completed)⟩) ∨
  ∃ callback resume below,
    machine.stack = .installing [] completed :: .waiting callback resume :: below ∧
      next = ⟨machine.manager, .running callback (resume (.ok completed)) :: below, none⟩

/-- **The answer of an install** is delivered when it ends. -/
theorem answers (piled : IsPiled machine.stack) (move : Move machine events next)
    (ends : .closed depth completed ∈ events) : machine.Answers next completed := by
  obtain ⟨manager, stack, answer⟩ := machine
  cases move with
  | step busy =>
    cases piled with
    | nothing => cases busy
    | running callback script below =>
      cases script with
      | finish | act => simp [seen] at ends
      | register scripts next => exact absurd ends manager.closed_not_mem_registering
      | install next => exact absurd ends manager.closed_not_mem_installing
    | outermost queue count =>
      cases queue with
      | nil =>
        cases List.mem_singleton.mp ends
        exact .inl ⟨rfl, rfl⟩
      | cons callback queue => simp [seen] at ends
    | @nested below queue count callback resume rest =>
      cases queue with
      | nil =>
        cases List.mem_singleton.mp ends
        exact .inr ⟨callback, resume, below, rfl, rfl⟩
      | cons first queue => simp [seen] at ends
  | register idle scripts => exact absurd ends manager.closed_not_mem_registering
  | install idle => exact absurd ends manager.closed_not_mem_installing
  | change idle configuration host => simp at ends

end Machine

/-- The first install stores the default vendor record, or fails and stores nothing. -/
def Configuration.Seeds (before : Configuration) (taken : Except RepositoryError (List Nat))
    (after : Configuration) : Prop :=
  match taken with
  | .ok _ => before.seed = .ok after
  | .error error => before.seed = .error error ∧ after = before

section

open Machine

variable (manager : Manager σ) (below : List (Frame σ))

theorem manager_deliver (answer : Except RepositoryError Nat) :
    (deliver manager answer below).manager = manager := by
  unfold deliver
  split <;> rfl

theorem configuration_startRegister (scripts : Nat → Script σ) :
    (startRegister manager scripts below).manager.configuration = manager.configuration := by
  unfold startRegister
  dsimp only
  split <;> rfl

theorem configuration_endCallback (callback : Callback σ) (outcome : Except RepositoryError Unit) :
    (endCallback manager callback outcome below).manager.configuration = manager.configuration := by
  unfold endCallback
  split <;> rfl

theorem seeds_startInstall (absent : manager.installed = false) :
    manager.configuration.Seeds (manager.openInstall.2.map numbers)
      (startInstall manager below).manager.configuration := by
  cases seeded : manager.configuration.seed with
  | ok configuration =>
    have opened := manager.openInstall_of_seeded absent seeded
    rw [startInstall_of_ok below opened, opened]
    exact seeded
  | error error =>
    have opened := manager.openInstall_of_refused absent seeded
    rw [startInstall_of_error below opened, opened, manager_deliver]
    exact ⟨seeded, rfl⟩

theorem configuration_startInstall (present : manager.installed) :
    (startInstall manager below).manager.configuration = manager.configuration := by
  rw [startInstall_of_ok below (manager.openInstall_of_installed present)]

end

namespace Move

variable {machine next : Machine σ} {events : List Event}

/-- **What opens an install** starts one, on what is going on if anything is. -/
theorem opens (move : Move machine events next) {depth : Nat}
    {taken : Except RepositoryError (List Nat)} (opens : .opened depth taken ∈ events) :
    taken = machine.manager.openInstall.2.map numbers ∧
      ∃ below, next = Machine.startInstall machine.manager below ∧
        (machine.isIdle → below = []) := by
  obtain ⟨manager, stack, answer⟩ := machine
  cases move with
  | step busy =>
    cases stack with
    | nil => cases busy
    | cons frame below =>
      cases frame with
      | running callback script =>
        cases script with
        | finish | act => simp [Machine.seen] at opens
        | register scripts next => exact absurd opens manager.opened_not_mem_registering
        | install next =>
          cases List.mem_singleton.mp opens
          exact ⟨rfl, _, rfl, fun idle => absurd (busy.symm.trans idle) Bool.false_ne_true⟩
      | waiting => simp [Machine.seen] at opens
      | installing queue completed => cases queue <;> simp [Machine.seen] at opens
  | register idle scripts => exact absurd opens manager.opened_not_mem_registering
  | install idle =>
    cases List.mem_singleton.mp opens
    exact ⟨rfl, [], rfl, fun _ => rfl⟩
  | change idle configuration host => simp at opens

/-- **The first install** stores the default vendor record. -/
theorem seeds (move : Move machine events next) (absent : machine.manager.installed = false)
    {depth : Nat} {taken : Except RepositoryError (List Nat)}
    (opens : .opened depth taken ∈ events) :
    machine.manager.configuration.Seeds taken next.manager.configuration := by
  obtain ⟨rfl, below, rfl, -⟩ := move.opens opens
  exact seeds_startInstall machine.manager below absent

/-- **Only changes and the first install** touch what is configured. -/
theorem configuration_eq (move : Move machine events next) (still : .changed ∉ events)
    (later : machine.manager.installed ∨ ∀ depth taken, .opened depth taken ∉ events) :
    next.manager.configuration = machine.manager.configuration := by
  obtain ⟨manager, stack, answer⟩ := machine
  cases move with
  | step busy =>
    cases stack with
    | nil => cases busy
    | cons frame below =>
      cases frame with
      | running callback script =>
        cases script with
        | finish outcome => exact configuration_endCallback manager below callback outcome
        | act change next => exact absurd List.mem_cons_self still
        | register scripts next => exact configuration_startRegister manager _ scripts
        | install next =>
          rcases later with present | none
          · exact configuration_startInstall manager _ present
          · exact absurd List.mem_cons_self (none _ _)
      | waiting => rfl
      | installing queue completed =>
        cases queue with
        | nil => exact congrArg Manager.configuration (manager_deliver manager below _)
        | cons callback queue => rfl
  | register idle scripts => exact configuration_startRegister manager _ scripts
  | install idle =>
    rcases later with present | none
    · exact configuration_startInstall manager _ present
    · exact absurd List.mem_cons_self (none _ _)
  | change idle configuration host => exact absurd List.mem_cons_self still

end Move

/-! ### Runs -/

namespace Machine

/-- No callback runs, though an install may be about to fire one. -/
def IsQuiet (machine : Machine σ) : Prop :=
  ∀ frame ∈ machine.stack, ∃ queue completed, frame = .installing queue completed

/-- The callbacks that wait to be fired, for an install or by one that has taken them. -/
def queued (machine : Machine σ) : List Nat :=
  numbers machine.manager.pending ++ machine.stack.flatMap fun
    | .installing queue _ => numbers queue
    | _ => []

/-- A callback does not wait, has ended last with an outcome that is final, and is never fired
again. -/
def IsFinished (machine : Machine σ) (history : List Event) (number : Nat) : Prop :=
  number ∉ machine.queued ∧
    (∃ outcome, (outcomes history number).getLast? = some outcome ∧
      outcome ≠ .error .unsupported) ∧
    ∀ {later : List Event} {next : Machine σ}, Run machine later next → firings later number = 0

/-- A callback waits exactly once, and each time that it was fired it ended with `unsupported`. -/
def IsPending (machine : Machine σ) (history : List Event) (number : Nat) : Prop :=
  machine.queued.count number = 1 ∧
    ∀ outcome ∈ outcomes history number, outcome = .error .unsupported

/-- What callbacks can rely on after a history. -/
structure IsFaithful (machine : Machine σ) (history : List Event) : Prop where
  /-- Nothing is fired while the manager is not installed. -/
  fires : ∀ {events : List Event} {next : Machine σ} {depth number : Nat},
    Move machine events next → .fired depth number ∈ events → machine.manager.installed
  /-- Each registration has a number of its own. -/
  registered : registrations history = List.range machine.manager.registered
  /-- Whenever no callback runs, each has ended as often as it was fired, and either is finished or
  waits exactly once. -/
  settled : machine.IsQuiet → ∀ number < machine.manager.registered,
    firings history number = (outcomes history number).length ∧
      Xor (machine.IsFinished history number) (machine.IsPending history number)
  /-- An install takes all callbacks that wait. -/
  takes : ∀ {events : List Event} {next : Machine σ} {depth : Nat} {queue : List Nat},
    Move machine events next → .opened depth (.ok queue) ∈ events →
      queue = numbers machine.manager.pending ∧ next.manager.pending = []
  /-- An install that has ended has fired those it took, in their order, and has counted those of
  them that ended well. -/
  counts : ∀ {earlier during later : List Event} {depth completed : Nat} {queue : List Nat},
    history = earlier ++ .opened depth (.ok queue) :: (during ++ .closed depth completed :: later) →
      (∀ number, .closed depth number ∉ during) →
        firedAt during (depth + 1) = queue ∧ completed = completedAt during (depth + 1)
  /-- This number is the answer of the install. -/
  answers : ∀ {events : List Event} {next : Machine σ} {depth completed : Nat},
    Move machine events next → .closed depth completed ∈ events → machine.Answers next completed
  /-- The first install stores the default vendor record. -/
  seeds : (∀ depth taken, .opened depth taken ∉ history) →
    ∀ {events : List Event} {next : Machine σ} {depth : Nat}
      {taken : Except RepositoryError (List Nat)},
      Move machine events next → .opened depth taken ∈ events →
        machine.manager.configuration.Seeds taken next.manager.configuration
  /-- Later installs and everything else that is not a change leave what is configured alone. -/
  keeps : ∀ {events : List Event} {next : Machine σ}, Move machine events next →
    .changed ∉ events →
      ((∃ depth taken, .opened depth taken ∈ history) ∨
        ∀ depth taken, .opened depth taken ∉ events) →
        next.manager.configuration = machine.manager.configuration

theorem running_of_quiet {machine : Machine σ} (quiet : machine.IsQuiet) :
    machine.ledger.running = [] := by
  refine List.flatMap_eq_nil_iff.mpr fun activity member => ?_
  obtain ⟨frame, inside, rfl⟩ := List.mem_map.mp member
  obtain ⟨queue, completed, rfl⟩ := quiet frame inside
  rfl

theorem inside_of_quiet {machine : Machine σ} (quiet : machine.IsQuiet) :
    machine.ledger.inside = machine.queued := by
  unfold Ledger.inside queued ledger
  rw [List.flatMap_map]
  refine congrArg (numbers machine.manager.pending ++ ·) ?_
  rw [List.flatMap_def, List.flatMap_def]
  refine congrArg List.flatten (List.map_congr_left fun frame member => ?_)
  obtain ⟨queue, completed, rfl⟩ := quiet frame member
  rfl

end Machine

namespace Run

variable {host : σ} {history later : List Event} {machine next : Machine σ}

theorem accounts (run : Run (.atRest (.new host)) history machine) :
    Ledger.Accounts history machine.ledger := by
  induction run with
  | start => exact .start
  | next _ move ih => exact ih.next move.changes_ledger

theorem follows (run : Run (.atRest (.new host)) history machine) :
    Ledger.Follows history machine.ledger := by
  induction run with
  | start => exact .start _
  | next _ move ih => exact ih.next move.changes_ledger

theorem begins (run : Run (.atRest (.new host)) history machine) :
    Ledger.Begins history machine.ledger := by
  induction run with
  | start => exact .start
  | next _ move ih => exact ih.next move.changes_ledger

theorem isPiled (run : Run (.atRest (.new host)) history machine) : IsPiled machine.stack := by
  induction run with
  | start => exact .nothing
  | next _ move ih => exact ih.next move

/-- What is out is never fired again, however the run goes on. -/
theorem firings_of_isOut (accounts : Ledger.Accounts history machine.ledger) {number : Nat}
    (out : machine.ledger.IsOut number) (run : Run machine later next) :
    firings later number = 0 := by
  suffices held : Ledger.Accounts (history ++ later) next.ledger ∧ next.ledger.IsOut number ∧
      firings later number = 0 from held.2.2
  induction run with
  | start => exact ⟨by rwa [List.append_nil], out, rfl⟩
  | next _ move ih =>
    obtain ⟨kept, still, none⟩ := ih
    obtain ⟨after, now⟩ := still.next kept.nodup move.changes_ledger
    refine ⟨?_, after, ?_⟩
    · rw [← List.append_assoc]
      exact kept.next move.changes_ledger
    · rw [firings_append, none, now]

end Run

/-- **Between callbacks** each of them is finished or waits exactly once. -/
theorem Machine.settled {machine : Machine σ} {history : List Event}
    (accounts : Ledger.Accounts history machine.ledger) (quiet : machine.IsQuiet) {number : Nat}
    (known : number < machine.manager.registered) :
    firings history number = (outcomes history number).length ∧
      Xor (machine.IsFinished history number) (machine.IsPending history number) := by
  have inside := inside_of_quiet quiet
  have balance := accounts.balance number
  rw [running_of_quiet quiet] at balance
  refine ⟨balance, ?_⟩
  by_cases waits : number ∈ machine.ledger.inside
  · refine .inr ⟨⟨?_, accounts.retried number waits⟩, fun finished => ?_⟩
    · rw [← inside]
      exact List.count_eq_one_of_mem accounts.nodup waits
    · rw [inside] at waits
      exact finished.1 waits
  · have final := accounts.final number known waits
    refine .inl ⟨⟨?_, final, ?_⟩, fun pending => ?_⟩
    · rwa [← inside]
    · exact Run.firings_of_isOut accounts ⟨known, waits⟩
    · have absent := List.count_eq_zero.mpr waits
      rw [inside, pending.1] at absent
      cases absent

/-- **No callback is lost, fired twice or fired too early**, whatever is done with a new manager. -/
theorem run_isFaithful {host : σ} {history : List Event} {machine : Machine σ}
    (run : Run (.atRest (.new host)) history machine) : machine.IsFaithful history where
  fires move fired := run.begins.fires move.changes_ledger fired
  registered := run.accounts.registered
  settled quiet _ known := Machine.settled run.accounts quiet known
  takes {_ next _ _} move opens := by
    obtain ⟨_, taken, none, _⟩ := move.changes_ledger.opening opens
    exact ⟨taken, List.map_eq_nil_iff.mp none⟩
  counts := run.follows.ended
  answers move ends := Machine.answers run.isPiled move ends
  seeds first {_ _ _ _} move opens := by
    refine move.seeds ?_ opens
    rw [← Bool.not_eq_true]
    intro present
    obtain ⟨depth, taken, member⟩ := run.begins.installed.mp present
    exact first depth taken member
  keeps move still later := move.configuration_eq still (later.imp_left run.begins.installed.mpr)

end

/-- A callback that is not ready at first, but registers another one and installs the manager. -/
def hasty : Nat → Script Unit
  | 0 => .register (fun _ => .finish (.ok ())) (.install fun _ => .finish (.error .unsupported))
  | _ => .finish (.ok ())

/-- The hasty callback waits after the first install, and the second one completes it. -/
theorem run_isFaithful_hasty : ∃ machine : Machine Unit,
    let history : List Event := [.registered 0, .opened 0 (.ok [0]), .fired 1 0, .registered 1,
      .fired 2 1, .ended 2 1 (.ok ()), .opened 2 (.ok []), .closed 2 0,
      .ended 1 0 (.error .unsupported), .closed 0 0, .opened 0 (.ok [0]), .fired 1 0,
      .ended 1 0 (.ok ()), .closed 0 1]
    Run (.atRest (.new ())) history machine ∧ machine.isIdle ∧ machine.queued = [] ∧
      machine.IsFaithful history := by
  have registered := (@Run.start _ (Machine.atRest (Manager.new ()))).next (.register rfl hasty)
  have inner := ((((registered.next (.install rfl)).next (.step rfl)).next (.step rfl)).next
    (.step rfl)).next (.step rfl)
  have outer := ((inner.next (.step rfl)).next (.step rfl)).next (.step rfl)
  have again := (((outer.next (.install rfl)).next (.step rfl)).next (.step rfl)).next (.step rfl)
  exact ⟨_, again, rfl, rfl, run_isFaithful again⟩

end FirmwareTables
