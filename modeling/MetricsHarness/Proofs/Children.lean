import Mathlib.Data.Nat.Basic
import Mathlib.Order.Basic
import MetricsHarness.App.Stopping

/-!
# A child process and the calls about it

A child ends at any moment of its own accord, or never; a signal may end it or not. Once it has
ended it stays so until somebody looks at it, which reaps it. What the calls of a system do about a
child, and what their answers say of it, is stated here call by call (`ChildSystem.Obeys`): before
and after a call, and within it, any time can pass and the child can end.

Every call keeps some things (`Child.Evolves`): the clock and the signals that were sent only grow,
no child runs again, and whatever was known to have happened before some time stays so. What a run
of calls does is then put together from the calls (`Child.Evolves.trans`).
-/

namespace MetricsHarness

/-- A signal that asks a process to end, or ends it. -/
inductive Signal where
  | terminate
  | kill
  deriving DecidableEq

/-- A signal that was sent to a process: whether it was delivered, and when. -/
structure Sending where
  signal : Signal
  delivered : Bool
  time : Nat
  deriving DecidableEq

/-- The life of a process: after its end its parent can still ask for it, until it is reaped. -/
inductive Life where
  | running
  | ended (time : Nat) (ending : Ending)
  | reaped (time : Nat) (ending : Ending)
  deriving DecidableEq

/-- A child process, as far as it matters to its parent: the time in nanoseconds, its life, and the
signals that were sent to it. -/
structure Child where
  clock : Nat
  life : Life
  sent : List Sending
  deriving DecidableEq

namespace Child

/-- The nanoseconds of some seconds. -/
def nanoseconds (seconds : Nat) : Nat := 1000000000 * seconds

/-- A child to which a signal is sent. -/
def send (c : Child) (signal : Signal) (delivered : Bool) : Child :=
  { c with sent := c.sent ++ [⟨signal, delivered, c.clock⟩] }

/-! ## Calls -/

/-- Time passes, and a child that runs may end meanwhile. -/
inductive Passes (c : Child) : Child → Prop
  | on {clock : Nat} (later : c.clock ≤ clock) : Passes c { c with clock }
  | out {clock time : Nat} (ending : Ending) (runs : c.life = .running) (after : c.clock ≤ time)
      (before : time ≤ clock) : Passes c { c with clock, life := .ended time ending }

/-- A look at a child tells how it has ended, if it has; then it is reaped. -/
inductive Looks (c : Child) : Except String (Option Ending) → Child → Prop
  | failed {c' : Child} (reason : String) (passes : c.Passes c') : Looks c (.error reason) c'
  | running {seen c' : Child} (passes : c.Passes seen) (runs : seen.life = .running)
      (passes' : seen.Passes c') : Looks c (.ok none) c'
  | gone {seen c' : Child} {time : Nat} {ending : Ending} (passes : c.Passes seen)
      (gone : seen.life = .ended time ending ∨ seen.life = .reaped time ending)
      (passes' : Passes { seen with life := .reaped time ending } c') :
      Looks c (.ok (some ending)) c'

/-- A signal is sent, and delivered or not. -/
inductive Sends (signal : Signal) (c : Child) : Bool → Child → Prop
  | intro {delivered : Bool} {here c' : Child} (passes : c.Passes here)
      (passes' : (here.send signal delivered).Passes c') : Sends signal c delivered c'

/-- A child is killed without a wait; nothing is sent if the system refuses. -/
inductive Strikes (c : Child) : Child → Prop
  | refused {c' : Child} (passes : c.Passes c') : Strikes c c'
  | sent {delivered : Bool} {c' : Child} (sends : Sends .kill c delivered c') : Strikes c c'

/-- A wait for the end of a child, at most some seconds. It is over without an end only if the child
was looked at when the time was over, and ran. -/
inductive Waits (seconds : Nat) (c : Child) : Awaited → Child → Prop
  | failed {c' : Child} (reason : String) (passes : c.Passes c') :
      Waits seconds c (.failed reason) c'
  | ended {c' : Child} {ending : Ending} (looks : Looks c (.ok (some ending)) c') :
      Waits seconds c (.ended ending) c'
  | expired {seen c' : Child} (passes : c.Passes seen)
      (late : c.clock + nanoseconds seconds ≤ seen.clock) (runs : seen.life = .running)
      (passes' : seen.Passes c') : Waits seconds c .expired c'

/-- A child is killed, and its end awaited without a limit. -/
inductive Kills (c : Child) : Except String Unit → Child → Prop
  | failed {c' : Child} (reason : String) (strikes : c.Strikes c') : Kills c (.error reason) c'
  | ended {struck c' : Child} {ending : Ending} (sends : Sends .kill c true struck)
      (looks : Looks struck (.ok (some ending)) c') : Kills c (.ok ()) c'

end Child

/-- The calls of a system do to a child, which its state tells, what they are there for. -/
structure ChildSystem.Obeys {κ : Type} (system : ChildSystem κ) (child : κ → Child) : Prop where
  poll : ∀ s, (child s).Looks (system.poll s).1 (child (system.poll s).2)
  ask : ∀ s, (child s).Sends .terminate (system.ask s).1 (child (system.ask s).2)
  strike : ∀ s, (child s).Strikes (child (system.strike s))
  await : ∀ seconds s,
    (child s).Waits seconds (system.await seconds s).1 (child (system.await seconds s).2)
  kill : ∀ s, (child s).Kills (system.kill s).1 (child (system.kill s).2)

namespace Child

/-! ## What calls keep -/

/-- The time until which a child is known to have run: now, or its end. -/
def ranUntil (c : Child) : Nat :=
  match c.life with
  | .running => c.clock
  | .ended time _ => time
  | .reaped time _ => time

/-- A child has ended and been reaped. -/
def IsReaped (c : Child) : Prop := ∃ time ending, c.life = .reaped time ending

/-- What becomes of a child, and the signals that are sent to it on the way. -/
structure Evolves (c : Child) (signals : List Sending) (c' : Child) : Prop where
  clock : c.clock ≤ c'.clock
  sent : c'.sent = c.sent ++ signals
  since : ∀ s ∈ signals, c.clock ≤ s.time
  till : ∀ s ∈ signals, s.time ≤ c'.clock
  running : c'.life = .running → c.life = .running
  reaped {time : Nat} {ending : Ending} :
    c.life = .reaped time ending → c'.life = .reaped time ending
  ranUntil : c.ranUntil ≤ c'.ranUntil

variable {c m c' : Child}

/-- One stretch of life follows another. -/
theorem Evolves.trans {first second : List Sending} (before : c.Evolves first m)
    (after : m.Evolves second c') : c.Evolves (first ++ second) c' where
  clock := before.clock.trans after.clock
  sent := by rw [after.sent, before.sent, List.append_assoc]
  since := List.forall_mem_append.mpr
    ⟨before.since, fun s mem => before.clock.trans (after.since s mem)⟩
  till := List.forall_mem_append.mpr
    ⟨fun s mem => (before.till s mem).trans after.clock, after.till⟩
  running runs := before.running (after.running runs)
  reaped gone := after.reaped (before.reaped gone)
  ranUntil := before.ranUntil.trans after.ranUntil

/-- Where nothing is sent in between, the signals are those of the rest. -/
theorem Evolves.then {signals : List Sending} (before : c.Evolves [] m)
    (after : m.Evolves signals c') : c.Evolves signals c' := before.trans after

theorem Passes.evolves (passes : c.Passes c') : c.Evolves [] c' := by
  cases passes with
  | @on clock later =>
    have ran : c.ranUntil ≤ ranUntil { c with clock } := by
      cases life : c.life with
      | running => simpa [ranUntil, life] using later
      | ended time ending => simp [ranUntil, life]
      | reaped time ending => simp [ranUntil, life]
    exact ⟨later, by simp, by simp, by simp, fun runs => runs, fun gone => gone, ran⟩
  | @out clock time ending runs after before =>
    have ran : c.ranUntil ≤ time := by simpa [ranUntil, runs] using after
    exact ⟨after.trans before, by simp, by simp, by simp, fun _ => runs, by simp [runs], ran⟩

/-- A child lives on behind a signal. -/
theorem evolves_send (c : Child) (signal : Signal) (delivered : Bool) :
    c.Evolves [⟨signal, delivered, c.clock⟩] (c.send signal delivered) :=
  ⟨le_rfl, rfl, by simp, by simp [send], fun runs => runs, fun gone => gone, le_rfl⟩

/-- To reap a child changes nothing of when it has ended. -/
theorem evolves_reap {time : Nat} {ending : Ending}
    (gone : c.life = .ended time ending ∨ c.life = .reaped time ending) :
    c.Evolves [] { c with life := .reaped time ending } := by
  have ran : c.ranUntil ≤ time := by
    rcases gone with life | life <;> simp [ranUntil, life]
  refine ⟨le_rfl, by simp, by simp, by simp, by simp, ?_, ran⟩
  intro time' ending' reaped
  rcases gone with ended | already
  · simp [ended] at reaped
  · exact already.symm.trans reaped

/-- A look lets the child live on without a signal. -/
theorem Looks.evolves {answer : Except String (Option Ending)} (looks : c.Looks answer c') :
    c.Evolves [] c' := by
  cases looks with
  | failed _ passes => exact passes.evolves
  | running passes _ passes' => exact passes.evolves.then passes'.evolves
  | gone passes gone passes' => exact (passes.evolves.then (evolves_reap gone)).then passes'.evolves

/-- A child that is told to have ended is reaped. -/
theorem Looks.isReaped {ending : Ending} (looks : c.Looks (.ok (some ending)) c') :
    c'.IsReaped := by
  cases looks with
  | gone _ _ passes' => exact ⟨_, ending, passes'.evolves.reaped rfl⟩

/-- A child that is told to run ran before. -/
theorem Looks.runs (looks : c.Looks (.ok none) c') : c.life = .running := by
  cases looks with
  | running passes runs _ => exact passes.evolves.running runs

/-- Sending lets the child live on behind one signal. -/
theorem Sends.evolves {signal : Signal} {delivered : Bool} (sends : c.Sends signal delivered c') :
    ∃ time, c.Evolves [⟨signal, delivered, time⟩] c' := by
  cases sends with
  | @intro here _ passes passes' =>
    exact ⟨here.clock, (passes.evolves.then (evolves_send _ _ _)).trans passes'.evolves⟩

/-- A hard kill lets the child live on behind its signals. -/
theorem Strikes.evolves (strikes : c.Strikes c') : ∃ signals, c.Evolves signals c' := by
  cases strikes with
  | refused passes => exact ⟨[], passes.evolves⟩
  | sent sends =>
    obtain ⟨time, evolves⟩ := sends.evolves
    exact ⟨_, evolves⟩

/-- Waiting lets the child live on without a signal. -/
theorem Waits.evolves {seconds : Nat} {answer : Awaited} (waits : c.Waits seconds answer c') :
    c.Evolves [] c' := by
  cases waits with
  | failed _ passes => exact passes.evolves
  | ended looks => exact looks.evolves
  | expired passes _ _ passes' => exact passes.evolves.then passes'.evolves

/-- A child whose end was awaited is reaped. -/
theorem Waits.isReaped {seconds : Nat} {ending : Ending}
    (waits : c.Waits seconds (.ended ending) c') : c'.IsReaped := by
  cases waits with
  | ended looks => exact looks.isReaped

/-- A child whose time is over has run all of it. -/
theorem Waits.ranUntil {seconds : Nat} (waits : c.Waits seconds .expired c') :
    c.clock + nanoseconds seconds ≤ c'.ranUntil := by
  cases waits with
  | @expired seen _ _ late runs passes' =>
    have ran : c.clock + nanoseconds seconds ≤ seen.ranUntil := by
      simpa [Child.ranUntil, runs] using late
    exact ran.trans passes'.evolves.ranUntil

/-- A wait that expires lasts as long as it was allowed to. -/
theorem Waits.late {seconds : Nat} (waits : c.Waits seconds .expired c') :
    c.clock + nanoseconds seconds ≤ c'.clock := by
  cases waits with
  | expired _ late _ passes' => exact late.trans passes'.evolves.clock

/-- A kill that is awaited lets the child live on behind its signals. -/
theorem Kills.evolves {answer : Except String Unit} (kills : c.Kills answer c') :
    ∃ signals, c.Evolves signals c' := by
  cases kills with
  | failed _ strikes => exact strikes.evolves
  | ended sends looks =>
    obtain ⟨time, evolves⟩ := sends.evolves
    exact ⟨_, evolves.trans looks.evolves⟩

/-- A child that was killed is reaped. -/
theorem Kills.isReaped (kills : c.Kills (.ok ()) c') : c'.IsReaped := by
  cases kills with
  | ended _ looks => exact looks.isReaped

end Child

end MetricsHarness
