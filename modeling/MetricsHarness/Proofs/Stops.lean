import MetricsHarness.Proofs.Children

/-!
# How an app is stopped

Whatever the system answers, a stop takes one of a few courses (`Stopping.Course`): the first look
fails or finds the end; or the process is asked to end, killed at once where that is not delivered,
and awaited; and where its time is over it is killed and awaited again. So a stop fails just if a
look, a timed wait or the last kill does, and with the reason of that.

With what the calls do to a child (`ChildSystem.Obeys`) a course tells what becomes of it
(`run_stops`): a stop that succeeds leaves a reaped child; a child that has ended gets no signal;
and a child is killed only after it could not be asked to end, or was asked and ran on until its
time was over. What happens to a child after a stop that fails is not told here.
-/

namespace MetricsHarness.Stopping

variable {κ : Type} {system : ChildSystem κ} {app : String} {seconds : Nat} {s next s' : κ}

/-! ## Courses -/

/-- The calls that ask a process to end. -/
inductive Asked : List Call → Prop
  | delivered : Asked [.ask true]
  | struck : Asked [.ask false, .strike]

/-- The calls of a stop, and its result. -/
inductive Course (app : String) (seconds : Nat) : List Call → Except Failure Unit → Prop
  | unseen (reason : String) :
      Course app seconds [.poll (.error reason)] (.error (.stopApp app reason))
  | found (ending : Ending) : Course app seconds [.poll (.ok (some ending))] (.ok ())
  | ended {asked : List Call} (asking : Asked asked) (ending : Ending) :
      Course app seconds (.poll (.ok none) :: (asked ++ [.await seconds (.ended ending)])) (.ok ())
  | lost {asked : List Call} (asking : Asked asked) (reason : String) :
      Course app seconds (.poll (.ok none) :: (asked ++ [.await seconds (.failed reason)]))
        (.error (.stopApp app reason))
  | killed {asked : List Call} (asking : Asked asked) :
      Course app seconds
        (.poll (.ok none) :: (asked ++ [.await seconds .expired, .kill (.ok ())])) (.ok ())
  | survived {asked : List Call} (asking : Asked asked) (reason : String) :
      Course app seconds
        (.poll (.ok none) :: (asked ++ [.await seconds .expired, .kill (.error reason)]))
        (.error (.stopApp app reason))

/-- Awaiting an app that was asked to end takes one of the courses of a stop. -/
theorem course_awaiting {asked : List Call} (asking : Asked asked) (s : κ) :
    Course app seconds (.poll (.ok none) :: (asked ++ (awaiting system app seconds s).calls))
      (awaiting system app seconds s).result := by
  unfold awaiting
  split
  · exact .ended asking _
  · exact .lost asking _
  · unfold killing
    split
    · exact .killed asking
    · exact .survived asking _

/-- Whatever is answered, a stop takes one of the courses. -/
theorem course_run (system : ChildSystem κ) (app : String) (seconds : Nat) (s : κ) :
    Course app seconds (run system app seconds s).calls (run system app seconds s).result := by
  unfold run
  split
  · exact .unseen _
  · exact .found _
  · unfold asking
    split
    · exact course_awaiting .delivered _
    · exact course_awaiting .struck _

/-- A stop fails just if a look, a timed wait or a kill does, with the reason of that. -/
theorem Course.fails_iff {calls : List Call} {result : Except Failure Unit}
    (course : Course app seconds calls result) (failure : Failure) :
    result = .error failure ↔ ∃ reason, failure = .stopApp app reason ∧
      (.poll (.error reason) ∈ calls ∨ .await seconds (.failed reason) ∈ calls ∨
        .kill (.error reason) ∈ calls) := by
  have silent {asked : List Call} (asking : Asked asked) (reason : String) :
      .poll (.error reason) ∉ asked ∧ .await seconds (.failed reason) ∉ asked ∧
        .kill (.error reason) ∉ asked := by
    cases asking <;> simp
  cases course with
  | unseen reason => simp [eq_comm]
  | found ending => simp
  | ended asking ending => simp [silent asking]
  | lost asking reason => simp [silent asking, eq_comm]
  | killed asking => simp [silent asking]
  | survived asking reason => simp [silent asking, eq_comm]

/-! ## The calls that are made -/

/-- Calls are made one by one, with these answers. -/
inductive Made (system : ChildSystem κ) : κ → List Call → κ → Prop
  | nil (s : κ) : Made system s [] s
  | poll {s next s' : κ} {answer : Except String (Option Ending)} {calls : List Call}
      (answers : system.poll s = (answer, next)) (rest : Made system next calls s') :
      Made system s (.poll answer :: calls) s'
  | ask {s next s' : κ} {delivered : Bool} {calls : List Call}
      (answers : system.ask s = (delivered, next)) (rest : Made system next calls s') :
      Made system s (.ask delivered :: calls) s'
  | strike {s s' : κ} {calls : List Call} (rest : Made system (system.strike s) calls s') :
      Made system s (.strike :: calls) s'
  | await {s next s' : κ} {seconds : Nat} {answer : Awaited} {calls : List Call}
      (answers : system.await seconds s = (answer, next)) (rest : Made system next calls s') :
      Made system s (.await seconds answer :: calls) s'
  | kill {s next s' : κ} {answer : Except String Unit} {calls : List Call}
      (answers : system.kill s = (answer, next)) (rest : Made system next calls s') :
      Made system s (.kill answer :: calls) s'

/-- The calls of awaiting are made of the system one after another. -/
theorem made_awaiting (s : κ) : Made system s (awaiting system app seconds s).calls
    (awaiting system app seconds s).state := by
  unfold awaiting
  split
  next answers => exact .await answers (.nil _)
  next answers => exact .await answers (.nil _)
  next answers =>
    refine .await answers ?_
    unfold killing
    split
    next killed => exact .kill killed (.nil _)
    next survived => exact .kill survived (.nil _)

/-- The calls of a stop are made, and lead to its state. -/
theorem made_run (system : ChildSystem κ) (app : String) (seconds : Nat) (s : κ) :
    Made system s (run system app seconds s).calls (run system app seconds s).state := by
  unfold run
  split
  next answers => exact .poll answers (.nil _)
  next answers => exact .poll answers (.nil _)
  next answers =>
    refine .poll answers ?_
    unfold asking
    split
    next delivered => exact .ask delivered (made_awaiting _)
    next undelivered => exact .ask undelivered (.strike (made_awaiting _))

/-! ## What becomes of the child -/

section Obeying

variable {child : κ → Child}

open Child

/-- What a call with its answer does to a child. -/
def Does (c c' : Child) : Call → Prop
  | .poll answer => c.Looks answer c'
  | .ask delivered => c.Sends .terminate delivered c'
  | .strike => c.Strikes c'
  | .await seconds answer => c.Waits seconds answer c'
  | .kill answer => c.Kills answer c'

/-- The first call does its part to the child, and the others are made after it. -/
theorem Made.first (obeys : system.Obeys child) {call : Call} {calls : List Call}
    (made : Made system s (call :: calls) s') :
    ∃ next, Does (child s) (child next) call ∧ Made system next calls s' := by
  cases made with
  | @poll _ next _ _ _ answers rest =>
    have looks := obeys.poll s
    rw [answers] at looks
    exact ⟨next, looks, rest⟩
  | @ask _ next _ _ _ answers rest =>
    have sends := obeys.ask s
    rw [answers] at sends
    exact ⟨next, sends, rest⟩
  | strike rest => exact ⟨_, obeys.strike s, rest⟩
  | @await _ next _ seconds _ _ answers rest =>
    have waits := obeys.await seconds s
    rw [answers] at waits
    exact ⟨next, waits, rest⟩
  | @kill _ next _ _ _ answers rest =>
    have kills := obeys.kill s
    rw [answers] at kills
    exact ⟨next, kills, rest⟩

/-- Without calls nothing changes. -/
theorem Made.eq_of_nil (made : Made system s [] s') : s = s' := by
  cases made
  rfl

/-- What asking a child to end sends: one signal that asks, and others that kill only if it was not
delivered. The child ran when it was looked at. -/
structure Asks (c : Child) (t : Sending) (kills : List Sending) (c' : Child) : Prop where
  ran : c.life = .running
  evolves : c.Evolves (t :: kills) c'
  asks : t.signal = .terminate
  undelivered : kills ≠ [] → t.delivered = false

/-- Calls made of a system that obeys ask its child to end. -/
theorem Made.asks (obeys : system.Obeys child) {asked rest : List Call} (asking : Asked asked)
    (made : Made system s (.poll (.ok none) :: (asked ++ rest)) s') :
    ∃ t kills next, Asks (child s) t kills (child next) ∧ Made system next rest s' := by
  obtain ⟨polled, looks, made⟩ := made.first obeys
  cases asking with
  | delivered =>
    obtain ⟨next, sends, made⟩ := made.first obeys
    obtain ⟨time, evolves⟩ := sends.evolves
    exact ⟨_, [], next, ⟨looks.runs, looks.evolves.then evolves, rfl, fun some => absurd rfl some⟩,
      made⟩
  | struck =>
    obtain ⟨_, sends, made⟩ := made.first obeys
    obtain ⟨next, strikes, made⟩ := made.first obeys
    obtain ⟨time, evolves⟩ := sends.evolves
    obtain ⟨kills, struck⟩ := strikes.evolves
    exact ⟨_, kills, next, ⟨looks.runs, (looks.evolves.then evolves).trans struck, rfl,
      fun _ => rfl⟩, made⟩

/-! ## When a child is killed -/

/-- A signal that kills is due: the child could not be asked to end before, or it was asked and
ran on until its time was over. -/
def Due (seconds : Nat) (later : Child) (earlier : List Sending) (k : Sending) : Prop :=
  ∃ t ∈ earlier, t.signal = .terminate ∧ (t.delivered = false ∨
    t.time + nanoseconds seconds ≤ k.time ∧ t.time + nanoseconds seconds ≤ later.ranUntil)

/-- Every signal that kills is due when it is sent. -/
def Earned (seconds : Nat) (later : Child) (sent : List Sending) : Prop :=
  ∀ before k after, sent = before ++ k :: after → k.signal = .kill → Due seconds later before k

theorem earned_nil (seconds : Nat) (later : Child) : Earned seconds later [] := by
  intro before k after sent
  simp at sent

/-- Signals that are due after the first one are due after more. -/
theorem earned_of_first {later : Child} {t : Sending} {kills : List Sending}
    (asks : t.signal = .terminate) (due : ∀ k ∈ kills, Due seconds later [t] k) :
    Earned seconds later (t :: kills) := by
  intro before k after sent kill
  cases before with
  | nil =>
    obtain ⟨rfl, -⟩ := List.cons.inj sent
    rw [asks] at kill
    cases kill
  | cons first before =>
    obtain ⟨rfl, rest⟩ := List.cons.inj sent
    obtain ⟨_, found, reason⟩ := due k (rest ▸ List.mem_append_right _ List.mem_cons_self)
    obtain rfl := List.mem_singleton.mp found
    exact ⟨_, List.mem_cons_self, reason⟩

/-- Once a child was asked to end, signals that are sent when its time is over are due. -/
theorem Asks.exists_earned {c m c' : Child} {t : Sending} {kills late : List Sending}
    (asks : Asks c t kills m) (evolves : m.Evolves late c')
    (timely : ∀ k ∈ late, m.clock + nanoseconds seconds ≤ k.time ∧
      m.clock + nanoseconds seconds ≤ c'.ranUntil) :
    ∃ sent, c.Evolves sent c' ∧ Earned seconds c' sent := by
  have early : t.time ≤ m.clock := asks.evolves.till t List.mem_cons_self
  refine ⟨_, asks.evolves.trans evolves, earned_of_first asks.asks fun k mem => ?_⟩
  refine ⟨t, List.mem_cons_self, asks.asks, ?_⟩
  rcases List.mem_append.mp mem with struck | killed
  · exact .inl (asks.undelivered (List.ne_nil_of_mem struck))
  · obtain ⟨time, ran⟩ := timely k killed
    have deadline : t.time + nanoseconds seconds ≤ m.clock + nanoseconds seconds :=
      Nat.add_le_add_right early _
    exact .inr ⟨deadline.trans time, deadline.trans ran⟩

section Asked

variable {c : Child} {t : Sending} {kills : List Sending} {m : κ}

/-- A wait sends nothing. -/
theorem Asks.exists_earned_of_awaited (asks : Asks c t kills (child m))
    (obeys : system.Obeys child) {answer : Awaited}
    (made : Made system m [.await seconds answer] s') :
    ∃ sent, c.Evolves sent (child s') ∧ Earned seconds (child s') sent := by
  obtain ⟨_, waits, made⟩ := made.first obeys
  exact asks.exists_earned (made.eq_of_nil ▸ waits.evolves) (List.forall_mem_nil _)

/-- A child that is killed when a wait for it is over ran until then. -/
theorem Asks.exists_earned_of_killed (asks : Asks c t kills (child m))
    (obeys : system.Obeys child) {answer : Except String Unit}
    (made : Made system m [.await seconds .expired, .kill answer] s') :
    ∃ sent, c.Evolves sent (child s') ∧ Earned seconds (child s') sent := by
  obtain ⟨_, waits, made⟩ := made.first obeys
  obtain ⟨_, killed, made⟩ := made.first obeys
  obtain ⟨late, evolves⟩ := (made.eq_of_nil ▸ killed).evolves
  refine asks.exists_earned (waits.evolves.then evolves) fun k mem => ?_
  exact ⟨waits.late.trans (evolves.since k mem), waits.ranUntil.trans evolves.ranUntil⟩

end Asked

/-- Whatever course a stop takes, the signals that it sends and that kill are due. -/
theorem Course.exists_earned {calls : List Call} {result : Except Failure Unit}
    (course : Course app seconds calls result) (obeys : system.Obeys child)
    (made : Made system s calls s') :
    ∃ sent, (child s).Evolves sent (child s') ∧ Earned seconds (child s') sent := by
  cases course with
  | unseen reason =>
    obtain ⟨_, looks, made⟩ := made.first obeys
    exact ⟨[], made.eq_of_nil ▸ looks.evolves, earned_nil _ _⟩
  | found ending =>
    obtain ⟨_, looks, made⟩ := made.first obeys
    exact ⟨[], made.eq_of_nil ▸ looks.evolves, earned_nil _ _⟩
  | ended asking ending =>
    obtain ⟨_, _, _, asks, made⟩ := made.asks obeys asking
    exact asks.exists_earned_of_awaited obeys made
  | lost asking reason =>
    obtain ⟨_, _, _, asks, made⟩ := made.asks obeys asking
    exact asks.exists_earned_of_awaited obeys made
  | killed asking =>
    obtain ⟨_, _, _, asks, made⟩ := made.asks obeys asking
    exact asks.exists_earned_of_killed obeys made
  | survived asking reason =>
    obtain ⟨_, _, _, asks, made⟩ := made.asks obeys asking
    exact asks.exists_earned_of_killed obeys made

/-! ## The whole stop -/

/-- A stop that succeeds leaves a reaped child. -/
theorem Course.isReaped {calls : List Call} (course : Course app seconds calls (.ok ()))
    (obeys : system.Obeys child) (made : Made system s calls s') : (child s').IsReaped := by
  cases course with
  | found ending =>
    obtain ⟨_, looks, made⟩ := made.first obeys
    exact made.eq_of_nil ▸ looks.isReaped
  | ended asking ending =>
    obtain ⟨_, _, _, -, made⟩ := made.asks obeys asking
    obtain ⟨_, waits, made⟩ := made.first obeys
    exact made.eq_of_nil ▸ waits.isReaped
  | killed asking =>
    obtain ⟨_, _, _, -, made⟩ := made.asks obeys asking
    obtain ⟨_, -, made⟩ := made.first obeys
    obtain ⟨_, kills, made⟩ := made.first obeys
    exact made.eq_of_nil ▸ kills.isReaped

/-- A child that had ended before, or is found to have ended, gets no signal. -/
theorem sent_run (obeys : system.Obeys child) (app : String) (seconds : Nat) {s : κ}
    (gone : (child s).life ≠ .running ∨ ∃ ending, (system.poll s).1 = .ok (some ending)) :
    (child (run system app seconds s).state).sent = (child s).sent := by
  have looks := obeys.poll s
  have kept : (child (system.poll s).2).sent = (child s).sent := by
    rw [looks.evolves.sent, List.append_nil]
  unfold run
  split
  next polled => rwa [polled] at kept
  next polled => rwa [polled] at kept
  next polled =>
    rw [polled] at looks
    rcases gone with ended | ⟨ending, found⟩
    · exact absurd looks.runs ended
    · rw [polled] at found
      cases found

/-- **A stop that succeeds leaves no child behind, and a child is killed only as a last resort.**
Whatever the app and the system do, at whatever moment: if a stop succeeds the child has ended and
been reaped. A child that had ended before, or is found to have, gets no signal. Until the stop
returns the child is killed only after a signal to end that was not delivered, or after one that
was, the whole time having passed while it ran. And the stop fails just if the first look, the
timed wait or the last kill does; it fails with the name of the app and the reason of that call. -/
theorem run_stops (obeys : system.Obeys child) (app : String) (seconds : Nat) (s : κ) :
    ((run system app seconds s).result = .ok () →
      ∃ time ending, (child (run system app seconds s).state).life = .reaped time ending) ∧
    ((child s).life ≠ .running ∨ (∃ ending, (system.poll s).1 = .ok (some ending)) →
      (child (run system app seconds s).state).sent = (child s).sent) ∧
    (∃ sent, (child (run system app seconds s).state).sent = (child s).sent ++ sent ∧
      ∀ before k after, sent = before ++ k :: after → k.signal = .kill →
        ∃ t ∈ before, t.signal = .terminate ∧ (t.delivered = false ∨
          t.time + nanoseconds seconds ≤ k.time ∧
          t.time + nanoseconds seconds ≤ (child (run system app seconds s).state).ranUntil)) ∧
    Made system s (run system app seconds s).calls (run system app seconds s).state ∧
    ∀ failure, (run system app seconds s).result = .error failure ↔
      ∃ reason, failure = .stopApp app reason ∧
        (.poll (.error reason) ∈ (run system app seconds s).calls ∨
          .await seconds (.failed reason) ∈ (run system app seconds s).calls ∨
          .kill (.error reason) ∈ (run system app seconds s).calls) := by
  have course := course_run system app seconds s
  have made := made_run system app seconds s
  obtain ⟨sent, evolves, earned⟩ := course.exists_earned obeys made
  refine ⟨fun ok => ?_, sent_run obeys app seconds, ⟨sent, evolves.sent, earned⟩, made,
    course.fails_iff⟩
  rw [ok] at course
  exact course.isReaped obeys made

end Obeying

/-! ## A child that does not listen -/

namespace Stubborn

open Child

/-- A look reaps a child that has ended. -/
def look (c : Child) : Option Ending × Child :=
  match c.life with
  | .running => (none, c)
  | .ended time ending => (some ending, { c with life := .reaped time ending })
  | .reaped time ending => (some ending, { c with life := .reaped time ending })

/-- A child that is killed ends at once. -/
def strike (c : Child) : Child :=
  match c.life with
  | .running => { c.send .kill true with life := .ended c.clock (.killed 9) }
  | _ => c.send .kill true

/-- A child some seconds later. -/
def later (seconds : Nat) (c : Child) : Child := { c with clock := c.clock + nanoseconds seconds }

/-- The calls about a child that runs until it is killed. -/
def calls : ChildSystem Child where
  poll c := (.ok (look c).1, (look c).2)
  ask c := (true, c.send .terminate true)
  strike := strike
  await seconds c :=
    ((look (later seconds c)).1.elim .expired .ended, (look (later seconds c)).2)
  kill c := (.ok (), (look (strike c)).2)

theorem passes_self (c : Child) : c.Passes c := .on le_rfl

theorem looks_look (c : Child) : c.Looks (.ok (look c).1) (look c).2 := by
  unfold look
  split
  next runs => exact .running (passes_self c) runs (passes_self c)
  next ended => exact .gone (passes_self c) (.inl ended) (passes_self _)
  next reaped => exact .gone (passes_self c) (.inr reaped) (passes_self _)

theorem sends_strike (c : Child) : c.Sends .kill true (strike c) := by
  unfold strike
  split
  next runs => exact .intro (passes_self c) (.out _ runs le_rfl le_rfl)
  next => exact .intro (passes_self c) (passes_self _)

/-- Striking and looking is a kill that is awaited. -/
theorem kills_strike (c : Child) : c.Kills (.ok ()) (look (strike c)).2 := by
  have looks := looks_look (strike c)
  cases answer : (look (strike c)).1 with
  | none =>
    rw [answer] at looks
    have runs := looks.runs
    unfold strike at runs
    split at runs
    next => cases runs
    next other => exact absurd runs other
  | some ending =>
    rw [answer] at looks
    exact .ended (sends_strike c) looks

/-- A look at the end of the time is a wait. -/
theorem waits_look (seconds : Nat) (c : Child) : c.Waits seconds
    ((look (later seconds c)).1.elim .expired .ended) (look (later seconds c)).2 := by
  have passes : c.Passes (later seconds c) := .on (Nat.le_add_right _ _)
  unfold look
  split
  next runs => exact .expired passes le_rfl runs (passes_self _)
  next ended => exact .ended (.gone passes (.inl ended) (passes_self _))
  next reaped => exact .ended (.gone passes (.inr reaped) (passes_self _))

/-- The stubborn system obeys. -/
theorem obeys : calls.Obeys id where
  poll := looks_look
  ask c := .intro (passes_self c) (passes_self _)
  strike c := .sent (sends_strike c)
  await := waits_look
  kill := kills_strike

/-- The child is asked to end, and killed two seconds later. -/
theorem run_stops_stubborn :
    calls.Obeys id ∧
      (run calls "app" 2 ⟨0, .running, []⟩).state.sent =
        [⟨.terminate, true, 0⟩, ⟨.kill, true, nanoseconds 2⟩] ∧
      (run calls "app" 2 ⟨0, .running, []⟩).result = .ok () ∧
      ∃ time ending, (run calls "app" 2 ⟨0, .running, []⟩).state.life = .reaped time ending := by
  have ok : (run calls "app" 2 ⟨0, .running, []⟩).result = .ok () := rfl
  exact ⟨obeys, rfl, ok, (run_stops obeys "app" 2 _).1 ok⟩

end Stubborn

end MetricsHarness.Stopping
