import Overseer.Proofs.Shutdown
import Overseer.Proofs.Supervisor.Cadence

/-!
# What shutting down comes to

The caller waits for the deletion until `Shutdown.timeout` has passed, and asks for the kill only
then.  What it returns is what one of the two was answered, whatever happens to the supervisor
meanwhile.

* `Resumes` -- the three ways in which the caller goes on;
* `GivesUp` -- in the course of the moves the caller finds the deletion unanswered and its time up;
* `Succeeds` -- in the course of the moves the kill is served, and delivered, and the process let go
  of;
* `Course` -- what holds after any moves; `Course.input`, `Course.resume` -- every further
  move leaves it so;
* `shutdown_outcome` -- when the kill is asked for, and on what grounds the caller returns.
-/

namespace Overseer

open Supervisor

variable {σ : Type} {P : Platform σ} {s t : Supervisor σ} {d k ticket : Ticket}

namespace Supervisor

/-- **A kill that succeeds** has delivered `Signal.kill` and let go of the process, and has done
nothing else. -/
theorem turn_of_killed {reply : Reply} (due : s.due? = some (.request ticket .kill))
    (made : Made (.answered ticket (.ok reply)) s (s.turn P)) :
    (s.turn P).trace = .answered ticket (.ok .done) :: .released (.ok ()) ::
      .signalled .kill (.ok ()) :: s.trace := by
  have htrace : (s.turn P).trace =
      .answered ticket ((({ s with queue := s.queue.tail }.stopForced P).1).map fun () => .done) ::
        ({ s with queue := s.queue.tail }.stopForced P).2.trace := by
    rw [turn_eq due]
    rfl
  cases hresult : ({ s with queue := s.queue.tail }.stopForced P).1 with
  | ok done =>
    rw [htrace, hresult, stopForced_trace P { s with queue := s.queue.tail } hresult]
    rfl
  | error e =>
    -- The answer is the failure, and nobody else is answered.
    exfalso
    rw [hresult] at htrace
    have hcalls := (stopForced_calls P { s with queue := s.queue.tail }).unanswered
    have hall : Adds (fun event => event.answered? = none ∨ event = .answered ticket (.error e)) s
        (s.turn P) :=
      (hcalls.mono fun _ he => Or.inl he).trans (.cons htrace (.inr rfl))
    rcases hall.of_made made with h | h <;> cases h

/-- A ticket under which there is no request. -/
theorem Unparked.of_requests {kind : Request} (h : requests k s = 0) : Unparked kind k s := by
  obtain ⟨htaken, hqueued, -⟩ := unknown_of_requests h
  refine ⟨fun request hmem => absurd (List.mem_map_of_mem hmem) hqueued, ?_⟩
  intro waiter hmem hticket
  have hparked : 0 < (parkedTickets s.waiters).count k :=
    List.count_pos_iff.mpr (List.mem_filterMap.mpr ⟨waiter, hmem, hticket⟩)
  unfold taken at htaken
  omega

variable (P) in
/-- As many requests are queued, parked or answered under a ticket as before, when none is sent
under it. -/
theorem requests_step (hone : OneStop s.waiters) {input : Input σ} (unsent : input.sent? ≠ some k) :
    requests k (step P s input) = requests k s := by
  by_cases hturn : input = .turn
  · rw [hturn]
    exact (turn_requests P hone).2 k
  · have hnone : input.sent?.toList.count k = 0 := by
      rw [List.count_eq_zero, Option.mem_toList]
      exact unsent
    rw [step_requests P s hturn, hnone, Nat.add_zero]

/-- Whatever was answered under a ticket was a request under it. -/
theorem requests_of_answered {answer : Answer} (h : .answered k answer ∈ s.trace) :
    requests k s ≠ 0 := by
  have htaken := taken_of_answered h
  unfold requests
  omega

end Supervisor

namespace Shutdown

variable {spec : Spec} {system : σ} {sink : Option Sink} {caller : Shutdown}
  {moves : List (Move σ)} {c : Shutdown × Supervisor σ}

/-! ## Going on -/

theorem answerTo?_eq_none {trace : List Event} (h : answerTo? trace ticket = none)
    (answer : Answer) : .answered ticket answer ∉ trace := by
  intro hmem
  unfold answerTo? at h
  rw [List.findSome?_eq_none_iff] at h
  simpa using h _ hmem

/-- The three ways in which a caller goes on to `c`. -/
inductive Resumes (s : Supervisor σ) (answer? : Ticket → Option Answer) (fresh : Ticket)
    (caller : Shutdown) (c : Shutdown × Supervisor σ) : Prop where
  /-- It was answered, and returns. -/
  | returns {ticket : Ticket} {answer : Answer}
      (asked : caller = .killing ticket ∨ ∃ deadline, caller = .deleting ticket deadline)
      (answered : answer? ticket = some answer) (result : c = conclude s answer)
  /-- The deletion is not answered and its time is up: the kill is asked for. -/
  | givesUp {ticket : Ticket} {deadline : Moment} (asked : caller = .deleting ticket deadline)
      (unanswered : answer? ticket = none) (late : deadline ≤ s.now)
      (result : c = (.killing fresh, s.send fresh .kill))
  /-- There is nothing to be done. -/
  | waits (inTime : ∀ ticket deadline, caller = .deleting ticket deadline → s.now < deadline)
      (result : c = (caller, s))

theorem resume_resumes (s : Supervisor σ) (answer? : Ticket → Option Answer) (fresh : Ticket)
    (caller : Shutdown) : Resumes s answer? fresh caller (caller.resume s answer? fresh) := by
  cases caller with
  | deleting ticket deadline =>
    unfold resume
    dsimp only
    split
    · next answer hanswer => exact .returns (.inr ⟨deadline, rfl⟩) hanswer rfl
    · next hanswer =>
      split
      · next hlate => exact .givesUp rfl hanswer hlate rfl
      · next hearly =>
        refine .waits ?_ rfl
        rintro _ _ ⟨⟩
        exact Nat.lt_of_not_le hearly
  | killing ticket =>
    unfold resume
    dsimp only
    split
    · next answer hanswer => exact .returns (.inl rfl) hanswer rfl
    · exact .waits (fun _ _ h => nomatch h) rfl
  | returned result => exact .waits (fun _ _ h => nomatch h) rfl

/-- What the caller returns is told to nobody else, and a failure fires the cancellation token. -/
theorem conclude_cases (s : Supervisor σ) (answer : Answer) :
    (∃ reply, answer = .ok reply ∧ conclude s answer = (.returned (.ok ()), s)) ∨
      ∃ e, answer = .error e ∧ conclude s answer = (.returned (.error e), step P s .cancel) := by
  cases answer with
  | ok reply => exact .inl ⟨reply, rfl, rfl⟩
  | error e => exact .inr ⟨e, rfl, rfl⟩

theorem play_concat (c : Shutdown × Supervisor σ) (moves : List (Move σ)) (move : Move σ) :
    play P k c (moves ++ [move]) = act P k (play P k c moves) move := by
  unfold play
  rw [List.foldl_append]
  rfl

/-! ## In the course of the moves -/

variable (P d k s) in
/-- After the moves the caller who began in `s` still awaits the deletion, `timeout` has passed, and
nobody has answered it. -/
structure Overdue (moves : List (Move σ)) : Prop where
  awaiting : (play P k (Shutdown.begin s d) moves).1 = .deleting d (s.now + timeout)
  late : s.now + timeout ≤ (play P k (Shutdown.begin s d) moves).2.now
  unanswered : ∀ answer, .answered d answer ∉ (play P k (Shutdown.begin s d) moves).2.trace

variable (P d k s) in
/-- In the course of the moves the caller gives the deletion up: it goes on when the deletion is
overdue. -/
def GivesUp (moves : List (Move σ)) : Prop :=
  ∃ before after, moves = before ++ .resume :: after ∧ Overdue P s d k before

variable (P d k s) in
/-- In the course of the moves the kill succeeds: it is served after the deletion was given up,
`Signal.kill` is delivered, and the process let go of. -/
def Succeeds (moves : List (Move σ)) : Prop :=
  ∃ before after, moves = before ++ .input .turn :: after ∧ GivesUp P s d k before ∧
    ((play P k (Shutdown.begin s d) before).2.turn P).trace =
      .answered k (.ok .done) :: .released (.ok ()) :: .signalled .kill (.ok ()) ::
        (play P k (Shutdown.begin s d) before).2.trace

theorem GivesUp.append (h : GivesUp P s d k moves) (more : List (Move σ)) :
    GivesUp P s d k (moves ++ more) := by
  obtain ⟨before, after, rfl, hoverdue⟩ := h
  exact ⟨before, after ++ more, by simp, hoverdue⟩

theorem Succeeds.append (h : Succeeds P s d k moves) (more : List (Move σ)) :
    Succeeds P s d k (moves ++ more) := by
  obtain ⟨before, after, rfl, hgivesUp, htrace⟩ := h
  exact ⟨before, after ++ more, by simp, hgivesUp, htrace⟩

/-- The caller gives up with the last move or before it. -/
theorem givesUp_concat {move : Move σ} : GivesUp P s d k (moves ++ [move]) ↔
    GivesUp P s d k moves ∨ move = .resume ∧ Overdue P s d k moves := by
  constructor
  · rintro ⟨before, after, hsplit, hoverdue⟩
    rcases concat_eq_split hsplit with ⟨rfl, rfl, -⟩ | ⟨rest, -, rfl⟩
    · exact .inr ⟨rfl, hoverdue⟩
    · exact .inl ⟨before, rest, rfl, hoverdue⟩
  · rintro (h | ⟨rfl, hoverdue⟩)
    · exact h.append [move]
    · exact ⟨moves, [], rfl, hoverdue⟩

/-- How far the caller who began in `s` has come, and what it was told, when the supervisor is in
`t`. -/
def Told (s t : Supervisor σ) (d k : Ticket) : Shutdown → Prop
  | .deleting ticket deadline => ticket = d ∧ deadline = s.now + timeout ∧ requests k t = 0
  | .killing ticket => ticket = k
  | .returned (.ok ()) =>
    ∃ reply, .answered d (.ok reply) ∈ t.trace ∨ .answered k (.ok reply) ∈ t.trace
  | .returned (.error e) => .answered d (.error e) ∈ t.trace ∨ .answered k (.error e) ∈ t.trace

/-- What was answered stays so. -/
theorem Told.mono {u : Supervisor σ} (h : Told s t d k caller) (hsuffix : t.trace <:+ u.trace)
    (hrequests : requests k u = requests k t) : Told s u d k caller := by
  cases caller with
  | deleting ticket deadline => exact ⟨h.1, h.2.1, hrequests.trans h.2.2⟩
  | killing ticket => exact h
  | returned result =>
    cases result with
    | ok =>
      obtain ⟨reply, h⟩ := h
      exact ⟨reply, h.imp (hsuffix.subset ·) (hsuffix.subset ·)⟩
    | error e => exact Or.imp (hsuffix.subset ·) (hsuffix.subset ·) h

variable (P d k s) in
/-- What holds of the caller and the supervisor after the moves. -/
structure Course (moves : List (Move σ)) (c : Shutdown × Supervisor σ) : Prop where
  asked : requests k c.2 = 0 ∧ ¬ GivesUp P s d k moves ∨
    requests k c.2 = 1 ∧ GivesUp P s d k moves
  unparked : Unparked .kill k c.2
  killed : ∀ reply, .answered k (.ok reply) ∈ c.2.trace → Succeeds P s d k moves
  told : Told s c.2 d k c.1

namespace Course

/-- So it is when the deletion is asked for. -/
theorem begin (distinct : d ≠ k) (fresh : requests k s = 0) :
    Course P s d k [] (Shutdown.begin s d) := by
  have hbegun : (Shutdown.begin s d).2 = step P s (.send d .delete) := rfl
  have hnone : requests k (Shutdown.begin s d).2 = 0 := by
    rw [hbegun, step_requests P s (by simp), fresh]
    simp [Input.sent?, distinct]
  have hunheard := (unknown_of_requests hnone).2.2
  refine ⟨.inl ⟨hnone, ?_⟩, .of_requests hnone, fun reply hmem => absurd hmem (hunheard _),
    rfl, rfl, hnone⟩
  rintro ⟨before, after, hsplit, -⟩
  simp at hsplit

/-- What happens to the supervisor leaves it so, if nobody else sends anything under `k`. -/
theorem input (h : Course P s d k moves (play P k (Shutdown.begin s d) moves))
    (hone : OneStop (play P k (Shutdown.begin s d) moves).2.waiters) {input : Input σ}
    (unsent : input.sent? ≠ some k) : Course P s d k (moves ++ [.input input])
      (play P k (Shutdown.begin s d) (moves ++ [.input input])) := by
  rw [play_concat]
  have hsame : GivesUp P s d k (moves ++ [.input input]) ↔ GivesUp P s d k moves := by
    simp [givesUp_concat]
  have hrequests := requests_step P hone unsent
  refine ⟨?_, ?_, fun reply hmem => ?_, ?_⟩
  · rw [hsame]
    exact hrequests.symm ▸ h.asked
  · refine h.unparked.step rfl ?_
    rintro request rfl
    exact absurd rfl unsent
  · rcases mem_or_made hmem (step_suffix P _ input) with hbefore | hmade
    · exact (h.killed reply hbefore).append _
    · -- The kill is served, so that it was asked for, and the deletion given up.
      obtain ⟨rfl, hdue⟩ := h.unparked.served hmade
      have hgivesUp : GivesUp P s d k moves := by
        rcases h.asked with ⟨hnone, -⟩ | ⟨-, hgivesUp⟩
        · obtain ⟨-, hqueued, -⟩ := unknown_of_requests hnone
          rw [queue_of_due hdue] at hqueued
          exact absurd List.mem_cons_self hqueued
        · exact hgivesUp
      exact ⟨moves, [], rfl, hgivesUp, turn_of_killed hdue hmade⟩
  · exact h.told.mono (step_suffix P _ input) hrequests

/-- So does a caller who has not given up, and asks for nothing. -/
theorem resumed {u : Supervisor σ} {next : Shutdown} (h : Course P s d k moves c)
    (inTime : ¬ Overdue P s d k moves) (htrace : u.trace = c.2.trace) (hqueue : u.queue = c.2.queue)
    (hwaiters : u.waiters = c.2.waiters) (told : Told s u d k next) :
    Course P s d k (moves ++ [.resume]) (next, u) := by
  have hsame : GivesUp P s d k (moves ++ [.resume]) ↔ GivesUp P s d k moves := by
    simp [givesUp_concat, inTime]
  have hrequests : requests k u = requests k c.2 := by
    unfold requests taken queuedTickets
    rw [htrace, hqueue, hwaiters]
  refine ⟨?_, ⟨?_, ?_⟩, fun reply hmem => ?_, told⟩
  · rw [hsame]
    exact hrequests.symm ▸ h.asked
  · rw [hqueue]
    exact h.unparked.queued
  · rw [hwaiters]
    exact h.unparked.nobody
  · exact (h.killed reply (htrace ▸ hmem)).append _

/-- So does a caller who is answered, and returns. -/
theorem returned {answer : Answer} (h : Course P s d k moves c) (inTime : ¬ Overdue P s d k moves)
    (answered : .answered d answer ∈ c.2.trace ∨ .answered k answer ∈ c.2.trace) :
    Course P s d k (moves ++ [.resume]) (conclude c.2 answer) := by
  rcases conclude_cases (P := P) c.2 answer with ⟨reply, rfl, hconclude⟩ | ⟨e, rfl, hconclude⟩ <;>
    rw [hconclude]
  · exact h.resumed inTime rfl rfl rfl ⟨reply, answered⟩
  · exact h.resumed inTime rfl rfl rfl answered

/-- So does a caller who gives up, and asks for the kill. -/
theorem givesUp (h : Course P s d k moves c) (hgivesUp : GivesUp P s d k (moves ++ [.resume]))
    (hnone : requests k c.2 = 0) :
    Course P s d k (moves ++ [.resume]) (.killing k, step P c.2 (.send k .kill)) := by
  have hrequests : requests k (step P c.2 (.send k .kill)) = 1 := by
    rw [step_requests P c.2 (by simp), hnone]
    simp [Input.sent?]
  have hunparked : Unparked .kill k (step P c.2 (.send k .kill)) :=
    h.unparked.step rfl fun request hsame => (Input.send.inj hsame).2.symm
  refine ⟨.inr ⟨hrequests, hgivesUp⟩, hunparked, fun reply hmem => ?_, rfl⟩
  rcases mem_or_made hmem (step_suffix P c.2 (.send k .kill)) with hbefore | hmade
  · exact (h.killed reply hbefore).append _
  · cases (h.unparked.served hmade).1

/-- **The caller's going on leaves it so.** -/
theorem resume (h : Course P s d k moves (play P k (Shutdown.begin s d) moves)) :
    Course P s d k (moves ++ [.resume])
      (play P k (Shutdown.begin s d) (moves ++ [.resume])) := by
  rw [play_concat]
  have hresumes := resume_resumes (play P k (Shutdown.begin s d) moves).2
    (answerTo? (play P k (Shutdown.begin s d) moves).2.trace) k
    (play P k (Shutdown.begin s d) moves).1
  have hact : act P k (play P k (Shutdown.begin s d) moves) .resume =
      (play P k (Shutdown.begin s d) moves).1.resume (play P k (Shutdown.begin s d) moves).2
        (answerTo? (play P k (Shutdown.begin s d) moves).2.trace) k := rfl
  rw [← hact] at hresumes
  have htold := h.told
  cases hresumes with
  | @returns ticket answer asked answered result =>
    have hmem := answered_of_answerTo? answered
    rw [result]
    rcases asked with hkilling | ⟨deadline, hdeleting⟩
    · rw [hkilling] at htold
      obtain rfl : ticket = k := htold
      refine h.returned (fun hoverdue => ?_) (.inr hmem)
      cases hkilling.symm.trans hoverdue.awaiting
    · rw [hdeleting] at htold
      obtain rfl := htold.1
      exact h.returned (fun hoverdue => hoverdue.unanswered answer hmem) (.inl hmem)
  | @givesUp ticket deadline asked unanswered late result =>
    rw [asked] at htold
    obtain ⟨rfl, rfl, hnone⟩ := htold
    rw [result]
    exact h.givesUp ⟨moves, [], rfl, asked, late, answerTo?_eq_none unanswered⟩ hnone
  | waits inTime result =>
    have hinTime : ¬ Overdue P s d k moves := fun hoverdue =>
      absurd hoverdue.late (Nat.not_le_of_lt (inTime _ _ hoverdue.awaiting))
    rw [result]
    exact h.resumed hinTime rfl rfl rfl htold

end Course

variable (P spec system sink) in
/-- **So it is however the caller and the supervisor go on.** -/
theorem play_course (distinct : d ≠ k) {inputs : List (Input σ)}
    (fresh : ∀ input ∈ inputs, input.sent? ≠ some d ∧ input.sent? ≠ some k)
    (own : ∀ input, .input input ∈ moves → input.sent? ≠ some d ∧ input.sent? ≠ some k) :
    Course P (reached P spec system sink inputs) d k moves
      (play P k (Shutdown.begin (reached P spec system sink inputs) d) moves) := by
  induction moves using List.reverseRecOn with
  | nil =>
    exact .begin distinct
      (requests_of_fresh P spec system sink fun input hmem => (fresh input hmem).2)
  | append_singleton rest move ih =>
    have hrest : ∀ input, .input input ∈ rest → input.sent? ≠ some d ∧ input.sent? ≠ some k :=
      fun input hmem => own input (List.mem_append_left _ hmem)
    cases move with
    | resume => exact (ih hrest).resume
    | input input =>
      have hunderway := (play_underway distinct (fun input hmem => (hrest input hmem).1)
        (begin_underway P spec system sink fresh) rfl).1
      obtain ⟨script, hscript⟩ := hunderway.reachable
      have hone := (requests_reached P spec system sink script).1
      rw [← hscript] at hone
      exact (ih hrest).input hone (own input (by simp)).2

/-! ## The outcome -/

variable (P) in
/-- The clock is not set back. -/
theorem act_now (c : Shutdown × Supervisor σ) (move : Move σ) :
    c.2.now ≤ (act P k c move).2.now := by
  cases move with
  | input input => exact step_now P c.2 input
  | resume =>
    have hresumes := resume_resumes c.2 (answerTo? c.2.trace) k c.1
    have hact : act P k c .resume = c.1.resume c.2 (answerTo? c.2.trace) k := rfl
    rw [← hact] at hresumes
    refine Nat.le_of_eq ?_
    cases hresumes with
    | @returns _ answer _ _ result =>
      rw [result]
      cases answer <;> rfl
    | givesUp _ _ _ result => rw [result, send_frame]
    | waits _ result => rw [result]

theorem GivesUp.now_le (h : GivesUp P s d k moves) :
    s.now + timeout ≤ (play P k (Shutdown.begin s d) moves).2.now := by
  obtain ⟨before, after, rfl, hoverdue⟩ := h
  have hplay : play P k (Shutdown.begin s d) (before ++ .resume :: after) =
      play P k (play P k (Shutdown.begin s d) before) (.resume :: after) := List.foldl_append
  rw [hplay]
  refine Nat.le_trans hoverdue.late ?_
  generalize Move.resume :: after = rest
  generalize play P k (Shutdown.begin s d) before = c
  induction rest generalizing c with
  | nil => exact Nat.le_refl _
  | cons move rest ih => exact Nat.le_trans (act_now P c move) (ih _)

variable (P d k s) in
/-- What shutting down has come to after the moves, when it was begun in `s` under the tickets `d`
of the delete and `k` of the kill. -/
structure Outcome (moves : List (Move σ)) (caller : Shutdown) (t : Supervisor σ) : Prop where
  /-- A kill is asked for exactly when the deletion is given up, and then once. -/
  asked : requests k t ≤ 1 ∧ (requests k t ≠ 0 ↔ GivesUp P s d k moves)
  /-- The supervisor turns to it when `timeout` has passed. -/
  patient : ∀ request, t.due? = some (.request k request) →
    request = .kill ∧ GivesUp P s d k moves ∧ s.now + timeout ≤ t.now
  /-- All went well: the delete was answered so and the supervision is cancelled, or the kill was
  served after the deletion was given up, and succeeded. -/
  succeeded : caller = .returned (.ok ()) →
    (∃ reply, .answered d (.ok reply) ∈ t.trace) ∧ t.cancelled = true ∨ Succeeds P s d k moves
  /-- A failure is that of the delete or of the kill, and the supervision is cancelled. -/
  failed : ∀ e, caller = .returned (.error e) → t.cancelled = true ∧
    (.answered d (.error e) ∈ t.trace ∨
      GivesUp P s d k moves ∧ .answered k (.error e) ∈ t.trace)

/-- **What shutting down comes to**, in every state in which it may be begun and however it goes
on. -/
theorem shutdown_outcome (P : Platform σ) (spec : Spec) (system : σ) (sink : Option Sink)
    {inputs : List (Input σ)} {moves : List (Move σ)} {d k : Ticket} (distinct : d ≠ k)
    (fresh : ∀ input ∈ inputs, input.sent? ≠ some d ∧ input.sent? ≠ some k)
    (own : ∀ input, .input input ∈ moves → input.sent? ≠ some d ∧ input.sent? ≠ some k) :
    Outcome P (reached P spec system sink inputs) d k moves
      (play P k (Shutdown.begin (reached P spec system sink inputs) d) moves).1
      (play P k (Shutdown.begin (reached P spec system sink inputs) d) moves).2 := by
  have hcourse := play_course P spec system sink distinct fresh own
  obtain ⟨hunderway, hawaiting⟩ := play_underway distinct (fun input hmem => (own input hmem).1)
    (begin_underway P spec system sink fresh) rfl
  have hgivesUp : requests k (play P k (Shutdown.begin (reached P spec system sink inputs) d)
      moves).2 ≠ 0 → GivesUp P (reached P spec system sink inputs) d k moves := by
    intro hsome
    rcases hcourse.asked with ⟨hnone, -⟩ | ⟨-, hgivesUp⟩
    · exact absurd hnone hsome
    · exact hgivesUp
  refine ⟨⟨?_, hgivesUp, ?_⟩, fun request hdue => ?_, fun hreturned => ?_, fun e hreturned => ?_⟩
  · rcases hcourse.asked with ⟨h, -⟩ | ⟨h, -⟩ <;> omega
  · intro h
    rcases hcourse.asked with ⟨-, hnever⟩ | ⟨hone, -⟩
    · exact absurd h hnever
    · omega
  · have hmem := List.mem_of_mem_head?
      (Option.mem_def.mpr (congrArg List.head? (queue_of_due hdue)))
    have hasked := hgivesUp fun hnone =>
      (unknown_of_requests hnone).2.1 (List.mem_map_of_mem hmem)
    exact ⟨hcourse.unparked.queued request hmem, hasked, hasked.now_le⟩
  · have htold := hcourse.told
    rw [hreturned] at htold
    obtain ⟨reply, hdeleted | hkilled⟩ := htold
    · exact .inl ⟨⟨reply, hdeleted⟩, hunderway.told reply hdeleted⟩
    · exact .inr (hcourse.killed reply hkilled)
  · have htold := hcourse.told
    rw [hreturned] at htold hawaiting
    have hcancelled := hawaiting.2.resolve_right fun h => by cases h.1
    exact ⟨hcancelled, htold.imp_right fun hmem => ⟨hgivesUp (requests_of_answered hmem), hmem⟩⟩

/-- A process that ignores `Signal.term` is killed when `timeout` has passed, and let go of. -/
theorem stubborn_killed : Succeeds ScriptedProcess.platform stubborn 0 1 killedAfterTimeout := by
  have houtcome : Outcome ScriptedProcess.platform stubborn 0 1 killedAfterTimeout
      (.returned (.ok ())) afterShutdown :=
    shutdown_outcome ScriptedProcess.platform (ScriptedProcess.spec .infinite)
      { script := { ignored := [.term] } } none (by decide) (by simp)
      (by simp [killedAfterTimeout, Input.sent?])
  rcases houtcome.succeeded rfl with ⟨-, hcancelled⟩ | hkilled
  · cases hcancelled
  · exact hkilled

end Shutdown

end Overseer
