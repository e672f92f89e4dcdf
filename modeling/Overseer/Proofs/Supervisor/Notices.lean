import Overseer.Proofs.Supervisor.Watchful
import Overseer.Proofs.WatchdogHistory
import Overseer.ScriptedProcess

/-!
# The stream of notices

Ticks observe, and a change of the observation is offered to the sink, which has room for it or has
not.  This file says which notices are offered in a run and which of them the receiver gets.

* `observations`, `offers` -- what the ticks of a run observed, and what was offered to the sink;
  `fetched` -- what its receiver got;
* `reception` -- what becomes of an offer, told from the offers before it and from what the receiver
  has done;
* `Sink.receive_eq`, `noted_change` -- a fetch and an offer, each as a whole;
* `Piped` -- the sink holds what was accepted and not yet fetched; `Piped.step` -- so it does after
  every input;
* `notification_stream` -- what is offered is what the ticks observed, with repetitions removed.
-/

namespace Overseer

/-- A status was offered to the sink, and this became of it. -/
def Event.offer? : Event → Option (Status × Delivery)
  | offered status delivery => some (status, delivery)
  | _ => none

/-- Only a tick offers. -/
theorem Event.offer?_of_not_isTick {e : Event} (h : e.isTick = false) : e.offer? = none := by
  cases e <;> simp_all [offer?, isTick]

/-- The status that a notice tells of. -/
def Notice.status? : Notice → Option Status
  | status observed => some observed
  | closed => none

namespace Sink

/-- **A fetch** takes the oldest notices off the queue. -/
theorem receive_eq (sink : Sink) (max : Nat) (h : sink.receiver = true) :
    (sink.receive max).1.filterMap Notice.status? = sink.queued.take max ∧
      (sink.receive max).2 = { sink with queued := sink.queued.drop max } := by
  induction max generalizing sink with
  | zero => exact ⟨rfl, rfl⟩
  | succ max ih =>
    obtain ⟨capacity, queued, receiver, sender⟩ := sink
    obtain rfl : receiver = true := h
    cases queued with
    | nil => cases sender <;> simp [receive, Notice.status?]
    | cons status rest =>
      obtain ⟨hgot, hleft⟩ := ih ⟨capacity, rest, true, sender⟩ rfl
      simp [receive, Notice.status?, hgot, hleft]

/-- A receiver that has gone fetches nothing. -/
theorem receive_of_gone (sink : Sink) (max : Nat) (h : sink.receiver = false) :
    sink.receive max = ([], sink) := by
  cases max with
  | zero => rfl
  | succ max => simp [receive, h]

end Sink

namespace Supervisor

variable {σ : Type} {P : Platform σ} {s t : Supervisor σ}

/-! ## What is observed, offered and fetched -/

/-- What the ticks observed, the oldest first. -/
def observations (trace : List Event) : List Status :=
  (trace.filterMap Event.observation?).reverse

/-- What was offered to the sink, and what became of it, the oldest first. -/
def offers (trace : List Event) : List (Status × Delivery) :=
  (trace.filterMap Event.offer?).reverse

/-- The statuses for which the sink had room. -/
def accepted (offers : List (Status × Delivery)) : List Status :=
  (offers.filter (·.2 = .taken)).map Prod.fst

/-- The sink was found closed. -/
def foundClosed (offers : List (Status × Delivery)) : Bool := offers.any (·.2 = .closed)

/-- What the receiver of the sink fetches. -/
def fetches (s : Supervisor σ) : Input σ → List Status
  | .receive max => s.sink.elim [] fun sink => (sink.receive max).1.filterMap Notice.status?
  | _ => []

variable (P) in
/-- What the receiver of the sink fetches in a run. -/
def fetched (s : Supervisor σ) : List (Input σ) → List Status
  | [] => []
  | input :: rest => s.fetches input ++ fetched (step P s input) rest

/-- The receiver goes. -/
def Input.isDeparture : Input σ → Bool
  | dropReceiver => true
  | _ => false

/-- What becomes of the next offer to `sink`, when `earlier` offers were made, and the receiver has
gone or has fetched so many statuses. -/
def reception (sink : Option Sink) (departed : Bool) (fetched : Nat)
    (earlier : List (Status × Delivery)) : Delivery :=
  match sink with
  | none => .unheard
  | some sink =>
    if !sink.sender || foundClosed earlier then .unheard
    else if !sink.receiver || departed then .closed
    else if sink.queued.length + (accepted earlier).length < sink.capacity + fetched then .taken
    else .full

theorem fetched_concat (inputs : List (Input σ)) (input : Input σ) :
    fetched P s (inputs ++ [input]) = fetched P s inputs ++ (run P s inputs).fetches input := by
  induction inputs generalizing s with
  | nil => simp [fetched, run]
  | cons first rest ih =>
    rw [List.cons_append, fetched, ih, fetched, List.append_assoc]
    rfl

@[simp] theorem observations_cons (e : Event) (trace : List Event) :
    observations (e :: trace) = observations trace ++ e.observation?.toList := by
  cases h : e.observation? <;> simp [observations, h]

@[simp] theorem offers_cons (e : Event) (trace : List Event) :
    offers (e :: trace) = offers trace ++ e.offer?.toList := by
  cases h : e.offer? <;> simp [offers, h]

/-- What was observed last is what the trace tells first. -/
theorem observations_getLast? (trace : List Event) :
    (observations trace).getLast? = lastObserved trace := by
  rw [observations, List.getLast?_reverse, List.head?_filterMap, lastObserved]

theorem Adds.observations_eq {p : Event → Prop} (h : Adds p s t)
    (hp : ∀ e, p e → e.isTick = false) : observations t.trace = observations s.trace :=
  congrArg List.reverse (h.filterMap_eq fun e he => Event.observation?_of_not_isTick (hp e he))

theorem Adds.offers_eq {p : Event → Prop} (h : Adds p s t)
    (hp : ∀ e, p e → e.isTick = false) : offers t.trace = offers s.trace :=
  congrArg List.reverse (h.filterMap_eq fun e he => Event.offer?_of_not_isTick (hp e he))

/-- The end of the loop observes nothing. -/
theorem finish_unticked : Adds (fun e => e.isTick = false) s s.finish := by
  refine finish_adds.mono ?_
  rintro _ ⟨ticket, rfl⟩
  rfl

/-- Nothing from outside observes anything. -/
theorem step_unticked {input : Input σ} (h : input ≠ .turn) :
    Adds (fun e => e.isTick = false) s (step P s input) := by
  refine (step_adds P s h).mono ?_
  rintro _ ⟨ticket, rfl⟩
  rfl

/-! ## One tick -/

/-- What becomes of the offer of a status, and the sink after it. -/
def heard (sink : Option Sink) (status : Status) : Delivery × Option Sink :=
  match sink with
  | none => (.unheard, none)
  | some sink => ((sink.offer status).1, some (sink.offer status).2)

theorem offer_heard (s : Supervisor σ) (status : Status) :
    (s.offer status).sink = (heard s.sink status).2 ∧
      (s.offer status).trace = .offered status (heard s.sink status).1 :: s.trace := by
  unfold offer
  cases hsink : s.sink with
  | none => exact ⟨hsink, rfl⟩
  | some sink => exact ⟨rfl, rfl⟩

variable (P s) in
/-- **What a tick observes, and what it offers**: it offers a change, and nothing else. -/
theorem noted_change :
    (s.noted P).sink =
        (if s.watchdog.last = some (s.observe P).1 then s.sink
          else (heard s.sink (s.observe P).1).2) ∧
      observations (s.noted P).trace = observations s.trace ++ [(s.observe P).1] ∧
      offers (s.noted P).trace = offers s.trace ++
        if s.watchdog.last = some (s.observe P).1 then []
        else [((s.observe P).1, (heard s.sink (s.observe P).1).1)] := by
  have hcalls := observe_calls P s
  have hsink : (s.observe P).2.sink = s.sink := by rw [hcalls.keeps]
  have hobservations : observations (s.observe P).2.trace = observations s.trace :=
    hcalls.adds.observations_eq fun _ => Event.not_isTick_of_isCall
  have hoffers : offers (s.observe P).2.trace = offers s.trace :=
    hcalls.adds.offers_eq fun _ => Event.not_isTick_of_isCall
  have hobserved : (s.outcome P).observed = (s.observe P).1 := Watchdog.observe_observed _ _
  have hnotify : (s.outcome P).notify =
      if s.watchdog.last = some (s.observe P).1 then none else some (s.observe P).1 :=
    Watchdog.observe_notify _ _
  rw [← hobservations, ← hoffers, ← hsink]
  unfold noted record
  rw [hnotify, hobserved]
  by_cases hsame : s.watchdog.last = some (s.observe P).1
  · simp [hsame, note, Event.observation?, Event.offer?]
  · simp only [if_neg hsame]
    rw [(offer_heard _ _).1, (offer_heard _ _).2]
    simp [note, Event.observation?, Event.offer?]

/-! ## The sink -/

/-- The sink `k` of `s`, told from the sink `first` that the supervision began with, from the offers
made to it, and from what its receiver has fetched. -/
structure Holds (first : Sink) (departed : Bool) (fetched : List Status) (s : Supervisor σ)
    (k : Sink) : Prop where
  held : s.sink = some k
  capacity : k.capacity = first.capacity
  receiver : k.receiver = (first.receiver && !departed)
  sender : s.running = true → k.sender = (first.sender && !foundClosed (offers s.trace))
  /-- Nothing that was accepted is lost, and nothing is added, before the receiver goes. -/
  queued : k.receiver = true → fetched ++ k.queued = first.queued ++ accepted (offers s.trace)
  got : fetched <+: first.queued ++ accepted (offers s.trace)

/-- The supervisor holds the sink that the supervision began with, if any. -/
inductive Piped (departed : Bool) (fetched : List Status) (s : Supervisor σ) : Option Sink → Prop
  | absent (unheld : s.sink = none) (nothing : fetched = []) : Piped departed fetched s none
  | present {first k : Sink} (holds : Holds first departed fetched s k) :
      Piped departed fetched s (some first)

variable {sink : Option Sink} {first k : Sink} {departed : Bool} {got : List Status}

theorem accepted_concat (earlier : List (Status × Delivery)) (status : Status)
    (delivery : Delivery) : accepted (earlier ++ [(status, delivery)]) =
      accepted earlier ++ if delivery = .taken then [status] else [] := by
  unfold accepted
  cases delivery <;> simp

theorem foundClosed_concat (earlier : List (Status × Delivery)) (status : Status)
    (delivery : Delivery) : foundClosed (earlier ++ [(status, delivery)]) =
      (foundClosed earlier || decide (delivery = .closed)) := by
  unfold foundClosed
  simp

namespace Holds

/-- **What becomes of the next offer** follows from the offers before it, and from what the receiver
has done. -/
theorem reception_eq (h : Holds first departed got s k) (hrunning : s.running = true)
    (status : Status) :
    (k.offer status).1 = reception (some first) departed got.length (offers s.trace) := by
  have hsender : (!first.sender || foundClosed (offers s.trace)) = !k.sender := by
    rw [h.sender hrunning, Bool.not_and, Bool.not_not]
  have hreceiver : (!first.receiver || departed) = !k.receiver := by
    rw [h.receiver, Bool.not_and, Bool.not_not]
  unfold reception Sink.offer
  dsimp only
  rw [hsender, hreceiver]
  by_cases hheld : (!k.sender) = true
  · rw [if_pos hheld, if_pos hheld]
  · rw [if_neg hheld, if_neg hheld]
    by_cases hgone : (!k.receiver) = true
    · rw [if_pos hgone, if_pos hgone]
    · rw [if_neg hgone, if_neg hgone]
      have hlength := congrArg List.length (h.queued (by simpa using hgone))
      simp only [List.length_append] at hlength
      have hroom : k.queued.length < k.capacity ↔
          first.queued.length + (accepted (offers s.trace)).length <
            first.capacity + got.length := by
        rw [h.capacity]
        omega
      simp only [hroom]
      split <;> rfl

/-- Where the sink is not touched, and nothing of consequence is offered. -/
theorem of_eq (h : Holds first departed got s k) (hrunning : t.running = true → s.running = true)
    (hsink : t.sink = s.sink)
    (haccepted : accepted (offers t.trace) = accepted (offers s.trace))
    (hclosed : foundClosed (offers t.trace) = foundClosed (offers s.trace)) :
    Holds first departed got t k where
  held := hsink.trans h.held
  capacity := h.capacity
  receiver := h.receiver
  sender := by
    intro hgoing
    rw [hclosed]
    exact h.sender (hrunning hgoing)
  queued := by
    rw [haccepted]
    exact h.queued
  got := by
    rw [haccepted]
    exact h.got

/-- **The sink after an offer.** -/
theorem offer (h : Holds first departed got s k) (status : Status)
    (hrunning : t.running = true → s.running = true) (hsink : t.sink = some (k.offer status).2)
    (hoffers : offers t.trace = offers s.trace ++ [(status, (k.offer status).1)]) :
    Holds first departed got t (k.offer status).2 := by
  cases hheld : k.sender with
  | false =>
    have heq : k.offer status = (.unheard, k) := by simp [Sink.offer, hheld]
    rw [heq] at hsink hoffers ⊢
    refine h.of_eq hrunning (hsink.trans h.held.symm) ?_ ?_
    · simp [hoffers, accepted_concat]
    · simp [hoffers, foundClosed_concat]
  | true =>
    cases hgone : k.receiver with
    | false =>
      have heq : k.offer status = (.closed, { k with sender := false }) := by
        simp [Sink.offer, hheld, hgone]
      rw [heq] at hsink hoffers ⊢
      refine ⟨hsink, h.capacity, h.receiver, ?_, ?_, ?_⟩
      · simp [hoffers, foundClosed_concat]
      · intro hthere
        exact absurd (hthere.symm.trans hgone) (by simp)
      · simpa [hoffers, accepted_concat] using h.got
    | true =>
      by_cases hroom : k.queued.length < k.capacity
      · have heq : k.offer status = (.taken, { k with queued := k.queued ++ [status] }) := by
          simp [Sink.offer, hheld, hgone, hroom]
        have haccepted : accepted (offers t.trace) = accepted (offers s.trace) ++ [status] := by
          rw [hoffers, heq, accepted_concat, if_pos rfl]
        rw [heq] at hsink hoffers ⊢
        refine ⟨hsink, h.capacity, h.receiver, ?_, ?_, ?_⟩
        · simpa [hoffers, foundClosed_concat] using fun hgoing => h.sender (hrunning hgoing)
        · intro _
          rw [haccepted, ← List.append_assoc, ← List.append_assoc, h.queued hgone]
        · rw [haccepted, ← List.append_assoc]
          exact h.got.trans (List.prefix_append _ _)
      · have heq : k.offer status = (.full, k) := by simp [Sink.offer, hheld, hgone, hroom]
        rw [heq] at hsink hoffers ⊢
        refine h.of_eq hrunning (hsink.trans h.held.symm) ?_ ?_
        · simp [hoffers, accepted_concat]
        · simp [hoffers, foundClosed_concat]

/-- The sink after a fetch. -/
theorem receive (h : Holds first departed got s k) (max : Nat)
    (hsink : t.sink = some (k.receive max).2) (hrunning : t.running = s.running)
    (htrace : t.trace = s.trace) :
    Holds first departed (got ++ (k.receive max).1.filterMap Notice.status?) t
      (k.receive max).2 := by
  have hsender := h.sender
  rw [← hrunning, ← htrace] at hsender
  cases hgone : k.receiver with
  | false =>
    rw [k.receive_of_gone max hgone] at hsink ⊢
    rw [List.filterMap_nil, List.append_nil]
    exact h.of_eq (fun hgoing => hrunning ▸ hgoing) (hsink.trans h.held.symm) (by rw [htrace])
      (by rw [htrace])
  | true =>
    obtain ⟨hgot, hleft⟩ := k.receive_eq max hgone
    have hqueued := h.queued hgone
    rw [← htrace, ← List.take_append_drop max k.queued, ← List.append_assoc] at hqueued
    rw [hleft] at hsink ⊢
    rw [hgot]
    exact ⟨hsink, h.capacity, h.receiver, hsender, fun _ => hqueued, ⟨_, hqueued⟩⟩

end Holds

namespace Piped

/-- Where the sink is not touched, and nothing is offered. -/
theorem of_eq (h : Piped departed got s sink) (hrunning : t.running = true → s.running = true)
    (hsink : t.sink = s.sink) (hoffers : offers t.trace = offers s.trace) :
    Piped departed got t sink := by
  cases h with
  | absent unheld nothing => exact .absent (hsink.trans unheld) nothing
  | present holds =>
    exact .present (holds.of_eq hrunning hsink (by rw [hoffers]) (by rw [hoffers]))

theorem reception_eq (h : Piped departed got s sink) (hrunning : s.running = true)
    (status : Status) :
    (heard s.sink status).1 = reception sink departed got.length (offers s.trace) := by
  cases h with
  | absent unheld => rw [unheld]; rfl
  | present holds =>
    rw [holds.held]
    exact holds.reception_eq hrunning status

/-- A tick offers what has changed. -/
theorem noted (h : Piped departed got s sink) : Piped departed got (s.noted P) sink := by
  obtain ⟨hsink, -, hoffers⟩ := noted_change P s
  have hrunning : (s.noted P).running = true → s.running = true := by
    rw [noted_frame]
    exact id
  by_cases hsame : s.watchdog.last = some (s.observe P).1
  · rw [if_pos hsame] at hsink hoffers
    exact h.of_eq hrunning hsink (hoffers.trans (List.append_nil _))
  · rw [if_neg hsame] at hsink hoffers
    cases h with
    | absent unheld nothing =>
      refine .absent ?_ nothing
      rw [hsink, unheld]
      rfl
    | present holds =>
      rw [holds.held] at hsink hoffers
      exact .present (holds.offer _ hrunning hsink hoffers)

/-- The supervisor lets go of the sink. -/
theorem finish (h : Piped departed got s sink) : Piped departed got s.finish sink := by
  have hoffers : offers s.finish.trace = offers s.trace := finish_unticked.offers_eq fun _ => id
  have hended : s.finish.running = false := by rw [finish_eq]
  have hsink : s.finish.sink = s.sink.map Sink.hangUp := by rw [finish_eq]
  cases h with
  | absent unheld nothing => exact .absent (by rw [hsink, unheld]; rfl) nothing
  | present holds =>
    rw [holds.held] at hsink
    refine .present ⟨hsink, holds.capacity, holds.receiver, ?_, ?_, ?_⟩
    · intro hgoing
      exact absurd (hgoing.symm.trans hended) (by simp)
    · rw [hoffers]
      exact holds.queued
    · rw [hoffers]
      exact holds.got

theorem of_handles (h : Piped departed got s sink) (handles : Handles s t) :
    Piped departed got t sink := by
  have hframe := handles.frame
  refine h.of_eq ?_ ?_ (handles.adds.offers_eq fun _ => id)
  · rw [hframe]
    exact id
  · rw [hframe]

theorem turn (h : Piped departed got s sink) (hs : Watchful s) :
    Piped departed got (s.turn P) sink := by
  cases turn_turns P s with
  | idle _ result => rwa [result]
  | ended _ result =>
    rw [result]
    exact h.finish.of_eq id rfl rfl
  | ticked due result =>
    rw [result]
    have hopened : Piped departed got (s.opened .tick) sink := h.of_eq id rfl rfl
    have hroute := tick_route P (s.opened .tick) (hs.alert (running_of_due due))
    exact (hopened.noted.of_handles hroute.handles).of_eq id rfl rfl
  | @handled occasion u _ _ handles result =>
    rw [result]
    have hopened : Piped departed got (s.opened occasion) sink := by
      cases occasion <;> exact h.of_eq id rfl rfl
    exact (hopened.of_handles handles).of_eq id rfl rfl

/-- **After every input** the sink is as it should be. -/
theorem step (h : Piped departed got s sink) (hs : Watchful s) (input : Input σ) :
    Piped (departed || input.isDeparture) (got ++ s.fetches input) (step P s input) sink := by
  cases input with
  | turn =>
    simp only [Input.isDeparture, fetches, Bool.or_false, List.append_nil]
    exact h.turn hs
  | receive max =>
    simp only [Input.isDeparture, Bool.or_false]
    cases h with
    | absent unheld nothing =>
      refine .absent ?_ ?_
      · simp [Supervisor.step, unheld]
      · simp [fetches, unheld, nothing]
    | @present first k holds =>
      have hfetches : s.fetches (.receive max) =
          (k.receive max).1.filterMap Notice.status? := by
        rw [fetches, holds.held]
        rfl
      have hsink : (Supervisor.step P s (.receive max)).sink = some (k.receive max).2 := by
        rw [Supervisor.step, holds.held]
        rfl
      rw [hfetches]
      exact .present (holds.receive max hsink rfl rfl)
  | dropReceiver =>
    simp only [Input.isDeparture, fetches, Bool.or_true, List.append_nil]
    cases h with
    | absent unheld nothing => exact .absent (by simp [Supervisor.step, unheld]) nothing
    | @present first k holds =>
      have hsink : (Supervisor.step P s .dropReceiver).sink = some k.dropReceiver := by
        rw [Supervisor.step, holds.held]
        rfl
      refine .present ⟨hsink, holds.capacity, ?_, holds.sender, ?_, holds.got⟩
      · simp [Sink.dropReceiver]
      · intro hthere
        cases hthere
  | send ticket request =>
    have hsend : (Supervisor.step P s (.send ticket request)).sink = s.sink ∧
        (Supervisor.step P s (.send ticket request)).running = s.running := by
      rw [Supervisor.step, send_frame]
      exact ⟨rfl, rfl⟩
    simp only [Input.isDeparture, fetches, Bool.or_false, List.append_nil]
    have hturn : Input.send (σ := σ) ticket request ≠ .turn := by simp
    exact h.of_eq (fun hgoing => hsend.2 ▸ hgoing) hsend.1
      ((step_unticked hturn).offers_eq fun _ => id)
  | world | cancel | loseHandles | elapse =>
    simp only [Input.isDeparture, fetches, Bool.or_false, List.append_nil]
    exact h.of_eq id rfl rfl

/-- A supervision that has offered nothing yet holds the sink that it was given. -/
theorem of_fresh (hsink : s.sink = sink) (hoffers : offers s.trace = []) :
    Piped false [] s sink := by
  cases sink with
  | none => exact .absent hsink rfl
  | some first =>
    refine .present ⟨hsink, rfl, by simp, fun _ => ?_, fun _ => ?_, List.nil_prefix⟩
    · simp [hoffers, foundClosed]
    · simp [hoffers, accepted]

variable (P) in
/-- **In every reachable state** the sink is as it should be. -/
theorem of_reached (spec : Spec) (system : σ) (sink : Option Sink) (inputs : List (Input σ)) :
    Piped (inputs.any Input.isDeparture) (fetched P (supervise P spec system sink).2 inputs)
      (reached P spec system sink inputs) sink := by
  induction inputs using List.reverseRecOn with
  | nil =>
    have hkeeps := launch_keeps P (new spec system sink)
    have hsink : ((new spec system sink).launch P).2.sink = sink := by rw [hkeeps]; rfl
    have hoffers : offers ((new spec system sink).launch P).2.trace = [] :=
      (Handles.of_launch (P := P) (s := new spec system sink)).adds.offers_eq fun _ => id
    exact @supervise_invariant σ P (Piped false [] · sink) spec system sink
      (of_fresh hsink hoffers) (of_fresh hsink hoffers) fun _ h => h.finish
  | append_singleton inputs input ih =>
    rw [reached_concat, fetched_concat, List.any_append]
    simpa [reached] using ih.step (P := P) (Watchful.of_reached P spec system sink inputs) input

end Piped

/-! ## The stream -/

/-- **A tick** observes once, and offers what it observed if that is a change. -/
theorem turn_of_tick (hs : Watchful s) (due : s.due? = some .tick) :
    observations (s.turn P).trace = observations s.trace ++ [(s.observe P).1] ∧
      offers (s.turn P).trace = offers s.trace ++
        if (observations s.trace).getLast? = some (s.observe P).1 then []
        else [((s.observe P).1, (heard s.sink (s.observe P).1).1)] := by
  have hstatus : ((s.opened .tick).observe P).1 = (s.observe P).1 := opened_observe.1
  obtain ⟨-, hobservations, hoffers⟩ := noted_change P (s.opened .tick)
  have hroute := (tick_route P (s.opened .tick) (hs.alert (running_of_due due))).handles.adds
  have hturn : (s.turn P).trace = ((s.opened .tick).onTick P).trace := by
    rw [turn_eq due]
    rfl
  have hlast : (s.opened .tick).watchdog.last = (observations s.trace).getLast? := by
    rw [observations_getLast?]
    exact hs.last
  rw [hlast, hstatus] at hoffers
  rw [hstatus] at hobservations
  rw [hturn, hroute.observations_eq fun _ => id, hroute.offers_eq fun _ => id]
  exact ⟨hobservations, hoffers⟩

/-- **Whatever else happens**, nothing is observed and nothing is offered. -/
theorem step_of_other {input : Input σ} (h : input = .turn → s.due? ≠ some .tick) :
    observations (step P s input).trace = observations s.trace ∧
      offers (step P s input).trace = offers s.trace := by
  have hadds : Adds (fun e => e.isTick = false) s (step P s input) := by
    by_cases hturn : input = .turn
    · have hquiet := h hturn
      subst hturn
      rw [step]
      cases turn_turns P s with
      | idle _ result => exact .of_trace_eq (congrArg Supervisor.trace result)
      | ended _ result => rw [result]; exact finish_unticked
      | ticked due => exact absurd due hquiet
      | @handled occasion u _ _ handles result =>
        have hopened : (s.opened occasion).trace = s.trace := by cases occasion <;> rfl
        obtain ⟨events, htrace, hevents⟩ := handles.adds
        exact ⟨events, by rw [result, ← hopened]; exact htrace, hevents⟩
    · exact step_unticked hturn
  exact ⟨hadds.observations_eq fun _ => id, hadds.offers_eq fun _ => id⟩

variable (P) in
/-- The supervision begins with nothing observed and nothing offered. -/
theorem supervise_unobserved (spec : Spec) (system : σ) (sink : Option Sink) :
    observations (supervise P spec system sink).2.trace = [] ∧
      offers (supervise P spec system sink).2.trace = [] := by
  have hadds := (Handles.of_launch (P := P) (s := new spec system sink)).adds
  have hlaunch : observations ((new spec system sink).launch P).2.trace = [] ∧
      offers ((new spec system sink).launch P).2.trace = [] :=
    ⟨hadds.observations_eq fun _ => id, hadds.offers_eq fun _ => id⟩
  refine @supervise_invariant σ P (fun u => observations u.trace = [] ∧ offers u.trace = [])
    spec system sink hlaunch hlaunch ?_
  rintro u ⟨hobservations, hoffers⟩
  exact ⟨(finish_unticked.observations_eq fun _ => id).trans hobservations,
    (finish_unticked.offers_eq fun _ => id).trans hoffers⟩

/-- Either nothing is observed and nothing offered, or one status is observed, and offered if it is
a change. -/
theorem step_observes (hs : Watchful s) (input : Input σ) :
    (observations (step P s input).trace = observations s.trace ∧
        offers (step P s input).trace = offers s.trace) ∨
      (s.running = true ∧ ∃ status,
        observations (step P s input).trace = observations s.trace ++ [status] ∧
          offers (step P s input).trace = offers s.trace ++
            if (observations s.trace).getLast? = some status then []
            else [(status, (heard s.sink status).1)]) := by
  by_cases htick : input = .turn ∧ s.due? = some .tick
  · obtain ⟨rfl, due⟩ := htick
    exact .inr ⟨running_of_due due, (s.observe P).1, turn_of_tick hs due⟩
  · exact .inl (step_of_other fun hturn due => htick ⟨hturn, due⟩)

variable (P) in
/-- **What is offered** is what was observed, the repetitions removed. -/
theorem offers_changes (spec : Spec) (system : σ) (sink : Option Sink) (inputs : List (Input σ)) :
    (offers (reached P spec system sink inputs).trace).map Prod.fst =
      (observations (reached P spec system sink inputs).trace).destutter (· ≠ ·) := by
  induction inputs using List.reverseRecOn with
  | nil =>
    obtain ⟨hobservations, hoffers⟩ := supervise_unobserved P spec system sink
    rw [reached, run, List.foldl_nil, hobservations, hoffers]
    rfl
  | append_singleton inputs input ih =>
    rw [reached_concat]
    rcases step_observes (P := P) (Watchful.of_reached P spec system sink inputs) input with
      ⟨hobservations, hoffers⟩ | ⟨-, status, hobservations, hoffers⟩
    · rw [hobservations, hoffers, ih]
    · rw [hobservations, hoffers, destutter_concat, List.map_append, ih]
      split <;> rfl

/-- An offer reaches no sink when there is none, or when it was found closed. -/
theorem reception_unheard {earlier : List (Status × Delivery)} {n : Nat} :
    reception sink departed n earlier = .unheard ↔
      (∀ k, sink = some k → k.sender = false) ∨ foundClosed earlier = true := by
  cases sink with
  | none => simp [reception]
  | some k =>
    unfold reception
    dsimp only
    split
    · next h => simpa using h
    · next h =>
      have hheld : ¬ ((∀ k', some k = some k' → k'.sender = false) ∨
          foundClosed earlier = true) := by
        simpa using h
      refine iff_of_false ?_ hheld
      split
      · simp
      · split <;> simp

variable (P) in
/-- **An offer reaches the sink**, unless there is none or it was found closed before. -/
theorem offers_heard (spec : Spec) (system : σ) (sink : Option Sink) (inputs : List (Input σ))
    {before after : List (Status × Delivery)} {status : Status} {delivery : Delivery}
    (h : offers (reached P spec system sink inputs).trace =
      before ++ (status, delivery) :: after) :
    delivery = .unheard ↔
      (∀ k, sink = some k → k.sender = false) ∨ foundClosed before = true := by
  induction inputs using List.reverseRecOn generalizing after with
  | nil =>
    rw [reached, run, List.foldl_nil, (supervise_unobserved P spec system sink).2] at h
    simp at h
  | append_singleton inputs input ih =>
    rw [reached_concat] at h
    rcases step_observes (P := P) (Watchful.of_reached P spec system sink inputs) input with
      ⟨-, hoffers⟩ | ⟨hrunning, seen, -, hoffers⟩
    · rw [hoffers] at h
      exact ih h
    · rw [hoffers] at h
      split at h
      · rw [List.append_nil] at h
        exact ih h
      · rcases concat_eq_split h with ⟨rfl, hlast, -⟩ | ⟨rest, -, hearlier⟩
        · have hreception :=
            (Piped.of_reached P spec system sink inputs).reception_eq hrunning seen
          obtain ⟨-, rfl⟩ := Prod.mk.inj hlast
          rw [hreception]
          exact reception_unheard
        · exact ih hearlier

variable (P) in
/-- The stream of notices up to `s`, when the receiver of the sink `first` has fetched `got`, and is
`departed` or not. -/
structure Streams (first : Option Sink) (departed : Bool) (got : List Status)
    (s : Supervisor σ) : Prop where
  /-- What is offered is what the ticks observed, the repetitions removed. -/
  changes : (offers s.trace).map Prod.fst = (observations s.trace).destutter (· ≠ ·)
  /-- An offer reaches the sink, unless there is none or it was found closed before. -/
  unheard : ∀ before status delivery after,
    offers s.trace = before ++ (status, delivery) :: after →
      (delivery = .unheard ↔
        (∀ sink, first = some sink → sink.sender = false) ∨ foundClosed before = true)
  /-- A tick observes the process, and offers what it observed if that is a change.  The sink has
  room or has not, as it follows from what was offered and fetched before. -/
  tick : s.due? = some .tick →
    observations (s.turn P).trace = observations s.trace ++ [(s.observe P).1] ∧
      offers (s.turn P).trace = offers s.trace ++
        if (observations s.trace).getLast? = some (s.observe P).1 then []
        else [((s.observe P).1, reception first departed got.length (offers s.trace))]
  /-- Nothing else observes or offers anything, and what was offered is not offered again. -/
  other : ∀ input, (input = .turn → s.due? ≠ some .tick) →
    observations (step P s input).trace = observations s.trace ∧
      offers (step P s input).trace = offers s.trace
  /-- The receiver gets nothing but what the sink had room for, in that order. -/
  received : ∀ sink, first = some sink → got <+: sink.queued ++ accepted (offers s.trace)
  /-- What it has not got yet is kept for it. -/
  waiting : ∀ sink, first = some sink → sink.receiver = true → departed = false →
    ∃ k, s.sink = some k ∧ got ++ k.queued = sink.queued ++ accepted (offers s.trace)

/-- **The stream of notices.**  For every run, with any sink or none. -/
theorem notification_stream (P : Platform σ) (spec : Spec) (system : σ) (sink : Option Sink)
    (inputs : List (Input σ)) :
    Streams P sink (inputs.any Input.isDeparture)
      (fetched P (supervise P spec system sink).2 inputs)
      (reached P spec system sink inputs) where
  changes := offers_changes P spec system sink inputs
  unheard _ _ _ _ h := offers_heard P spec system sink inputs h
  tick due := by
    obtain ⟨hobservations, hoffers⟩ :=
      turn_of_tick (P := P) (Watchful.of_reached P spec system sink inputs) due
    rw [(Piped.of_reached P spec system sink inputs).reception_eq (running_of_due due)] at hoffers
    exact ⟨hobservations, hoffers⟩
  other _ h := step_of_other h
  received first hfirst := by
    subst hfirst
    cases Piped.of_reached P spec system (some first) inputs with
    | present holds => exact holds.got
  waiting first hfirst hreceiver hdeparted := by
    subst hfirst
    cases Piped.of_reached P spec system (some first) inputs with
    | @present _ k holds =>
      refine ⟨k, holds.held, holds.queued ?_⟩
      rw [holds.receiver, hreceiver, hdeparted]
      rfl

/-- A sink for one notice, which nobody fetches: the process is seen running, running still, and
gone. -/
example : offers (reached ScriptedProcess.platform (ScriptedProcess.spec .never) {} (some (.new 1))
    [.elapse 1000, .turn, .elapse 1000, .turn, .world ({ · with life := .vanished }),
      .elapse 1000, .turn]).trace = [(.running, .taken), (.terminated, .full)] := rfl

end Supervisor

end Overseer
