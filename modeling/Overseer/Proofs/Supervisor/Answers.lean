import Overseer.Proofs.Supervisor.Deletion

/-!
# Whom a turn answers

A turn answers the request it serves and the callers who are parked.  Whoever wants no deletion is
told anything but that the supervisor has ended; a deletion that ends is the last thing a turn does.

* `audience` -- everybody who may be answered in a turn;
* `Ordinary` -- what is done while no deletion ends; `Superseded` -- what is said beside one;
* `Grounds` -- how a deletion ends, and on what grounds;
* `Concludes` -- the two ways in which a handler goes: nothing but the ordinary, or a deletion ends;
  `turn_concludes` -- every turn is of this kind, but the one that ends the loop.
-/

namespace Overseer

namespace Event

/-- The request that is answered. -/
def answered? : Event → Option Ticket
  | answered ticket _ => some ticket
  | _ => none

theorem answered?_of_isCall {e : Event} (h : e.isCall = true) : e.answered? = none := by
  cases e <;> simp_all [isCall, answered?]

theorem answered?_of_isTick {e : Event} (h : e.isTick = true) : e.answered? = none := by
  cases e <;> simp_all [isTick, answered?]

end Event

/-- A request as a caller who awaits the answer. -/
def Request.caller (ticket : Ticket) : Request → Waiter
  | delete => .delete (some ticket)
  | restart => .restart ticket
  | _ => .wait ticket

namespace Supervisor

variable {σ : Type} {P : Platform σ} {s t u v : Supervisor σ} {callers more : List Waiter}

/-- Everybody who may be answered when the loop turns to an occasion. -/
def audience (s : Supervisor σ) : Occasion → List Waiter
  | .request ticket request => s.waiters ++ [request.caller ticket]
  | .detached => s.waiters ++ [.delete none]
  | _ => s.waiters

/-- What is done while no deletion ends: nobody is answered, a request is refused because another
one is parked, or a caller who wants no deletion is told anything but that the supervisor has
ended. -/
inductive Ordinary (callers : List Waiter) : Event → Prop where
  | unanswered {e : Event} (h : e.answered? = none) : Ordinary callers e
  | busy (ticket : Ticket) (name : String) :
      Ordinary callers (.answered ticket (.error (.busy name)))
  | told {ticket : Ticket} {answer : Answer}
      (caller : .wait ticket ∈ callers ∨ .restart ticket ∈ callers)
      (there : Answer.isGone answer = false) : Ordinary callers (.answered ticket answer)

/-- A restart that is parked in `s` is told that the supervisor has ended. -/
def Superseded (s : Supervisor σ) (e : Event) : Prop :=
  ∃ ticket name, .restart ticket ∈ s.waiters ∧ e = .answered ticket (.error (.gone name))

variable (P) in
/-- How a deletion ends in `u`, on grounds of what was done since `s`.  It succeeds when an exit
status was collected, the probe found no process, none is held, or the process was killed and let
go of. -/
inductive Grounds (s u : Supervisor σ) : Except Error Unit → Prop where
  | collected {status : ExitStatus} (h : Made (.awaited (.ok (some status))) s u) :
      Grounds s u (.ok ())
  | unfound (h : Made (.probed (.error .esrch)) s u) : Grounds s u (.ok ())
  | free (h : u.pid P = none) : Grounds s u (.ok ())
  | killed (delivered : Made (.signalled .kill (.ok ())) s u)
      (released : Made (.released (.ok ())) s u) : Grounds s u (.ok ())
  | unknown (reason : String) : Grounds s u (.error (.wait reason))
  | undeleted (name : String) (graceful forced : Error) :
      Grounds s u (.error (.delete name graceful forced))

variable (P) in
/-- The two ways in which a handler goes from `s` to `t`, when `callers` are those who may be
answered. -/
inductive Concludes (callers : List Waiter) (s t : Supervisor σ) : Prop where
  | ordinary (parked : t.waiters ⊆ callers) (done : Adds (Ordinary callers) s t)
  /-- A deletion ends, and nothing comes after it. -/
  | ended {ticket : Option Ticket} {u : Supervisor σ} {result : Except Error Unit}
      (parked : t.waiters ⊆ callers) (wanted : .delete ticket ∈ callers)
      (before : Adds (fun e => Ordinary callers e ∨ Superseded s e) s u)
      (grounds : Grounds P s u result) (finished : t = u.finishDelete ticket result)

theorem Ordinary.mono {e : Event} (h : Ordinary callers e) (hsub : callers ⊆ more) :
    Ordinary more e := by
  cases h with
  | unanswered h => exact .unanswered h
  | busy ticket name => exact .busy ticket name
  | told caller there => exact .told (caller.imp (hsub ·) (hsub ·)) there

theorem Grounds.after {result : Except Error Unit} (h : Grounds P t u result)
    (hst : s.trace <:+ t.trace) : Grounds P s u result := by
  cases h with
  | collected h => exact .collected (h.after hst)
  | unfound h => exact .unfound (h.after hst)
  | free h => exact .free h
  | killed delivered released => exact .killed (delivered.after hst) (released.after hst)
  | unknown reason => exact .unknown reason
  | undeleted name graceful forced => exact .undeleted name graceful forced

/-- What has been done and what is held decide. -/
theorem Grounds.of_eq {result : Except Error Unit} (h : Grounds P s u result)
    (hsystem : v.system = u.system) (htrace : v.trace = u.trace) : Grounds P s v result := by
  have hsuffix : u.trace <:+ v.trace := htrace ▸ List.suffix_rfl
  cases h with
  | collected h => exact .collected (h.before hsuffix)
  | unfound h => exact .unfound (h.before hsuffix)
  | free h => exact .free (by rw [pid, hsystem]; exact h)
  | killed delivered released =>
    exact .killed (delivered.before hsuffix) (released.before hsuffix)
  | unknown reason => exact .unknown reason
  | undeleted name graceful forced => exact .undeleted name graceful forced

namespace Concludes

theorem parked (h : Concludes P callers s t) : t.waiters ⊆ callers := by
  cases h with
  | ordinary parked => exact parked
  | ended parked => exact parked

/-- What was done before is ordinary, and parked no restart. -/
theorem after (h : Concludes P callers t u) (hst : Adds (Ordinary callers) s t)
    (hrestart : ∀ ticket, .restart ticket ∈ t.waiters → .restart ticket ∈ s.waiters) :
    Concludes P callers s u := by
  cases h with
  | ordinary parked done => exact .ordinary parked (hst.trans done)
  | ended parked wanted before grounds finished =>
    refine .ended parked wanted ?_ (grounds.after hst.suffix) finished
    refine (hst.mono fun _ he => .inl he).trans (before.mono ?_)
    rintro e (he | ⟨ticket, name, hparked, he⟩)
    · exact .inl he
    · exact .inr ⟨ticket, name, hrestart ticket hparked, he⟩

/-- Where only the clock, the requests and the like are changed at first. -/
theorem of_eq (h : Concludes P callers t u) (hwaiters : t.waiters = s.waiters)
    (htrace : t.trace = s.trace) : Concludes P callers s u :=
  h.after (.of_trace_eq htrace) (by simp [hwaiters])

/-- With no delete among the callers nothing but the ordinary is done. -/
theorem of_noDelete (h : Concludes P callers s t) (hnone : callers.any Waiter.isDelete = false) :
    Adds (Ordinary callers) s t := by
  cases h with
  | ordinary _ done => exact done
  | @ended ticket _ _ _ wanted =>
    have hdelete : callers.any Waiter.isDelete = true := List.any_eq_true.mpr ⟨_, wanted, rfl⟩
    rw [hnone] at hdelete
    cases hdelete

end Concludes

/-! ## Operations -/

theorem Adds.ordinary (h : Adds (fun e => e.answered? = none) s t) :
    Adds (Ordinary callers) s t :=
  h.mono fun _ he => .unanswered he

theorem Calls.unanswered (h : Calls s t) : Adds (fun e => e.answered? = none) s t :=
  h.adds.mono fun _ he => Event.answered?_of_isCall he

theorem Calls.ordinary (h : Calls s t) : Adds (Ordinary callers) s t := h.unanswered.ordinary

variable (P s) in
theorem launch_unanswered : Adds (fun e => e.answered? = none) s (s.launch P).2 := by
  rcases launch_cases P s with ⟨e, cause, -, -, h⟩ | ⟨e, cause, -, h⟩ | ⟨pid, reading, -, h⟩
  · exact .cons h rfl
  · exact ⟨[.launched (.error e), .started (.error cause)], h, by simp [Event.answered?]⟩
  · exact ⟨[.launched (.ok pid), .statusRead reading, .started (.ok pid)], h,
      by simp [Event.answered?]⟩

variable (P s) in
theorem relaunchNow_unanswered : Adds (fun e => e.answered? = none) s (s.relaunchNow P).2 := by
  unfold relaunchNow
  split
  · exact (release_calls P s).unanswered.trans (launch_unanswered P _)
  · exact launch_unanswered P { s with watchdog := s.watchdog.takeRestart.2 }

/-- A caller who wants no deletion is answered. -/
theorem Adds.answer (h : Adds (Ordinary callers) s t) {ticket : Ticket} {reply : Answer}
    (caller : .wait ticket ∈ callers ∨ .restart ticket ∈ callers)
    (tried : Answer.isRebuff reply = false) : Adds (Ordinary callers) s (t.answer ticket reply) :=
  h.trans (.cons rfl (.told caller (Answer.not_isGone_of_tried tried)))

variable (P s) in
theorem launch_tried : Answer.isRebuff ((s.launch P).1.map .restarted) = false := by
  have hresult : (s.launch P).1 = (s.attemptLaunch P).1 := rfl
  rw [hresult]
  unfold attemptLaunch
  split
  · rfl
  · split <;> rfl

variable (P s) in
theorem relaunchNow_tried : Answer.isRebuff ((s.relaunchNow P).1.map .restarted) = false :=
  launch_tried P _

theorem exitAnswer_tried (exit : Except String ExitStatus) :
    Answer.isRebuff (s.exitAnswer exit) = false := by
  cases exit <;> rfl

theorem mem_awaits {waiters : List Waiter} {ticket : Ticket} :
    ticket ∈ waiters.filterMap Waiter.awaits? ↔ .wait ticket ∈ waiters := by
  rw [List.mem_filterMap]
  constructor
  · rintro ⟨waiter, hmem, hawaits⟩
    cases waiter with
    | wait other =>
      obtain rfl : other = ticket := Option.some.inj hawaits
      exact hmem
    | _ => cases hawaits
  · intro hmem
    exact ⟨.wait ticket, hmem, rfl⟩

variable (P s) in
theorem told_ordinary (exit : Except String ExitStatus) :
    Adds (Ordinary s.waiters) s (s.told P exit) := by
  refine (nothingLeft_calls P s exit).ordinary.trans ⟨_, told_trace P s exit, ?_⟩
  intro e he
  rw [List.mem_reverse, List.mem_map] at he
  obtain ⟨ticket, hticket, rfl⟩ := he
  exact .told (.inl (mem_awaits.mp hticket)) (Answer.not_isGone_of_tried (exitAnswer_tried exit))

variable (P s) in
/-- What is not alive is not held, or was not found. -/
theorem isAlive_false (h : (s.isAlive P).1 = false) :
    s.pid P = none ∧ (s.isAlive P).2 = s ∨
      Made (.probed (.error .esrch)) s (s.isAlive P).2 := by
  unfold isAlive at *
  split
  · next hfree => exact .inl ⟨hfree, rfl⟩
  · next pid hheld =>
    simp only [hheld] at h
    refine .inr (.of_cons ?_)
    rw [← alive_eq_false h]
    rfl

/-- The grounds on which a settling ends a deletion, with an exit that was collected since `s`. -/
theorem settled_grounds {exit : Except String ExitStatus} (hsu : s.trace <:+ u.trace)
    (collected : ∀ status, exit = .ok status → Made (.awaited (.ok (some status))) s u)
    (hsystem : v.system = (u.nothingLeft P exit).2.system)
    (hsuffix : (u.nothingLeft P exit).2.trace <:+ v.trace) :
    Grounds P s v (if (u.nothingLeft P exit).1 then .ok ()
      else (exit.mapError u.waitFailure).map fun _ => ()) := by
  cases exit with
  | ok status => exact .collected ((collected status rfl).before hsuffix)
  | error reason =>
    cases hliving : (u.isAlive P).1 with
    | true =>
      have hthere : (u.nothingLeft P (.error reason)).1 = false := by
        simp [nothingLeft, hliving]
      rw [hthere]
      exact .unknown _
    | false =>
      have hgone : (u.nothingLeft P (.error reason)).1 = true := by
        simp [nothingLeft, hliving]
      rw [hgone]
      rcases isAlive_false P u hliving with ⟨hfree, hsame⟩ | hmade
      · refine .free ?_
        have hkept : (u.nothingLeft P (.error reason)).2 = u := hsame
        rw [pid, hsystem, hkept]
        exact hfree
      · exact .unfound ((hmade.before hsuffix).after hsu)

/-! ## Settling -/

/-- **Settling everybody** is ordinary, unless a delete is parked, which then ends. -/
theorem Route.concludes (h : Route P s t) : Concludes P s.waiters s t := by
  cases h with
  | calls h => exact .ordinary (by rw [h.keeps.waiters]; exact List.Subset.refl _) h.ordinary
  | @settled u exit h collected result =>
    have hwaiters := h.keeps.waiters
    have htold := told_ordinary P u exit
    rw [hwaiters] at htold
    have hnobody : t.waiters ⊆ s.waiters := by
      rw [result, resolveWaiters_waiters]
      exact List.nil_subset _
    have hrestart {ticket : Ticket} (h : parkedRestart? u.waiters = some ticket) :
        .restart ticket ∈ s.waiters := hwaiters ▸ parkedRestart?_mem h
    have hsettles := resolveWaiters_settles P u exit
    rw [← result] at hsettles
    cases hsettles with
    | nobody _ result => exact .ordinary hnobody (by rw [result]; exact h.ordinary)
    | waits _ _ _ result => exact .ordinary hnobody (by rw [result]; exact h.ordinary.trans htold)
    | relaunched ticket _ parked _ result =>
      refine .ordinary hnobody ?_
      rw [result]
      exact ((h.ordinary.trans htold).trans (relaunchNow_unanswered P _).ordinary).answer
        (.inr (hrestart parked)) (relaunchNow_tried P _)
    | refused ticket _ parked _ result =>
      refine .ordinary hnobody ?_
      rw [result]
      exact (h.ordinary.trans htold).answer (.inr (hrestart parked)) (exitAnswer_tried exit)
    | deleted ticket parked result =>
      refine .ended hnobody (hwaiters ▸ parkedDelete?_mem parked) ?_ ?_ result
      · have hbefore := (h.ordinary.trans htold).mono (q := fun e =>
          Ordinary s.waiters e ∨ Superseded s e) fun _ he => .inl he
        split
        · next restart hparked =>
          exact hbefore.trans (.cons rfl (.inr ⟨restart, _, hrestart hparked, rfl⟩))
        · exact hbefore
      · have hsuffix := (told_adds P u exit).suffix
        have hsystem : (u.told P exit).system = (u.nothingLeft P exit).2.system := by
          rw [told_frame]
        refine settled_grounds h.adds.suffix collected ?_ ?_
        · split <;> exact hsystem
        · split
          · exact hsuffix.trans (List.suffix_cons _ _)
          · exact hsuffix

/-- The end of a deletion answers the delete, and nobody else. -/
theorem finishDelete_adds (ticket : Option Ticket) (result : Except Error Unit) :
    Adds (fun e => ∃ asked, ticket = some asked ∧ e = .answered asked (result.map fun () => .done))
      s (s.finishDelete ticket result) := by
  cases ticket with
  | none => exact .of_trace_eq rfl
  | some asked => exact .cons rfl ⟨asked, rfl, rfl⟩

/-- No deletion ends with the answer that the supervisor has ended. -/
theorem Grounds.there {result : Except Error Unit} (h : Grounds P s u result) :
    Answer.isGone (result.map fun () => .done) = false := by
  cases h <;> rfl

/-! ## Requests -/

variable (P s) in
/-- Parking a caller settles everybody, or nobody. -/
theorem park_concludes (waiter : Waiter)
    (hrestart : ∀ ticket, waiter = .restart ticket → .restart ticket ∈ s.waiters) :
    Concludes P (s.waiters ++ [waiter]) s (s.park P waiter) := by
  refine (park_route P s waiter).concludes.after (.of_trace_eq rfl) ?_
  intro ticket hticket
  rcases List.mem_append.mp hticket with h | h
  · exact h
  · exact hrestart ticket (List.mem_singleton.mp h).symm

variable (P s) in
/-- Ending the held process by force succeeds when the kill is delivered and the process let go
of. -/
theorem stopForced_trace (h : (s.stopForced P).1 = .ok ()) : (s.stopForced P).2.trace =
    .released (.ok ()) :: .signalled .kill (.ok ()) :: s.trace := by
  have hsignal : (s.signal P .kill).2.trace = .signalled .kill (s.signal P .kill).1 :: s.trace :=
    rfl
  unfold stopForced at *
  split at h
  · cases h
  · rcases hkilled : s.signal P .kill with ⟨_ | _, u⟩ <;> simp only [hkilled] at h hsignal ⊢
    · cases h
    · have hrelease : (u.release P).2.trace = .released (u.release P).1 :: u.trace := rfl
      rcases hreleased : u.release P with ⟨_ | _, v⟩ <;> simp only [hreleased] at h hrelease ⊢
      · cases h
      · rw [hrelease, hsignal]

variable (P s) in
/-- **A delete** is ordinary, or ends. -/
theorem delete_concludes (ticket : Option Ticket) :
    Concludes P (s.waiters ++ [.delete ticket]) s (s.delete P ticket) := by
  have hgraceful := stopGraceful_calls P s
  cases delete_deletes P s ticket with
  | busy _ result =>
    have hsub : s.waiters ⊆ s.waiters ++ [.delete ticket] := List.subset_append_left _ _
    rcases result with ⟨-, result⟩ | ⟨refused, -, result⟩ <;> rw [result]
    · exact .ordinary hsub (.of_trace_eq rfl)
    · exact .ordinary hsub (.cons rfl (.busy refused _))
  | parked _ _ result =>
    rw [result]
    have hpark := park_concludes P (s.stopGraceful P).2 (.delete ticket) (by simp)
    rw [hgraceful.keeps.waiters] at hpark
    refine hpark.after hgraceful.ordinary ?_
    simp [hgraceful.keeps.waiters]
  | forced _ outcome result told =>
    obtain ⟨graceful, told⟩ := told
    have hforced := stopForced_calls P (s.stopGraceful P).2
    have hwaiters := (hgraceful.trans hforced).keeps.waiters
    have hsub : (s.delete P ticket).waiters ⊆ s.waiters ++ [.delete ticket] := by
      rw [result, finishDelete_waiters, hwaiters]
      exact List.subset_append_left _ _
    refine .ended hsub (by simp)
      ((hgraceful.trans hforced).ordinary.mono fun _ he => .inl he) ?_ result
    rw [told]
    cases hdone : ((s.stopGraceful P).2.stopForced P).1 with
    | ok done =>
      have htrace := stopForced_trace P (s.stopGraceful P).2 hdone
      have hkill : Made (.signalled .kill (.ok ())) (s.stopGraceful P).2
          ((s.stopGraceful P).2.stopForced P).2 :=
        ⟨[.released (.ok ())], _, htrace, List.suffix_rfl⟩
      have hfree : Made (.released (.ok ())) (s.stopGraceful P).2
          ((s.stopGraceful P).2.stopForced P).2 :=
        ⟨[], _, htrace, List.suffix_cons _ _⟩
      exact .killed (hkill.after hgraceful.adds.suffix) (hfree.after hgraceful.adds.suffix)
    | error forced => exact .undeleted s.spec.name graceful forced

theorem noDelete_of_first (first : s.waiters.any (fun waiter => !waiter.isWait) = false) :
    s.waiters.any Waiter.isDelete = false := by
  by_contra hdelete
  have hstop := stopParked_of_delete (by simpa using hdelete)
  rw [stopParked, first] at hstop
  cases hstop

/-- With no delete among the callers parking one of them is ordinary. -/
theorem park_ordinary {waiter : Waiter} (hsub : s.waiters ++ [waiter] ⊆ callers)
    (hnone : callers.any Waiter.isDelete = false) :
    (s.park P waiter).waiters ⊆ callers ∧ Adds (Ordinary callers) s (s.park P waiter) := by
  have hpark := (park_route P s waiter).concludes
  have hfirst : (s.waiters ++ [waiter]).any Waiter.isDelete = false := by
    rw [List.any_eq_false] at hnone ⊢
    exact fun other hmem => hnone other (hsub hmem)
  refine ⟨fun _ h => hsub (hpark.parked h), ?_⟩
  exact (Adds.of_trace_eq rfl).trans ((hpark.of_noDelete hfirst).mono fun _ he => he.mono hsub)

variable (P s) in
/-- **A restart** is ordinary: it ends no deletion. -/
theorem restart_concludes (ticket : Ticket) :
    Concludes P (s.waiters ++ [.restart ticket]) s (s.restart P ticket) := by
  have hsub : s.waiters ⊆ s.waiters ++ [Waiter.restart ticket] := List.subset_append_left _ _
  have hcaller : Waiter.wait ticket ∈ s.waiters ++ [Waiter.restart ticket] ∨
      Waiter.restart ticket ∈ s.waiters ++ [Waiter.restart ticket] := .inr (by simp)
  have hnotice := noticeExit_route P s
  have hleft : (s.noticeExit P).waiters ⊆ s.waiters := by
    rcases hnotice.waiters with h | h <;> rw [h]
    · exact List.Subset.refl _
    · exact List.nil_subset _
  have hgraceful := stopGraceful_calls P (s.noticeExit P)
  have hfirst (first : s.waiters.any (fun waiter => !waiter.isWait) = false) :
      Adds (Ordinary (s.waiters ++ [.restart ticket])) s (s.noticeExit P) :=
    (hnotice.concludes.of_noDelete (noDelete_of_first first)).mono fun _ he => he.mono hsub
  cases restart_restarts P s ticket with
  | busy _ result => rw [result]; exact .ordinary hsub (.cons rfl (.busy ticket _))
  | parked first _ result =>
    rw [result]
    have hcallers : ((s.noticeExit P).stopGraceful P).2.waiters ++ [Waiter.restart ticket] ⊆
        s.waiters ++ [Waiter.restart ticket] := by
      rw [hgraceful.keeps.waiters, List.append_subset]
      exact ⟨List.Subset.trans hleft hsub, List.subset_append_right _ _⟩
    have hnone : (s.waiters ++ [Waiter.restart ticket]).any Waiter.isDelete = false := by
      rw [List.any_append, noDelete_of_first first]
      rfl
    obtain ⟨hparked, hdone⟩ := park_ordinary (P := P) hcallers hnone
    exact .ordinary hparked (((hfirst first).trans hgraceful.ordinary).trans hdone)
  | relaunched first _ result =>
    rw [result]
    have hwaiters := relaunchNow_waiters P (s.noticeExit P)
    refine .ordinary ?_ ?_
    · exact fun _ h => hsub (hleft (hwaiters ▸ h))
    · exact ((hfirst first).trans (relaunchNow_unanswered P _).ordinary).answer hcaller
        (relaunchNow_tried P _)
  | refused first e result refusal =>
    rw [result]
    have hwaiters := hgraceful.keeps.waiters
    have htried := stopGraceful_tried P (s.noticeExit P)
    rw [refusal] at htried
    refine .ordinary ?_ ?_
    · exact fun _ h => hsub (hleft (hwaiters ▸ h))
    · exact ((hfirst first).trans hgraceful.ordinary).answer hcaller htried

variable (P s) in
/-- **A request** is ordinary, or is a delete that ends or brings a parked one to its end. -/
theorem handle_concludes (ticket : Ticket) (request : Request) :
    Concludes P (s.waiters ++ [request.caller ticket]) s (s.handle P ticket request) := by
  by_cases hplain : request.isPlain = true
  · obtain ⟨u, reply, hcalls, hresult, -, htried⟩ := handle_plain P s hplain ticket
    have hcaller : request.caller ticket = .wait ticket := by
      cases request with
      | restart | wait | delete => cases hplain
      | _ => rfl
    have hwaiters : (u.answer ticket reply).waiters = s.waiters := hcalls.keeps.waiters
    rw [hresult, hcaller]
    refine .ordinary ?_ (hcalls.ordinary.answer (.inl (by simp)) htried)
    rw [hwaiters]
    exact List.subset_append_left _ _
  · cases request with
    | restart => exact restart_concludes P s ticket
    | delete => exact delete_concludes P s (some ticket)
    | wait =>
      rcases wait_cases P s ticket with ⟨-, hresult⟩ | ⟨-, hresult⟩ <;> rw [hresult]
      · exact .ordinary (List.subset_append_left _ _)
          (.cons rfl (.told (.inl (by simp [Request.caller])) rfl))
      · exact park_concludes P s (.wait ticket) (by simp)
    | _ => exact absurd rfl hplain

/-! ## Turns -/

variable (P s) in
theorem noted_ordinary : Adds (Ordinary callers) s (s.noted P) :=
  (observe_calls P s).ordinary.trans
    ((noted_adds P s).mono fun _ he => .unanswered (Event.answered?_of_isTick he))

variable (P s) in
theorem onTick_concludes : Concludes P s.waiters s (s.onTick P) := by
  cases hlive : s.watchdog.cancelled with
  | true =>
    cases onTick_ticks P s with
    | stopped _ result =>
      have hobserve := observe_calls P s
      rw [result]
      refine .ordinary ?_ hobserve.ordinary
      rw [hobserve.keeps.waiters]
      exact List.Subset.refl _
    | terminated live | zombie live | quiet live => rw [hlive] at live; cases live
  | false =>
    have hroute := (tick_route P s hlive).concludes
    rw [noted_waiters] at hroute
    exact hroute.after (noted_ordinary P s) (by simp)

variable (P s) in
theorem onDetached_concludes :
    Concludes P (s.waiters ++ [.delete none]) s (s.onDetached P) := by
  unfold onDetached
  dsimp only
  split
  · exact (delete_concludes P { s with detached := true } none).of_eq rfl rfl
  · exact .ordinary (List.subset_append_left _ _) (.of_trace_eq rfl)

variable (P s) in
theorem relaunch_concludes : Concludes P s.waiters s (s.relaunch P) := by
  have hlaunch := launch_unanswered P { s with watchdog := s.watchdog.takeRestart.2 }
  have hkeeps := launch_keeps P { s with watchdog := s.watchdog.takeRestart.2 }
  unfold relaunch
  dsimp only
  split
  · refine .ordinary ?_ hlaunch.ordinary
    rw [hkeeps.waiters]
    exact List.Subset.refl _
  · exact .ordinary (List.Subset.refl _) (.of_trace_eq rfl)

variable (P) in
/-- **Every turn is ordinary, or ends a deletion**, but the turn that ends the loop. -/
theorem turn_concludes {occasion : Occasion} (hdue : s.due? = some occasion)
    (hend : occasion ≠ .cancelled) :
    ∃ t, s.turn P = t.rearm ∧ Concludes P (s.audience occasion) s t := by
  refine ⟨_, turn_eq hdue, ?_⟩
  cases occasion with
  | cancelled => exact absurd rfl hend
  | relaunch => exact relaunch_concludes P s
  | request ticket request =>
    exact (handle_concludes P { s with queue := s.queue.tail } ticket request).of_eq rfl rfl
  | detached => exact onDetached_concludes P s
  | exitCheck => exact (checkWaiters_route P s).concludes
  | tick => exact (onTick_concludes P (s.opened .tick)).of_eq rfl rfl

end Supervisor

end Overseer
