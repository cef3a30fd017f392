import RespClient.Proofs.Session.Steps

/-!
# Handlers are answered exactly once

A handler that was kept waits for the next flush, and is answered by this flush and by no other
(`Session.mem_pending_iff`). Handlers are answered in the order of their submission
(`Session.inOrder_answered`), each with one answer of the queue, and one that was not kept is never
answered. The main result, `Session.answered_once`, is about every run of every session that starts
with a queue of answers.
-/

set_option autoImplicit false

namespace RespClient

namespace Session

/-- Step `i` left the handler with the transport, under its own number. -/
def Submits (session : Session) (steps : List Step) (i : Nat) (handler : Handler) : Prop :=
  ∃ s command refused last, steps[i]? = some (.issueWith s command refused) ∧
    (run session steps)[i]? = some (.submitted (.ok ()), last) ∧ handler = ⟨session.revision, s, i⟩

/-- No step behind `i` and before `n` is a flush. -/
def NoFlush (steps : List Step) (i n : Nat) : Prop :=
  ∀ k, i < k ∧ k < n → steps[k]? ≠ some .flush

/-- Step `j` is the first flush behind step `i`. -/
structure NextFlush (steps : List Step) (i j : Nat) : Prop where
  lt : i < j
  flush : steps[j]? = some .flush
  first : NoFlush steps i j

/-- Before step `n`, the handler was submitted, and there was no flush since. -/
def Waits (session : Session) (steps : List Step) (n : Nat) (handler : Handler) : Prop :=
  ∃ i, Submits session steps i handler ∧ i < n ∧ NoFlush steps i n

variable {session : Session} {steps : List Step} {s : Step} {handler : Handler} {i n : Nat}
  {outcome : Outcome} {last : Session}

/-! ## Who waits -/

/-- A handler is submitted by a step whose outcome says so. -/
theorem Submits.isKept (h : Submits session steps i handler)
    (hrun : (run session steps)[i]? = some (outcome, last)) : outcome.isKept = true := by
  obtain ⟨_, _, _, _, _, hrun', _⟩ := h
  cases hrun.symm.trans hrun'
  rfl

/-- After a flush, nobody waits. -/
theorem not_waits_of_flush (hs : steps[n]? = some .flush)
    (hrun : (run session steps)[n]? = some (outcome, last)) (hkept : outcome.isKept = false) :
    ¬ Waits session steps (n + 1) handler := by
  rintro ⟨i, hsubmits, hi, hnone⟩
  rcases Nat.lt_succ_iff_lt_or_eq.1 hi with hlt | rfl
  · exact hnone n ⟨hlt, Nat.lt_succ_self n⟩ hs
  · cases hkept.symm.trans (hsubmits.isKept hrun)

/-- A step that is no flush adds its own handler to those who wait, if it has one. -/
theorem waits_succ_iff (hs : steps[n]? = some s) (hflush : s ≠ .flush) :
    Waits session steps (n + 1) handler ↔
      Waits session steps n handler ∨ Submits session steps n handler := by
  constructor
  · rintro ⟨i, hsubmits, hi, hnone⟩
    rcases Nat.lt_succ_iff_lt_or_eq.1 hi with hlt | rfl
    · exact .inl ⟨i, hsubmits, hlt, fun k hk => hnone k ⟨hk.1, Nat.lt_succ_of_lt hk.2⟩⟩
    · exact .inr hsubmits
  · rintro (⟨i, hsubmits, hlt, hnone⟩ | hsubmits)
    · refine ⟨i, hsubmits, Nat.lt_succ_of_lt hlt, fun k hk => ?_⟩
      rcases Nat.lt_succ_iff_lt_or_eq.1 hk.2 with hlt' | rfl
      · exact hnone k ⟨hk.1, hlt'⟩
      · rw [hs]
        exact fun heq => hflush (Option.some.inj heq)
    · exact ⟨n, hsubmits, Nat.lt_succ_self n, fun k hk => absurd hk.2 (Nat.not_lt.2 hk.1)⟩

/-- A step whose submission was accepted left the handler of its shape and number. -/
theorem submits_iff_of_kept {shape : Shape} {command : Command} {refused : Bool}
    (hs : steps[n]? = some (.issueWith shape command refused))
    (hrun : (run session steps)[n]? = some (.submitted (.ok ()), last)) :
    Submits session steps n handler ↔ handler = ⟨session.revision, shape, n⟩ := by
  constructor
  · rintro ⟨_, _, _, _, hs', _, rfl⟩
    cases hs.symm.trans hs'
    rfl
  · rintro rfl
    exact ⟨shape, command, refused, last, hs, hrun, rfl⟩

/-- A session before its first step, with any answers and any pipeline. -/
structure Fresh (session : Session) : Prop where
  ready : session.script.Ready
  pending_eq : session.script.pending = []
  clock_eq : session.clock = 0

/-- Before step `n`, the handlers kept are those that wait. -/
theorem mem_pending_iff (hfresh : session.Fresh) (hn : n ≤ steps.length) :
    handler ∈ (session.after (steps.take n)).script.pending ↔ Waits session steps n handler := by
  induction n with
  | zero =>
      rw [List.take_zero, after, List.foldl_nil, hfresh.pending_eq]
      constructor
      · intro h
        cases h
      · rintro ⟨i, _, hlt, _⟩
        cases hlt
  | succ n ih =>
      have hle : n ≤ steps.length := Nat.le_of_succ_le hn
      have hs : steps[n]? = some steps[n] := List.getElem?_eq_getElem hn
      have hrun : (run session steps)[n]? =
          some ((session.after (steps.take n)).step steps[n]) := by
        rw [run_getElem?, hs, Option.map_some]
      obtain ⟨taken, heffect⟩ := step_effect (ready_after hfresh.ready (steps.take n)) steps[n]
      rw [after_take_succ _ hs]
      rcases heffect.handlers_cases with
        ⟨hflush, hkept, _, hnone⟩ | ⟨shape, command, hissue, houtcome, hadded⟩ |
          ⟨hflush, hkept, _, hsame⟩
      · rw [hflush] at hs
        rw [hnone]
        exact iff_of_false List.not_mem_nil (not_waits_of_flush hs hrun hkept)
      · have hflush : steps[n] ≠ .flush := by
          intro heq
          cases hissue.symm.trans heq
        have hrun' : (run session steps)[n]? = some (.submitted (.ok ()),
            ((session.after (steps.take n)).step steps[n]).2) := by
          rw [hrun, ← houtcome]
        rw [hadded, List.mem_append, ih hle, List.mem_singleton, waits_succ_iff hs hflush,
          submits_iff_of_kept (hissue ▸ hs) hrun', revision_after, clock_after, hfresh.clock_eq,
          List.length_take, Nat.min_eq_left hle, Nat.zero_add]
      · have hnot : ¬ Submits session steps n handler := by
          intro h
          cases hkept.symm.trans (h.isKept hrun)
        rw [hsame, ih hle, waits_succ_iff hs hflush, or_iff_left hnot]

/-- A flush answers those who wait, and no other step answers anybody. -/
theorem mem_handlers_iff (hfresh : session.Fresh)
    (hrun : (run session steps)[n]? = some (outcome, last)) :
    handler ∈ outcome.handlers ↔
      ∃ i, Submits session steps i handler ∧ NextFlush steps i n := by
  obtain ⟨s, hs, hstep⟩ := run_getElem?_eq_some_iff.1 hrun
  obtain ⟨taken, heffect⟩ := step_effect (ready_after hfresh.ready (steps.take n)) s
  have hn : n ≤ steps.length := Nat.le_of_lt (List.getElem?_eq_some_iff.1 hs).1
  have hidle (hnone : outcome.handlers = []) (hflush : s ≠ .flush) :
      handler ∈ outcome.handlers ↔ ∃ i, Submits session steps i handler ∧ NextFlush steps i n := by
    rw [hnone]
    refine iff_of_false List.not_mem_nil ?_
    rintro ⟨i, _, hnext⟩
    exact hflush (Option.some.inj (hs.symm.trans hnext.flush))
  rw [hstep] at heffect
  rcases heffect.handlers_cases with
    ⟨rfl, _, hanswered, _⟩ | ⟨shape, command, rfl, rfl, _⟩ | ⟨hflush, _, hnone, _⟩
  · rw [hanswered, mem_pending_iff hfresh hn]
    constructor
    · rintro ⟨i, hsubmits, hlt, hnone⟩
      exact ⟨i, hsubmits, hlt, hs, hnone⟩
    · rintro ⟨i, hsubmits, hlt, _, hnone⟩
      exact ⟨i, hsubmits, hlt, hnone⟩
  · exact hidle rfl nofun
  · exact hidle hnone hflush

/-! ## The order of answers -/

/-- The handlers that the steps of a run answer, one after the other. -/
def answered (session : Session) (steps : List Step) : List Handler :=
  (run session steps).flatMap fun step => step.1.handlers

/-- Tickets grow along the list, so that none is there twice. -/
abbrev InOrder (handlers : List Handler) : Prop := handlers.Pairwise fun a b => a.ticket < b.ticket

theorem answered_cons (session : Session) (s : Step) (steps : List Step) :
    answered session (s :: steps) =
      (session.step s).1.handlers ++ answered (session.step s).2 steps := by
  rw [answered, run_cons, List.flatMap_cons, answered]

/-- Handlers are answered in the order of their tickets: first those kept, and behind them those of
later steps. -/
theorem inOrder_answered (hready : session.script.Ready) (horder : InOrder session.script.pending)
    (hbelow : ∀ kept ∈ session.script.pending, kept.ticket < session.clock) (steps : List Step) :
    InOrder (answered session steps) ∧ ∀ handler ∈ answered session steps,
      handler ∈ session.script.pending ∨ session.clock ≤ handler.ticket := by
  induction steps generalizing session with
  | nil => exact ⟨.nil, nofun⟩
  | cons s steps ih =>
      obtain ⟨taken, heffect⟩ := step_effect hready s
      have ih := @ih (session.step s).2 (ready_step hready s)
      have hclock : (session.step s).2.clock = session.clock + 1 := rfl
      rw [answered_cons]
      rcases heffect.handlers_cases with
        ⟨_, _, hanswered, hnone⟩ | ⟨shape, command, _, houtcome, hadded⟩ | ⟨_, _, hnone, hsame⟩
      -- those kept are answered, and the tickets of later steps are greater
      · rw [hnone, hclock] at ih
        obtain ⟨hlater, hmem⟩ := ih .nil nofun
        have hafter : ∀ handler ∈ answered (session.step s).2 steps,
            session.clock < handler.ticket :=
          fun handler h => (hmem handler h).resolve_left List.not_mem_nil
        rw [hanswered]
        refine ⟨List.pairwise_append.2 ⟨horder, hlater, fun a ha b hb => ?_⟩, fun handler h => ?_⟩
        · exact Nat.lt_trans (hbelow a ha) (hafter b hb)
        · exact (List.mem_append.1 h).imp_right fun h => Nat.le_of_lt (hafter handler h)
      -- the new handler has the greatest ticket of those kept
      · rw [hadded, hclock] at ih
        obtain ⟨hlater, hmem⟩ := ih
          (List.pairwise_append.2 ⟨horder, List.pairwise_singleton _ _, fun a ha b hb => by
            rw [List.mem_singleton.1 hb]
            exact hbelow a ha⟩)
          (fun kept hkept => by
            rcases List.mem_append.1 hkept with hkept | hkept
            · exact Nat.lt_succ_of_lt (hbelow kept hkept)
            · rw [List.mem_singleton.1 hkept]
              exact Nat.lt_succ_self session.clock)
        rw [houtcome]
        refine ⟨hlater, fun handler h => ?_⟩
        rcases hmem handler h with hkept | hle
        · rcases List.mem_append.1 hkept with hkept | hnew
          · exact .inl hkept
          · rw [List.mem_singleton.1 hnew]
            exact .inr (Nat.le_refl session.clock)
        · exact .inr (Nat.le_of_succ_le hle)
      · rw [hsame, hclock] at ih
        obtain ⟨hlater, hmem⟩ := ih horder fun kept hkept => Nat.lt_succ_of_lt (hbelow kept hkept)
        rw [hnone]
        exact ⟨hlater, fun handler h => (hmem handler h).imp_right Nat.le_of_succ_le⟩

/-! ## Whole runs -/

/-- How a run answers its handlers, and what it takes off the queue. -/
structure AnswersOnce (session : Session) (steps : List Step) : Prop where
  /-- A step answers a handler if it is the next flush behind the step that left it. -/
  mem_handlers_iff : ∀ j outcome last, (run session steps)[j]? = some (outcome, last) →
    ∀ handler, handler ∈ outcome.handlers ↔
      ∃ i, Submits session steps i handler ∧ NextFlush steps i j
  /-- Handlers are answered in the order of their submission, none of them twice. -/
  inOrder : InOrder (answered session steps)
  /-- A handler that was not kept is not answered. -/
  ticket_ne : ∀ i e last, (run session steps)[i]? = some (.submitted (.error e), last) →
    ∀ handler ∈ answered session steps, handler.ticket ≠ i
  /-- The steps take the front of the queue in order, each what its effect says. -/
  effects : ∃ takens : List (List Canned), takens.length = steps.length ∧
    session.script.canned = takens.flatten ++ (session.after steps).script.canned ∧
    ∀ n s outcome last, steps[n]? = some s → (run session steps)[n]? = some (outcome, last) →
      ∃ taken, takens[n]? = some taken ∧
        Effect (session.after (steps.take n)) s outcome last.script taken
  /-- A command that does not encode is an error, and changes nothing but the clock. -/
  eq_of_error : ∀ n s command e, steps[n]? = some s → s.command? = some command →
    command.encode = .error e → ∃ outcome, outcome.error? = some e ∧
      (run session steps)[n]? =
        some (outcome, { session.after (steps.take n) with clock := n + 1 })

/-- A new session over a transport with some answers. -/
def start (revision : Revision) (answers : List Canned) : Session where
  revision := revision
  script := { canned := answers }

theorem fresh_start (revision : Revision) (answers : List Canned) :
    (start revision answers).Fresh := ⟨⟨rfl, rfl⟩, rfl, rfl⟩

theorem Submits.ticket_eq (h : Submits session steps i handler) : handler.ticket = i := by
  obtain ⟨_, _, _, _, _, _, rfl⟩ := h
  rfl

/-- In every run of a new session, whatever its steps and its answers, each handler that was kept is
answered by the next flush and only by it, handlers are answered in the order of their submission,
and a handler that was not kept is not answered. Each answer is taken once, in the order of the
queue, and a command that does not encode takes none. -/
theorem answered_once (revision : Revision) (answers : List Canned) (steps : List Step) :
    AnswersOnce (start revision answers) steps := by
  have hfresh := fresh_start revision answers
  constructor
  · intro j outcome last hrun handler
    exact mem_handlers_iff hfresh hrun
  · exact (inOrder_answered hfresh.ready .nil nofun steps).1
  · intro i e last hrun handler hanswered hticket
    obtain ⟨⟨outcome, last'⟩, hmem, hhandler⟩ := List.mem_flatMap.1 hanswered
    obtain ⟨j, hj⟩ := List.getElem?_of_mem hmem
    obtain ⟨i', hsubmits, _⟩ := (mem_handlers_iff hfresh hj).1 hhandler
    obtain rfl : i' = i := hsubmits.ticket_eq.symm.trans hticket
    cases hsubmits.isKept hrun
  · exact effects_of_run hfresh.ready steps
  · intro n s command e hs hcommand hencode
    have hready := ready_after hfresh.ready (steps.take n)
    obtain ⟨herror, hafter⟩ := step_of_error hready hcommand hencode
    have hn : n ≤ steps.length := Nat.le_of_lt (List.getElem?_eq_some_iff.1 hs).1
    refine ⟨_, herror, ?_⟩
    rw [run_getElem?, hs, Option.map_some, ← Prod.eta (step _ s), hafter, clock_after,
      List.length_take, Nat.min_eq_left hn, hfresh.clock_eq, Nat.zero_add]

/-- Two handlers with a refused one between them, answered by one flush; the second flush has nobody
to answer. -/
example :
    let ping : Command := ⟨[80], []⟩
    let steps : List Step := [.issueWith .reply ping false, .issueWith .reply ping true,
      .issueWith .reply ping false, .flush, .flush]
    (answered (start .second [.closed]) steps).map Handler.ticket = [0, 2] := rfl

end Session

end RespClient
