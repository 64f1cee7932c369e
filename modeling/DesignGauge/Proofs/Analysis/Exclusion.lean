import DesignGauge.Analysis.Session

/-!
# One pass at a time

A session begins with a free slot. Whatever is asked of it after that, and whatever reaches its
waiting passes, the slot is held exactly while a pass waits, and it is held for that pass.

Results:
1. `Service.hold_of_busy`, `Service.hold_of_free`: work is refused while the slot is held, and gives
   the slot back when it is over.
2. `Session.Exclusive`: the invariant; `Session.step_cases`: what an event can do to a session that
   has it; `Session.Exclusive.run`: it holds after any events.
3. `Session.run_exclusive`: all of this for the sessions that are reached, with the fault that a
   refused caller gets.
-/

namespace DesignGauge

/-! ## The file of a pass -/

theorem reportOn_file {thresholds : Thresholds} {folder : Option Path} {disk : Disk} {file : String}
    {language : Language} {values : List (String × Number)} {analysis : FileAnalysis}
    (done : (reportOn thresholds folder disk file language values).result = .ok analysis) :
    analysis.file = file := by
  unfold reportOn at done
  dsimp only at done
  split at done
  · exact absurd done nofun
  · split at done
    · exact absurd done nofun
    · cases done
      rfl

/-- An analysis is that of the file that was asked for. -/
theorem analyse_file {store : Store} {thresholds : Thresholds} {folder : Option Path} {disk : Disk}
    {order : Order} {analysis : FileAnalysis}
    (done : (analyse store thresholds folder disk order).result = .ok analysis) :
    analysis.file = order.file := by
  unfold analyse at done
  split at done
  · exact absurd done nofun
  · split at done
    · exact absurd done nofun
    · dsimp only at done
      split at done
      · exact absurd done nofun
      · exact reportOn_file done

namespace Service

variable {s : Service} {α : Type}

/-- The service with its slot held for a target. -/
def taken (s : Service) (target : String) : Service :=
  { s with slot := { locked := true, holder := some target } }

/-- The service with its slot free. -/
def freed (s : Service) : Service := { s with slot := {} }

theorem freed_of_free (free : s.slot = {}) : s.freed = s := by
  cases s
  simp only [freed, mk.injEq] at free ⊢
  simp [free]

/-! ## The slot -/

theorem acquire_of_busy (busy : s.slot.isBusy = true) (target : String) :
    s.slot.acquire target = .error (.busy s.slot.holder target) := if_pos busy

theorem acquire_of_free (free : s.slot = {}) (target : String) :
    s.slot.acquire target = .ok { locked := true, holder := some target } := by
  rw [free]
  rfl

/-- A step that ends while the slot is held gives it back. -/
theorem finish_of_busy (busy : s.slot.isBusy = true) (disk : Disk) (result : Except Fault α)
    (log : List LogLine) : s.finish disk result log = ⟨s.freed, disk, result, log⟩ := by
  have released : s.slot.release = .ok {} := if_pos busy
  unfold finish
  rw [released]
  rfl

/-- Work is refused while the slot is held, and nothing changes. -/
theorem hold_of_busy (busy : s.slot.isBusy = true) (disk : Disk) (target : String)
    (work : Service → Step α) :
    s.hold disk target work = ⟨s, disk, .error (.busy s.slot.holder target), []⟩ := by
  unfold hold
  rw [acquire_of_busy busy]

/-- Work that leaves the slot alone is done while it is held; then the slot is free, whatever came
of the work. -/
theorem hold_of_free (free : s.slot = {}) (disk : Disk) (target : String)
    (work : Service → Step α) (kept : ∀ held, (work held).service.slot = held.slot) :
    s.hold disk target work =
      ⟨(work (s.taken target)).service.freed, (work (s.taken target)).disk,
        (work (s.taken target)).result, (work (s.taken target)).log⟩ := by
  have busy : (work (s.taken target)).service.slot.isBusy = true := by
    rw [kept]
    rfl
  unfold hold
  rw [acquire_of_free free]
  exact finish_of_busy busy ..

/-- A pass ends with the slot free, whatever came of the prediction. -/
theorem conclude_of_busy (busy : s.slot.isBusy = true) (disk : Disk) (analysis : FileAnalysis)
    (result : Except Fault (Option SmellFlags)) :
    (s.conclude disk analysis result).service = s.freed ∧
    (s.conclude disk analysis result).disk = disk := by
  rcases result with fault | flags
  · rw [conclude, finish_of_busy busy]
    exact ⟨rfl, rfl⟩
  · cases flags with
    | none =>
      rw [conclude, finish_of_busy busy]
      exact ⟨rfl, rfl⟩
    | some flags =>
      rw [conclude, finish_of_busy busy]
      exact ⟨rfl, rfl⟩

/-! ## What is asked of a service -/

/-- A pass on a free slot is the analysis. -/
theorem analyze_of_free (free : s.slot = {}) (disk : Disk) (order : Order) :
    s.analyze disk order =
      ⟨s, (s.pass disk order).disk, (s.pass disk order).result, (s.pass disk order).log⟩ := by
  rw [analyze, hold_of_free free _ _ _ fun _ => rfl]
  exact congrArg (fun service => Step.mk service ..) (freed_of_free free)

/-- A reload on a free slot gives the number of entries that the folder holds. -/
theorem reload_of_free (free : s.slot = {}) (disk : Disk) (folder : Path) :
    (s.reload disk folder).service.slot = {} ∧
    (s.reload disk folder).result =
      (Store.load disk .empty folder).result.map fun _ =>
        (Store.load disk .empty folder).store.size := by
  rw [reload, hold_of_free free]
  · refine ⟨rfl, ?_⟩
    dsimp only
    cases (Store.load disk .empty folder).result with
    | error fault => rfl
    | ok n => rfl
  · intro held
    dsimp only
    cases (Store.load disk .empty folder).result with
    | error fault => rfl
    | ok n => rfl

theorem begin_of_busy (busy : s.slot.isBusy = true) (disk : Disk) (order : Order) :
    s.begin disk order = .over ⟨s, disk, .error (.busy s.slot.holder order.file), []⟩ := by
  unfold begin
  rw [acquire_of_busy busy]

/-- A pass on a free slot that is to ask for a prediction waits for its exchange if there is an
analysis and a client, and is over otherwise. -/
theorem begin_of_free (free : s.slot = {}) (disk : Disk) (order : Order) :
    (∃ analysis client, (s.pass disk order).result = .ok analysis ∧ s.client = some client ∧
      s.begin disk order = .waiting (s.taken order.file) (s.pass disk order).disk
        (s.pass disk order).log analysis (client.predict [analysis.report])) ∨
    (∀ analysis client, (s.pass disk order).result = .ok analysis → s.client ≠ some client) ∧
      s.begin disk order = .over ⟨s, (s.pass disk order).disk, (s.pass disk order).result,
        (s.pass disk order).log⟩ := by
  have ended (result : Except Fault FileAnalysis) :
      (s.taken order.file).finish (s.pass disk order).disk result (s.pass disk order).log =
        ⟨s, (s.pass disk order).disk, result, (s.pass disk order).log⟩ := by
    rw [finish_of_busy rfl]
    exact congrArg (fun service => Step.mk service ..) (freed_of_free free)
  -- the slot is no part of what an analysis depends on
  have same : (s.taken order.file).pass disk order = s.pass disk order := rfl
  unfold begin
  rw [acquire_of_free free]
  dsimp only
  rw [← taken, same]
  cases (s.pass disk order).result with
  | error fault =>
    refine .inr ⟨fun _ _ done => ?_, congrArg Begun.over (ended _)⟩
    cases done
  | ok analysis =>
    cases s.client with
    | none =>
      refine .inr ⟨fun _ _ _ given => ?_, congrArg Begun.over (ended _)⟩
      cases given
    | some client => exact .inl ⟨analysis, client, rfl, rfl, rfl⟩

end Service

namespace Session

variable {s : Session} {w : Waiting}

/-- What an event asks the slot for, if it starts something. -/
def Event.target? : Event → Option String
  | .analyze order => some order.file
  | .reload folder => some folder.text
  | .predict order => some order.file
  | .reply .. | .interrupt .. => none

/-- A pass or a reload is over. -/
def Outcome.isOver : Outcome → Bool
  | .analysed _ | .reloaded _ => true
  | .suspended _ | .idle => false

/-- The fault that ended a pass or a reload. -/
def Outcome.fault? : Outcome → Option Fault
  | .analysed (.error fault) | .reloaded (.error fault) => some fault
  | _ => none

/-- No pass waits, and the slot is free. -/
structure Free (s : Session) : Prop where
  waiting : s.waiting = []
  slot : s.service.slot = {}

/-- One pass waits, and the slot is held for its file. -/
structure Held (s : Session) (w : Waiting) : Prop where
  waiting : s.waiting = [w]
  slot : s.service.slot = { locked := true, holder := some w.file }

/-- The slot is held exactly for the pass that waits. -/
def Exclusive (s : Session) : Prop := Free s ∨ ∃ w, Held s w

theorem Held.isBusy (h : Held s w) : s.service.slot.isBusy = true := by
  rw [h.slot]
  rfl

/-- What had the slot is over and has given it back, or waits and has it. -/
def Turn.Settled (turn : Turn) : Prop :=
  (turn.outcome.isOver = true ∧ Free turn.session) ∨
  ∃ request w, turn.outcome = .suspended request ∧ Held turn.session w

/-! ## One event -/

/-- A pass that goes on with the slot comes to its end or to a request. -/
theorem settle_settled {analysis : FileAnalysis} (alone : s.waiting = [])
    (held : s.service.slot = { locked := true, holder := some analysis.file })
    (work : Exchange (Option SmellFlags)) (log : List LogLine) :
    (s.settle 0 analysis work log).Settled := by
  have busy : s.service.slot.isBusy = true := by
    rw [held]
    rfl
  unfold settle
  rcases work.advance with ⟨halt, lines⟩
  cases halt with
  | ended result =>
    have freed := (Service.conclude_of_busy busy s.disk analysis result).1
    exact .inl ⟨rfl, alone, congrArg Service.slot freed⟩
  | asking request next =>
    refine .inr ⟨request, ⟨analysis, next⟩, rfl, ?_, held⟩
    simp [alone]

theorem settle_suspended_iff {place : Nat} {analysis : FileAnalysis}
    {work : Exchange (Option SmellFlags)} {log : List LogLine} {request : Request} :
    (s.settle place analysis work log).outcome = .suspended request ↔
      ∃ next, work.advance.1 = .asking request next := by
  unfold settle
  rcases work.advance with ⟨halt, lines⟩
  cases halt with
  | ended result => simp [turnOf]
  | asking request' next => simp

/-- A pass that comes to a request leaves the service alone. -/
theorem settle_service {place : Nat} {analysis : FileAnalysis}
    {work : Exchange (Option SmellFlags)} {log : List LogLine} {request : Request}
    (suspended : (s.settle place analysis work log).outcome = .suspended request) :
    (s.settle place analysis work log).session.service = s.service := by
  obtain ⟨next, asking⟩ := settle_suspended_iff.mp suspended
  unfold settle
  rcases hw : work.advance with ⟨halt, lines⟩
  rw [hw] at asking
  subst asking
  rfl

/-- Nothing is started while a pass waits. The session stays as it is. -/
theorem step_of_held (h : Held s w) {event : Event} {target : String}
    (starts : event.target? = some target) :
    (s.step event).session = s ∧
    (s.step event).outcome.fault? = some (.busy (some w.file) target) := by
  have holder : s.service.slot.holder = some w.file := by rw [h.slot]
  cases event with
  | analyze order =>
    cases starts
    rw [step, Service.analyze, Service.hold_of_busy h.isBusy, holder]
    exact ⟨rfl, rfl⟩
  | reload folder =>
    cases starts
    rw [step, Service.reload, Service.hold_of_busy h.isBusy, holder]
    exact ⟨rfl, rfl⟩
  | predict order =>
    cases starts
    rw [step, Service.begin_of_busy h.isBusy, holder]
    exact ⟨rfl, rfl⟩
  | reply place reply => exact absurd starts nofun
  | interrupt place fault => exact absurd starts nofun

/-- What is started on a free slot comes to its end or to a request. -/
theorem step_of_free (h : Free s) {event : Event} {target : String}
    (starts : event.target? = some target) : (s.step event).Settled := by
  cases event with
  | analyze order =>
    rw [step, Service.analyze_of_free h.slot]
    exact .inl ⟨rfl, h.waiting, h.slot⟩
  | reload folder =>
    exact .inl ⟨rfl, h.waiting, (Service.reload_of_free h.slot s.disk folder).1⟩
  | predict order =>
    rw [step]
    rcases Service.begin_of_free h.slot s.disk order with
      ⟨analysis, client, done, _, begun⟩ | ⟨_, begun⟩
    · -- the slot is taken for the file of the order, which is that of the analysis
      rw [begun, h.waiting]
      refine settle_settled rfl ?_ _ _
      rw [analyse_file done]
      rfl
    · rw [begun]
      exact .inl ⟨rfl, h.waiting, h.slot⟩
  | reply place reply => exact absurd starts nofun
  | interrupt place fault => exact absurd starts nofun

/-- A pass that is to ask for a prediction comes to a request exactly when there is an analysis, and
a client whose exchange about it comes to that request. -/
theorem predict_suspended_iff (h : Free s) {order : Order} {request : Request} :
    (s.step (.predict order)).outcome = .suspended request ↔
      ∃ analysis client next, (s.service.pass s.disk order).result = .ok analysis ∧
        s.service.client = some client ∧
        (client.predict [analysis.report]).advance.1 = .asking request next := by
  rw [step]
  rcases Service.begin_of_free h.slot s.disk order with
    ⟨analysis, client, done, given, begun⟩ | ⟨none, begun⟩
  · rw [begun, done, given]
    dsimp only
    rw [settle_suspended_iff]
    constructor
    · rintro ⟨next, asking⟩
      exact ⟨analysis, client, next, rfl, rfl, asking⟩
    · rintro ⟨_, _, next, same, same', asking⟩
      cases same
      cases same'
      exact ⟨next, asking⟩
  · rw [begun]
    constructor
    · intro suspended
      cases suspended
    · rintro ⟨analysis, client, _, done, given, _⟩
      exact absurd given (none analysis client done)

/-- A pass that waits holds the slot for the file that was asked for. -/
theorem predict_holder (h : Free s) {order : Order} {request : Request}
    (suspended : (s.step (.predict order)).outcome = .suspended request) :
    (s.step (.predict order)).session.service.slot.holder = some order.file := by
  rw [step] at suspended ⊢
  rcases Service.begin_of_free h.slot s.disk order with ⟨analysis, client, _, _, begun⟩ | ⟨_, begun⟩
  · rw [begun] at suspended ⊢
    dsimp only at suspended ⊢
    rw [settle_service suspended]
    rfl
  · rw [begun] at suspended
    cases suspended

/-- A waiting pass that goes on comes to its end or to another request. -/
theorem resume_of_held (h : Held s w) (work : Waiting → Exchange (Option SmellFlags)) :
    (s.resume 0 work).Settled := by
  have found : s.waiting[0]? = some w := by
    rw [h.waiting]
    rfl
  have alone : s.waiting.eraseIdx 0 = [] := by
    rw [h.waiting]
    rfl
  have resumed : s.resume 0 work =
      { s with waiting := s.waiting.eraseIdx 0 }.settle 0 w.analysis (work w) [] := by
    unfold resume
    rw [found]
  rw [resumed]
  exact settle_settled (s := { s with waiting := s.waiting.eraseIdx 0 }) alone h.slot _ _

theorem resume_of_absent {place : Nat} (absent : s.waiting[place]? = none)
    (work : Waiting → Exchange (Option SmellFlags)) : s.resume place work = ⟨s, .idle, []⟩ := by
  unfold resume
  rw [absent]

/-- A resumption is that of the waiting pass, or of none and changes nothing. -/
theorem resume_cases (h : Exclusive s) (place : Nat)
    (work : Waiting → Exchange (Option SmellFlags)) :
    (s.resume place work = ⟨s, .idle, []⟩) ∨ (s.resume place work).Settled := by
  rcases h with free | ⟨w, held⟩
  · refine .inl (resume_of_absent ?_ work)
    rw [free.waiting]
    rfl
  · cases place with
    | zero => exact .inr (resume_of_held held work)
    | succ place =>
      refine .inl (resume_of_absent ?_ work)
      rw [held.waiting]
      rfl

/-- An event is refused because a pass waits, concerns no pass, or lets something have the slot
until it is over or waits. -/
theorem step_cases (h : Exclusive s) (event : Event) :
    (∃ w target, Held s w ∧ event.target? = some target ∧ (s.step event).session = s ∧
      (s.step event).outcome.fault? = some (.busy (some w.file) target)) ∨
    ((s.step event).session = s ∧ (s.step event).outcome = .idle) ∨
    (s.step event).Settled := by
  cases starts : event.target? with
  | some target =>
    -- what is started finds the slot free or held
    rcases h with free | ⟨w, held⟩
    · exact .inr (.inr (step_of_free free starts))
    · exact .inl ⟨w, target, held, rfl, step_of_held held starts⟩
  | none =>
    -- what reaches a waiting pass finds it, or there is none at the place
    right
    cases event with
    | analyze order => exact absurd starts nofun
    | reload folder => exact absurd starts nofun
    | predict order => exact absurd starts nofun
    | reply place reply =>
      exact (resume_cases h place _).imp (fun same => by rw [step, same]; exact ⟨rfl, rfl⟩) id
    | interrupt place fault =>
      exact (resume_cases h place _).imp (fun same => by rw [step, same]; exact ⟨rfl, rfl⟩) id

/-! ## Any events -/

theorem Turn.Settled.exclusive {turn : Turn} (h : turn.Settled) : Exclusive turn.session := by
  rcases h with ⟨_, free⟩ | ⟨_, w, _, held⟩
  · exact .inl free
  · exact .inr ⟨w, held⟩

theorem Exclusive.step (h : Exclusive s) (event : Event) : Exclusive (s.step event).session := by
  rcases step_cases h event with ⟨_, _, _, _, same, _⟩ | ⟨same, _⟩ | settled
  · rw [same]
    exact h
  · rw [same]
    exact h
  · exact settled.exclusive

theorem Exclusive.run (h : Exclusive s) (events : List Event) : Exclusive (s.run events) := by
  induction events generalizing s with
  | nil => exact h
  | cons event rest ih => exact ih (h.step event)

theorem Exclusive.length_le_one (h : Exclusive s) : s.waiting.length ≤ 1 := by
  rcases h with free | ⟨w, held⟩
  · rw [free.waiting]
    exact Nat.zero_le 1
  · rw [held.waiting]
    exact Nat.le_refl 1

theorem Exclusive.isBusy_iff (h : Exclusive s) :
    s.service.slot.isBusy = true ↔ s.waiting ≠ [] := by
  rcases h with free | ⟨w, held⟩
  · rw [free.waiting, free.slot]
    simp [Slot.isBusy]
  · rw [held.waiting, held.slot]
    simp [Slot.isBusy]

theorem Exclusive.holder_eq (h : Exclusive s) :
    s.service.slot.holder = s.waiting.head?.map Waiting.file := by
  rcases h with free | ⟨w, held⟩
  · rw [free.waiting, free.slot]
    rfl
  · rw [held.waiting, held.slot]
    rfl

theorem Exclusive.free_of_not_busy (h : Exclusive s) (idle : s.service.slot.isBusy = false) :
    Free s := by
  rcases h with free | ⟨w, held⟩
  · exact free
  · rw [held.isBusy] at idle
    exact absurd idle Bool.noConfusion

theorem Exclusive.held_of_busy (h : Exclusive s) (busy : s.service.slot.isBusy = true) :
    ∃ w, Held s w := by
  rcases h with free | held
  · rw [free.slot] at busy
    exact absurd busy Bool.noConfusion
  · exact held

/-- A pass or a reload that had the slot is over with the slot free. -/
theorem free_of_isOver (h : Exclusive s) {event : Event}
    (had : event.target? = none ∨ s.service.slot.isBusy = false)
    (ended : (s.step event).outcome.isOver = true) : Free (s.step event).session := by
  rcases step_cases h event with ⟨w, target, held, starts, _⟩ | ⟨_, idle⟩ | settled
  · rcases had with none | free
    · rw [none] at starts
      exact absurd starts nofun
    · rw [held.isBusy] at free
      exact absurd free Bool.noConfusion
  · rw [idle] at ended
    exact absurd ended Bool.noConfusion
  · rcases settled with ⟨_, free⟩ | ⟨_, _, suspended, _⟩
    · exact free
    · rw [suspended] at ended
      exact absurd ended Bool.noConfusion

/-- A fault that reaches a waiting pass ends it. -/
theorem interrupt_of_held (h : Held s w) (fault : Fault) :
    (s.step (.interrupt 0 fault)).outcome = .analysed (.error fault) := by
  have busy := h.isBusy
  have found : s.waiting[0]? = some w := by
    rw [h.waiting]
    rfl
  rw [step, resume, found]
  dsimp only
  rw [settle, Exchange.advance]
  dsimp only [turnOf]
  rw [Service.conclude, Service.finish_of_busy busy]

/-- Whatever happens to a session that begins with a free slot, at most one pass waits, and the slot
is held exactly while one does, for its file. What is started meanwhile is refused with the fault
that names both targets, and changes nothing. On a free slot a pass or a reload does its work. When
one that had the slot is over, whatever came of it, the slot is free and held for nothing; a fault
that reaches a waiting pass is one of the ways. -/
theorem run_exclusive {service : Service} (free : service.slot = {}) (disk : Disk)
    (events : List Event) {s : Session} (reached : s = run ⟨service, disk, []⟩ events) :
    s.waiting.length ≤ 1 ∧
    (s.service.slot.isBusy = true ↔ s.waiting ≠ []) ∧
    s.service.slot.holder = s.waiting.head?.map Waiting.file ∧
    (∀ event target, event.target? = some target → s.service.slot.isBusy = true →
      ∃ running fault, s.service.slot.holder = some running ∧ (s.step event).session = s ∧
        (s.step event).outcome.fault? = some fault ∧ fault = .busy (some running) target ∧
        fault.context = [("running", .text running), ("requested", .text target)]) ∧
    (s.service.slot.isBusy = false →
      (∀ order, (s.step (.analyze order)).outcome =
        .analysed (s.service.pass s.disk order).result) ∧
      (∀ folder, (s.step (.reload folder)).outcome =
        .reloaded ((Store.load s.disk .empty folder).result.map fun _ =>
          (Store.load s.disk .empty folder).store.size)) ∧
      ∀ order request, ((s.step (.predict order)).outcome = .suspended request ↔
          ∃ analysis client next, (s.service.pass s.disk order).result = .ok analysis ∧
            s.service.client = some client ∧
            (client.predict [analysis.report]).advance.1 = .asking request next) ∧
        ((s.step (.predict order)).outcome = .suspended request →
          (s.step (.predict order)).session.service.slot.holder = some order.file)) ∧
    (∀ event, (event.target? = none ∨ s.service.slot.isBusy = false) →
      (s.step event).outcome.isOver = true →
        (s.step event).session.service.slot = { locked := false, holder := none }) ∧
    (∀ w fault, s.waiting = [w] →
      (s.step (.interrupt 0 fault)).outcome = .analysed (.error fault)) := by
  have h : Exclusive s := by
    rw [reached]
    exact Exclusive.run (.inl ⟨rfl, free⟩) events
  refine ⟨h.length_le_one, h.isBusy_iff, h.holder_eq, fun event target starts busy => ?_,
    fun idle => ?_, fun event had ended => (free_of_isOver h had ended).slot,
    fun w fault alone => ?_⟩
  · obtain ⟨w, held⟩ := h.held_of_busy busy
    obtain ⟨same, refused⟩ := step_of_held held starts
    exact ⟨w.file, _, by rw [held.slot], same, refused, rfl, rfl⟩
  · have isFree := h.free_of_not_busy idle
    refine ⟨fun order => ?_, fun folder => ?_, fun order request => ?_⟩
    · rw [step, Service.analyze_of_free isFree.slot]
      rfl
    · exact congrArg Outcome.reloaded (Service.reload_of_free isFree.slot s.disk folder).2
    · exact ⟨predict_suspended_iff isFree, predict_holder isFree⟩
  · have busy := h.isBusy_iff.mpr (by rw [alone]; exact List.cons_ne_nil _ _)
    obtain ⟨_, held⟩ := h.held_of_busy busy
    exact interrupt_of_held held fault

/-- A service whose client has an address and a key. -/
def askingService : Service where
  store := .empty
  client := some ⟨"http://host", .text "key", .int 1, Client.usualDepth⟩

/-- While a pass for one file waits, a pass for another is refused with both names, and after a
fault has reached the first one the slot is free. -/
theorem askingService_refuses :
    let s := run ⟨askingService, {}, []⟩ [.predict { file := "A.java", metrics := ["NOM"] }]
    askingService.slot = {} ∧ s.service.slot = { locked := true, holder := some "A.java" } ∧
    s.waiting.length = 1 ∧
    (∃ fault, (s.step (.analyze { file := "B.java" })).outcome.fault? = some fault ∧
      fault.context = [("running", .text "A.java"), ("requested", .text "B.java")]) ∧
    (s.step (.interrupt 0 .nullInPath)).session.service.slot = {} := by
  intro s
  have slot : s.service.slot = { locked := true, holder := some "A.java" } := by decide +kernel
  have busy : s.service.slot.isBusy = true := congrArg Slot.isBusy slot
  obtain ⟨few, waits, _, refused, _, frees, fails⟩ := @run_exclusive askingService rfl {} _ s rfl
  have one : s.waiting.length = 1 :=
    Nat.le_antisymm few (List.length_pos_iff.mpr (waits.mp busy))
  obtain ⟨w, alone⟩ := List.length_eq_one_iff.mp one
  refine ⟨rfl, slot, one, ?_, frees (.interrupt 0 .nullInPath) (.inl rfl) ?_⟩
  · obtain ⟨running, fault, holder, _, failed, _, context⟩ :=
      refused (.analyze { file := "B.java" }) "B.java" rfl busy
    rw [slot] at holder
    cases holder
    exact ⟨fault, failed, context⟩
  · rw [fails w .nullInPath alone]
    rfl

end Session

end DesignGauge
