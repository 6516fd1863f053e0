import Stylesheet.Proofs.Forest

/-! # Warnings are given once

A deprecated use is warned about **once** in a chain and at a place. The ledger that says so is kept
by the root, where every scope of the chain finds it, however deep it lies and wherever its caller
is. After every run the ledgers hold just what has been called for (`Run.holds_ledgerOf`), whether
or not a message came of it; so only the first call for a warning is told that it is the first, and
a message reaches a logger exactly if the call is a first one that is heard (`Run.warned_once`). -/

namespace Stylesheet

open Diagnostic

/-! ## Uses and warnings -/

/-- **What is warned about** once in a chain. -/
inductive Warning where
  /-- The assignment to a global variable at a place. -/
  | assignment (name : Name) (location : Location)
  /-- The result of `false` at a place. -/
  | falseResult (location : Location)
  deriving DecidableEq

/-- The message of a warning. -/
def Warning.text : Warning → String
  | assignment name location => globalAssignmentWarning name.text location
  | falseResult location => falseResultWarning location

/-- A deprecated **use** as it is called for: the name of a variable may have any spelling. -/
inductive Use where
  /-- A global variable is assigned to from a nested scope. -/
  | assignment (name : String) (location : Location)
  /-- A result is `false`. -/
  | falseResult (location : Location)

namespace Use

/-- What is to be warned about. -/
def warning : Use → Warning
  | assignment name location => .assignment (.ofRaw name) location
  | falseResult location => .falseResult location

/-- The call that warns about the use. -/
def warn (scope : Scope) (logger : Logger) : Use → Scoping (Bool × Logger)
  | assignment name location => Store.warnAssignment scope logger name location
  | falseResult location => Store.warnFalseResult scope logger location

end Use

/-- What it takes for a warning **to be heard**: the options are not quiet, and the threshold of the
logger lets warnings pass, as all thresholds do but that for errors. -/
def WarningsPass (options : Options) (logger : Logger) : Prop :=
  options.quiet = false ∧ logger.threshold ≠ .error

instance (options : Options) (logger : Logger) : Decidable (WarningsPass options logger) :=
  inferInstanceAs (Decidable (_ ∧ _))

namespace Ledger

/-- The warning has been called for. -/
def holds (ledger : Ledger) : Warning → Bool
  | .assignment name location => ledger.assignments.contains (name, location)
  | .falseResult location => ledger.falseResults.contains location

/-- The ledger with one more warning. -/
def record (ledger : Ledger) : Warning → Ledger
  | .assignment name location =>
    { ledger with assignments := (name, location) :: ledger.assignments }
  | .falseResult location => { ledger with falseResults := location :: ledger.falseResults }

@[simp] theorem holds_empty (warning : Warning) : Ledger.empty.holds warning = false := by
  cases warning <;> rfl

/-- A recorded warning is held beside those from before; the two kinds are held apart. -/
theorem holds_record (ledger : Ledger) (warning other : Warning) :
    (ledger.record warning).holds other = (decide (warning = other) || ledger.holds other) := by
  cases warning <;> cases other <;> simp [record, holds, eq_comm]

end Ledger

/-! ## Calls -/

/-- The call for a warning that an action makes, if it makes one. -/
def Action.call? : Action → Option (Scope × Logger × Use)
  | warnAssignment scope logger name location => some (scope, logger, .assignment name location)
  | warnFalseResult scope logger location => some (scope, logger, .falseResult location)
  | _ => none

/-- What is called for **in a chain**, which the key of its root stands for. -/
def Use.inChain (use : Use) (scope : Scope) : Nat × Warning :=
  (scope.chainRoot.key, use.warning)

/-- The **calls** that a number of actions make. In both lists the latest stands in front. -/
def callsIn (actions : List Action) : List (Nat × Warning) :=
  (actions.filterMap Action.call?).map fun (scope, _, use) => use.inChain scope

namespace Store

variable {store : Store} {known : Set Handle}

@[simp] theorem ledgerOf_setLedgerOf (store : Store) (root other : Root) (ledger : Ledger) :
    (store.setLedgerOf root ledger).ledgerOf other =
      if root.key = other.key then ledger else store.ledgerOf other := by
  simp only [ledgerOf, setLedgerOf, Std.ExtTreeMap.getElem?_insert, Std.LawfulEqOrd.compare_eq_iff_eq]
  split <;> rfl

/-- A new warning that is heard is one more message of the logger, and nothing else is. -/
theorem warnIfFirst_decide (scope : Scope) (logger : Logger) (new : Prop) [Decidable new]
    (message : String) :
    warnIfFirst scope logger (decide new) message = ⟨logger.threshold,
      if new ∧ WarningsPass scope.snapshot.options logger then logger.messages ++ [(.warn, message)]
      else logger.messages⟩ := by
  by_cases hgiven : new ∧ scope.snapshot.options.quiet = false
  · -- The warning is handed to the logger, whose threshold has the last word.
    have hwarn : warnIfFirst scope logger (decide new) message = logger.warn message :=
      if_pos (by simp [hgiven])
    have hthreshold : (logger.warn message).threshold = logger.threshold :=
      logger.threshold_log .warn message
    have hmessages := logger.messages_warn message
    simp only [Severity.warn_passes_iff] at hmessages
    calc warnIfFirst scope logger (decide new) message
        = ⟨(logger.warn message).threshold, (logger.warn message).messages⟩ := hwarn
      _ = _ := by simp [hthreshold, hmessages, WarningsPass, hgiven]
  · have hsilent : warnIfFirst scope logger (decide new) message = logger :=
      if_neg (by simpa using hgiven)
    have hunheard : ¬(new ∧ WarningsPass scope.snapshot.options logger) :=
      fun hheard => hgiven ⟨hheard.1, hheard.2.1⟩
    rw [hsilent, if_neg hunheard]

/-- A step that asks for the root and records something in its ledger, unless it is held there
already, tells whether it was new. -/
theorem run_recording (store : Store) (scope : Scope) (logger : Logger) (held : Ledger → Bool)
    (record : Ledger → Ledger) (message : String) :
    (show Scoping (Bool × Logger) from do
      let root ← rootOf scope
      let ledger := (← get).ledgerOf root
      let first := !held ledger
      if first then
        modify fun store => store.setLedgerOf root (record ledger)
      return (first, warnIfFirst scope logger first message)).run store =
      let read := (rootOf scope).run store
      let first := !held (read.2.ledgerOf read.1)
      ((first, warnIfFirst scope logger first message),
        if first then read.2.setLedgerOf read.1 (record (read.2.ledgerOf read.1)) else read.2) := by
  rcases hread : (rootOf scope).run store with ⟨root, after⟩
  rw [StateT.run_bind, hread]
  -- What is left depends on the ledger of the root alone.
  show (ite (!held (after.ledgerOf root)) _ _ : Scoping (Bool × Logger)).run after =
    ((!held (after.ledgerOf root), warnIfFirst scope logger (!held (after.ledgerOf root)) message),
      ite (!held (after.ledgerOf root)) _ _)
  cases held (after.ledgerOf root) <;> rfl

/-- **A call for a warning** asks for the root, looks the warning up in its ledger, and records it
there if it is not held yet. -/
theorem run_warn (store : Store) (use : Use) (scope : Scope) (logger : Logger) :
    (use.warn scope logger).run store =
      let read := (rootOf scope).run store
      let first := !(read.2.ledgerOf read.1).holds use.warning
      ((first, warnIfFirst scope logger first use.warning.text),
        if first then
          read.2.setLedgerOf read.1 ((read.2.ledgerOf read.1).record use.warning)
        else read.2) := by
  cases use with
  | assignment name location =>
    exact run_recording store scope logger (·.holds (.assignment (.ofRaw name) location))
      (·.record (.assignment (.ofRaw name) location)) _
  | falseResult location =>
    exact run_recording store scope logger (·.holds (.falseResult location))
      (·.record (.falseResult location)) _

/-- A call on a known scope is answered by the ledger of the root of its chain, and that ledger is
the only one that changes. -/
theorem Coherent.warn (h : store.Coherent known) {scope : Scope} (hscope : scope.handle ∈ known)
    (use : Use) (logger : Logger) :
    let first := !(store.ledgerOf scope.chainRoot).holds use.warning
    ((use.warn scope logger).run store).1 =
        (first, warnIfFirst scope logger first use.warning.text) ∧
      ∀ (root : Root) (warning : Warning),
        (((use.warn scope logger).run store).2.ledgerOf root).holds warning =
          (decide (use.inChain scope = (root.key, warning)) ||
            (store.ledgerOf root).holds warning) := by
  intro first
  obtain ⟨hroot, hreads⟩ := h.rootOf hscope
  -- Asking for the root changes no ledger.
  have hledgers : ((Store.rootOf scope).run store).2.ledgers = store.ledgers :=
    congrArg (·.2.2) hreads.written_eq
  have hsame : ∀ root, ((Store.rootOf scope).run store).2.ledgerOf root = store.ledgerOf root := by
    intro root
    rw [ledgerOf, hledgers, ledgerOf]
  rw [run_warn]
  dsimp only
  rw [hroot, hsame]
  refine ⟨rfl, fun root warning => ?_⟩
  split
  · -- The warning is recorded with the root of the chain.
    rw [ledgerOf_setLedgerOf, hsame]
    split
    · next hkey =>
      have hledger : store.ledgerOf scope.chainRoot = store.ledgerOf root := by
        rw [ledgerOf, hkey, ledgerOf]
      rw [Ledger.holds_record, hledger]
      simp [Use.inChain, hkey]
    · next hkey => simp [Use.inChain, hkey]
  · -- It is held there already.
    next hheld =>
    rw [hsame]
    by_cases hcall : use.inChain scope = (root.key, warning)
    · obtain ⟨hkey, rfl⟩ := Prod.mk.inj hcall
      have hledger : store.ledgerOf root = store.ledgerOf scope.chainRoot := by
        rw [ledgerOf, ← hkey, ledgerOf]
      simpa [hcall, hledger] using hheld
    · simp [hcall]

/-- An action that calls for no warning changes no ledger. -/
theorem Coherent.ledgers_perform (h : store.Coherent known) {action : Action}
    (huses : ∀ handle ∈ action.uses, handle ∈ known) (hcall : action.call? = none) :
    (action.perform.run store).2.ledgers = store.ledgers := by
  cases action with
  | root | nested | rule | body | view | select | hold | drop => rfl
  | viewOf | rootOf | callerOf | contentOf =>
    exact congrArg (·.2.2) (h.written_of_asks huses rfl)
  | write mode scope ns name value =>
    obtain ⟨tables, roots, hafter⟩ := exists_tables_of_write store mode scope ns name value
    have hledgers := congrArg Store.ledgers hafter
    exact hledgers
  | warnAssignment => cases hcall
  | warnFalseResult => cases hcall

end Store

/-! ## Calls in the course of a run -/

/-- **The message** that an action emits when it is carried out with a store, if it emits one: the
logger of its call has one message more afterwards. -/
def Action.emission? (store : Store) (action : Action) : Option (Nat × Warning) :=
  action.call?.bind fun (scope, logger, use) =>
    if ((use.warn scope logger).run store).1.2.messages = logger.messages then none
    else some (use.inChain scope)

/-- All messages that a number of actions emit, whatever their loggers. In both lists the latest
stands in front. -/
def emissions : List Action → List (Nat × Warning)
  | [] => []
  | action :: earlier =>
    (action.emission? (Forest.ofActions earlier).store).toList ++ emissions earlier

/-- An action **gives a warning** after others: it makes the first call for the warning in the chain,
and the call is heard. -/
def Action.Gives (earlier : List Action) (action : Action) (warning : Nat × Warning) : Prop :=
  ∃ (scope : Scope) (logger : Logger) (use : Use), action.call? = some (scope, logger, use) ∧
    use.inChain scope = warning ∧ warning ∉ callsIn earlier ∧
    WarningsPass scope.snapshot.options logger

/-- What is given is called for. -/
theorem Action.Gives.mem_callsIn {earlier : List Action} {action : Action}
    {warning : Nat × Warning} (h : action.Gives earlier warning) (later : List Action) :
    warning ∈ callsIn (later ++ action :: earlier) := by
  obtain ⟨scope, logger, use, hcall, rfl, -, -⟩ := h
  simp [callsIn, hcall]

/-- An action adds its call to those before. -/
theorem callsIn_cons (action : Action) (earlier : List Action) :
    callsIn (action :: earlier) =
      (action.call?.map fun (scope, _, use) => use.inChain scope).toList ++ callsIn earlier := by
  cases h : action.call? <;> simp [callsIn, h]

/-- The call of an action is made from a scope that the action uses, and it is what the action
does. -/
theorem Action.of_call? {action : Action} {scope : Scope} {logger : Logger} {use : Use}
    (h : action.call? = some (scope, logger, use)) :
    scope.handle ∈ action.uses ∧
      ∀ store, (action.perform.run store).2 = ((use.warn scope logger).run store).2 := by
  cases action with
  | warnAssignment =>
    cases h
    exact ⟨List.mem_singleton_self _, fun _ => rfl⟩
  | warnFalseResult =>
    cases h
    exact ⟨List.mem_singleton_self _, fun _ => rfl⟩
  | _ => cases h

namespace Run

variable {actions : List Action} {forest : Forest}

/-- The forest of a run is the one that the actions lead to. -/
theorem eq_ofActions (h : Run actions forest) : forest = .ofActions actions := by
  induction h with
  | start => rfl
  | act _ action _ ih => rw [Forest.ofActions, ih]

/-- **The ledgers hold the calls**: after every run the ledger of a root holds a warning exactly if
a call for it has been made in the chain of the root. -/
theorem holds_ledgerOf (h : Run actions forest) (root : Root) (warning : Warning) :
    (forest.store.ledgerOf root).holds warning = true ↔ (root.key, warning) ∈ callsIn actions := by
  induction h with
  | start =>
    have hempty : Forest.empty.store.ledgerOf root = .empty := by
      simp [Store.ledgerOf, Forest.empty, Store.empty]
    simp [hempty, callsIn]
  | @act actions forest hrun action huses ih =>
    rw [callsIn_cons]
    show ((action.perform.run forest.store).2.ledgerOf root).holds warning = true ↔ _
    rcases hcall : action.call? with _ | ⟨scope, logger, use⟩
    · -- Nothing is called for, and no ledger changes.
      have hsame : (action.perform.run forest.store).2.ledgerOf root =
          forest.store.ledgerOf root := by
        rw [Store.ledgerOf, hrun.coherent.ledgers_perform huses hcall, Store.ledgerOf]
      rw [hsame, ih]
      rfl
    · -- The call is held beside those from before.
      obtain ⟨huse, hperform⟩ := Action.of_call? hcall
      rw [hperform, (hrun.coherent.warn (huses _ huse) use logger).2 root warning, Bool.or_eq_true,
        decide_eq_true_iff, ih]
      simp [eq_comm]

/-- A call on a known scope is answered by the calls that have been made before. -/
theorem run_warn (h : Run actions forest) {scope : Scope} (hscope : scope.handle ∈ forest.known)
    (use : Use) (logger : Logger) :
    ((use.warn scope logger).run forest.store).1 =
      (decide (use.inChain scope ∉ callsIn actions), ⟨logger.threshold,
        if use.inChain scope ∉ callsIn actions ∧ WarningsPass scope.snapshot.options logger then
          logger.messages ++ [(.warn, use.warning.text)]
        else logger.messages⟩) := by
  have hholds := h.holds_ledgerOf scope.chainRoot use.warning
  have hfirst : (!(forest.store.ledgerOf scope.chainRoot).holds use.warning) =
      decide (use.inChain scope ∉ callsIn actions) := by
    rw [Bool.eq_iff_iff, Bool.not_eq_true', ← Bool.not_eq_true, hholds, decide_eq_true_iff]
    rfl
  rw [(h.coherent.warn hscope use logger).1, hfirst]
  rw [Store.warnIfFirst_decide]

/-- Roots of chains are told apart by their keys. -/
theorem chainRoot_key_inj (h : Run actions forest) {scope other : Scope}
    (hscope : scope.handle ∈ forest.known) (hother : other.handle ∈ forest.known) :
    scope.chainRoot.key = other.chainRoot.key ↔ scope.chainRoot = other.chainRoot := by
  constructor
  · intro hkey
    have hmem := h.coherent.mem_of_reaches hscope scope.reaches_chainRoot
    have hmem' := h.coherent.mem_of_reaches hother other.reaches_chainRoot
    have hsame := h.coherent.eq_of_key_eq hmem hmem' hkey
    generalize scope.chainRoot = root at hsame ⊢
    generalize other.chainRoot = root' at hsame ⊢
    cases root
    cases root'
    cases hsame
    rfl
  · exact congrArg Root.key

/-- An action emits a message exactly if it gives the warning. -/
theorem emission?_eq_some_iff (h : Run actions forest) {action : Action}
    (huses : ∀ handle ∈ action.uses, handle ∈ forest.known) {emission : Nat × Warning} :
    action.emission? forest.store = some emission ↔ action.Gives actions emission := by
  rw [Action.emission?, Option.bind_eq_some_iff]
  constructor
  · rintro ⟨⟨scope, logger, use⟩, hcall, hmessages⟩
    dsimp only at hmessages
    split at hmessages
    · cases hmessages
    · next hmore =>
      cases hmessages
      rw [h.run_warn (huses _ (Action.of_call? hcall).1)] at hmore
      -- The logger has more messages than before, so the call was a first one that is heard.
      exact ⟨scope, logger, use, hcall, rfl, Decidable.not_not.mp fun hold => hmore (if_neg hold)⟩
  · rintro ⟨scope, logger, use, hcall, rfl, hgiven⟩
    refine ⟨(scope, logger, use), hcall, if_neg ?_⟩
    rw [h.run_warn (huses _ (Action.of_call? hcall).1)]
    simp [hgiven]

/-- **The messages of a run** are those of the actions that gave a warning at their time. -/
theorem mem_emissions (h : Run actions forest) {emission : Nat × Warning} :
    emission ∈ emissions actions ↔ ∃ (later : List Action) (action : Action)
      (earlier : List Action), actions = later ++ action :: earlier ∧
        action.Gives earlier emission := by
  induction h with
  | start => simp [emissions]
  | @act actions forest hrun action huses ih =>
    rw [emissions, ← hrun.eq_ofActions, List.mem_append, Option.mem_toList,
      hrun.emission?_eq_some_iff huses, ih]
    constructor
    · rintro (hgives | ⟨later, other, earlier, rfl, hgives⟩)
      · exact ⟨[], action, actions, rfl, hgives⟩
      · exact ⟨action :: later, other, earlier, rfl, hgives⟩
    · rintro ⟨later, other, earlier, hactions, hgives⟩
      rcases later with _ | ⟨_, later⟩
      · cases hactions
        exact .inl hgives
      · cases hactions
        exact .inr ⟨later, other, earlier, rfl, hgives⟩

/-- **No message is emitted twice** in a run. -/
theorem nodup_emissions (h : Run actions forest) : (emissions actions).Nodup := by
  induction h with
  | start => exact List.nodup_nil
  | @act actions forest hrun action huses ih =>
    rw [emissions, ← hrun.eq_ofActions]
    rcases hemission : action.emission? forest.store with _ | emission
    · exact ih
    · refine List.nodup_cons.mpr ⟨fun hmem => ?_, ih⟩
      -- What has been emitted was called for, and the action makes a first call.
      obtain ⟨later, other, earlier, rfl, hgives⟩ := hrun.mem_emissions.mp hmem
      obtain ⟨scope, logger, use, -, rfl, hnew, -⟩ :=
        (hrun.emission?_eq_some_iff huses).mp hemission
      exact hnew (hgives.mem_callsIn later)

/-- **Warnings are given once.** At every moment of a run,
- the chains of scopes are told apart by the keys of their roots,
- a call from a scope is told that it is the first exactly if no call for the same warning, which is
  the kind with the place and for an assignment the normalized name, has been made in the same chain
  before, from whatever scope, with whatever logger, and whether or not a message came of it,
- the logger keeps its threshold, and its messages are those from before, with the text of the
  warning behind them exactly if the call is the first one, the options of the calling scope are not
  quiet, and the threshold of the logger is a warning at most,
- the messages of the run, of whatever loggers, are those of the actions that made such a call at
  their time, and none has been emitted twice for one warning in one chain. -/
theorem warned_once (h : Run actions forest) :
    (∀ scope other : Scope, scope.handle ∈ forest.known → other.handle ∈ forest.known →
      (scope.chainRoot.key = other.chainRoot.key ↔ scope.chainRoot = other.chainRoot)) ∧
    (∀ scope : Scope, scope.handle ∈ forest.known → ∀ (use : Use) (logger : Logger),
      let call := (scope.chainRoot.key, use.warning)
      let answer := ((use.warn scope logger).run forest.store).1
      (answer.1 = true ↔ call ∉ callsIn actions) ∧
        answer.2.threshold = logger.threshold ∧
        answer.2.messages =
          if call ∉ callsIn actions ∧ WarningsPass scope.snapshot.options logger then
            logger.messages ++ [(.warn, use.warning.text)]
          else logger.messages) ∧
    (∀ emission : Nat × Warning, emission ∈ emissions actions ↔
      ∃ (later : List Action) (action : Action) (earlier : List Action),
        actions = later ++ action :: earlier ∧ action.Gives earlier emission) ∧
    (emissions actions).Nodup := by
  refine ⟨fun scope other hscope hother => h.chainRoot_key_inj hscope hother, ?_,
    fun emission => h.mem_emissions, h.nodup_emissions⟩
  intro scope hscope use logger call answer
  have hanswer : answer = _ := h.run_warn hscope use logger
  rw [hanswer]
  exact ⟨decide_eq_true_iff, rfl, rfl⟩

/-- Options under which warnings are muted. -/
def quietSnapshot : Snapshot := ⟨1, { Options.default with quiet := true }⟩

/-- A scope of the sample that is nested in the root under these options. -/
def quietNested : Scope := .nested 3 quietSnapshot sampleRoot

/-- A logger that has a message already. -/
def recorder : Logger := ⟨.debug, [(.info, "compiling theme.scss")]⟩

/-- In the sample, an assignment is warned about in the quiet scope, and then a result at the same
place in the body. -/
def quietCall : List Action :=
  [.warnFalseResult sampleBody recorder ⟨4, some "theme.scss"⟩,
    .warnAssignment quietNested recorder "main_color" ⟨4, some "theme.scss"⟩,
    .nested sampleRoot (some quietSnapshot)] ++ sampleActions

/-- In the sample, the muted call counts: the body in the same chain is not warned about the same
assignment any more. It is about what is in the next line, and a logger for errors drops that
message. Of the run itself only the result has brought a message. -/
theorem quietCall_counts :
    ∃ forest, Run quietCall forest ∧
      (let answer (use : Use) (logger : Logger) := ((use.warn sampleBody logger).run forest.store).1;
        answer (.assignment "main-color" ⟨4, some "theme.scss"⟩) recorder =
          (false, ⟨.debug, [(.info, "compiling theme.scss")]⟩) ∧
        answer (.assignment "main-color" ⟨5, some "theme.scss"⟩) recorder =
          (true, ⟨.debug, [(.info, "compiling theme.scss"),
            (.warn, "DEPRECATION WARNING on line 5 of theme.scss:\n" ++
              "Assigning to global variable \"$main-color\" from a nested scope without " ++
              "!global is deprecated.\n" ++ "Write \"$main-color: <value> !global\" " ++
              "to keep assigning to the global variable.")]⟩) ∧
        answer (.falseResult ⟨5, some "theme.scss"⟩) recorder =
          (true, ⟨.debug, [(.info, "compiling theme.scss"),
            (.warn, "DEPRECATION WARNING on line 5 of theme.scss:\n" ++
              "This result will change from false to null; " ++
              "avoid comparing it with \"== false\".")]⟩) ∧
        answer (.falseResult ⟨5, some "theme.scss"⟩) (.new .recording (some .error)) =
          (true, ⟨.error, []⟩)) ∧
      emissions quietCall = [(0, .falseResult ⟨4, some "theme.scss"⟩)] := by
  have hrun : Run quietCall (.ofActions quietCall) := by
    refine ((run_sampleActions.act _ ?_).act _ ?_).act _ ?_
    all_goals intro handle hmem; rw [List.mem_singleton.mp hmem]
    · exact known_sample _ (by simp)
    · exact .inr rfl
    · exact .inl (.inl (known_sample _ (by simp)))
  have hbody : sampleBody.handle ∈ (Forest.ofActions quietCall).known :=
    .inl (.inl (.inl (known_sample _ (by simp))))
  obtain ⟨-, hcalls, -, -⟩ := warned_once hrun
  -- The call in the quiet scope is the only one for an assignment, and in the chain of the body.
  have hcalled : (sampleBody.chainRoot.key,
      (Use.assignment "main-color" ⟨4, some "theme.scss"⟩).warning) ∈ callsIn quietCall := by decide
  have hnew : ∀ use ∈ [Use.assignment "main-color" ⟨5, some "theme.scss"⟩,
      Use.falseResult ⟨5, some "theme.scss"⟩],
      (sampleBody.chainRoot.key, use.warning) ∉ callsIn quietCall := by decide
  -- What is new is told so, and the logger decides about its message.
  have hfirst : ∀ use ∈ [Use.assignment "main-color" ⟨5, some "theme.scss"⟩,
      Use.falseResult ⟨5, some "theme.scss"⟩], ∀ (logger : Logger) messages,
      (if WarningsPass sampleBody.snapshot.options logger then
          logger.messages ++ [(.warn, use.warning.text)] else logger.messages) = messages →
        ((use.warn sampleBody logger).run (Forest.ofActions quietCall).store).1 =
          (true, ⟨logger.threshold, messages⟩) := by
    rintro use huse logger _ rfl
    obtain ⟨hfirst, hthreshold, hmessages⟩ := hcalls sampleBody hbody use logger
    refine Prod.ext (hfirst.mpr (hnew use huse)) (congrArg₂ Logger.mk hthreshold ?_)
    rw [hmessages]
    simp [hnew use huse]
  refine ⟨_, hrun, ⟨?_, ?_, ?_, ?_⟩, rfl⟩
  · obtain ⟨hfirst, hthreshold, hmessages⟩ := hcalls sampleBody hbody (.assignment _ _) recorder
    refine Prod.ext (Bool.eq_false_iff.mpr fun htrue => hfirst.mp htrue hcalled) ?_
    exact congrArg₂ Logger.mk hthreshold (hmessages.trans (if_neg fun hgiven => hgiven.1 hcalled))
  · exact hfirst _ (by simp) recorder _ (by decide +kernel)
  · exact hfirst _ (by simp) recorder _ (by decide +kernel)
  · exact hfirst _ (by simp) (.new .recording (some .error)) _ (by decide +kernel)

end Run

end Stylesheet
