import Mathlib.Logic.Function.Iterate
import Stylesheet.Proofs.Target

/-! # The moments of an expansion

An expansion is a recursion: while a sheet is rendered, the sheets further out wait for it. To say
what holds *at every moment* of it, this module lays the recursion out as the **moments** that it
passes through, one at a time: a sheet is being rendered, or an error is leaving one, or all is
over. `Moment.next` leads from each moment to the one after it, without any bound on the depth.
`leads_expand` says that the moments are those of `expand`: if no more sheets ever wait than the
depth that `expand` grants, the moments come to an end with just the result of `expand`. That there
are never more is shown where the files of the waiting sheets are counted. -/

namespace Stylesheet.Expansion

open Diagnostic

/-! ## Moments -/

/-- The state with one more frame open. -/
def opened (s : Expansion) (frame : Frame) : Expansion :=
  { s with trace := s.trace.push frame }

/-- The state with the innermost frame closed. -/
def closed (s : Expansion) : Expansion :=
  { s with trace := s.trace.pop }

/-- A sheet that is being rendered. -/
structure Level where
  /-- The sheet. -/
  sheet : Sheet
  /-- The options that it is rendered under. -/
  options : Options
  /-- What has been rendered of it so far. -/
  pieces : List String
  /-- What is left to render; the first node is the next. -/
  nodes : List Node

/-- A sheet that waits for what one of its statements imports. -/
structure Waiting where
  /-- The sheet. -/
  sheet : Sheet
  /-- The options that it is rendered under. -/
  options : Options
  /-- What has been rendered of it before the statement. -/
  pieces : List String
  /-- The statement that is being expanded. -/
  statement : ImportStatement
  /-- What is left to render after the statement. -/
  rest : List Node

namespace Waiting

/-- The frame that is open for the statement. -/
def frame (waiting : Waiting) : Frame :=
  importFrame waiting.statement waiting.options

/-- The sheet before it began to wait. -/
def level (waiting : Waiting) : Level :=
  ⟨waiting.sheet, waiting.options, waiting.pieces, .atImport waiting.statement :: waiting.rest⟩

/-- The sheet as it goes on once the statement has been rendered. -/
def resume (waiting : Waiting) (piece : String) : Level :=
  ⟨waiting.sheet, waiting.options, waiting.pieces ++ [piece], waiting.rest⟩

end Waiting

/-- Where an expansion stands: the sheet that is being rendered and those that wait for it. -/
structure Position where
  /-- The innermost sheet. -/
  level : Level
  /-- The sheets that wait, innermost first. -/
  outer : List Waiting
  /-- The outcomes of imports and the live frames. -/
  state : Expansion

/-- A **moment** of an expansion. -/
inductive Moment where
  /-- The innermost sheet is being rendered. -/
  | rendering (position : Position)
  /-- An error is leaving the innermost sheet. -/
  | raising (error : CompileError) (position : Position)
  /-- The expansion has ended. -/
  | ended (result : Except CompileError String) (state : Expansion)

namespace Position

/-- The position after the next node has been rendered as `piece`. -/
def wrote (position : Position) (piece : String) (rest : List Node) (after : Expansion) :
    Position :=
  { position with
    level := { position.level with pieces := position.level.pieces ++ [piece], nodes := rest }
    state := after }

/-- The innermost sheet as it waits for the next statement. -/
def waitFor (position : Position) (statement : ImportStatement) (rest : List Node) : Waiting :=
  ⟨position.level.sheet, position.level.options, position.level.pieces, statement, rest⟩

/-- The position inside the sheet that the next statement splices. -/
def entered (position : Position) (statement : ImportStatement) (rest : List Node) (sheet : Sheet)
    (nested : Options) (after : Expansion) : Position :=
  ⟨⟨sheet, nested, [], sheet.children⟩, position.waitFor statement rest :: position.outer,
    after.opened (importFrame statement position.level.options)⟩

/-- The moment after the next node has been taken up. -/
def advance (position : Position) : Moment :=
  match position.level.nodes with
  | [] =>
    let piece := Sheet.joinPieces position.level.pieces
    match position.outer with
    | [] => .ended (.ok piece) position.state.closed
    | waiting :: outer => .rendering ⟨waiting.resume piece, outer, position.state.closed⟩
  | .css text :: rest => .rendering (position.wrote text rest position.state)
  | .atImport statement :: rest =>
    match (attaching (target statement position.level.options)).run position.state with
    | (.ok none, after) => .rendering (position.wrote (cssImport statement.reference) rest after)
    | (.ok (some (sheet, nested)), after) =>
      .rendering (position.entered statement rest sheet nested after)
    | (.error error, after) => .raising error { position with state := after }

end Position

namespace Moment

/-- The moment after a moment. An error leaves one sheet at a time; the end lasts. -/
def next : Moment → Moment
  | rendering position => position.advance
  | raising error ⟨_, [], s⟩ => ended (.error error) s.closed
  | raising error ⟨_, waiting :: outer, s⟩ => raising error ⟨waiting.level, outer, s.closed⟩
  | ended result s => ended result s

/-- The state at a moment. -/
def state : Moment → Expansion
  | rendering position => position.state
  | raising _ position => position.state
  | ended _ state => state

/-- Where the expansion stands at a moment; at the end it stands nowhere. -/
def position? : Moment → Option Position
  | rendering position => some position
  | raising _ position => some position
  | ended _ _ => none

/-- The state at a moment is the one where the expansion stands. -/
theorem state_of_position? {moment : Moment} {position : Position}
    (h : moment.position? = some position) : moment.state = position.state := by
  cases moment <;> cases h <;> rfl

/-- Some number of moments lead from one moment to another. -/
def Leads (first last : Moment) : Prop :=
  ∃ count, next^[count] first = last

/-- Every moment leads to itself. -/
theorem Leads.refl (moment : Moment) : Leads moment moment :=
  ⟨0, rfl⟩

/-- A moment leads to the one after it. -/
theorem Leads.next (moment : Moment) : Leads moment moment.next :=
  ⟨1, rfl⟩

/-- Leading to a moment is transitive. -/
theorem Leads.trans {first second third : Moment} (h : Leads first second)
    (h' : Leads second third) : Leads first third := by
  obtain ⟨count, rfl⟩ := h
  obtain ⟨more, rfl⟩ := h'
  exact ⟨more + count, Function.iterate_add_apply _ _ _ _⟩

/-- What holds of a moment and is kept from each moment that it leads to to the next holds of all of
them. -/
theorem Leads.induction {P : Moment → Prop} {first last : Moment} (h : Leads first last)
    (hfirst : P first) (hnext : ∀ moment, Leads first moment → P moment → P moment.next) :
    P last := by
  obtain ⟨count, rfl⟩ := h
  induction count with
  | zero => exact hfirst
  | succ count ih =>
    rw [Function.iterate_succ_apply']
    exact hnext _ ⟨count, rfl⟩ ih

/-- The end leads nowhere else. -/
theorem iterate_next_ended (count : Nat) (result : Except CompileError String) (s : Expansion) :
    Moment.next^[count] (ended result s) = ended result s := by
  induction count with
  | zero => rfl
  | succ count ih => rw [Function.iterate_succ_apply', ih, Moment.next]

/-- **There is one end.** -/
theorem Leads.ended_unique {first : Moment} {result result' : Except CompileError String}
    {s s' : Expansion} (h : Leads first (ended result s)) (h' : Leads first (ended result' s')) :
    result = result' ∧ s = s' := by
  obtain ⟨count, hcount⟩ := h
  obtain ⟨more, hmore⟩ := h'
  -- Both ends last, so they are the same moment after the sum of the two numbers of moments.
  have hboth : ended result s = ended result' s' := by
    rw [← iterate_next_ended more result s, ← hcount, ← iterate_next_ended count result' s',
      ← hmore, ← Function.iterate_add_apply, ← Function.iterate_add_apply, Nat.add_comm]
  cases hboth
  exact ⟨rfl, rfl⟩

end Moment

/-- The first moment of the expansion of a sheet: its base frame is open and it is about to be
rendered. -/
def start (sheet : Sheet) (options : Options) (s : Expansion) : Moment :=
  .rendering ⟨⟨sheet, options, [], sheet.children⟩, [], s.opened (baseFrame options)⟩

/-- What comes after a position where a statement is next, in terms of how it is located. -/
theorem Position.advance_atImport {position : Position} {statement : ImportStatement}
    {rest : List Node} (hnodes : position.level.nodes = .atImport statement :: rest) :
    ∃ result imports,
      Located statement position.level.options position.state result imports ∧
        position.advance =
          match result with
          | .ok none =>
            .rendering (position.wrote (cssImport statement.reference) rest
              { position.state with imports := imports })
          | .ok (some (sheet, nested)) =>
            .rendering (position.entered statement rest sheet nested
              { position.state with imports := imports })
          | .error error =>
            .raising (position.state.trace.attachTo error)
              { position with state := { position.state with imports := imports } } := by
  obtain ⟨result, imports, hlocated, hrun⟩ :=
    run_attaching_target statement position.level.options position.state
  refine ⟨result, imports, hlocated, ?_⟩
  rw [advance, hnodes]
  dsimp only
  rw [hrun]
  rcases result with error | _ | ⟨sheet, nested⟩ <;> rfl

/-! ## Expansion step by step -/

/-- A step inside a frame runs with the frame open, and the frame is closed however it ends. -/
theorem run_within {α : Type} (frame : Frame) (step : Expand α) (s : Expansion) :
    (within frame step).run s =
      ((step.run (s.opened frame)).1, (step.run (s.opened frame)).2.closed) := rfl

/-- A statement is rendered by rendering what it leads to inside its frame. -/
theorem run_spliceWith (enter : Sheet → Options → Expand String) (options : Options)
    (statement : ImportStatement) (s : Expansion) :
    (spliceWith enter options statement).run s =
      match (attaching (target statement options)).run s with
      | (.ok none, after) => (.ok (cssImport statement.reference), after)
      | (.ok (some (sheet, nested)), after) =>
        (within (importFrame statement options) (enter sheet nested)).run after
      | (.error error, after) => (.error error, after) := by
  rw [spliceWith, run_bind]
  rcases (attaching (target statement options)).run s with ⟨_ | _ | ⟨sheet, nested⟩, after⟩ <;> rfl

/-- Nodes are rendered one after the other, until one fails. -/
theorem run_mapM_cons {α β : Type} (f : α → Expand β) (head : α) (rest : List α) (s : Expansion) :
    ((head :: rest).mapM f).run s =
      match (f head).run s with
      | (.ok value, after) =>
        (((rest.mapM f).run after).1.map (value :: ·), ((rest.mapM f).run after).2)
      | (.error error, after) => (.error error, after) := by
  rw [List.mapM_cons, run_bind]
  rcases (f head).run s with ⟨_ | value, after⟩
  · rfl
  · dsimp only
    rw [run_bind]
    rcases (rest.mapM f).run after with ⟨_ | values, last⟩ <;> rfl

/-- A sheet is rendered by rendering its nodes and joining the pieces. -/
theorem run_expandNodes (splice : ImportStatement → Expand String) (nodes : List Node)
    (s : Expansion) :
    (expandNodes splice nodes).run s =
      (((nodes.mapM (expandNode splice)).run s).1.map Sheet.joinPieces,
        ((nodes.mapM (expandNode splice)).run s).2) := by
  rw [expandNodes, run_bind]
  rcases (nodes.mapM (expandNode splice)).run s with ⟨_ | _, _⟩ <;> rfl

/-! ## The moments are those of the expansion -/

open Moment

namespace Position

/-- The position after all nodes that are left have been rendered. -/
def finished (position : Position) (pieces : List String) (after : Expansion) : Position :=
  { position with
    level := { position.level with pieces := position.level.pieces ++ pieces, nodes := [] }
    state := after }

/-- **The moments follow a run** from a position: they lead to where its value is put in place, or
to where its error leaves the sheet that is being rendered. -/
def Follows {α : Type} (position : Position) (put : α → Expansion → Position)
    (run : Except CompileError α × Expansion) : Prop :=
  match run with
  | (.ok value, after) => Leads (.rendering position) (.rendering (put value after))
  | (.error error, after) =>
    ∃ level, Leads (.rendering position) (.raising error ⟨level, position.outer, after⟩)

/-- At most `depth` more sheets ever wait from this position on. -/
def DeepensBy (depth : Nat) (position : Position) : Prop :=
  ∀ later, Leads (.rendering position) (.rendering later) →
    later.outer.length ≤ position.outer.length + depth

/-- Later on in the same sheet there is no more depth to come. -/
theorem DeepensBy.of_leads {depth : Nat} {position later : Position} (h : position.DeepensBy depth)
    (hleads : Leads (.rendering position) (.rendering later))
    (houter : later.outer.length = position.outer.length) : later.DeepensBy depth := by
  intro last hlast
  rw [houter]
  exact h last (hleads.trans hlast)

/-- Inside a sheet that is spliced there is one less to come. -/
theorem DeepensBy.of_leads_entered {depth : Nat} {position later : Position}
    (h : position.DeepensBy (depth + 1)) (hleads : Leads (.rendering position) (.rendering later))
    (houter : later.outer.length = position.outer.length + 1) : later.DeepensBy depth := by
  intro last hlast
  have hlength := h last (hleads.trans hlast)
  omega

/-- What follows the next node follows the position itself, one piece later. -/
theorem Follows.cons {position : Position} {piece : String} {rest : List Node} {after : Expansion}
    {run : Except CompileError (List String) × Expansion}
    (hleads : Leads (.rendering position) (.rendering (position.wrote piece rest after)))
    (h : (position.wrote piece rest after).Follows (position.wrote piece rest after).finished run) :
    position.Follows position.finished (run.1.map (piece :: ·), run.2) := by
  rcases run with ⟨error | pieces, last⟩
  · -- An error leaves the sheet whatever piece came before it.
    obtain ⟨level, hlevel⟩ := h
    exact ⟨level, hleads.trans hlevel⟩
  · -- The piece is put in front of the others.
    have hsame : (position.wrote piece rest after).finished pieces last =
        position.finished (piece :: pieces) last := by
      simp [finished, wrote]
    exact hleads.trans (hsame ▸ h)

/-- If the moments follow the rendering of every statement, they follow that of the nodes. -/
theorem follows_mapM {depth : Nat} {splice : Options → ImportStatement → Expand String}
    (hsplice : ∀ (position : Position) (statement : ImportStatement) (rest : List Node),
      position.level.nodes = .atImport statement :: rest → position.DeepensBy depth →
      position.Follows (fun piece => position.wrote piece rest)
        ((splice position.level.options statement).run position.state))
    (nodes : List Node) (position : Position) (hnodes : position.level.nodes = nodes)
    (hdeep : position.DeepensBy depth) :
    position.Follows position.finished
      ((nodes.mapM (expandNode (splice position.level.options))).run position.state) := by
  induction nodes generalizing position with
  | nil =>
    have hsame : position.finished [] position.state = position := by
      simp [finished, ← hnodes]
    show Leads (.rendering position) (.rendering (position.finished [] position.state))
    rw [hsame]
    exact .refl _
  | cons node rest ih =>
    rw [run_mapM_cons]
    cases node with
    | css text =>
      -- The next moment writes the text.
      have hleads : Leads (.rendering position)
          (.rendering (position.wrote text rest position.state)) := by
        refine ⟨1, ?_⟩
        show position.advance = _
        rw [advance, hnodes]
      have hhead : (expandNode (splice position.level.options) (.css text)).run position.state =
        (.ok text, position.state) := rfl
      rw [hhead]
      exact .cons hleads (ih _ rfl (hdeep.of_leads hleads rfl))
    | atImport statement =>
      -- The moments of the statement come first, and those of the rest begin where they end.
      have hfollows := hsplice position statement rest hnodes hdeep
      have hhead : (expandNode (splice position.level.options) (.atImport statement)).run
        position.state = (splice position.level.options statement).run position.state := rfl
      rw [hhead]
      rcases hrun : (splice position.level.options statement).run position.state with
        ⟨error | piece, after⟩
      all_goals rw [hrun] at hfollows
      · exact hfollows
      · exact .cons hfollows (ih _ rfl (hdeep.of_leads hfollows rfl))

/-- The moments follow the rendering of what a statement splices into the waiting sheet. -/
theorem Follows.of_entered {position : Position} {statement : ImportStatement} {rest : List Node}
    {sheet : Sheet} {nested : Options} {s : Expansion}
    {run : Except CompileError (List String) × Expansion}
    (hleads : Leads (.rendering position)
      (.rendering (position.entered statement rest sheet nested s)))
    (h : (position.entered statement rest sheet nested s).Follows
      (position.entered statement rest sheet nested s).finished run) :
    position.Follows (fun piece => position.wrote piece rest)
      (run.1.map Sheet.joinPieces, run.2.closed) := by
  rcases run with ⟨error | pieces, last⟩
  · -- The error leaves the sheet that was entered.
    obtain ⟨level, hlevel⟩ := h
    exact ⟨_, (hleads.trans hlevel).trans (.next _)⟩
  · -- The sheet is at its end, and the next moment joins its pieces.
    exact (hleads.trans h).trans (.next _)

/-- The moments follow the rendering of a statement if they do so once it is known what it
splices. -/
theorem follows_spliceWith {enter : Sheet → Options → Expand String} {position : Position}
    {statement : ImportStatement} {rest : List Node}
    (hnodes : position.level.nodes = .atImport statement :: rest)
    (henter : ∀ (sheet : Sheet) (nested : Options) (s : Expansion),
      Leads (.rendering position)
        (.rendering (position.entered statement rest sheet nested s)) →
      position.Follows (fun piece => position.wrote piece rest)
        ((within (importFrame statement position.level.options) (enter sheet nested)).run s)) :
    position.Follows (fun piece => position.wrote piece rest)
      ((spliceWith enter position.level.options statement).run position.state) := by
  have hnext : Leads (.rendering position) position.advance := .next (.rendering position)
  rw [advance, hnodes] at hnext
  rw [run_spliceWith]
  rcases hrun : (attaching (target statement position.level.options)).run position.state with
    ⟨error | _ | ⟨sheet, nested⟩, after⟩
  all_goals
    dsimp only at hnext
    rw [hrun] at hnext
  · exact ⟨_, hnext⟩
  · exact hnext
  · exact henter sheet nested after hnext

/-- **The moments follow the rendering of a statement** with a depth that is never used up. -/
theorem follows_expandImport (depth : Nat) (position : Position) (statement : ImportStatement)
    (rest : List Node) (hnodes : position.level.nodes = .atImport statement :: rest)
    (hdeep : position.DeepensBy depth) :
    position.Follows (fun piece => position.wrote piece rest)
      ((expandImport depth position.level.options statement).run position.state) := by
  induction depth generalizing position statement rest with
  | zero =>
    -- Entering a sheet would be deeper than the position allows.
    refine follows_spliceWith hnodes fun sheet nested s hleads => ?_
    exact absurd (hdeep _ hleads) (Nat.not_succ_le_self _)
  | succ depth ih =>
    -- Inside the sheet there is one level less to come.
    refine follows_spliceWith hnodes fun sheet nested s hleads => ?_
    rw [run_within, run_expandNodes]
    exact .of_entered hleads (follows_mapM ih _ _ rfl (hdeep.of_leads_entered hleads rfl))

end Position

/-- **The moments of an expansion** come to an end, with just the result of `expand`, if never more
sheets wait than the depth that it grants. -/
theorem leads_expand {sheet : Sheet} {options : Options} {s : Expansion}
    (hdeep : ∀ position, Leads (start sheet options s) (.rendering position) →
      position.outer.length ≤ (reachableIdentifiers s.imports options).length) :
    Leads (start sheet options s)
      (.ended ((expand sheet options).run s).1 ((expand sheet options).run s).2) := by
  let top : Position := ⟨⟨sheet, options, [], sheet.children⟩, [], s.opened (baseFrame options)⟩
  have hfollows : top.Follows top.finished
      ((sheet.children.mapM (expandNode (expandImport
        (reachableIdentifiers s.imports options).length options))).run top.state) := by
    refine Position.follows_mapM (Position.follows_expandImport _) _ top rfl ?_
    -- Nothing waits at first, so the depth that is granted bounds all that ever waits.
    intro later hlater
    have htop : top.outer.length = 0 := rfl
    rw [htop, Nat.zero_add]
    exact hdeep later hlater
  -- From where the nodes have been rendered, or an error leaves them, one more moment is the end.
  have hend : ∀ run, top.Follows top.finished run →
      Leads (start sheet options s) (.ended (run.1.map Sheet.joinPieces) run.2.closed) := by
    rintro ⟨error | pieces, after⟩ h
    · obtain ⟨level, hlevel⟩ := h
      exact hlevel.trans (.next _)
    · exact Leads.trans h (.next _)
  have hexpand : (expand sheet options).run s =
      (within (baseFrame options) (expandNodes (expandImport
        (reachableIdentifiers s.imports options).length options) sheet.children)).run s := rfl
  rw [hexpand, run_within, run_expandNodes]
  exact hend _ hfollows

end Stylesheet.Expansion
