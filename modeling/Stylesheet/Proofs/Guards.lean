import Mathlib.Data.List.Perm.Subperm
import Stylesheet.Session

/-! # Guards of frames

Whoever opens a frame gets a **guard** for it, and a frame is closed when the guard is dropped. A
guard says which trace it belongs to, but not which of its frames: whatever guard is dropped, it is
the innermost frame that is closed. So guards that are dropped out of order close each other's
frames. Counting is enough all the same. If each guard is dropped once (`DropsOnce`), a trace has
one frame more than at first for every guard that is live (`Guarded.Since.depth_eq`), so there
always is a frame to close; and once all guards made after some moment are dropped while those from
before are live, the frames of that moment are left (`Guarded.Since.trace_eq`). -/

namespace Stylesheet

namespace Session

variable {σ : Type}

/-- Setting a trace leaves the others alone. -/
theorem trace_setTrace_of_ne (session : Session σ) {ref other : TraceRef} (h : ref ≠ other)
    (trace : Trace) : (session.setTrace ref trace).trace other = session.trace other := by
  have hkey : ref.key ≠ other.key := fun hsame => h (by cases ref; cases other; cases hsame; rfl)
  simp [Session.trace, setTrace, Std.ExtTreeMap.getElem?_insert, hkey]

/-- A frame is opened in front of the others of its trace. -/
theorem frames_enter (session : Session σ) (ref other : TraceRef) (frame : Frame) :
    ((session.enter ref frame).trace other).frames =
      if ref = other then frame :: (session.trace other).frames
      else (session.trace other).frames := by
  split
  · next h =>
    subst h
    rw [enter, trace_setTrace, Trace.push]
  · next h => rw [enter, trace_setTrace_of_ne _ h]

end Session

/-- A trace is its frames. -/
theorem Trace.eq_of_frames_eq {trace other : Trace} (h : trace.frames = other.frames) :
    trace = other := by
  cases trace
  cases other
  cases h
  rfl

/-- Where a frame is live, the innermost one can be closed. -/
theorem Trace.popChecked_eq_ok {trace : Trace} (h : trace.frames ≠ []) :
    trace.popChecked = .ok trace.pop := by
  rw [popChecked, isEmpty, if_neg (by simpa using h)]

/-! ## Guards -/

/-- The **guard** of a frame. It says which trace the frame was opened in, and its number tells it
from other guards. -/
structure Guard where
  /-- The number. -/
  number : Nat
  /-- The trace. -/
  ref : TraceRef
  deriving DecidableEq

/-- What is done **with guards**, in any order and through any holders of the traces. -/
inductive GuardStep where
  /-- A frame is opened, which makes the next guard. -/
  | enter (ref : TraceRef) (frame : Frame)
  /-- A guard is dropped. -/
  | drop (guard : Guard)

/-- Steps by which **each guard is dropped once**: one that is live or that has been made on the
way. They start with the number of the next guard and the guards that are live. -/
inductive DropsOnce : Nat → List Guard → List GuardStep → Prop
  /-- Nothing is left to do. -/
  | done {next : Nat} {live : List Guard} : DropsOnce next live []
  /-- A guard is made, which is live from now on. -/
  | enter {next : Nat} {live : List Guard} {ref : TraceRef} {rest : List GuardStep} (frame : Frame)
    (h : DropsOnce (next + 1) (⟨next, ref⟩ :: live) rest) :
    DropsOnce next live (.enter ref frame :: rest)
  /-- A guard that is live is dropped. -/
  | drop {next : Nat} {live : List Guard} {guard : Guard} {rest : List GuardStep}
    (hlive : guard ∈ live) (h : DropsOnce next (live.erase guard) rest) :
    DropsOnce next live (.drop guard :: rest)

/-- The guards of one trace. -/
def guardsOf (ref : TraceRef) (guards : List Guard) : List Guard :=
  guards.filter (·.ref = ref)

/-- A guard is one of those of its trace. -/
theorem mem_guardsOf {ref : TraceRef} {guards : List Guard} {guard : Guard} :
    guard ∈ guardsOf ref guards ↔ guard ∈ guards ∧ guard.ref = ref := by
  simp [guardsOf]

/-- Dropping a guard drops it from those of its trace only. -/
theorem guardsOf_erase (ref : TraceRef) (guards : List Guard) (guard : Guard) :
    guardsOf ref (guards.erase guard) = (guardsOf ref guards).erase guard :=
  List.erase_filter.symm

/-- A session with the guards that are **live** in it. -/
structure Guarded (σ : Type) where
  /-- The session. -/
  session : Session σ
  /-- The number of the next guard. -/
  next : Nat
  /-- The guards that have been made and not been dropped yet. -/
  live : List Guard
  /-- No guard is there twice. -/
  nodup : live.Nodup
  /-- Their numbers have been taken. -/
  lt_next : ∀ guard ∈ live, guard.number < next

namespace Guarded

variable {σ : Type} {session : Session σ} {moment now : Guarded σ} {ref : TraceRef}

/-- A session in which no guard is live. -/
def unguarded (session : Session σ) : Guarded σ :=
  ⟨session, 0, [], .nil, nofun⟩

/-- A frame has been opened. -/
def entered (now : Guarded σ) (ref : TraceRef) (frame : Frame) : Guarded σ where
  session := now.session.enter ref frame
  next := now.next + 1
  live := ⟨now.next, ref⟩ :: now.live
  nodup := List.nodup_cons.mpr ⟨fun h => Nat.lt_irrefl _ (now.lt_next _ h), now.nodup⟩
  lt_next := by
    intro guard hmem
    rcases List.mem_cons.mp hmem with rfl | hmem
    · exact Nat.lt_succ_self _
    · exact Nat.lt_succ_of_lt (now.lt_next guard hmem)

/-- A guard has been dropped, which has left this trace. -/
def dropped (now : Guarded σ) (guard : Guard) (trace : Trace) : Guarded σ where
  session := now.session.setTrace guard.ref trace
  next := now.next
  live := now.live.erase guard
  nodup := now.nodup.erase guard
  lt_next := fun other hmem => now.lt_next other (List.mem_of_mem_erase hmem)

/-- A step with guards. Dropping one closes the innermost frame of its trace; it is a fault if there
is none. -/
def after (now : Guarded σ) : GuardStep → Except String (Guarded σ)
  | .enter ref frame => .ok (now.entered ref frame)
  | .drop guard => (now.session.trace guard.ref).popChecked.map (now.dropped guard)

/-- A number of steps with guards. -/
def afterAll (now : Guarded σ) (steps : List GuardStep) : Except String (Guarded σ) :=
  steps.foldlM after now

/-! ## What the guards say about the frames -/

/-- **Since a moment**: what holds after any steps in which each guard is dropped once. -/
structure Since (moment now : Guarded σ) : Prop where
  /-- Numbers are taken one after the other. -/
  next_le : moment.next ≤ now.next
  /-- A guard with a number from before the moment was live then. -/
  older : ∀ guard ∈ now.live, guard.number < moment.next → guard ∈ moment.live
  /-- While the guards of that moment are live, its frames are there, below one for each further
  guard. -/
  frames : ∀ ref, (∀ guard ∈ guardsOf ref moment.live, guard ∈ now.live) →
    ∃ above, (now.session.trace ref).frames = above ++ (moment.session.trace ref).frames ∧
      above.length + (guardsOf ref moment.live).length = (guardsOf ref now.live).length

namespace Since

/-- At the moment itself nothing has changed. -/
theorem refl (moment : Guarded σ) : Since moment moment :=
  ⟨Nat.le_refl _, fun _ hmem _ => hmem, fun _ _ => ⟨[], rfl, Nat.zero_add _⟩⟩

/-- Opening a frame puts one above those from before. -/
theorem entered (h : Since moment now) (ref : TraceRef) (frame : Frame) :
    Since moment (now.entered ref frame) := by
  refine ⟨Nat.le_succ_of_le h.next_le, ?_, fun other hkept => ?_⟩
  · intro guard hmem hold
    rcases List.mem_cons.mp hmem with rfl | hmem
    · exact absurd (Nat.lt_of_lt_of_le hold h.next_le) (Nat.lt_irrefl _)
    · exact h.older guard hmem hold
  · -- The guards of the moment are not the one that is made now.
    have hbefore : ∀ guard ∈ guardsOf other moment.live, guard ∈ now.live := by
      intro guard hmem
      rcases List.mem_cons.mp (hkept guard hmem) with rfl | hlive
      · have hlt := moment.lt_next _ (mem_guardsOf.mp hmem).1
        exact absurd (Nat.lt_of_lt_of_le hlt h.next_le) (Nat.lt_irrefl _)
      · exact hlive
    obtain ⟨above, hframes, hcount⟩ := h.frames other hbefore
    have henter := now.session.frames_enter ref other frame
    by_cases hsame : ref = other
    · refine ⟨frame :: above, ?_, ?_⟩
      · rw [if_pos hsame, hframes] at henter
        exact henter
      · simp only [guardsOf, Guarded.entered, List.filter_cons, hsame, decide_true, if_true,
          List.length_cons] at hcount ⊢
        omega
    · refine ⟨above, ?_, ?_⟩
      · rw [if_neg hsame, hframes] at henter
        exact henter
      · simpa only [guardsOf, Guarded.entered, List.filter_cons, hsame, decide_false,
          Bool.false_eq_true, if_false] using hcount

/-- Where a guard is live that was not at the moment, there is a frame above those of the moment. -/
theorem exists_above (h : Since moment now) {guard : Guard} (hlive : guard ∈ now.live)
    (hnew : guard ∉ moment.live)
    (hkept : ∀ other ∈ guardsOf guard.ref moment.live, other ∈ now.live) :
    ∃ frame above,
      (now.session.trace guard.ref).frames =
        frame :: above ++ (moment.session.trace guard.ref).frames ∧
      (above.length + 1) + (guardsOf guard.ref moment.live).length =
        (guardsOf guard.ref now.live).length := by
  obtain ⟨above, hframes, hcount⟩ := h.frames guard.ref hkept
  -- The guard and those of the moment are live, and they are different guards.
  have hnodup : (guard :: guardsOf guard.ref moment.live).Nodup :=
    List.nodup_cons.mpr ⟨fun hmem => hnew (mem_guardsOf.mp hmem).1,
      moment.nodup.sublist List.filter_sublist⟩
  have hsubset : guard :: guardsOf guard.ref moment.live ⊆ guardsOf guard.ref now.live := by
    intro other hmem
    rcases List.mem_cons.mp hmem with rfl | hmem
    · exact mem_guardsOf.mpr ⟨hlive, rfl⟩
    · exact mem_guardsOf.mpr ⟨hkept other hmem, (mem_guardsOf.mp hmem).2⟩
  have hle := (List.subperm_of_subset hnodup hsubset).length_le
  cases above with
  | nil =>
    simp only [List.length_cons, List.length_nil] at hle hcount
    omega
  | cons frame above => exact ⟨frame, above, hframes, hcount⟩

/-- **Dropping a guard** that is live closes a frame above those of the moment, or a guard of the
moment is not live any more. -/
theorem dropped (h : Since moment now) {guard : Guard} (hlive : guard ∈ now.live) :
    Since moment (now.dropped guard (now.session.trace guard.ref).pop) := by
  refine ⟨h.next_le, fun other hmem => h.older other (List.mem_of_mem_erase hmem), ?_⟩
  intro ref hkept
  have hbefore : ∀ other ∈ guardsOf ref moment.live, other ∈ now.live :=
    fun other hmem => List.mem_of_mem_erase (hkept other hmem)
  show ∃ above,
    ((now.session.setTrace guard.ref (now.session.trace guard.ref).pop).trace ref).frames =
        above ++ (moment.session.trace ref).frames ∧
      above.length + (guardsOf ref moment.live).length =
        (guardsOf ref (now.live.erase guard)).length
  rw [guardsOf_erase]
  by_cases hsame : guard.ref = ref
  · subst hsame
    have hnew : guard ∉ moment.live := fun hmem =>
      now.nodup.not_mem_erase (hkept guard (mem_guardsOf.mpr ⟨hmem, rfl⟩))
    obtain ⟨frame, above, hframes, hcount⟩ := h.exists_above hlive hnew hbefore
    refine ⟨above, ?_, ?_⟩
    · rw [Session.trace_setTrace, Trace.pop, hframes]
      rfl
    · rw [List.length_erase_of_mem (mem_guardsOf.mpr ⟨hlive, rfl⟩)]
      omega
  · -- The trace is another one.
    obtain ⟨above, hframes, hcount⟩ := h.frames ref hbefore
    refine ⟨above, ?_, ?_⟩
    · rw [Session.trace_setTrace_of_ne _ hsame, hframes]
    · rw [List.erase_of_not_mem fun hmem => hsame (mem_guardsOf.mp hmem).2, hcount]

/-- **The depth counts the guards**: a trace has one frame more than at first for each guard that is
live. -/
theorem depth_eq (h : Since (unguarded session) now) (ref : TraceRef) :
    (now.session.trace ref).depth =
      (session.trace ref).depth + (guardsOf ref now.live).length := by
  obtain ⟨above, hframes, hcount⟩ := h.frames ref nofun
  have hnone : (guardsOf ref (unguarded session).live).length = 0 := rfl
  rw [Trace.depth, hframes, List.length_append, Trace.depth]
  show above.length + (session.trace ref).frames.length = _
  omega

/-- There is a frame to close for every guard that is live. -/
theorem frames_ne_nil (h : Since (unguarded session) now) {guard : Guard}
    (hlive : guard ∈ now.live) : (now.session.trace guard.ref).frames ≠ [] := by
  obtain ⟨frame, above, hframes, -⟩ := h.exists_above hlive (List.not_mem_nil) nofun
  rw [hframes]
  exact List.cons_ne_nil _ _

/-- **The frames of the moment are left** once all guards that were made since are dropped, while
none from before is. -/
theorem trace_eq (h : Since moment now)
    (hdropped : ∀ guard ∈ now.live, guard.ref = ref → guard.number < moment.next)
    (hkept : ∀ guard ∈ moment.live, guard.ref = ref → guard ∈ now.live) :
    now.session.trace ref = moment.session.trace ref := by
  have hguards : ∀ guard ∈ guardsOf ref moment.live, guard ∈ now.live := by
    intro guard hmem
    obtain ⟨hlive, href⟩ := mem_guardsOf.mp hmem
    exact hkept guard hlive href
  obtain ⟨above, hframes, hcount⟩ := h.frames ref hguards
  -- All guards that are live now were live then, so there are no more of them.
  have hsubset : guardsOf ref now.live ⊆ guardsOf ref moment.live := by
    intro guard hmem
    obtain ⟨hlive, href⟩ := mem_guardsOf.mp hmem
    exact mem_guardsOf.mpr ⟨h.older guard hlive (hdropped guard hlive href), href⟩
  have hnodup : (guardsOf ref now.live).Nodup := now.nodup.sublist List.filter_sublist
  have hle := (List.subperm_of_subset hnodup hsubset).length_le
  have hnone : above = [] := List.eq_nil_of_length_eq_zero (by omega)
  rw [hnone, List.nil_append] at hframes
  exact Trace.eq_of_frames_eq hframes

end Since

/-- **Steps in which each guard is dropped once** never meet a trace without frames, and whatever
they had held since a moment they hold in the end. -/
theorem exists_afterAll (earlier later : List GuardStep) {now : Guarded σ}
    (hsince : Since (unguarded session) now)
    (h : DropsOnce now.next now.live (earlier ++ later)) :
    ∃ final, now.afterAll earlier = .ok final ∧ DropsOnce final.next final.live later ∧
      ∀ moment, Since moment now → Since moment final := by
  induction earlier generalizing now with
  | nil => exact ⟨now, rfl, h, fun _ hmoment => hmoment⟩
  | cons step earlier ih =>
    cases h with
    | enter frame h =>
      obtain ⟨final, hfinal, hlater, hmoments⟩ := ih (hsince.entered _ frame) h
      exact ⟨final, hfinal, hlater, fun moment hmoment => hmoments moment (hmoment.entered _ frame)⟩
    | @drop _ _ guard _ hlive h =>
      obtain ⟨final, hfinal, hlater, hmoments⟩ := ih (hsince.dropped hlive) h
      refine ⟨final, ?_, hlater, fun moment hmoment => hmoments moment (hmoment.dropped hlive)⟩
      rw [afterAll, List.foldlM_cons, after,
        Trace.popChecked_eq_ok (hsince.frames_ne_nil hlive)]
      exact hfinal

end Guarded

end Stylesheet
