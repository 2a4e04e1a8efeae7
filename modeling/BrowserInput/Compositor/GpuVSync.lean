/-
The begin frames a GPU vsync source hands out.

`GpuVSyncBeginFrameSource` turns the GPU's vsync signals into `cc::BeginFrameArgs` for the
compositor.  While begin frames are needed, each `OnVSync` creates `NORMAL` args with a fresh
sequence number and hands them to `OnBeginFrame` of its `ExternalBeginFrameSource` base.  An
observer that joins late asks `GetMissedBeginFrameArgs` for the frame it missed: the source
projects the last args it has onto the clock, and if a newer frame should have begun it creates
`MISSED` args for it, with a fresh number; otherwise it hands out the last args again, as
`MISSED`, unless the observer has already seen them.

A sequence number is what tells one frame from the next, so a fresh number has to be fresh:
every `NORMAL` frame is numbered above every args the source handed out before it, and every
args it hands out carries its own source id (`beginFrameArgs_sequence`).  And the source sends
a frame only while the last thing it told the GPU was that it needs vsync
(`beginFrame_only_while_vsync_needed`).

`Now()`, `SnappedToNextTick` and the base class are not part of this code.  The clock reading
is an input of each event, `SnappedToNextTick` a parameter, and the base's `OnBeginFrame` is
taken to record the args it is given as `last_begin_frame_args_`, or not, as each event says.
Times are `base::TimeTicks` and `base::TimeDelta` in microseconds.
-/
import Mathlib.Order.Basic

namespace BrowserInput.Compositor

/-- `cc::BeginFrameArgs::BeginFrameArgsType`. -/
inductive BeginFrameArgsType
  | invalid
  | normal
  | missed
  deriving DecidableEq, Repr

/-- The fields of a `cc::BeginFrameArgs` the source writes or reads. -/
structure BeginFrameArgs where
  sourceId : Nat
  sequenceNumber : Nat
  frameTime : Int
  deadline : Int
  interval : Int
  type : BeginFrameArgsType
  deriving DecidableEq, Repr

/-- `cc::BeginFrameArgs()`: no source, no frame, and a negative interval. -/
def BeginFrameArgs.empty : BeginFrameArgs := ⟨0, 0, 0, 0, -1, .invalid⟩

/-- `BeginFrameArgs::IsValid()`: the interval is not negative. -/
def BeginFrameArgs.isValid (args : BeginFrameArgs) : Bool := decide (0 ≤ args.interval)

/-- `BeginFrameArgs::kStartingFrameNumber`. -/
def kStartingFrameNumber : Nat := 1

/-- The fields of `GpuVSyncBeginFrameSource`, with `last_begin_frame_args_` of its base. -/
structure VSyncSource where
  needsBeginFrames : Bool
  nextSequenceNumber : Nat
  lastBeginFrameArgs : BeginFrameArgs

/-- The source as constructed. -/
def VSyncSource.init : VSyncSource := ⟨false, kStartingFrameNumber, .empty⟩

/-- What the source hands out: to the `GpuVSyncControl`, to its base's `OnBeginFrame`, and back
to the observer that asked `GetMissedBeginFrameArgs`. -/
inductive Call
  | setNeedsVSync (needs : Bool)
  | onBeginFrame (args : BeginFrameArgs)
  | missedArgs (args : BeginFrameArgs)
  deriving DecidableEq, Repr

/-- Everything that can happen to the source. -/
inductive Event
  /-- `OnVSync(timestamp, interval)` at clock reading `now`; `recorded` is whether the base's
  `OnBeginFrame` records the args. -/
  | onVSync (now timestamp interval : Int) (recorded : Bool)
  | onNeedsBeginFrames (needsBeginFrames : Bool)
  /-- `GetMissedBeginFrameArgs(obs)` at clock reading `now`, for an observer whose
  `LastUsedBeginFrameArgs()` are `lastObserverArgs`. -/
  | getMissedBeginFrameArgs (now : Int) (lastObserverArgs : BeginFrameArgs)

section Source

-- `source_id()`, and `TimeTicks::SnappedToNextTick(tick_phase, tick_interval)` of a time.
variable (sourceId : Nat) (snappedToNextTick : Int → Int → Int → Int)

/-- `OnVSync`. -/
def onVSync (s : VSyncSource) (now timestamp interval : Int) (recorded : Bool) :
    VSyncSource × List Call :=
  if s.needsBeginFrames then
    let deadline := snappedToNextTick now timestamp interval
    let sequenceNumber := s.nextSequenceNumber + 1
    let args : BeginFrameArgs := ⟨sourceId, sequenceNumber, timestamp, deadline, interval, .normal⟩
    ({ s with nextSequenceNumber := sequenceNumber,
              lastBeginFrameArgs := if recorded then args else s.lastBeginFrameArgs },
      [.onBeginFrame args])
  else (s, [])

/-- `OnNeedsBeginFrames`. -/
def onNeedsBeginFrames (s : VSyncSource) (needsBeginFrames : Bool) : VSyncSource × List Call :=
  ({ s with needsBeginFrames := needsBeginFrames }, [.setNeedsVSync needsBeginFrames])

/-- `GetMissedBeginFrameArgs`, with the args it returns. -/
def getMissedBeginFrameArgs (s : VSyncSource) (now : Int) (lastObserverArgs : BeginFrameArgs) :
    VSyncSource × BeginFrameArgs :=
  let last := s.lastBeginFrameArgs
  if !last.isValid then (s, .empty)
  else
    let estimatedNextTimestamp := snappedToNextTick now last.frameTime last.interval
    let missedTimestamp := estimatedNextTimestamp - last.interval
    if last.frameTime < missedTimestamp then
      let sequenceNumber := s.nextSequenceNumber + 1
      let args : BeginFrameArgs := ⟨sourceId, sequenceNumber, missedTimestamp,
        estimatedNextTimestamp, last.interval, .missed⟩
      ({ s with nextSequenceNumber := sequenceNumber, lastBeginFrameArgs := args }, args)
    else if lastObserverArgs.isValid && last.frameTime ≤ lastObserverArgs.frameTime then
      (s, .empty)
    else (s, { last with type := .missed })

/-- One event. -/
def step (s : VSyncSource) : Event → VSyncSource × List Call
  | .onVSync now timestamp interval recorded =>
    onVSync sourceId snappedToNextTick s now timestamp interval recorded
  | .onNeedsBeginFrames needsBeginFrames => onNeedsBeginFrames s needsBeginFrames
  | .getMissedBeginFrameArgs now lastObserverArgs =>
    let (s', args) := getMissedBeginFrameArgs sourceId snappedToNextTick s now lastObserverArgs
    (s', [.missedArgs args])

/-- A run of events, from `s`. -/
def run (s : VSyncSource) : List Event → VSyncSource
  | [] => s
  | e :: es => run (step sourceId snappedToNextTick s e).1 es

/-- Every call a run makes, in order. -/
def calls (s : VSyncSource) : List Event → List Call
  | [] => []
  | e :: es => (step sourceId snappedToNextTick s e).2 ++
    calls (step sourceId snappedToNextTick s e).1 es

end Source

/-! ### Sequence numbers -/

/-- The args a call hands to observers: those of `OnBeginFrame`, and the missed args returned
when they are valid. -/
def Call.handedOut : Call → Option BeginFrameArgs
  | .onBeginFrame args => some args
  | .missedArgs args => if args.isValid then some args else none
  | .setNeedsVSync _ => none

/-- Args this source numbered, at most `bound`. -/
def Numbered (sourceId bound : Nat) (args : BeginFrameArgs) : Prop :=
  args.sourceId = sourceId ∧ kStartingFrameNumber < args.sequenceNumber ∧
    args.sequenceNumber ≤ bound

theorem Numbered.mono {sourceId m n : Nat} {args : BeginFrameArgs} (h : Numbered sourceId m args)
    (hmn : m ≤ n) : Numbered sourceId n args :=
  ⟨h.1, h.2.1, Nat.le_trans h.2.2 hmn⟩

/-- The last args, when valid, are this source's and numbered at most the counter. -/
def SeqOK (sourceId : Nat) (s : VSyncSource) : Prop :=
  kStartingFrameNumber ≤ s.nextSequenceNumber ∧
    (s.lastBeginFrameArgs.isValid = true →
      Numbered sourceId s.nextSequenceNumber s.lastBeginFrameArgs)

theorem seqOK_init (sourceId : Nat) : SeqOK sourceId .init :=
  ⟨Nat.le_refl _, fun h => absurd h (by decide)⟩

/-- What a step or a run from `s` to `t`, making calls `cs`, does to the numbers: it keeps
`SeqOK`, never lowers the counter, hands out only this source's args numbered at most the new
counter, numbers each `OnBeginFrame` above the old one, and each above every args handed out
before it. -/
structure Numbering (sourceId : Nat) (s t : VSyncSource) (cs : List Call) : Prop where
  seqOK : SeqOK sourceId t
  mono : s.nextSequenceNumber ≤ t.nextSequenceNumber
  handedOut : ∀ c ∈ cs, ∀ a, c.handedOut = some a → Numbered sourceId t.nextSequenceNumber a
  fresh : ∀ a, .onBeginFrame a ∈ cs → s.nextSequenceNumber < a.sequenceNumber
  pairwise : cs.Pairwise fun c d => ∀ a b, c.handedOut = some a → d = .onBeginFrame b →
    a.sequenceNumber < b.sequenceNumber

section Source

variable {sourceId : Nat} {snappedToNextTick : Int → Int → Int → Int}

theorem onVSync_spec {s : VSyncSource} (h : SeqOK sourceId s) (now timestamp interval : Int)
    (recorded : Bool) :
    Numbering sourceId s (onVSync sourceId snappedToNextTick s now timestamp interval recorded).1
      (onVSync sourceId snappedToNextTick s now timestamp interval recorded).2 := by
  -- The args `OnVSync` creates, whatever the deadline.
  have hargs : ∀ deadline, Numbered sourceId (s.nextSequenceNumber + 1)
      ⟨sourceId, s.nextSequenceNumber + 1, timestamp, deadline, interval, .normal⟩ :=
    fun _ => ⟨rfl, Nat.lt_succ_of_le h.1, Nat.le_refl _⟩
  dsimp only [onVSync]
  split
  · refine ⟨⟨Nat.le_succ_of_le h.1, fun hv => ?_⟩, Nat.le_succ _, ?_, by simp,
      List.pairwise_singleton _ _⟩
    · cases recorded
      · exact (h.2 hv).mono (Nat.le_succ _)
      · exact hargs _
    · simp only [List.mem_singleton, forall_eq, Call.handedOut, Option.some.injEq, forall_eq']
      exact hargs _
  · exact ⟨h, Nat.le_refl _, by simp, by simp, List.Pairwise.nil⟩

theorem getMissedBeginFrameArgs_spec {s : VSyncSource} (h : SeqOK sourceId s) (now : Int)
    (lastObserverArgs : BeginFrameArgs) :
    SeqOK sourceId (getMissedBeginFrameArgs sourceId snappedToNextTick s now lastObserverArgs).1 ∧
      s.nextSequenceNumber ≤
        (getMissedBeginFrameArgs sourceId snappedToNextTick s now lastObserverArgs).1.nextSequenceNumber ∧
      ((getMissedBeginFrameArgs sourceId snappedToNextTick s now lastObserverArgs).2.isValid = true →
        Numbered sourceId
          (getMissedBeginFrameArgs sourceId snappedToNextTick s now lastObserverArgs).1.nextSequenceNumber
          (getMissedBeginFrameArgs sourceId snappedToNextTick s now lastObserverArgs).2) := by
  have hempty : BeginFrameArgs.empty.isValid = false := by decide
  dsimp only [getMissedBeginFrameArgs]
  split
  · exact ⟨h, Nat.le_refl _, fun hv => absurd hv (by simp [hempty])⟩
  · rename_i hlast
    have hvalid : s.lastBeginFrameArgs.isValid = true := by simpa using hlast
    split
    · have hnew : ∀ frameTime deadline, Numbered sourceId (s.nextSequenceNumber + 1)
          ⟨sourceId, s.nextSequenceNumber + 1, frameTime, deadline, s.lastBeginFrameArgs.interval,
            .missed⟩ :=
        fun _ _ => ⟨rfl, Nat.lt_succ_of_le h.1, Nat.le_refl _⟩
      exact ⟨⟨Nat.le_succ_of_le h.1, fun _ => hnew _ _⟩, Nat.le_succ _, fun _ => hnew _ _⟩
    · split
      · exact ⟨h, Nat.le_refl _, fun hv => absurd hv (by simp [hempty])⟩
      · exact ⟨h, Nat.le_refl _, fun _ => h.2 hvalid⟩

/-- **Every step from a `SeqOK` state meets `Numbering`.** -/
theorem step_spec {s : VSyncSource} (h : SeqOK sourceId s) (e : Event) :
    Numbering sourceId s (step sourceId snappedToNextTick s e).1
      (step sourceId snappedToNextTick s e).2 := by
  cases e with
  | onVSync now timestamp interval recorded => exact onVSync_spec h now timestamp interval recorded
  | onNeedsBeginFrames needs => exact ⟨h, Nat.le_refl _,
      by simp [step, onNeedsBeginFrames, Call.handedOut], by simp [step, onNeedsBeginFrames],
      List.pairwise_singleton _ _⟩
  | getMissedBeginFrameArgs now lastObserverArgs =>
    obtain ⟨hok, hmono, hargs⟩ :=
      @getMissedBeginFrameArgs_spec sourceId snappedToNextTick s h now lastObserverArgs
    refine ⟨hok, hmono, ?_, by simp [step], List.pairwise_singleton _ _⟩
    simp only [step, List.mem_singleton, forall_eq, Call.handedOut]
    split
    · rename_i hv
      simpa using hargs hv
    · simp

theorem run_numbering {s : VSyncSource} (h : SeqOK sourceId s) (evs : List Event) :
    Numbering sourceId s (run sourceId snappedToNextTick s evs)
      (calls sourceId snappedToNextTick s evs) := by
  induction evs generalizing s with
  | nil => exact ⟨h, Nat.le_refl _, by simp [calls], by simp [calls], List.Pairwise.nil⟩
  | cons e es ih =>
    have hstep := @step_spec sourceId snappedToNextTick s h e
    have hrest := ih hstep.seqOK
    refine ⟨hrest.seqOK, Nat.le_trans hstep.mono hrest.mono, fun c hc a ha => ?_, fun a ha => ?_, ?_⟩
    · rcases List.mem_append.mp hc with hc | hc
      · exact (hstep.handedOut c hc a ha).mono hrest.mono
      · exact hrest.handedOut c hc a ha
    · rcases List.mem_append.mp ha with ha | ha
      · exact hstep.fresh a ha
      · exact Nat.lt_of_le_of_lt hstep.mono (hrest.fresh a ha)
    · refine List.pairwise_append.mpr ⟨hstep.pairwise, hrest.pairwise, ?_⟩
      rintro c hc d hd a b ha rfl
      exact Nat.lt_of_le_of_lt (hstep.handedOut c hc a ha).2.2 (hrest.fresh b hd)

end Source

/-- **From construction, over every run of vsync signals, `OnNeedsBeginFrames` calls and
`GetMissedBeginFrameArgs` requests, whatever the clock reads, however `SnappedToNextTick` snaps
and whichever args the base records: every args the source hands out carries its own source id
and a sequence number above `kStartingFrameNumber`, and every `OnBeginFrame` carries a sequence
number above that of every args handed out before it.** -/
theorem beginFrameArgs_sequence (sourceId : Nat) (snappedToNextTick : Int → Int → Int → Int)
    (evs : List Event) :
    (∀ c ∈ calls sourceId snappedToNextTick .init evs, ∀ a, c.handedOut = some a →
        a.sourceId = sourceId ∧ kStartingFrameNumber < a.sequenceNumber) ∧
      (calls sourceId snappedToNextTick .init evs).Pairwise fun c d =>
        ∀ a b, c.handedOut = some a → d = .onBeginFrame b → a.sequenceNumber < b.sequenceNumber := by
  have hrun := @run_numbering sourceId snappedToNextTick _ (seqOK_init sourceId) evs
  exact ⟨fun c hc a ha => ⟨(hrun.handedOut c hc a ha).1, (hrun.handedOut c hc a ha).2.1⟩,
    hrun.pairwise⟩

/-! ### Begin frames follow the vsync the GPU was asked for -/

/-- What the `GpuVSyncControl` was last told by `calls`, or `needs` if they tell it nothing. -/
def needsAfter (needs : Bool) (cs : List Call) : Bool :=
  cs.foldl (fun needs c => match c with | .setNeedsVSync b => b | _ => needs) needs

section Source

variable {sourceId : Nat} {snappedToNextTick : Int → Int → Int → Int}

theorem step_needsBeginFrames (s : VSyncSource) (e : Event) :
    (step sourceId snappedToNextTick s e).1.needsBeginFrames =
      needsAfter s.needsBeginFrames (step sourceId snappedToNextTick s e).2 := by
  cases e with
  | onVSync now timestamp interval recorded =>
    simp only [step, onVSync]
    split <;> rfl
  | onNeedsBeginFrames needs => rfl
  | getMissedBeginFrameArgs now lastObserverArgs =>
    simp only [step, getMissedBeginFrameArgs]
    split_ifs <;> rfl

theorem run_needsBeginFrames (s : VSyncSource) (evs : List Event) :
    (run sourceId snappedToNextTick s evs).needsBeginFrames =
      needsAfter s.needsBeginFrames (calls sourceId snappedToNextTick s evs) := by
  induction evs generalizing s with
  | nil => rfl
  | cons e es ih => rw [run, ih, step_needsBeginFrames, calls, needsAfter, needsAfter,
      needsAfter, List.foldl_append]

/-- Only a vsync signal while begin frames are needed sends one. -/
theorem needsBeginFrames_of_onBeginFrame {s : VSyncSource} {e : Event} {a : BeginFrameArgs}
    (h : .onBeginFrame a ∈ (step sourceId snappedToNextTick s e).2) : s.needsBeginFrames = true := by
  cases e with
  | onVSync now timestamp interval recorded =>
    simp only [step, onVSync] at h
    split at h
    · assumption
    · simp at h
  | onNeedsBeginFrames needs => simp [step, onNeedsBeginFrames] at h
  | getMissedBeginFrameArgs now lastObserverArgs => simp [step] at h

end Source

/-- **From construction, over every run, the source calls `OnBeginFrame` only while the last
`SetNeedsVSync` it made to the `GpuVSyncControl` asked for vsync.** -/
theorem beginFrame_only_while_vsync_needed (sourceId : Nat)
    (snappedToNextTick : Int → Int → Int → Int) (evs : List Event) (e : Event) (a : BeginFrameArgs)
    (hsent : .onBeginFrame a ∈ (step sourceId snappedToNextTick
      (run sourceId snappedToNextTick .init evs) e).2) :
    needsAfter false (calls sourceId snappedToNextTick .init evs) = true := by
  exact (@run_needsBeginFrames sourceId snappedToNextTick .init evs).symm.trans
    (needsBeginFrames_of_onBeginFrame hsent)

theorem beginFrame_after_vsync_requested :
    .onBeginFrame ⟨7, 2, 0, 16, 16, .normal⟩ ∈ (step 7 (fun now _ interval => now + interval)
      (run 7 (fun now _ interval => now + interval) .init [.onNeedsBeginFrames true])
      (.onVSync 0 0 16 true)).2 ∧
    needsAfter false (calls 7 (fun now _ interval => now + interval) .init
      [.onNeedsBeginFrames true]) = true := by
  have hsent : .onBeginFrame ⟨7, 2, 0, 16, 16, .normal⟩ ∈ (step 7 (fun now _ interval => now + interval)
      (run 7 (fun now _ interval => now + interval) .init [.onNeedsBeginFrames true])
      (.onVSync 0 0 16 true)).2 := by decide
  exact ⟨hsent, beginFrame_only_while_vsync_needed _ _ _ _ _ hsent⟩

end BrowserInput.Compositor