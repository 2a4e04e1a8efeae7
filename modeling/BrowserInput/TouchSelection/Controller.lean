/-
What the controller is told.

The manager sits in front of a `TouchSelectionController` and tells it two things: the
selection bounds, and when to hide the handles.  It keeps its own copy of the bounds and passes
every accepted update on, so the copy is always what the controller was last told
(`managerBounds_last_sent`).  And it installs an `EnvPreTargetHandler`, which hides the handles
on any key, mouse or scroll event, exactly while handles are shown: from a handles-shown
selection event to the next handles-cleared one (`envPreTargetHandler_while_shown`).
-/
import BrowserInput.TouchSelection.Handlers

namespace BrowserInput.TouchSelection

/-! ### The selection bounds -/

/-- The bounds the manager holds. -/
def State.managerBounds (s : State) : SelectionBound × SelectionBound :=
  (s.managerSelectionStart, s.managerSelectionEnd)

/-- The bounds a controller holding `b` holds after call `c`. -/
def applyBounds (b : SelectionBound × SelectionBound) : Call → SelectionBound × SelectionBound
  | .onSelectionBoundsChanged startBound endBound => (startBound, endBound)
  | _ => b

/-- The bounds a controller that started with `b` holds after the calls `cs`. -/
def boundsAfter (b : SelectionBound × SelectionBound) (cs : List Call) :
    SelectionBound × SelectionBound :=
  cs.foldl applyBounds b

theorem boundsAfter_append (b : SelectionBound × SelectionBound) (cs ds : List Call) :
    boundsAfter b (cs ++ ds) = boundsAfter (boundsAfter b cs) ds :=
  List.foldl_append _ _ _ _

theorem boundsAfter_of_none {b : SelectionBound × SelectionBound} {cs : List Call}
    (h : ∀ c ∈ cs, ∀ st en, c ≠ .onSelectionBoundsChanged st en) : boundsAfter b cs = b := by
  induction cs generalizing b with
  | nil => rfl
  | cons c cs ih =>
    simp only [List.mem_cons, forall_eq_or_imp] at h
    have hc : applyBounds b c = b := by
      cases c <;> first | rfl | exact absurd rfl (h.1 _ _)
    rw [boundsAfter, List.foldl_cons, hc]
    exact ih h.2

/-- One event leaves the manager holding what the controller holds after its calls. -/
theorem step_managerBounds (s : State) (e : Event) :
    (step s e).1.managerBounds = boundsAfter s.managerBounds (step s e).2 := by
  by_cases hu : ∃ st en c m, e = .updateClientSelectionBounds st en c m
  · obtain ⟨st, en, c, m, rfl⟩ := hu
    simp only [step, updateClientSelectionBounds]
    split <;> rfl
  · have hnone : ∀ c ∈ (step s e).2, ∀ st en, c ≠ .onSelectionBoundsChanged st en := by
      rintro c hc st en rfl
      cases step_made s e _ hc with
      | other _ _ hb => exact hb st en rfl
      | forwarded h => simp [Call.forwardedTo] at h
      | boundsChanged he _ => exact hu ⟨_, _, _, _, he⟩
      | opened hopen _ => obtain ⟨_, _, _, _, ⟨⟩⟩ := hopen
    rw [boundsAfter_of_none hnone]
    rcases step_keeps s e with h | ⟨st, en, c, m, he, -, -⟩ | ⟨-, h⟩
    · simp [State.managerBounds, h.managerSelectionStart, h.managerSelectionEnd]
    · exact absurd ⟨st, en, c, m, he⟩ hu
    · rw [h]
      rfl

theorem run_managerBounds (s : State) (evs : List Event) :
    (run s evs).managerBounds = boundsAfter s.managerBounds (calls s evs) := by
  induction evs generalizing s with
  | nil => rfl
  | cons e es ih => rw [run_cons, ih, step_managerBounds, calls, boundsAfter_append]

/-- **The bounds the manager holds are always the ones it last passed to the controller's
`OnSelectionBoundsChanged`, or the empty ones both start with.** -/
theorem managerBounds_last_sent (runner : Runner) (geometry : Geometry) (textState : TextState)
    (hostDelegate : Bool) (evs : List Event) :
    (run (init runner geometry textState hostDelegate) evs).managerBounds =
      boundsAfter (.none, .none) (calls (init runner geometry textState hostDelegate) evs) :=
  run_managerBounds _ evs

/-! ### The `EnvPreTargetHandler`'s lifetime -/

/-- Whether the handler is installed after event `e`, if `installed` said so before: selection
events showing handles install it, those clearing them reset it, and nothing else touches it. -/
def handlerAfterEvent (installed : Bool) : Event → Bool
  | .onSelectionEvent .selectionHandlesShown | .onSelectionEvent .insertionHandleShown => true
  | .onSelectionEvent .selectionHandlesCleared | .onSelectionEvent .insertionHandleCleared => false
  | _ => installed

/-- Whether the handler is installed after the events `evs`. -/
def handlerAfter (installed : Bool) (evs : List Event) : Bool := evs.foldl handlerAfterEvent installed

theorem envPreTargetHandler_updateQuickMenu (s : State) :
    (updateQuickMenu s).1.envPreTargetHandler = s.envPreTargetHandler := by
  obtain ⟨r, t, h⟩ := updateQuickMenu_fst s
  rw [h]

theorem envPreTargetHandler_showQuickMenu (s : State) :
    (showQuickMenu s).1.envPreTargetHandler = s.envPreTargetHandler := by
  obtain ⟨r, h⟩ := showQuickMenu_fst s
  rw [h]

theorem step_envPreTargetHandler (s : State) (e : Event) :
    (step s e).1.envPreTargetHandler = handlerAfterEvent s.envPreTargetHandler e := by
  cases e
  case onSelectionEvent event =>
    cases event <;> simp [step, onSelectionEvent, handlerAfterEvent, envPreTargetHandler_updateQuickMenu]
  case handleContextMenu params =>
    simp only [step, handleContextMenu]
    split
    · exact envPreTargetHandler_updateQuickMenu _
    · split <;> rfl
  case updateClientSelectionBounds st en c m =>
    simp only [step, updateClientSelectionBounds]
    split <;> rfl
  case invalidateClient c =>
    simp only [step, invalidateClient]
    split <;> rfl
  case quickMenuTimerFired =>
    simp only [step]
    split
    · exact envPreTargetHandler_showQuickMenu _
    · rfl
  case onWindowMoved | onTouchDown | onTouchUp | onScrollStarted | onScrollCompleted =>
    exact envPreTargetHandler_updateQuickMenu _
  all_goals rfl

theorem run_envPreTargetHandler (s : State) (evs : List Event) :
    (run s evs).envPreTargetHandler = handlerAfter s.envPreTargetHandler evs := by
  induction evs generalizing s with
  | nil => rfl
  | cons e es ih => rw [run_cons, ih, step_envPreTargetHandler, handlerAfter, handlerAfter, List.foldl_cons]

/-- **The `EnvPreTargetHandler` is installed exactly when the last selection event that showed
or cleared handles showed them; so a key or scroll event hides the handles exactly then.** -/
theorem envPreTargetHandler_while_shown (runner : Runner) (geometry : Geometry)
    (textState : TextState) (hostDelegate : Bool) (evs : List Event) :
    (run (init runner geometry textState hostDelegate) evs).envPreTargetHandler =
        handlerAfter false evs ∧
      (step (run (init runner geometry textState hostDelegate) evs) .keyEvent).2 =
        if handlerAfter false evs then [.hideAndDisallowShowingAutomatically] else [] := by
  have h := run_envPreTargetHandler (init runner geometry textState hostDelegate) evs
  exact ⟨h, by rw [step, h]; rfl⟩

end BrowserInput.TouchSelection
