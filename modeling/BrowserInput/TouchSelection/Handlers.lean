/-
The manager's handlers, and the step relation over them.

Every handler is a function from the manager's state to the state it leaves and the calls it
makes, in order.  `step` dispatches on an `Event`: a call into the manager, the quick-menu
timer firing, an event reaching the installed `EnvPreTargetHandler`, or the rest of the
process changing the world the manager reads.  The last kind is what makes the shared menu
runner interesting: any other menu client, or the user, may open or close it between two
calls into the manager.  `run` folds `step` over a list of events.

The runner itself is not part of this code.  It is taken to close on `CloseMenu()` and, on
`OpenMenu(client, ...)`, to show a menu exactly when it has one for `client`; anything else it
does is an environment step.
-/
import BrowserInput.TouchSelection.Types

namespace BrowserInput.TouchSelection

/-- The state a handler leaves, and the calls it made. -/
abbrev Out := State × List Call

/-- Run `f`, then `g` on the state `f` leaves. -/
def andThen (f g : State → Out) (s : State) : Out :=
  ((g (f s).1).1, (f s).2 ++ (g (f s).1).2)

/-- What `OpenMenu(client, ...)` leaves the runner as. -/
def Runner.openMenu (r : Runner) (client : MenuClient) : Runner :=
  { r with running := r.available client }

/-- What `CloseMenu()` leaves the runner as. -/
def Runner.closeMenu (r : Runner) : Runner := { r with running := false }

/-! ### The quick menu -/

/-- `IsQuickMenuAvailable()`. -/
def isQuickMenuAvailable (s : State) : Bool :=
  s.runner.present && s.runner.available s.activeMenuClient

/-- `menu_is_showing` in `UpdateQuickMenu`. -/
def menuIsShowing (s : State) : Bool := s.runner.present && s.runner.running

/-- `should_show_menu` in `UpdateQuickMenu`. -/
def shouldShowMenu (s : State) : Bool :=
  s.quickMenuRequested && !s.touchDown && !s.scrollInProgress && !s.handleDragInProgress &&
    isQuickMenuAvailable s

/-- The rect `ShowQuickMenu` anchors the menu at, in the view's coordinates: the rect between
the bounds clipped to the view's bounds, or nothing when the clip is empty. -/
def quickMenuAnchor (g : Geometry) : Option RectF :=
  let rect := g.rectBetweenBounds
  let clientBounds := RectF.ofRect g.roundToFloat g.viewBounds
  let origin := rect.origin.setToMax clientBounds.origin
  let bottomRight := (rect.bottomRight g.roundToFloat).setToMin
    (clientBounds.bottomRight g.roundToFloat)
  if bottomRight.x < origin.x ∨ bottomRight.y < origin.y then none
  else some ⟨origin, SizeF.clamped (g.roundToFloat (bottomRight.x - origin.x))
    (g.roundToFloat (bottomRight.y - origin.y))⟩

/-- `ConvertRectToScreen(rwhva_->GetNativeView(), rect)`. -/
def Geometry.toScreen (g : Geometry) (rect : RectF) : Option Rect :=
  convertRectToScreen g.roundToFloat g.convertPointToScreen rect

/-- `gfx::ToRoundedSize(max_handle_size)`: the larger of the two handles, rounded. -/
def Geometry.maxHandleSize (g : Geometry) : Size :=
  toRoundedSize g.roundToFloat (g.startHandleSize.setToMax g.endHandleSize)

/-- `ShowQuickMenu`. -/
def showQuickMenu (s : State) : Out :=
  if s.runner.present then
    match quickMenuAnchor s.geometry with
    | none => (s, [])
    | some anchorRect =>
      match s.geometry.toScreen anchorRect with
      | none => (s, [.undefinedBehavior])
      | some screenRect =>
        ({ s with runner := s.runner.openMenu s.activeMenuClient },
          [.openMenu s.activeMenuClient screenRect s.geometry.maxHandleSize])
  else (s, [])

/-- The first half of `UpdateQuickMenu`: close the menu that is showing, or else stop the
timer. -/
def hideQuickMenu (s : State) : Out :=
  if menuIsShowing s then ({ s with runner := s.runner.closeMenu }, [.closeMenu])
  else ({ s with quickMenuTimerRunning := false }, [])

/-- The second half of `UpdateQuickMenu`: show the menu if it should be shown, at once under
test and otherwise by restarting the timer. -/
def startQuickMenu (s : State) : Out :=
  if shouldShowMenu s then
    if s.showQuickMenuImmediatelyForTest then showQuickMenu s
    else ({ s with quickMenuTimerRunning := true }, [])
  else (s, [])

/-- `UpdateQuickMenu`. -/
def updateQuickMenu : State → Out := andThen hideQuickMenu startQuickMenu

@[simp] theorem andThen_fst (f g : State → Out) (s : State) :
    (andThen f g s).1 = (g (f s).1).1 := rfl

@[simp] theorem andThen_snd (f g : State → Out) (s : State) :
    (andThen f g s).2 = (f s).2 ++ (g (f s).1).2 := rfl

/-- `ShowQuickMenu` changes nothing but the runner. -/
theorem showQuickMenu_fst (s : State) : ∃ r, (showQuickMenu s).1 = { s with runner := r } := by
  unfold showQuickMenu
  split <;> (try split) <;> (try split) <;> exact ⟨_, rfl⟩

/-- The call `ShowQuickMenu` makes: the menu opened for the active menu client at the screen
rect of the clip, with the larger handle. -/
def OpensQuickMenu (s : State) (c : Call) : Prop :=
  ∃ a r, quickMenuAnchor s.geometry = some a ∧ s.geometry.toScreen a = some r ∧
    c = .openMenu s.activeMenuClient r s.geometry.maxHandleSize

/-- `ShowQuickMenu` only ever opens the menu, for the active menu client, unless the screen rect
overflows. -/
theorem showQuickMenu_calls (s : State) :
    ∀ c ∈ (showQuickMenu s).2, c = .undefinedBehavior ∨ OpensQuickMenu s c := by
  unfold showQuickMenu OpensQuickMenu
  split
  · split
    · simp
    · split <;> simp_all
  · simp

theorem hideQuickMenu_fst (s : State) :
    ∃ r t, (hideQuickMenu s).1 = { s with runner := r, quickMenuTimerRunning := t } := by
  unfold hideQuickMenu
  split <;> exact ⟨_, _, rfl⟩

theorem startQuickMenu_fst (s : State) :
    ∃ r t, (startQuickMenu s).1 = { s with runner := r, quickMenuTimerRunning := t } := by
  unfold startQuickMenu
  split
  · split
    · obtain ⟨r, hr⟩ := showQuickMenu_fst s
      exact ⟨r, _, hr⟩
    · exact ⟨_, _, rfl⟩
  · exact ⟨_, _, rfl⟩

/-- `UpdateQuickMenu` changes nothing but the runner and the timer. -/
theorem updateQuickMenu_fst (s : State) :
    ∃ r t, (updateQuickMenu s).1 = { s with runner := r, quickMenuTimerRunning := t } := by
  obtain ⟨r, t, h1⟩ := hideQuickMenu_fst s
  obtain ⟨r', t', h2⟩ := startQuickMenu_fst (hideQuickMenu s).1
  exact ⟨r', t', by rw [updateQuickMenu, andThen_fst, h2, h1]⟩

/-- `UpdateQuickMenu` closes the menu, or, under test, calls `ShowQuickMenu`; it makes no other
call. -/
theorem updateQuickMenu_calls (s : State) : ∀ c ∈ (updateQuickMenu s).2, c = .closeMenu ∨
    s.showQuickMenuImmediatelyForTest = true ∧ (c = .undefinedBehavior ∨ OpensQuickMenu s c) := by
  intro c hc
  obtain ⟨r, t, hhide⟩ := hideQuickMenu_fst s
  simp only [updateQuickMenu, andThen_snd, List.mem_append, hhide] at hc
  rcases hc with hc | hc
  · left
    unfold hideQuickMenu at hc
    split at hc <;> simp_all
  · right
    unfold startQuickMenu at hc
    split at hc
    · split at hc
      · have hopen := showQuickMenu_calls _ c hc
        exact ⟨‹_›, hopen⟩
      · simp at hc
    · simp at hc

/-! ### Calls into the manager -/

/-- `OnWindowMoved`. -/
def onWindowMoved : State → Out := updateQuickMenu

/-- `OnTouchDown`. -/
def onTouchDown (s : State) : Out := updateQuickMenu { s with touchDown := true }

/-- `OnTouchUp`. -/
def onTouchUp (s : State) : Out := updateQuickMenu { s with touchDown := false }

/-- `OnScrollStarted`. -/
def onScrollStarted : State → Out :=
  andThen (fun s => ({ s with scrollInProgress := true }, [.setTemporarilyHidden true]))
    updateQuickMenu

/-- `OnScrollCompleted`. -/
def onScrollCompleted : State → Out :=
  andThen (fun s => ({ s with scrollInProgress := false }, [.setTemporarilyHidden false]))
    updateQuickMenu

/-- `HandleContextMenu`, with the value it returns. -/
def handleContextMenu (s : State) (params : ContextMenuParams) : Bool × Out :=
  if params.sourceType == .longPress && params.isEditable && params.selectionText.isEmpty &&
      isQuickMenuAvailable s then
    (true, updateQuickMenu { s with quickMenuRequested := true })
  else if (params.sourceType == .longPress || params.sourceType == .touch) &&
      !params.selectionText.isEmpty then
    (true, (s, []))
  else (false, (s, [.hideAndDisallowShowingAutomatically]))

/-- The early return of `UpdateClientSelectionBounds`: a client other than the active one
reports bounds that are empty or hidden at both ends while the manager holds a non-empty
selection. -/
def ignoresBounds (s : State) (startBound endBound : SelectionBound) (client : Client) : Bool :=
  client != s.activeClient &&
    (startBound.type == .empty || !startBound.visible) &&
    (endBound.type == .empty || !endBound.visible) &&
    (s.managerSelectionStart.type != .empty || s.managerSelectionEnd.type != .empty)

/-- `UpdateClientSelectionBounds(start, end, client, menu_client)`. -/
def updateClientSelectionBounds (s : State) (startBound endBound : SelectionBound)
    (client : Client) (menuClient : MenuClient) : Out :=
  if ignoresBounds s startBound endBound client then (s, [])
  else
    ({ s with activeClient := client, activeMenuClient := menuClient,
              managerSelectionStart := startBound, managerSelectionEnd := endBound },
      [.onSelectionBoundsChanged startBound endBound])

/-- The two-argument `UpdateClientSelectionBounds`, by which the view reports its own
selection. -/
def updateClientSelectionBoundsOfView (s : State) (startBound endBound : SelectionBound) : Out :=
  updateClientSelectionBounds s startBound endBound .internal .aura

/-- `InvalidateClient`. -/
def invalidateClient (s : State) (client : Client) : Out :=
  if client = s.activeClient then ({ s with activeClient := .internal, activeMenuClient := .aura }, [])
  else (s, [])

/-- `MoveCaret`, forwarded to the active client. -/
def moveCaret (s : State) : Out := (s, [.moveCaret s.activeClient])

/-- `MoveRangeSelectionExtent`, forwarded to the active client. -/
def moveRangeSelectionExtent (s : State) : Out := (s, [.moveRangeSelectionExtent s.activeClient])

/-- `SelectBetweenCoordinates`, forwarded to the active client. -/
def selectBetweenCoordinates (s : State) : Out := (s, [.selectBetweenCoordinates s.activeClient])

/-- `OnSelectionEvent`. -/
def onSelectionEvent (s : State) : SelectionEventType → Out
  | .selectionHandlesShown =>
    andThen updateQuickMenu (fun s => ({ s with envPreTargetHandler := true }, []))
      { s with quickMenuRequested := true }
  | .insertionHandleShown =>
    andThen updateQuickMenu (fun s => ({ s with envPreTargetHandler := true }, [])) s
  | .selectionHandlesCleared | .insertionHandleCleared =>
    updateQuickMenu { s with envPreTargetHandler := false, quickMenuRequested := false }
  | .selectionHandleDragStarted | .insertionHandleDragStarted =>
    updateQuickMenu { s with handleDragInProgress := true }
  | .selectionHandleDragStopped | .insertionHandleDragStopped =>
    updateQuickMenu { s with handleDragInProgress := false }
  | .selectionHandlesMoved | .insertionHandleMoved => updateQuickMenu s
  | .insertionHandleTapped => updateQuickMenu { s with quickMenuRequested := !s.quickMenuRequested }

/-- `IsCommandIdEnabled`. -/
def isCommandIdEnabled (s : State) (command : Command) : Bool :=
  let editable := s.textState.textInputType != .none
  let readable := s.textState.textInputType != .password
  let hasSelection := !s.textState.selectionEmpty
  match command with
  | .cut => editable && readable && hasSelection
  | .copy => readable && hasSelection
  | .paste => editable && !s.textState.clipboardEmpty
  | .other _ => false

/-- `ExecuteCommand`: hide the handles, then pass the command to the host's delegate. -/
def executeCommand (s : State) (command : Command) : Out :=
  (s, .hideAndDisallowShowingAutomatically ::
    if s.hostDelegate then
      match command with
      | .cut => [.cut]
      | .copy => [.copy]
      | .paste => [.paste]
      | .other _ => []
    else [])

/-- `RunContextMenu`: the context menu at the top centre of the rect between the bounds, rounded,
then the handles hidden. -/
def runContextMenu (s : State) : Out :=
  let rect := s.geometry.rectBetweenBounds
  let anchorPoint : PointF := ⟨(rect.centerPoint s.geometry.roundToFloat).x, rect.origin.y⟩
  (s, [.showContextMenuAtPoint (toRoundedPoint s.geometry.roundToFloat anchorPoint) .touchEditMenu,
    .hideAndDisallowShowingAutomatically])

/-! ### The `EnvPreTargetHandler` -/

/-- `EnvPreTargetHandler::OnMouseEvent`; `cursorClient` is `none` when the root window has no
cursor client, and otherwise whether it has mouse events enabled. -/
def envMouseEvent (cursorClient : Option Bool) : List Call :=
  if cursorClient.getD true then [.hideAndDisallowShowingAutomatically] else []

/-! ### Steps -/

/-- Everything that can happen to the manager. -/
inductive Event
  | onWindowMoved
  | onTouchDown
  | onTouchUp
  | onScrollStarted
  | onScrollCompleted
  | handleContextMenu (params : ContextMenuParams)
  | updateClientSelectionBounds (startBound endBound : SelectionBound) (client : Client)
      (menuClient : MenuClient)
  | invalidateClient (client : Client)
  | onSelectionEvent (event : SelectionEventType)
  | moveCaret
  | moveRangeSelectionExtent
  | selectBetweenCoordinates
  | executeCommand (command : Command)
  | runContextMenu
  /-- `quick_menu_timer_` fires. -/
  | quickMenuTimerFired
  /-- A key, mouse or scroll event reaches the `EnvPreTargetHandler`, if one is installed. -/
  | keyEvent
  | mouseEvent (cursorClient : Option Bool)
  | scrollEvent
  /-- Another menu client, or the user, opens or closes the shared runner. -/
  | menuOpenedElsewhere
  | menuClosedElsewhere
  /-- A menu client gains or loses a command the runner would show. -/
  | menuAvailabilityChanged (client : MenuClient) (available : Bool)
  | geometryChanged (geometry : Geometry)
  | textStateChanged (textState : TextState)

/-- One event. -/
def step (s : State) : Event → Out
  | .onWindowMoved => onWindowMoved s
  | .onTouchDown => onTouchDown s
  | .onTouchUp => onTouchUp s
  | .onScrollStarted => onScrollStarted s
  | .onScrollCompleted => onScrollCompleted s
  | .handleContextMenu params => (handleContextMenu s params).2
  | .updateClientSelectionBounds startBound endBound client menuClient =>
    updateClientSelectionBounds s startBound endBound client menuClient
  | .invalidateClient client => invalidateClient s client
  | .onSelectionEvent event => onSelectionEvent s event
  | .moveCaret => moveCaret s
  | .moveRangeSelectionExtent => moveRangeSelectionExtent s
  | .selectBetweenCoordinates => selectBetweenCoordinates s
  | .executeCommand command => executeCommand s command
  | .runContextMenu => runContextMenu s
  | .quickMenuTimerFired =>
    if s.quickMenuTimerRunning then showQuickMenu { s with quickMenuTimerRunning := false }
    else (s, [])
  | .keyEvent | .scrollEvent =>
    (s, if s.envPreTargetHandler then [.hideAndDisallowShowingAutomatically] else [])
  | .mouseEvent cursorClient => (s, if s.envPreTargetHandler then envMouseEvent cursorClient else [])
  | .menuOpenedElsewhere => ({ s with runner := { s.runner with running := true } }, [])
  | .menuClosedElsewhere => ({ s with runner := s.runner.closeMenu }, [])
  | .menuAvailabilityChanged client available =>
    ({ s with runner := { s.runner with
        available := fun c => if c = client then available else s.runner.available c } }, [])
  | .geometryChanged geometry => ({ s with geometry := geometry }, [])
  | .textStateChanged textState => ({ s with textState := textState }, [])

/-- A run of events, from `s`. -/
def run (s : State) : List Event → State
  | [] => s
  | e :: es => run (step s e).1 es

@[simp] theorem run_nil (s : State) : run s [] = s := rfl

@[simp] theorem run_cons (s : State) (e : Event) (es : List Event) :
    run s (e :: es) = run (step s e).1 es := rfl

theorem run_append (s : State) (es fs : List Event) : run s (es ++ fs) = run (run s es) fs := by
  induction es generalizing s with
  | nil => rfl
  | cons e es ih => exact ih _

/-- Every call a run makes, in order. -/
def calls (s : State) : List Event → List Call
  | [] => []
  | e :: es => (step s e).2 ++ calls (step s e).1 es

/-! ### What a step can do -/

/-- `t` agrees with `s` on what only `UpdateClientSelectionBounds` and `InvalidateClient` write,
and on the test flag, which nothing writes. -/
structure Keeps (s t : State) : Prop where
  activeClient : t.activeClient = s.activeClient
  activeMenuClient : t.activeMenuClient = s.activeMenuClient
  managerSelectionStart : t.managerSelectionStart = s.managerSelectionStart
  managerSelectionEnd : t.managerSelectionEnd = s.managerSelectionEnd
  showQuickMenuImmediatelyForTest :
    t.showQuickMenuImmediatelyForTest = s.showQuickMenuImmediatelyForTest

theorem Keeps.trans {s t u : State} (h₁ : Keeps s t) (h₂ : Keeps t u) : Keeps s u :=
  ⟨h₂.activeClient.trans h₁.activeClient, h₂.activeMenuClient.trans h₁.activeMenuClient,
    h₂.managerSelectionStart.trans h₁.managerSelectionStart,
    h₂.managerSelectionEnd.trans h₁.managerSelectionEnd,
    h₂.showQuickMenuImmediatelyForTest.trans h₁.showQuickMenuImmediatelyForTest⟩

theorem keeps_envPreTargetHandler (s : State) (b : Bool) :
    Keeps s { s with envPreTargetHandler := b } :=
  ⟨rfl, rfl, rfl, rfl, rfl⟩

theorem keeps_updateQuickMenu (s : State) : Keeps s (updateQuickMenu s).1 := by
  obtain ⟨r, t, h⟩ := updateQuickMenu_fst s
  rw [h]
  exact ⟨rfl, rfl, rfl, rfl, rfl⟩

theorem keeps_showQuickMenu (s : State) : Keeps s (showQuickMenu s).1 := by
  obtain ⟨r, h⟩ := showQuickMenu_fst s
  rw [h]
  exact ⟨rfl, rfl, rfl, rfl, rfl⟩

/-- **An event keeps the active pair, the manager's bounds and the test flag, or it is an
accepted `UpdateClientSelectionBounds`, or an `InvalidateClient` of the active client.** -/
theorem step_keeps (s : State) (e : Event) :
    Keeps s (step s e).1 ∨
      (∃ st en c m, e = .updateClientSelectionBounds st en c m ∧ ignoresBounds s st en c = false ∧
        (step s e).1 = { s with activeClient := c, activeMenuClient := m,
                                managerSelectionStart := st, managerSelectionEnd := en }) ∨
      (e = .invalidateClient s.activeClient ∧
        (step s e).1 = { s with activeClient := .internal, activeMenuClient := .aura }) := by
  have plain : ∀ t : State, Keeps s t → Keeps s (updateQuickMenu t).1 :=
    fun t h => h.trans (keeps_updateQuickMenu t)
  cases e
  case updateClientSelectionBounds st en c m =>
    simp only [step, updateClientSelectionBounds]
    split
    · exact .inl ⟨rfl, rfl, rfl, rfl, rfl⟩
    · rename_i hign
      exact .inr (.inl ⟨st, en, c, m, rfl, Bool.eq_false_iff.mpr hign, rfl⟩)
  case invalidateClient c =>
    simp only [step, invalidateClient]
    split
    · exact .inr (.inr ⟨by subst c; rfl, rfl⟩)
    · exact .inl ⟨rfl, rfl, rfl, rfl, rfl⟩
  case handleContextMenu params =>
    simp only [step, handleContextMenu]
    split
    · exact .inl (plain _ ⟨rfl, rfl, rfl, rfl, rfl⟩)
    · split <;> exact .inl ⟨rfl, rfl, rfl, rfl, rfl⟩
  case onSelectionEvent event =>
    left
    cases event
    case selectionHandlesShown =>
      exact (plain { s with quickMenuRequested := true } ⟨rfl, rfl, rfl, rfl, rfl⟩).trans
        (keeps_envPreTargetHandler _ true)
    case insertionHandleShown =>
      exact (keeps_updateQuickMenu s).trans (keeps_envPreTargetHandler _ true)
    all_goals exact plain _ ⟨rfl, rfl, rfl, rfl, rfl⟩
  case quickMenuTimerFired =>
    simp only [step]
    split
    · exact .inl ((⟨rfl, rfl, rfl, rfl, rfl⟩ : Keeps s { s with quickMenuTimerRunning := false }).trans
        (keeps_showQuickMenu _))
    · exact .inl ⟨rfl, rfl, rfl, rfl, rfl⟩
  case onWindowMoved | onTouchDown | onTouchUp | onScrollStarted | onScrollCompleted =>
    exact .inl (plain _ ⟨rfl, rfl, rfl, rfl, rfl⟩)
  all_goals exact .inl ⟨rfl, rfl, rfl, rfl, rfl⟩

/-! ### What a step can say -/

/-- What a call made by event `e` on `s` can be. -/
inductive Made (s : State) (e : Event) : Call → Prop
  /-- A call that opens no menu, passes no bounds and is forwarded to no client. -/
  | other {c : Call} : c.forwardedTo = none → (∀ m a h, c ≠ .openMenu m a h) →
      (∀ st en, c ≠ .onSelectionBoundsChanged st en) → Made s e c
  /-- The bounds of an accepted `UpdateClientSelectionBounds`, passed to the controller. -/
  | boundsChanged {st en : SelectionBound} {c : Client} {m : MenuClient} :
      e = .updateClientSelectionBounds st en c m → ignoresBounds s st en c = false →
      Made s e (.onSelectionBoundsChanged st en)
  /-- A call forwarded to the active client. -/
  | forwarded {c : Call} : c.forwardedTo = some s.activeClient → Made s e c
  /-- The quick menu, for the active menu client at the screen rect of the clip of the current
  geometry, opened by the armed timer firing or, under test, at once. -/
  | opened {c : Call} : OpensQuickMenu s c →
      (e = .quickMenuTimerFired ∧ s.quickMenuTimerRunning = true ∨
        s.showQuickMenuImmediatelyForTest = true) → Made s e c

/-- Whether a call is one `Made.other` covers, as a check that runs on a list of calls. -/
def Call.plain : Call → Bool
  | .openMenu .. | .onSelectionBoundsChanged .. | .moveCaret _ | .moveRangeSelectionExtent _
  | .selectBetweenCoordinates _ => false
  | _ => true

theorem made_of_plain {s : State} {e : Event} {l : List Call} (hl : l.all Call.plain = true) :
    ∀ c ∈ l, Made s e c := by
  intro c hc
  have hplain := List.all_eq_true.mp hl c hc
  cases c
  case openMenu | onSelectionBoundsChanged | moveCaret | moveRangeSelectionExtent
    | selectBetweenCoordinates => cases hplain
  all_goals exact .other rfl (fun _ _ _ => nofun) (fun _ _ => nofun)

theorem made_of_updateQuickMenu {s s' : State} {e : Event}
    (hm : s'.activeMenuClient = s.activeMenuClient) (hg : s'.geometry = s.geometry)
    (ht : s'.showQuickMenuImmediatelyForTest = s.showQuickMenuImmediatelyForTest) :
    ∀ c ∈ (updateQuickMenu s').2, Made s e c := by
  intro c hc
  rcases updateQuickMenu_calls s' c hc with rfl | ⟨htest, rfl | hopen⟩
  · exact .other rfl (by simp) (by simp)
  · exact .other rfl (by simp) (by simp)
  · rw [OpensQuickMenu, hm, hg] at hopen
    exact .opened hopen (.inr (ht ▸ htest))

/-- **Every call an event makes is `Made`.** -/
theorem step_made (s : State) (e : Event) : ∀ c ∈ (step s e).2, Made s e c := by
  cases e
  case handleContextMenu params =>
    simp only [step, handleContextMenu]
    split
    · exact made_of_updateQuickMenu rfl rfl rfl
    · split <;> exact made_of_plain rfl
  case updateClientSelectionBounds startBound endBound client menuClient =>
    simp only [step, updateClientSelectionBounds]
    split
    · simp
    · rename_i hign
      simp only [List.mem_singleton, forall_eq]
      exact .boundsChanged rfl (Bool.eq_false_iff.mpr hign)
  case invalidateClient client =>
    simp only [step, invalidateClient]
    split <;> simp
  case onSelectionEvent event =>
    cases event <;> simp only [step, onSelectionEvent, andThen_snd, List.append_nil] <;>
      exact made_of_updateQuickMenu rfl rfl rfl
  case quickMenuTimerFired =>
    simp only [step]
    split
    · intro c hc
      rcases showQuickMenu_calls _ c hc with rfl | hopen
      · exact .other rfl (by simp) (by simp)
      · exact .opened hopen (.inl ⟨rfl, ‹_›⟩)
    · simp
  case onScrollStarted | onScrollCompleted =>
    simp only [step, onScrollStarted, onScrollCompleted, andThen_snd, List.mem_append,
      List.mem_singleton]
    rintro c (rfl | hc)
    · exact .other rfl (by simp) (by simp)
    · refine made_of_updateQuickMenu ?_ ?_ ?_ c hc <;> rfl
  case onWindowMoved | onTouchDown | onTouchUp => exact made_of_updateQuickMenu rfl rfl rfl
  case moveCaret | moveRangeSelectionExtent | selectBetweenCoordinates =>
    simp [step, moveCaret, moveRangeSelectionExtent, selectBetweenCoordinates, Made.forwarded,
      Call.forwardedTo]
  all_goals
    simp only [step, runContextMenu, executeCommand, envMouseEvent]
    try split
    all_goals try split
    all_goals exact made_of_plain rfl

/-- A forwarded call goes to the active client. -/
theorem forwardedTo_step {s : State} {e : Event} {c : Call} {d : Client} (hc : c ∈ (step s e).2)
    (hd : c.forwardedTo = some d) : d = s.activeClient := by
  cases step_made s e c hc with
  | other h _ _ => simp [h] at hd
  | forwarded h => exact Option.some_inj.mp (hd.symm.trans h)
  | boundsChanged _ _ => simp [Call.forwardedTo] at hd
  | opened hopen _ =>
    obtain ⟨_, _, _, _, hopen⟩ := hopen
    simp [hopen, Call.forwardedTo] at hd

/-- **A menu is opened only for the active menu client, at the screen rect of the clip of the
current geometry and with the larger handle, rounded, and only when the armed timer fires or,
under test, at once.** -/
theorem openMenu_step {s : State} {e : Event} {m : MenuClient} {r : Rect} {h : Size}
    (hc : .openMenu m r h ∈ (step s e).2) :
    m = s.activeMenuClient ∧ (∃ a, quickMenuAnchor s.geometry = some a ∧ s.geometry.toScreen a = some r) ∧
      h = s.geometry.maxHandleSize ∧
      (e = .quickMenuTimerFired ∧ s.quickMenuTimerRunning = true ∨
        s.showQuickMenuImmediatelyForTest = true) := by
  cases step_made s e _ hc with
  | other _ hne _ => exact absurd rfl (hne m r h)
  | forwarded h => simp [Call.forwardedTo] at h
  | opened hopen he =>
    obtain ⟨a, r', ha, hr, heq⟩ := hopen
    cases heq
    exact ⟨rfl, ⟨a, ha, hr⟩, rfl, he⟩

end BrowserInput.TouchSelection
