/-
When the quick-menu timer may fire.

`UpdateQuickMenu` runs after every change to the four flags that gate the menu, and it is
meant to leave `quick_menu_timer_` armed only when they allow a menu.  It first hides: it
closes the menu if the runner says one is showing, and otherwise stops the timer.  The two
branches are exclusive because the manager shows its menu only from the timer, so while
this manager alone opens the runner, an armed timer and a showing menu never meet.  Then
`TimerOK` is an invariant of every run (`timerOK_run`), and the timer fires only when a menu
was asked for and no touch, scroll or handle drag is in progress.

The runner is shared by the whole process, though.  If another menu client opens it while the
timer is armed, the next `UpdateQuickMenu` closes that menu and leaves the timer running; when
it fires, `ShowQuickMenu` opens the menu with a touch down (`quickMenu_fires_while_touch_down`).
-/
import BrowserInput.TouchSelection.Handlers

namespace BrowserInput.TouchSelection

/-- What holds whenever `quick_menu_timer_` is armed: a menu was asked for, no touch, scroll
or handle drag is in progress, and no menu is showing. -/
def Armed (s : State) : Prop :=
  s.quickMenuRequested = true ∧ s.touchDown = false ∧ s.scrollInProgress = false ∧
    s.handleDragInProgress = false ∧ menuIsShowing s = false

/-- The timer is armed only in an `Armed` state. -/
def TimerOK (s : State) : Prop := s.quickMenuTimerRunning = true → Armed s

theorem timerOK_of_stopped {s : State} (h : s.quickMenuTimerRunning = false) : TimerOK s := by
  simp [TimerOK, h]

/-- The hiding half of `UpdateQuickMenu` leaves the timer stopped and no menu showing, provided
the two were not both on. -/
theorem hideQuickMenu_quiet (s : State) (h : s.quickMenuTimerRunning = true → menuIsShowing s = false) :
    (hideQuickMenu s).1.quickMenuTimerRunning = false ∧ menuIsShowing (hideQuickMenu s).1 = false := by
  unfold hideQuickMenu
  split
  · rename_i hshow
    refine ⟨?_, by simp [menuIsShowing, Runner.closeMenu]⟩
    cases ht : s.quickMenuTimerRunning
    · rfl
    · simp [h ht] at hshow
  · rename_i hshow
    exact ⟨rfl, by simpa [menuIsShowing] using hshow⟩

/-- From a quiet state the starting half of `UpdateQuickMenu` arms the timer only when the
flags allow it. -/
theorem startQuickMenu_timerOK (s : State) (ht : s.quickMenuTimerRunning = false)
    (hm : menuIsShowing s = false) : TimerOK (startQuickMenu s).1 := by
  unfold startQuickMenu
  split
  · rename_i hshould
    split
    · obtain ⟨r, hr⟩ := showQuickMenu_fst s
      exact timerOK_of_stopped (by rw [hr]; exact ht)
    · simp only [shouldShowMenu, Bool.and_eq_true, Bool.not_eq_true'] at hshould
      exact fun _ => ⟨hshould.1.1.1.1, hshould.1.1.1.2, hshould.1.1.2, hshould.1.2, hm⟩
  · exact timerOK_of_stopped ht

/-- `UpdateQuickMenu` re-establishes `TimerOK`, from any state where an armed timer and a
showing menu do not meet. -/
theorem updateQuickMenu_timerOK (s : State)
    (h : s.quickMenuTimerRunning = true → menuIsShowing s = false) :
    TimerOK (updateQuickMenu s).1 := by
  obtain ⟨ht, hm⟩ := hideQuickMenu_quiet s h
  exact startQuickMenu_timerOK _ ht hm

theorem TimerOK.quiet {s : State} (h : TimerOK s) :
    s.quickMenuTimerRunning = true → menuIsShowing s = false :=
  fun ht => (h ht).2.2.2.2

/-- Every event but another client opening the runner keeps `TimerOK`. -/
theorem step_timerOK (s : State) (e : Event) (h : TimerOK s) (he : e ≠ .menuOpenedElsewhere) :
    TimerOK (step s e).1 := by
  cases e
  case menuOpenedElsewhere => exact absurd rfl he
  case onWindowMoved | onTouchDown | onTouchUp | onScrollStarted | onScrollCompleted =>
    exact updateQuickMenu_timerOK _ h.quiet
  case handleContextMenu params =>
    simp only [step, handleContextMenu]
    split
    · exact updateQuickMenu_timerOK _ h.quiet
    · split <;> exact h
  case onSelectionEvent event =>
    cases event <;> simp only [step, onSelectionEvent, andThen_fst] <;>
      exact updateQuickMenu_timerOK _ h.quiet
  case updateClientSelectionBounds startBound endBound client menuClient =>
    simp only [step, updateClientSelectionBounds]
    split <;> exact h
  case invalidateClient client =>
    simp only [step, invalidateClient]
    split <;> exact h
  case quickMenuTimerFired =>
    simp only [step]
    split
    · obtain ⟨r, hr⟩ := showQuickMenu_fst { s with quickMenuTimerRunning := false }
      exact timerOK_of_stopped (by rw [hr])
    · exact h
  case menuClosedElsewhere =>
    intro ht
    obtain ⟨h1, h2, h3, h4, -⟩ := h ht
    exact ⟨h1, h2, h3, h4, by simp [step, menuIsShowing, Runner.closeMenu]⟩
  all_goals exact h

/-- **While no other client opens the shared runner, `TimerOK` holds over every run.** -/
theorem timerOK_run (s : State) (evs : List Event) (h : TimerOK s)
    (hevs : Event.menuOpenedElsewhere ∉ evs) : TimerOK (run s evs) := by
  induction evs generalizing s with
  | nil => exact h
  | cons e es ih =>
    rw [List.mem_cons, not_or] at hevs
    exact ih _ (step_timerOK s e h (Ne.symm hevs.1)) hevs.2

/-! ### Another client's menu -/

/-- A long press on an empty editable field. -/
def longPress : ContextMenuParams := ⟨.longPress, true, ""⟩

/-- **A long press arms the timer; another client opens the runner; a touch goes down.  The
touch closes the other client's menu but leaves the timer armed, and when it fires the quick
menu opens with the touch still down.** -/
theorem quickMenu_fires_while_touch_down :
    ∃ s, run sampleWorld [.handleContextMenu longPress, .menuOpenedElsewhere, .onTouchDown] = s ∧
      s.quickMenuTimerRunning = true ∧ s.touchDown = true ∧
      (step s .quickMenuTimerFired).2 = [.openMenu .aura ⟨⟨0, 0⟩, ⟨10, 10⟩⟩ ⟨1, 1⟩] :=
  ⟨_, rfl, by decide!⟩

/-! ### Who opens the menu

Outside tests only the timer opens the menu: no handler sets
`show_quick_menu_immediately_for_test_`, and `openMenu_step` says the only other way is the
timer firing while armed.  So while the runner is this manager's alone, the menu opens only
from an `Armed` state. -/

/-- No event sets or clears the test flag. -/
theorem step_showQuickMenuImmediatelyForTest (s : State) (e : Event) :
    (step s e).1.showQuickMenuImmediatelyForTest = s.showQuickMenuImmediatelyForTest := by
  rcases step_keeps s e with h | ⟨st, en, c, m, -, -, h⟩ | ⟨-, h⟩
  · exact h.showQuickMenuImmediatelyForTest
  · rw [h]
  · rw [h]

theorem run_showQuickMenuImmediatelyForTest (s : State) (evs : List Event) :
    (run s evs).showQuickMenuImmediatelyForTest = s.showQuickMenuImmediatelyForTest := by
  induction evs generalizing s with
  | nil => rfl
  | cons e es ih => rw [run_cons, ih, step_showQuickMenuImmediatelyForTest]

/-- **While no other client opens the shared runner, the manager opens the quick menu only when
a menu was asked for and no touch, scroll or handle drag is in progress.** -/
theorem menu_opened_only_when_allowed (runner : Runner) (geometry : Geometry)
    (textState : TextState) (hostDelegate : Bool) (evs : List Event)
    (hevs : Event.menuOpenedElsewhere ∉ evs) (e : Event) (m : MenuClient) (a : Rect) (h : Size)
    (hopen : .openMenu m a h ∈ (step (run (init runner geometry textState hostDelegate) evs) e).2) :
    (run (init runner geometry textState hostDelegate) evs).quickMenuRequested = true ∧
      (run (init runner geometry textState hostDelegate) evs).touchDown = false ∧
      (run (init runner geometry textState hostDelegate) evs).scrollInProgress = false ∧
      (run (init runner geometry textState hostDelegate) evs).handleDragInProgress = false := by
  have hok := timerOK_run (init runner geometry textState hostDelegate) evs
    (timerOK_of_stopped rfl) hevs
  obtain ⟨-, -, -, ⟨-, htimer⟩ | htest⟩ := openMenu_step hopen
  · obtain ⟨h1, h2, h3, h4, -⟩ := hok htimer
    exact ⟨h1, h2, h3, h4⟩
  · rw [run_showQuickMenuImmediatelyForTest] at htest
    cases htest

theorem menu_opened_only_when_allowed_after_long_press :
    Event.menuOpenedElsewhere ∉ [Event.handleContextMenu longPress] ∧
      Call.openMenu .aura ⟨⟨0, 0⟩, ⟨10, 10⟩⟩ ⟨1, 1⟩ ∈
        (step (run sampleWorld [.handleContextMenu longPress]) .quickMenuTimerFired).2 ∧
      (run sampleWorld [.handleContextMenu longPress]).quickMenuRequested = true := by
  have hevs : Event.menuOpenedElsewhere ∉ [Event.handleContextMenu longPress] := by simp
  have hopen : Call.openMenu .aura ⟨⟨0, 0⟩, ⟨10, 10⟩⟩ ⟨1, 1⟩ ∈
      (step (run sampleWorld [.handleContextMenu longPress]) .quickMenuTimerFired).2 := by decide!
  exact ⟨hevs, hopen, (menu_opened_only_when_allowed _ _ _ _ _ hevs _ _ _ _ hopen).1⟩

/-! ### Who closes the menu

`TimerOK` speaks of the moment the menu opens.  Once open, it has to go again as soon as a touch
goes down, a scroll or handle drag starts or the handles are cleared, and it does: each of
those handlers ends in `UpdateQuickMenu`, whose hiding half closes any menu that is showing and
whose starting half opens one only when the flags allow it.  So, while the runner is this
manager's alone, a menu is showing only while the flags allow it. -/

/-- What the flags say about showing a menu: one was asked for and no touch, scroll or handle
drag is in progress. -/
def MenuAllowed (s : State) : Prop :=
  s.quickMenuRequested = true ∧ s.touchDown = false ∧ s.scrollInProgress = false ∧
    s.handleDragInProgress = false

/-- A menu shows only while the flags allow it. -/
def MenuOK (s : State) : Prop := menuIsShowing s = true → MenuAllowed s

/-- The hiding half of `UpdateQuickMenu` always leaves no menu showing. -/
theorem hideQuickMenu_hidden (s : State) : menuIsShowing (hideQuickMenu s).1 = false := by
  unfold hideQuickMenu
  split
  · simp [menuIsShowing, Runner.closeMenu]
  · exact Bool.eq_false_iff.mpr ‹_›

/-- `UpdateQuickMenu` leaves a menu showing only when the flags allow it, from any state. -/
theorem menuOK_updateQuickMenu (s : State) : MenuOK (updateQuickMenu s).1 := by
  rw [updateQuickMenu, andThen_fst]
  have hhidden := hideQuickMenu_hidden s
  generalize (hideQuickMenu s).1 = t at hhidden
  unfold startQuickMenu
  split
  · rename_i hshould
    simp only [shouldShowMenu, Bool.and_eq_true, Bool.not_eq_true'] at hshould
    have hallowed : MenuAllowed t :=
      ⟨hshould.1.1.1.1, hshould.1.1.1.2, hshould.1.1.2, hshould.1.2⟩
    split
    · obtain ⟨r, hr⟩ := showQuickMenu_fst t
      rw [hr]
      exact fun _ => hallowed
    · exact fun _ => hallowed
  · simp [MenuOK, hhidden]

/-- Every event but another client opening the runner keeps `MenuOK`, from a state where the
timer is armed only when the flags allow it. -/
theorem step_menuOK (s : State) (e : Event) (ht : TimerOK s) (h : MenuOK s)
    (he : e ≠ .menuOpenedElsewhere) : MenuOK (step s e).1 := by
  cases e
  case menuOpenedElsewhere => exact absurd rfl he
  case onWindowMoved | onTouchDown | onTouchUp | onScrollStarted | onScrollCompleted =>
    exact menuOK_updateQuickMenu _
  case handleContextMenu params =>
    simp only [step, handleContextMenu]
    split
    · exact menuOK_updateQuickMenu _
    · split <;> exact h
  case onSelectionEvent event =>
    cases event <;> simp only [step, onSelectionEvent, andThen_fst] <;>
      exact menuOK_updateQuickMenu _
  case updateClientSelectionBounds startBound endBound client menuClient =>
    simp only [step, updateClientSelectionBounds]
    split <;> exact h
  case invalidateClient client =>
    simp only [step, invalidateClient]
    split <;> exact h
  case quickMenuTimerFired =>
    simp only [step]
    split
    · rename_i hrunning
      obtain ⟨r, hr⟩ := showQuickMenu_fst { s with quickMenuTimerRunning := false }
      obtain ⟨h1, h2, h3, h4, -⟩ := ht hrunning
      rw [hr]
      exact fun _ => ⟨h1, h2, h3, h4⟩
    · exact h
  case menuClosedElsewhere =>
    simp [MenuOK, step, menuIsShowing, Runner.closeMenu]
  all_goals exact h

theorem menuOK_run (s : State) (evs : List Event) (ht : TimerOK s) (h : MenuOK s)
    (hevs : Event.menuOpenedElsewhere ∉ evs) : MenuOK (run s evs) := by
  induction evs generalizing s with
  | nil => exact h
  | cons e es ih =>
    rw [List.mem_cons, not_or] at hevs
    exact ih _ (step_timerOK s e ht (Ne.symm hevs.1)) (step_menuOK s e ht h (Ne.symm hevs.1)) hevs.2

/-- **While no other client opens the shared runner, from a construction with no menu showing,
a menu is showing only while one is asked for and no touch, scroll or handle drag is in
progress: the manager closes it whenever one of those starts.** -/
theorem menu_shown_only_while_allowed (runner : Runner) (geometry : Geometry)
    (textState : TextState) (hostDelegate : Bool) (hclosed : runner.running = false)
    (evs : List Event) (hevs : Event.menuOpenedElsewhere ∉ evs)
    (hshow : menuIsShowing (run (init runner geometry textState hostDelegate) evs) = true) :
    (run (init runner geometry textState hostDelegate) evs).quickMenuRequested = true ∧
      (run (init runner geometry textState hostDelegate) evs).touchDown = false ∧
      (run (init runner geometry textState hostDelegate) evs).scrollInProgress = false ∧
      (run (init runner geometry textState hostDelegate) evs).handleDragInProgress = false :=
  menuOK_run _ evs (timerOK_of_stopped rfl) (by simp [MenuOK, menuIsShowing, init, hclosed])
    hevs hshow

theorem menu_shown_only_while_allowed_after_timer :
    sampleWorld.runner.running = false ∧
      Event.menuOpenedElsewhere ∉ [Event.handleContextMenu longPress, .quickMenuTimerFired] ∧
      menuIsShowing (run sampleWorld [.handleContextMenu longPress, .quickMenuTimerFired]) = true ∧
      (run sampleWorld [.handleContextMenu longPress, .quickMenuTimerFired]).touchDown = false := by
  have hclosed : sampleWorld.runner.running = false := rfl
  have hevs : Event.menuOpenedElsewhere ∉ [Event.handleContextMenu longPress, .quickMenuTimerFired] := by
    simp
  have hshow : menuIsShowing (run sampleWorld [.handleContextMenu longPress, .quickMenuTimerFired]) =
      true := by decide!
  exact ⟨hclosed, hevs, hshow,
    (menu_shown_only_while_allowed _ _ _ _ hclosed _ hevs hshow).2.1⟩

/-! ### The menu does come

The safety results above say when the menu may show; this one says that it does.  A long press
on an empty editable field requests the menu, and if nothing is in the way the request arms the
timer, whose firing opens the menu at the screen rect of the selection's clip to the view. -/

/-- The hiding half of `UpdateQuickMenu` keeps whether there is a runner and what it has menus
for. -/
theorem hideQuickMenu_runner (s : State) :
    (hideQuickMenu s).1.runner.present = s.runner.present ∧
      (hideQuickMenu s).1.runner.available = s.runner.available := by
  unfold hideQuickMenu
  split <;> exact ⟨rfl, rfl⟩

/-- **A long press on an empty editable field is taken by the manager, and when the timer then
fires the quick menu opens for the active menu client at the screen rect of the clip, with the
larger handle rounded, whatever menu was showing before.  This holds from any state where no
touch, scroll or handle drag is in progress, the runner has a menu for the active menu client,
the rect between the bounds meets the view, and the screen rect of the clip is an `int`
rect.** -/
theorem long_press_opens_quick_menu (s : State) (params : ContextMenuParams)
    (hsource : params.sourceType = .longPress) (heditable : params.isEditable = true)
    (hempty : params.selectionText = "") (hpresent : s.runner.present = true)
    (havailable : s.runner.available s.activeMenuClient = true) (htouch : s.touchDown = false)
    (hscroll : s.scrollInProgress = false) (hdrag : s.handleDragInProgress = false)
    (htest : s.showQuickMenuImmediatelyForTest = false) (a : RectF)
    (hanchor : quickMenuAnchor s.geometry = some a) (r : Rect)
    (hscreen : s.geometry.toScreen a = some r) :
    (handleContextMenu s params).1 = true ∧
      (step (step s (.handleContextMenu params)).1 .quickMenuTimerFired).2 =
        [.openMenu s.activeMenuClient r s.geometry.maxHandleSize] := by
  have htaken : (params.sourceType == .longPress && params.isEditable &&
      params.selectionText.isEmpty && isQuickMenuAvailable s) = true := by
    simp only [hsource, heditable, hempty, isQuickMenuAvailable, hpresent, havailable]
    rfl
  refine ⟨by simp only [handleContextMenu, htaken, if_true], ?_⟩
  obtain ⟨runner, t, hhide⟩ := hideQuickMenu_fst { s with quickMenuRequested := true }
  have hkept : runner.present = true ∧ runner.available = s.runner.available := by
    have hrunner := hideQuickMenu_runner { s with quickMenuRequested := true }
    rw [hhide] at hrunner
    exact ⟨hrunner.1.trans hpresent, hrunner.2⟩
  have hshould : shouldShowMenu (hideQuickMenu { s with quickMenuRequested := true }).1 = true := by
    rw [hhide]
    simp [shouldShowMenu, isQuickMenuAvailable, hkept.1, hkept.2, havailable, htouch, hscroll,
      hdrag]
  have hnotest :
      (hideQuickMenu { s with quickMenuRequested := true }).1.showQuickMenuImmediatelyForTest =
        false := by
    rw [hhide]
    exact htest
  -- The long press leaves the menu hidden and the timer armed.
  have harmed : (step s (.handleContextMenu params)).1 =
      { (hideQuickMenu { s with quickMenuRequested := true }).1 with quickMenuTimerRunning := true } := by
    show (handleContextMenu s params).2.1 = _
    rw [handleContextMenu, if_pos htaken, updateQuickMenu, andThen_fst, startQuickMenu,
      if_pos hshould, if_neg (by rw [hnotest]; exact Bool.false_ne_true)]
  rw [harmed, hhide]
  simp [step, showQuickMenu, hkept.1, hanchor, hscreen]

theorem long_press_opens_quick_menu_on_sample :
    longPress.sourceType = .longPress ∧ longPress.isEditable = true ∧
      longPress.selectionText = "" ∧ sampleWorld.runner.present = true ∧
      sampleWorld.runner.available sampleWorld.activeMenuClient = true ∧
      sampleWorld.touchDown = false ∧ sampleWorld.scrollInProgress = false ∧
      sampleWorld.handleDragInProgress = false ∧
      sampleWorld.showQuickMenuImmediatelyForTest = false ∧
      quickMenuAnchor sampleWorld.geometry = some ⟨⟨0, 0⟩, SizeF.clamped 10 10⟩ ∧
      sampleWorld.geometry.toScreen ⟨⟨0, 0⟩, SizeF.clamped 10 10⟩ = some ⟨⟨0, 0⟩, ⟨10, 10⟩⟩ ∧
      (step (step sampleWorld (.handleContextMenu longPress)).1 .quickMenuTimerFired).2 =
        [.openMenu .aura ⟨⟨0, 0⟩, ⟨10, 10⟩⟩ ⟨1, 1⟩] := by
  have hanchor : quickMenuAnchor sampleWorld.geometry = some ⟨⟨0, 0⟩, SizeF.clamped 10 10⟩ := by
    decide!
  have hscreen : sampleWorld.geometry.toScreen ⟨⟨0, 0⟩, SizeF.clamped 10 10⟩ =
      some ⟨⟨0, 0⟩, ⟨10, 10⟩⟩ := by decide!
  have hsize : sampleWorld.geometry.maxHandleSize = ⟨1, 1⟩ := by decide!
  have hopen := (long_press_opens_quick_menu sampleWorld longPress rfl rfl rfl rfl rfl rfl rfl rfl
    rfl _ hanchor _ hscreen).2
  rw [hsize] at hopen
  exact ⟨rfl, rfl, rfl, rfl, rfl, rfl, rfl, rfl, rfl, hanchor, hscreen, hopen⟩

end BrowserInput.TouchSelection
