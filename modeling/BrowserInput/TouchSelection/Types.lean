/-
The touch-selection manager of an Aura view, and the world it talks to.

`TouchSelectionControllerClientAura` sits between the view's `TouchSelectionController` and
the clients that own a selection: the view's own renderer, reached through
`internal_client_`, and any number of child frames.  It remembers which of them is active,
forwards caret and range moves to it, and decides when the process-wide quick menu is shown.

This file fixes the data only.  Client identities are pointers in the source; here they are
tags, compared the way the source compares the pointers.  The menu runner is shared by every
menu client of the process, so the manager only reads it (`GetInstance()`, `IsRunning()`,
`IsMenuAvailable()`) and asks it to open or close; the rest of the process may open or close
it at any time, and the step relation in `Handlers.lean` lets it.
-/
import BrowserInput.Gfx

namespace BrowserInput.TouchSelection

/-- A `ui::TouchSelectionControllerClient` the manager may forward to: the view's own
`internal_client_`, or the client of a child frame. -/
inductive Client
  | internal
  | frame (id : Nat)
  deriving DecidableEq, Repr

/-- A `ui::TouchSelectionMenuClient`: the manager itself (`this`), or a child frame's. -/
inductive MenuClient
  | aura
  | frame (id : Nat)
  deriving DecidableEq, Repr

/-- `gfx::SelectionBound::Type`. -/
inductive BoundType
  | left
  | right
  | center
  | empty
  deriving DecidableEq, Repr

/-- The part of a `gfx::SelectionBound` the manager reads.  A default-constructed bound is
`EMPTY` and hidden, which is what `manager_selection_start_` and `manager_selection_end_`
hold until the first update. -/
structure SelectionBound where
  type : BoundType := .empty
  visible : Bool := false
  deriving DecidableEq, Repr

/-- The hidden bound a default constructor builds. -/
def SelectionBound.none : SelectionBound := {}

/-- `ui::SelectionEventType`, every value `OnSelectionEvent` switches on. -/
inductive SelectionEventType
  | selectionHandlesShown
  | selectionHandlesMoved
  | selectionHandlesCleared
  | insertionHandleShown
  | insertionHandleMoved
  | insertionHandleTapped
  | insertionHandleCleared
  | selectionHandleDragStarted
  | selectionHandleDragStopped
  | insertionHandleDragStarted
  | insertionHandleDragStopped
  deriving DecidableEq, Repr

/-- `ui::MenuSourceType`. -/
inductive MenuSourceType
  | none
  | mouse
  | keyboard
  | touch
  | touchEditMenu
  | longPress
  | longTap
  | touchHandle
  | stylus
  | adjustSelection
  | adjustSelectionReset
  deriving DecidableEq, Repr

/-- The fields of `ContextMenuParams` that `HandleContextMenu` reads. -/
structure ContextMenuParams where
  sourceType : MenuSourceType
  isEditable : Bool
  selectionText : String
  deriving DecidableEq, Repr

/-! ### The world the manager reads -/

/-- `ui::TouchSelectionMenuRunner::GetInstance()` as the manager sees it. -/
structure Runner where
  /-- `GetInstance()` is not null. -/
  present : Bool
  /-- `IsRunning()`: some menu, of any client, is showing. -/
  running : Bool
  /-- `IsMenuAvailable(client)`: the runner would show a menu for `client`. -/
  available : MenuClient → Bool

/-- What `ShowQuickMenu` and `RunContextMenu` read from the view, its selection controller and
its window. -/
structure Geometry where
  /-- `selection_controller()->GetRectBetweenBounds()`, in the view's coordinates. -/
  rectBetweenBounds : RectF
  /-- `GetNativeView()->bounds()`. -/
  viewBounds : Rect
  /-- The sizes of `GetStartHandleRect()` and `GetEndHandleRect()`. -/
  startHandleSize : SizeF
  endHandleSize : SizeF
  /-- `ConvertPointToScreen` of the `ScreenPositionClient` of the view's root window; `none` when
  there is no root window or it has no such client. -/
  convertPointToScreen : Option (Point → Point)
  /-- Rounding of an exact result into `float`. -/
  roundToFloat : ℚ → ℚ

/-- A command of the quick menu (`IDS_APP_CUT`, `IDS_APP_COPY`, `IDS_APP_PASTE`), or any other
command id. -/
inductive Command
  | cut
  | copy
  | paste
  | other (id : Int)
  deriving DecidableEq, Repr

/-- `ui::TextInputType`; every type but the two `IsCommandIdEnabled` tests is `other`. -/
inductive TextInputType
  | none
  | password
  | other
  deriving DecidableEq, Repr

/-- What `IsCommandIdEnabled` reads from the view and the clipboard. -/
structure TextState where
  /-- `GetTextInputType()`. -/
  textInputType : TextInputType
  /-- `GetSelectionRange()` is empty. -/
  selectionEmpty : Bool
  /-- The copy-paste clipboard holds no text. -/
  clipboardEmpty : Bool
  deriving DecidableEq, Repr

/-! ### The manager -/

/-- The fields of `TouchSelectionControllerClientAura`, with the world it reads beside them. -/
structure State where
  activeClient : Client
  activeMenuClient : MenuClient
  managerSelectionStart : SelectionBound
  managerSelectionEnd : SelectionBound
  /-- `quick_menu_timer_.IsRunning()`: the timer is armed and will call `ShowQuickMenu`. -/
  quickMenuTimerRunning : Bool
  quickMenuRequested : Bool
  touchDown : Bool
  scrollInProgress : Bool
  handleDragInProgress : Bool
  showQuickMenuImmediatelyForTest : Bool
  /-- `env_pre_target_handler_` is installed. -/
  envPreTargetHandler : Bool
  runner : Runner
  geometry : Geometry
  textState : TextState
  /-- The render widget host has a delegate. -/
  hostDelegate : Bool

/-- The state the constructor leaves, in a world given by the rest of the arguments. -/
def init (runner : Runner) (geometry : Geometry) (textState : TextState)
    (hostDelegate : Bool) : State where
  activeClient := .internal
  activeMenuClient := .aura
  managerSelectionStart := .none
  managerSelectionEnd := .none
  quickMenuTimerRunning := false
  quickMenuRequested := false
  touchDown := false
  scrollInProgress := false
  handleDragInProgress := false
  showQuickMenuImmediatelyForTest := false
  envPreTargetHandler := false
  runner := runner
  geometry := geometry
  textState := textState
  hostDelegate := hostDelegate

/-- A world to run examples in: a closed runner with a menu for every client, the rect between
the bounds from (0, 0) to (10, 10) filling a view of that size, handles 1 by 1, no screen
position client, and an editable field with nothing selected and text on the clipboard, so
that the manager's menu has paste.  Its coordinates are small whole numbers, which `float`
holds exactly. -/
def sampleWorld : State :=
  init ⟨true, false, fun _ => true⟩
    ⟨⟨⟨0, 0⟩, SizeF.clamped 10 10⟩, ⟨⟨0, 0⟩, ⟨10, 10⟩⟩, SizeF.clamped 1 1, SizeF.clamped 1 1,
      none, id⟩
    ⟨.other, true, false⟩ true

/-- What the manager asks of its collaborators: the menu runner, the selection controller,
the active client and the host's delegate. -/
inductive Call
  | openMenu (client : MenuClient) (anchor : Rect) (handleSize : Size)
  | closeMenu
  | setTemporarilyHidden (hidden : Bool)
  | hideAndDisallowShowingAutomatically
  | onSelectionBoundsChanged (startBound endBound : SelectionBound)
  | moveCaret (client : Client)
  | moveRangeSelectionExtent (client : Client)
  | selectBetweenCoordinates (client : Client)
  | showContextMenuAtPoint (point : Point) (source : MenuSourceType)
  | cut
  | copy
  | paste
  /-- Not a call: the handler computed an `int` that overflows, and what the code does from
  there on is undefined. -/
  | undefinedBehavior
  deriving DecidableEq, Repr

/-- The client a call is forwarded to, for the three calls the manager forwards. -/
def Call.forwardedTo : Call → Option Client
  | .moveCaret c => some c
  | .moveRangeSelectionExtent c => some c
  | .selectBetweenCoordinates c => some c
  | _ => none

end BrowserInput.TouchSelection
