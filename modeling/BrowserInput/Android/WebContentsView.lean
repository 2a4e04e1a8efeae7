/-
What a drag over the page asks of the renderer.

`WebContentsViewAndroid::OnDragEvent` passes each action of an Android drag on to the page's
`RenderWidgetHost`.  Only a drop builds anything: a `DropData` holding the dragged content,
filled by a loop over the mime types the drag offers.  A URI list makes the content the URL, plain
text makes it the text, and any other type makes it the HTML.  The loop writes the same content
whatever the type, so neither the order of the types nor repeats of one change the outcome:
each field is set exactly when a type of its kind is offered (`onDragEvent_drop`).

The two mime types compared against are `ui::Clipboard`'s constants, which are not part of this
code, so they are parameters here.
-/
import Mathlib.Logic.Basic

namespace BrowserInput.Android

/-- The action of a `ui::DragEventAndroid`. -/
inductive DragAction
  | dragStarted
  | dragLocation
  | drop
  | dragEntered
  | dragExited
  | dragEnded
  deriving DecidableEq, Repr

/-- The fields of `DropData` a drop fills.  `url` is the text its `GURL` is built from, and
`none` for the empty `GURL`; `text` and `html` are `base::NullableString16`s, `none` when
null. -/
structure DropData where
  didOriginateFromRenderer : Bool
  url : Option String
  text : Option String
  html : Option String
  deriving DecidableEq, Repr

/-- What `OnDragEvent` asks of the page's `RenderWidgetHost`, through `OnDragEntered`,
`OnDragUpdated`, `OnPerformDrop`, `OnDragExited` and `OnDragEnded`.  The metadata of a drag
entering is one `Kind::STRING` entry per mime type, so it is kept as the mime types. -/
inductive DragCall
  | dragTargetDragEnterWithMetaData (mimeTypes : List String)
  | dragTargetDragOver
  /-- `FilterDropData`, then `DragTargetDrop`, of the drop's data. -/
  | performDrop (dropData : DropData)
  | dragTargetDragLeave
  | dragSourceSystemDragEnded
  deriving DecidableEq, Repr

section Drop

-- `ui::Clipboard::kMimeTypeURIList` and `ui::Clipboard::kMimeTypeText`.
variable (uriList plainText : String)

/-- One pass of the drop's loop over the offered mime types. -/
def dropStep (content : String) (dropData : DropData) (mimeType : String) : DropData :=
  if mimeType = uriList then { dropData with url := some content }
  else if mimeType = plainText then { dropData with text := some content }
  else { dropData with html := some content }

/-- The `DropData` a drop builds: not from the renderer, and filled by the loop. -/
def dropDataOf (mimeTypes : List String) (content : String) : DropData :=
  mimeTypes.foldl (dropStep uriList plainText content) ⟨false, none, none, none⟩

/-- `WebContentsViewAndroid::OnDragEvent`, with the calls it makes; it always returns true. -/
def onDragEvent (action : DragAction) (mimeTypes : List String) (content : String) :
    Bool × List DragCall :=
  (true, match action with
    | .dragEntered => [.dragTargetDragEnterWithMetaData mimeTypes]
    | .dragLocation => [.dragTargetDragOver]
    | .drop => [.performDrop (dropDataOf uriList plainText mimeTypes content)]
    | .dragExited => [.dragTargetDragLeave]
    | .dragEnded => [.dragSourceSystemDragEnded]
    | .dragStarted => [])

/-- The loop from any `DropData`: each field is overwritten with the content exactly when a type
of its kind is among those still to come. -/
theorem foldl_dropStep (content : String) (mimeTypes : List String) (dropData : DropData) :
    mimeTypes.foldl (dropStep uriList plainText content) dropData =
      { dropData with
        url := if uriList ∈ mimeTypes then some content else dropData.url
        text := if plainText ∈ mimeTypes ∧ plainText ≠ uriList then some content
          else dropData.text
        html := if ∃ m ∈ mimeTypes, m ≠ uriList ∧ m ≠ plainText then some content
          else dropData.html } := by
  induction mimeTypes generalizing dropData with
  | nil => simp
  | cons m ms ih =>
    rw [List.foldl_cons, ih]
    by_cases hu : m = uriList
    · subst hu
      by_cases hp : m = plainText
      · simp [dropStep, hp]
      · simp [dropStep, hp, Ne.symm hp]
    · by_cases hp : m = plainText
      · subst hp
        simp [dropStep, hu, Ne.symm hu]
      · simp [dropStep, hu, hp, Ne.symm hu, Ne.symm hp]

/-- **For every list of offered mime types and every dropped content, a drop passes on one
`DropData`, not marked as from the renderer, whose URL is the content exactly when a URI list is
offered, whose text is the content exactly when plain text is offered, and whose HTML is the
content exactly when any other type is; every other field stays empty.** -/
theorem onDragEvent_drop (mimeTypes : List String) (content : String) :
    onDragEvent uriList plainText .drop mimeTypes content =
      (true, [.performDrop
        ⟨false, if uriList ∈ mimeTypes then some content else none,
          if plainText ∈ mimeTypes ∧ plainText ≠ uriList then some content else none,
          if ∃ m ∈ mimeTypes, m ≠ uriList ∧ m ≠ plainText then some content else none⟩]) := by
  rw [onDragEvent, dropDataOf, foldl_dropStep]

end Drop

end BrowserInput.Android
