/-
What the IME adapter passes on.

Android's `InputConnection` gives a caret position relative to the text being set or
committed: a positive `relative_cursor_pos` counts from its end, less one, and any other value
from its start.  Blink wants it relative to the start of the composition in
`ImeSetComposition`, and relative to the end of the committed text in `ImeCommitText`.
`SetComposingText` and `CommitText` convert, in a mix of `int` and `size_t` arithmetic.

What the conversion computes is the intended position reduced into the range of `int`
(`composingCursor_toInt`, `commitCursor_toInt`).  So it is exact whenever the intended position
is an `int` at all, and then the two carets are the text's length apart, as they should be.
At the extremes of `int` an IME can ask for a position no `int` holds, and the value passed is
then a caret on the other side of the text (`cursor_exact_at_extremes_fails`), which the
comments, reading it as Android's caret re-expressed, do not allow for.

The rest is layout.  The underlines reach Blink sorted by start offset, those with equal
offsets in an order `std::sort` leaves open; `SetComposingRegion` underlines the region it
selects, unless `end - start` overflows; and `SetCharacterBounds` flattens the characters'
rects into one `float` array, four edges to a character, which the Java side reads back in
fours.  That array is allocated uninitialised, so the loop must write every cell
(`setCharacterBounds_edges`).
-/
import BrowserInput.Ime.CppInt
import BrowserInput.Gfx

namespace BrowserInput.Ime

/-- A UTF-16 code unit of a `base::string16`. -/
abbrev Char16 := UInt16

/-- `SK_ColorBLACK`. -/
def skColorBlack : Nat := 0xFF000000

/-- `SK_ColorTRANSPARENT`. -/
def skColorTransparent : Nat := 0

/-- A `blink::WebCompositionUnderline`; its offsets and colours are `unsigned`. -/
structure CompositionUnderline where
  startOffset : Nat
  endOffset : Nat
  color : Nat
  thick : Bool
  backgroundColor : Nat
  deriving DecidableEq, Repr

/-- A span of the Java text that `populateUnderlinesFromSpans` reports back. -/
inductive Span
  | backgroundColor (start finish color : CInt)
  | underline (start finish : CInt)
  deriving DecidableEq, Repr

/-- `AppendBackgroundColorSpan` and `AppendUnderlineSpan`: the underline each span becomes,
its `jint`s cast to `unsigned`. -/
def appendSpan : Span → CompositionUnderline
  | .backgroundColor start finish color =>
    ⟨start.toNat, finish.toNat, skColorTransparent, false, color.toNat⟩
  | .underline start finish => ⟨start.toNat, finish.toNat, skColorBlack, false, skColorTransparent⟩

/-- `GetUnderlinesFromSpans`: the spans' underlines, sorted by start offset with `std::sort`.
That sort is not stable, and the order it leaves underlines with equal start offsets in is the
implementation's; `rank` is that order. -/
def getUnderlinesFromSpans (rank : CompositionUnderline → Nat) (spans : List Span) :
    List CompositionUnderline :=
  (spans.map appendSpan).mergeSort fun a b =>
    a.startOffset < b.startOffset || a.startOffset == b.startOffset && rank a ≤ rank b

/-- The caret `SetComposingText` passes to `ImeSetComposition`. -/
def composingCursor (w length : Nat) (relativeCursorPos : CInt) : CInt :=
  if 0 < relativeCursorPos.toInt then
    SizeT.toCInt (BitVec.ofNat w length + relativeCursorPos.toSizeT w - 1)
  else relativeCursorPos

/-- The caret `CommitText` passes to `ImeCommitText`. -/
def commitCursor (w length : Nat) (relativeCursorPos : CInt) : CInt :=
  if 0 < relativeCursorPos.toInt then relativeCursorPos - 1
  else SizeT.toCInt (relativeCursorPos.toSizeT w - BitVec.ofNat w length)

/-- `ImeSetComposition(text, underlines, gfx::Range::InvalidRange(), start, end)`. -/
structure ImeSetComposition where
  text : List Char16
  underlines : List CompositionUnderline
  selectionStart : CInt
  selectionEnd : CInt
  deriving DecidableEq, Repr

/-- `ImeCommitText(text, underlines, gfx::Range::InvalidRange(), relative_cursor_pos)`. -/
structure ImeCommitText where
  text : List Char16
  underlines : List CompositionUnderline
  relativeCursorPos : CInt
  deriving DecidableEq, Repr

/-- `SetComposingText` on a platform with `w`-bit `size_t`: nothing without a focused widget,
and a plain black underline over the whole text when no span gives one. -/
def setComposingText (w : Nat) (rank : CompositionUnderline → Nat) (focusedWidget : Bool)
    (text16 : List Char16) (spans : List Span) (relativeCursorPos : CInt) :
    Option ImeSetComposition :=
  if focusedWidget then
    let underlines := getUnderlinesFromSpans rank spans
    let underlines := if underlines.isEmpty then
      [⟨0, text16.length, skColorBlack, false, skColorTransparent⟩] else underlines
    let cursor := composingCursor w text16.length relativeCursorPos
    some ⟨text16, underlines, cursor, cursor⟩
  else none

/-- `CommitText` on a platform with `w`-bit `size_t`. -/
def commitText (w : Nat) (rank : CompositionUnderline → Nat) (focusedWidget : Bool)
    (text16 : List Char16) (spans : List Span) (relativeCursorPos : CInt) :
    Option ImeCommitText :=
  if focusedWidget then
    some ⟨text16, getUnderlinesFromSpans rank spans,
      commitCursor w text16.length relativeCursorPos⟩
  else none

/-! ### The composing region -/

/-- `SetCompositionFromExistingText(start, end, underlines)`. -/
structure SetCompositionFromExistingText where
  start : CInt
  finish : CInt
  underlines : List CompositionUnderline
  deriving DecidableEq, Repr

/-- `SetComposingRegion`: nothing without a focused frame, and otherwise one plain black
underline from the region's start, `end - start` long, that difference taken in `int` and
passed as `unsigned`.  When the difference overflows, which the standard leaves undefined, it
is `none`. -/
def setComposingRegion (focusedFrame : Bool) (start finish : CInt) :
    Option (List SetCompositionFromExistingText) :=
  if focusedFrame then
    if FitsCInt (finish.toInt - start.toInt) then
      some [⟨start, finish, [⟨0, (finish - start).toNat, skColorBlack, false, skColorTransparent⟩]⟩]
    else none
  else some []

/-! ### Character bounds -/

section CharacterBounds

-- Rounding of an exact result into `float`.
variable (fl : ℚ → ℚ)

/-- The four edges `SetCharacterBounds` passes for a character: `x()`, `y()`, `right()` and
`bottom()` of its rect. -/
def edges (rect : RectF) : List ℚ :=
  [rect.origin.x, rect.origin.y, rect.right fl, rect.bottom fl]

/-- The body of `SetCharacterBounds`' loop for character `i`: its edges written from
`coordinates_array_index = i * 4` on.  A cell of the `new float[]` is `none` until written. -/
def writeCharacterBounds (coordinates : List (Option ℚ)) (i : Nat) (rect : RectF) :
    List (Option ℚ) :=
  let index := i * 4
  (((coordinates.set (index + 0) (some rect.origin.x)).set (index + 1) (some rect.origin.y)).set
    (index + 2) (some (rect.right fl))).set (index + 3) (some (rect.bottom fl))

/-- `coordinates_array` once the loop has run for the characters before `i`. -/
def coordinatesAfter (characterBounds : List RectF) : Nat → List (Option ℚ)
  | 0 => List.replicate (characterBounds.length * 4) none
  | i + 1 =>
    writeCharacterBounds fl (coordinatesAfter characterBounds i) i (characterBounds.getD i default)

/-- `SetCharacterBounds`: the `coordinates_array_size` cells that `ToJavaFloatArray` copies to
Java, or nothing when there is no Java object. -/
def setCharacterBounds (javaObject : Bool) (characterBounds : List RectF) :
    Option (List (Option ℚ)) :=
  if javaObject then some (coordinatesAfter fl characterBounds characterBounds.length) else none

theorem length_flatMap_edges (characterBounds : List RectF) :
    (characterBounds.flatMap (edges fl)).length = characterBounds.length * 4 := by
  induction characterBounds with
  | nil => rfl
  | cons rect rest ih => simp [ih, edges]; omega

/-- One pass of the loop turns the first four unwritten cells, right after the `i` characters
written so far, into character `i`'s edges. -/
theorem writeCharacterBounds_append {written : List (Option ℚ)} {i : Nat}
    (hwritten : written.length = i * 4) (m : Nat) (rect : RectF) :
    writeCharacterBounds fl (written ++ List.replicate ((m + 1) * 4) none) i rect =
      written ++ (edges fl rect).map some ++ List.replicate (m * 4) none := by
  rw [show (m + 1) * 4 = m * 4 + 4 by omega]
  simp [writeCharacterBounds, edges, List.replicate_succ, hwritten]

/-- The loop invariant: after `i` passes the array holds the first `i` characters' edges,
and nothing yet after them. -/
theorem coordinatesAfter_eq (characterBounds : List RectF) {i : Nat}
    (hi : i ≤ characterBounds.length) :
    coordinatesAfter fl characterBounds i =
      ((characterBounds.take i).flatMap (edges fl)).map some ++
        List.replicate ((characterBounds.length - i) * 4) none := by
  induction i with
  | zero => simp [coordinatesAfter]
  | succ i ih =>
    have hwritten : (((characterBounds.take i).flatMap (edges fl)).map some).length = i * 4 := by
      rw [List.length_map, length_flatMap_edges, List.length_take,
        Nat.min_eq_left (Nat.le_of_succ_le hi)]
    rw [coordinatesAfter, ih (Nat.le_of_succ_le hi),
      show characterBounds.length - i = characterBounds.length - (i + 1) + 1 by omega,
      writeCharacterBounds_append fl hwritten, List.take_succ, List.getD_eq_getElem?_getD,
      List.getElem?_eq_getElem (Nat.lt_of_succ_le hi)]
    simp only [Option.getD_some, Option.toList_some, List.flatMap_append, List.flatMap_cons,
      List.flatMap_nil, List.append_nil, List.map_append, List.append_assoc]

/-- **`SetCharacterBounds` writes every cell of the array it passes on: the array is exactly
the characters' edges, four to a character and in order.** -/
theorem setCharacterBounds_edges (characterBounds : List RectF) :
    setCharacterBounds fl true characterBounds =
      some ((characterBounds.flatMap (edges fl)).map some) := by
  rw [setCharacterBounds, if_pos rfl, coordinatesAfter_eq fl characterBounds le_rfl,
    List.take_length, Nat.sub_self, Nat.zero_mul, List.replicate_zero, List.append_nil]

end CharacterBounds

example : setCharacterBounds id true [⟨⟨1, 2⟩, SizeF.clamped 3 4⟩, ⟨⟨4, 2⟩, SizeF.clamped 1 4⟩] =
    some [some 1, some 2, some 4, some 6, some 4, some 2, some 5, some 6] := by
  decide!

/-! ### The caret -/

/-- The caret Android asks `setComposingText` for, relative to the start of the composing text
of `length` code units. -/
def composingTarget (length : Nat) (relativeCursorPos : Int) : Int :=
  if 0 < relativeCursorPos then length + relativeCursorPos - 1 else relativeCursorPos

/-- The caret Android asks `commitText` for, relative to the end of the committed text. -/
def commitTarget (length : Nat) (relativeCursorPos : Int) : Int :=
  if 0 < relativeCursorPos then relativeCursorPos - 1 else relativeCursorPos - length

/-- Both name one caret: the end of the text is `length` past its start. -/
theorem composingTarget_eq (length : Nat) (r : Int) :
    composingTarget length r = commitTarget length r + length := by
  unfold composingTarget commitTarget
  split <;> omega

/-- **`SetComposingText`'s caret is the one asked for, reduced into the range of `int`.** -/
theorem composingCursor_toInt {w : Nat} (hw : 32 ≤ w) (length : Nat) (r : CInt) :
    (composingCursor w length r).toInt = Int.bmod (composingTarget length r.toInt) (2 ^ 32) := by
  unfold composingCursor composingTarget
  split
  · rw [toInt_toCInt hw]
    refine bmod_congr (modEq_of_wide hw ?_)
    have hone : (1 : SizeT w).toInt ≡ 1 [ZMOD (2 ^ w : Nat)] := toInt_ofNat_modEq w 1
    exact (toInt_sub_modEq _ _).trans <| ((toInt_add_modEq _ _).trans
      ((toInt_ofNat_modEq w length).add (toInt_toSizeT w r))).sub hone
  · exact (bmod_of_fits (toInt_fits r)).symm

/-- **`CommitText`'s caret is the one asked for, reduced into the range of `int`.** -/
theorem commitCursor_toInt {w : Nat} (hw : 32 ≤ w) (length : Nat) (r : CInt) :
    (commitCursor w length r).toInt = Int.bmod (commitTarget length r.toInt) (2 ^ 32) := by
  unfold commitCursor commitTarget
  split
  · rw [BitVec.toInt_sub]
    rfl
  · rw [toInt_toCInt hw]
    exact bmod_congr (modEq_of_wide hw
      ((toInt_sub_modEq _ _).trans ((toInt_toSizeT w r).sub (toInt_ofNat_modEq w length))))

/-- **With a focused widget, `SetComposingText` passes one caret as both ends of the selection,
and each of `SetComposingText` and `CommitText` passes exactly the caret Android asks for
whenever an `int` holds it; when both do, the two are the text's length apart, so they name the
same position.** -/
theorem ime_cursors_exact_when_fits (w : Nat) (hw : 32 ≤ w) (rank : CompositionUnderline → Nat)
    (text16 : List Char16) (spans : List Span) (r : CInt) :
    ∃ c k, setComposingText w rank true text16 spans r = some c ∧
      commitText w rank true text16 spans r = some k ∧
      c.selectionStart = c.selectionEnd ∧
      (FitsCInt (composingTarget text16.length r.toInt) →
        c.selectionStart.toInt = composingTarget text16.length r.toInt) ∧
      (FitsCInt (commitTarget text16.length r.toInt) →
        k.relativeCursorPos.toInt = commitTarget text16.length r.toInt) ∧
      (FitsCInt (composingTarget text16.length r.toInt) →
        FitsCInt (commitTarget text16.length r.toInt) →
        c.selectionStart.toInt = k.relativeCursorPos.toInt + text16.length) := by
  have hc : FitsCInt (composingTarget text16.length r.toInt) →
      (composingCursor w text16.length r).toInt = composingTarget text16.length r.toInt :=
    fun h => (composingCursor_toInt hw text16.length r).trans (bmod_of_fits h)
  have hk : FitsCInt (commitTarget text16.length r.toInt) →
      (commitCursor w text16.length r).toInt = commitTarget text16.length r.toInt :=
    fun h => (commitCursor_toInt hw text16.length r).trans (bmod_of_fits h)
  refine ⟨_, _, rfl, rfl, rfl, hc, hk, fun hfc hfk => ?_⟩
  show (composingCursor w text16.length r).toInt = (commitCursor w text16.length r).toInt + _
  rw [hc hfc, hk hfk, composingTarget_eq]

theorem ime_cursors_exact_on_arm64 :
    32 ≤ 64 ∧
    ∃ c k, setComposingText 64 (fun _ => 0) true [0, 0] [] 3 = some c ∧
      commitText 64 (fun _ => 0) true [0, 0] [] 3 = some k ∧
      c.selectionStart = c.selectionEnd ∧
      (FitsCInt (composingTarget 2 (3 : CInt).toInt) →
        c.selectionStart.toInt = composingTarget 2 (3 : CInt).toInt) ∧
      (FitsCInt (commitTarget 2 (3 : CInt).toInt) →
        k.relativeCursorPos.toInt = commitTarget 2 (3 : CInt).toInt) ∧
      (FitsCInt (composingTarget 2 (3 : CInt).toInt) →
        FitsCInt (commitTarget 2 (3 : CInt).toInt) →
        c.selectionStart.toInt = k.relativeCursorPos.toInt + 2) :=
  ⟨by decide, ime_cursors_exact_when_fits 64 (by decide) (fun _ => 0) [0, 0] [] 3⟩

/-- **At the extremes of `int` the caret asked for is no `int`, and the one passed is not it: on a
64-bit platform a composing caret of `INT_MAX` past a two-unit text is passed as `INT_MIN`, and
a commit caret of `INT_MIN` before a one-unit text as `INT_MAX`, each on the other side of the
text.** -/
theorem cursor_exact_at_extremes_fails :
    (setComposingText 64 (fun _ => 0) true [0, 0] [] (BitVec.ofInt 32 (2 ^ 31 - 1))).map
        (·.selectionStart.toInt) ≠ some (2 + (2 ^ 31 - 1) - 1) ∧
      (commitText 64 (fun _ => 0) true [0] [] (BitVec.ofInt 32 (-2 ^ 31))).map
        (·.relativeCursorPos.toInt) ≠ some (-2 ^ 31 - 1) := by
  decide

end BrowserInput.Ime
