/-
How the Android input objects follow the view.

A `WebContents` on Android gets a new `RenderWidgetHostViewAndroid` whenever its renderer
changes.  The objects that serve the view, `ImeAdapterAndroid` and `SelectionPopupController`,
hear of it through `UpdateRenderProcessConnection(old_rwhva, new_rwhva)`: the old view is told
to forget them and the new one to point back at them.  A view left pointing at an object that
has moved on would keep calling into it.

The caller, `RenderWidgetHostConnector`, is not part of this code.  It passes as the old view
the one it passed as the new view the time before, which is all the proofs assume of it
(`Chained`).  Under that assumption exactly the current view points back at each object, and
for the adapter that view is its own `rwhva_` (`views_point_back_exactly`).  Both classes
relink the views the same way (`relink`); the adapter also keeps the view and tells its Java
side when it connects after having had no view.
-/
import Mathlib.Logic.Function.Basic

namespace BrowserInput.Android

/-- A `RenderWidgetHostViewAndroid`, by identity. -/
abbrev ViewId := Nat

/-- For each view, whether it points back at the object: its `ime_adapter_` or its
`selection_popup_controller_`. -/
abbrev BackLinks := ViewId → Bool

/-- What `UpdateRenderProcessConnection` does to the views, in both classes: the old view is
set to point at nothing, then the new one at the object. -/
def relink (links : BackLinks) (oldRwhva newRwhva : Option ViewId) : BackLinks :=
  let links := match oldRwhva with
    | some v => Function.update links v false
    | none => links
  match newRwhva with
  | some v => Function.update links v true
  | none => links

/-- `SelectionPopupController::UpdateRenderProcessConnection`. -/
def SelectionPopupController.updateRenderProcessConnection (links : BackLinks)
    (oldRwhva newRwhva : Option ViewId) : BackLinks :=
  relink links oldRwhva newRwhva

/-- What `ImeAdapterAndroid` keeps of its connection. -/
structure ImeConnection where
  /-- `rwhva_`, the view the adapter serves. -/
  rwhva : Option ViewId
  /-- The views whose `ime_adapter_` is this adapter. -/
  links : BackLinks

/-- The adapter as constructed: `rwhva_(nullptr)`, and no view yet told of it. -/
def ImeConnection.init : ImeConnection := ⟨none, fun _ => false⟩

/-- `ImeAdapterAndroid::UpdateRenderProcessConnection`, given whether the adapter's Java object
is still alive; with the connection it leaves, whether it called
`Java_ImeAdapter_onConnectedToRenderProcess`. -/
def ImeAdapterAndroid.updateRenderProcessConnection (c : ImeConnection) (javaObject : Bool)
    (oldRwhva newRwhva : Option ViewId) : ImeConnection × Bool :=
  (⟨newRwhva, relink c.links oldRwhva newRwhva⟩,
    newRwhva.isSome && oldRwhva.isNone && javaObject)

/-! ### Runs of the connector -/

/-- One call of the connector: the view it passes as old, and the one it passes as new. -/
structure Reconnect where
  oldRwhva : Option ViewId
  newRwhva : Option ViewId
  deriving DecidableEq, Repr

/-- What the connector is taken to do: pass as old view the one it last passed as new,
starting from `current`. -/
def Chained : Option ViewId → List Reconnect → Prop
  | _, [] => True
  | current, r :: rs => r.oldRwhva = current ∧ Chained r.newRwhva rs

instance decidableChained :
    (current : Option ViewId) → (rs : List Reconnect) → Decidable (Chained current rs)
  | _, [] => inferInstanceAs (Decidable True)
  | _, r :: rs =>
    haveI := decidableChained r.newRwhva rs
    inferInstanceAs (Decidable (_ ∧ _))

/-- The view the connector passed last, or `current` if it passed none. -/
def currentView (current : Option ViewId) : List Reconnect → Option ViewId
  | [] => current
  | r :: rs => currentView r.newRwhva rs

/-- The popup controller's back links after the connector's calls. -/
def SelectionPopupController.run (links : BackLinks) : List Reconnect → BackLinks
  | [] => links
  | r :: rs => run (updateRenderProcessConnection links r.oldRwhva r.newRwhva) rs

/-- The adapter's connection after the connector's calls, each with whether the Java object
was alive at the time. -/
def ImeAdapterAndroid.run (c : ImeConnection) : List (Reconnect × Bool) → ImeConnection
  | [] => c
  | (r, javaObject) :: rs =>
    run (updateRenderProcessConnection c javaObject r.oldRwhva r.newRwhva).1 rs

/-! ### Exactly the current view points back -/

/-- `links` says that exactly `current` points back. -/
def LinksExact (links : BackLinks) (current : Option ViewId) : Prop :=
  ∀ v, links v = true ↔ current = some v

/-- A view points back after `relink` when it is the new view, and otherwise when it did
before and is not the old one. -/
theorem relink_apply (links : BackLinks) (oldRwhva newRwhva : Option ViewId) (v : ViewId) :
    relink links oldRwhva newRwhva v =
      if newRwhva = some v then true else if oldRwhva = some v then false else links v := by
  cases oldRwhva <;> cases newRwhva <;> simp [relink, Function.update_apply, eq_comm]

/-- Relinking from the current view keeps the links exact, now for the new view. -/
theorem relink_exact {links : BackLinks} {current : Option ViewId}
    (h : LinksExact links current) (newRwhva : Option ViewId) :
    LinksExact (relink links current newRwhva) newRwhva := by
  intro v
  have hv := h v
  rw [relink_apply]
  split_ifs <;> simp_all

theorem popupRun_exact {links : BackLinks} {current : Option ViewId} (rs : List Reconnect)
    (h : LinksExact links current) (hchain : Chained current rs) :
    LinksExact (SelectionPopupController.run links rs) (currentView current rs) := by
  induction rs generalizing links current with
  | nil => exact h
  | cons r rs ih =>
    obtain ⟨hold, hrest⟩ := hchain
    rw [SelectionPopupController.run, SelectionPopupController.updateRenderProcessConnection,
      hold, currentView]
    exact ih (relink_exact h r.newRwhva) hrest

/-- The adapter's links are those the popup controller would have after the same calls, and its
`rwhva_` is the view passed last. -/
theorem imeRun_eq (c : ImeConnection) (rs : List (Reconnect × Bool)) :
    ImeAdapterAndroid.run c rs =
      ⟨currentView c.rwhva (rs.map Prod.fst),
        SelectionPopupController.run c.links (rs.map Prod.fst)⟩ := by
  induction rs generalizing c with
  | nil => rfl
  | cons r rs ih => exact ih _

/-- **For both `SelectionPopupController` and `ImeAdapterAndroid`: from construction, over every
sequence of connector calls that each pass as old view the one passed as new the time before,
a view points back at the object exactly when it is the view passed last; and the adapter's
`rwhva_` is that view.** -/
theorem views_point_back_exactly (rs : List (Reconnect × Bool))
    (hchain : Chained none (rs.map Prod.fst)) (v : ViewId) :
    (SelectionPopupController.run (fun _ => false) (rs.map Prod.fst) v = true ↔
        currentView none (rs.map Prod.fst) = some v) ∧
      (ImeAdapterAndroid.run ImeConnection.init rs).rwhva = currentView none (rs.map Prod.fst) ∧
      ((ImeAdapterAndroid.run ImeConnection.init rs).links v = true ↔
        currentView none (rs.map Prod.fst) = some v) := by
  have hinit : LinksExact (fun _ => false) none := fun _ => by simp
  have hpopup := popupRun_exact (rs.map Prod.fst) hinit hchain
  rw [imeRun_eq]
  exact ⟨hpopup v, rfl, hpopup v⟩

theorem views_point_back_exactly_after_swap :
    Chained none ([(⟨none, some 1⟩, true), (⟨some 1, some 2⟩, false)].map Prod.fst) ∧
      (ImeAdapterAndroid.run ImeConnection.init
        [(⟨none, some 1⟩, true), (⟨some 1, some 2⟩, false)]).rwhva = some 2 ∧
      (ImeAdapterAndroid.run ImeConnection.init
        [(⟨none, some 1⟩, true), (⟨some 1, some 2⟩, false)]).links 2 = true ∧
      (ImeAdapterAndroid.run ImeConnection.init
        [(⟨none, some 1⟩, true), (⟨some 1, some 2⟩, false)]).links 1 = false := by
  have hchain : Chained none ([(⟨none, some 1⟩, true), (⟨some 1, some 2⟩, false)].map Prod.fst) := by
    decide
  have h2 := views_point_back_exactly _ hchain 2
  have h1 := views_point_back_exactly _ hchain 1
  exact ⟨hchain, h2.2.1, h2.2.2.mpr rfl, Bool.eq_false_iff.mpr (h1.2.2.not.mpr (by decide))⟩

end BrowserInput.Android
