/-
Which client is active.

The manager forwards caret and range moves to `active_client_` and opens the quick menu for
`active_menu_client_`.  Two calls change the pair.  An `UpdateClientSelectionBounds` that gets
past its early return installs its own `(client, menu_client)`, and an `InvalidateClient` of
the active client puts back the view's own pair.  Every other handler leaves both fields
alone, which `step_keeps` says once for all of them.

So the pair is never a mix of two calls: it is the view's own, or the pair of one accepted
update (`activePair_run`).  And once a client is invalidated it stays inactive until an update
passing it is accepted again (`inactive_run`), so nothing is forwarded to it in the meantime
(`forwardedTo_step`).
-/
import BrowserInput.TouchSelection.Handlers

namespace BrowserInput.TouchSelection

/-- The client and menu client the manager forwards to. -/
def State.activePair (s : State) : Client × MenuClient := (s.activeClient, s.activeMenuClient)

/-- The pair an event installs: that of an `UpdateClientSelectionBounds` past its early
return. -/
def accepted (s : State) : Event → Option (Client × MenuClient)
  | .updateClientSelectionBounds startBound endBound client menuClient =>
    if ignoresBounds s startBound endBound client then none else some (client, menuClient)
  | _ => none

/-- The pairs the accepted updates of a run install, in order. -/
def acceptedPairs (s : State) : List Event → List (Client × MenuClient)
  | [] => []
  | e :: es => (accepted s e).toList ++ acceptedPairs (step s e).1 es

/-- One event keeps the pair, puts back the view's own, or installs the pair it accepts. -/
theorem step_activePair (s : State) (e : Event) :
    (step s e).1.activePair = s.activePair ∨ (step s e).1.activePair = (.internal, .aura) ∨
      accepted s e = some (step s e).1.activePair := by
  rcases step_keeps s e with h | ⟨st, en, c, m, rfl, hign, h⟩ | ⟨-, h⟩
  · exact .inl (by simp [State.activePair, h.activeClient, h.activeMenuClient])
  · exact .inr (.inr (by simp [accepted, hign, h, State.activePair]))
  · exact .inr (.inl (by simp [h, State.activePair]))

/-- **The pair is the one a run started with, the view's own, or the pair of one accepted
update.** -/
theorem activePair_run (s : State) (evs : List Event) :
    (run s evs).activePair = s.activePair ∨ (run s evs).activePair = (.internal, .aura) ∨
      (run s evs).activePair ∈ acceptedPairs s evs := by
  induction evs generalizing s with
  | nil => exact .inl rfl
  | cons e es ih =>
    simp only [run_cons, acceptedPairs, List.mem_append]
    rcases ih (step s e).1 with h | h | h
    · rw [h]
      rcases step_activePair s e with h' | h' | h'
      · exact .inl h'
      · exact .inr (.inl h')
      · exact .inr (.inr (.inl (by simp [h'])))
    · exact .inr (.inl h)
    · exact .inr (.inr (.inr h))

/-- A client other than the view's own that is inactive stays so through a run that accepts no
update passing it. -/
theorem inactive_run (s : State) (evs : List Event) (c : Client) (hc : c ≠ .internal)
    (hs : s.activeClient ≠ c) (hnone : ∀ m, (c, m) ∉ acceptedPairs s evs) :
    (run s evs).activeClient ≠ c := by
  intro hrun
  rcases activePair_run s evs with h | h | h
  · exact hs (by simpa [State.activePair, hrun] using (congrArg Prod.fst h).symm)
  · exact hc (by simpa [State.activePair, hrun] using congrArg Prod.fst h)
  · exact hnone (run s evs).activeMenuClient (by simpa [State.activePair, hrun] using h)

/-- `InvalidateClient(c)` leaves `c` inactive, for any `c` but the view's own. -/
theorem invalidateClient_inactive (s : State) (c : Client) (hc : c ≠ .internal) :
    (invalidateClient s c).1.activeClient ≠ c := by
  unfold invalidateClient
  split
  · exact hc.symm
  · exact Ne.symm ‹_›

/-- **From the constructed state, the active pair is the view's own or the pair of one
accepted update; and after `InvalidateClient(c)`, until an update passing `c` is accepted, `c`
is inactive, nothing is forwarded to it, and a menu is opened only for the view or for a menu
client that an accepted update of another client brought.** -/
theorem active_pair_whole_and_invalidated_inactive (runner : Runner) (geometry : Geometry)
    (textState : TextState) (hostDelegate : Bool) (evs : List Event) :
    let s₀ := init runner geometry textState hostDelegate
    let s := run s₀ evs
    (s.activePair = (.internal, .aura) ∨ s.activePair ∈ acceptedPairs s₀ evs) ∧
    ∀ pre c post, evs = pre ++ .invalidateClient c :: post → c ≠ .internal →
      (∀ m, (c, m) ∉ acceptedPairs (run s₀ (pre ++ [.invalidateClient c])) post) →
      s.activeClient ≠ c ∧
      (∀ e call, call ∈ (step s e).2 → call.forwardedTo ≠ some c) ∧
      (∀ e m a h, .openMenu m a h ∈ (step s e).2 →
        m = .aura ∨ ∃ d, d ≠ c ∧ (d, m) ∈ acceptedPairs s₀ evs) := by
  intro s₀ s
  have whole : s.activePair = (.internal, .aura) ∨ s.activePair ∈ acceptedPairs s₀ evs :=
    (activePair_run s₀ evs).elim .inl id
  refine ⟨whole, fun pre c post hevs hc hnone => ?_⟩
  have inactive : s.activeClient ≠ c := by
    have hinv : (run s₀ (pre ++ [.invalidateClient c])).activeClient ≠ c := by
      simpa [run_append, step] using invalidateClient_inactive (run s₀ pre) c hc
    have := inactive_run _ post c hc hinv hnone
    rwa [← run_append, List.append_assoc, List.singleton_append, ← hevs] at this
  refine ⟨inactive, fun e call hcall hfw => inactive (forwardedTo_step hcall hfw).symm,
    fun e m a h hopen => ?_⟩
  have hm : m = s.activeMenuClient := (openMenu_step hopen).1
  rcases whole with hp | hp
  · exact .inl (by simpa [State.activePair, hm] using congrArg Prod.snd hp)
  · exact .inr ⟨s.activeClient, inactive, by simpa [State.activePair, hm] using hp⟩

/-- Frame 1 reports a visible selection, which the view accepts, and then goes away: from then
on it is inactive and nothing is forwarded to it. -/
theorem invalidated_frame_gets_nothing :
    acceptedPairs sampleWorld
        [.updateClientSelectionBounds ⟨.center, true⟩ ⟨.center, true⟩ (.frame 1) (.frame 1),
          .invalidateClient (.frame 1)] = [(.frame 1, .frame 1)] ∧
      [Event.updateClientSelectionBounds ⟨.center, true⟩ ⟨.center, true⟩ (.frame 1) (.frame 1),
          .invalidateClient (.frame 1)] =
        [Event.updateClientSelectionBounds ⟨.center, true⟩ ⟨.center, true⟩ (.frame 1) (.frame 1)] ++
          .invalidateClient (.frame 1) :: [] ∧
      Client.frame 1 ≠ .internal ∧
      (∀ m, (Client.frame 1, m) ∉ acceptedPairs (run sampleWorld
        ([.updateClientSelectionBounds ⟨.center, true⟩ ⟨.center, true⟩ (.frame 1) (.frame 1)] ++
          [.invalidateClient (.frame 1)])) []) ∧
      (run sampleWorld [.updateClientSelectionBounds ⟨.center, true⟩ ⟨.center, true⟩ (.frame 1)
        (.frame 1), .invalidateClient (.frame 1)]).activeClient ≠ .frame 1 ∧
      ∀ e call, call ∈ (step (run sampleWorld [.updateClientSelectionBounds ⟨.center, true⟩
          ⟨.center, true⟩ (.frame 1) (.frame 1), .invalidateClient (.frame 1)]) e).2 →
        call.forwardedTo ≠ some (.frame 1) := by
  have hsplit : [Event.updateClientSelectionBounds ⟨.center, true⟩ ⟨.center, true⟩ (.frame 1)
      (.frame 1), .invalidateClient (.frame 1)] =
      [Event.updateClientSelectionBounds ⟨.center, true⟩ ⟨.center, true⟩ (.frame 1) (.frame 1)] ++
        .invalidateClient (.frame 1) :: [] := rfl
  have hc : Client.frame 1 ≠ .internal := by decide
  have hnone : ∀ m, (Client.frame 1, m) ∉ acceptedPairs (run sampleWorld
      ([.updateClientSelectionBounds ⟨.center, true⟩ ⟨.center, true⟩ (.frame 1) (.frame 1)] ++
        [.invalidateClient (.frame 1)])) [] := fun _ => List.not_mem_nil _
  have hinactive := (active_pair_whole_and_invalidated_inactive _ _ _ _ _).2 _ _ _ hsplit hc hnone
  exact ⟨by decide, hsplit, hc, hnone, hinactive.1, hinactive.2.1⟩

end BrowserInput.TouchSelection
