import NfsWatch.Proofs.Monitor.Announced
import NfsWatch.Report

/-!
# What readers of the lines rely on

A reader who prints a feed whenever it is notified prints what the feed shows. An event that is not
announced leaves the view and the stale flag as they were, and the lines as well but for one number:
a feed that stays stale goes on counting, and the note at the end of its first line tells the count.
-/

namespace NfsWatch

variable {P V C : Type}

namespace Report

/-! ## The note of a stale feed -/

/-- The note at the end of a line of a stale feed. -/
def staleNote (failures : Nat) : String := s!" [stale after {failures} failures]"

/-- Equal lines, or lines of a feed that is stale both before and after, with a note that counts
differently. -/
inductive SameButCount (before after : FeedHealth) : String → String → Prop
  | same (line : String) : SameButCount before after line line
  | recounted (hbefore : before.stale = true) (hafter : after.stale = true) (text : String) :
      SameButCount before after (text ++ staleNote before.failures)
        (text ++ staleNote after.failures)

/-- Lines in which nothing of the freshness is told but the note. -/
def OnlyNotes (lines : Feed V → List String) : Prop :=
  ∀ {before after : FeedHealth}, after.stale = before.stale → ∀ view : V,
    List.Forall₂ (SameButCount before after) (lines ⟨view, before⟩) (lines ⟨view, after⟩)

/-- Only the first line has a note. -/
theorem sameButCount_noted {before after : FeedHealth} (h : after.stale = before.stale)
    (text : String) (rest : List String) :
    List.Forall₂ (SameButCount before after) ((text ++ healthSuffix before) :: rest)
      ((text ++ healthSuffix after) :: rest) := by
  refine .cons ?_ (List.forall₂_same.mpr fun line _ => .same line)
  unfold healthSuffix
  cases hstale : before.stale with
  | true =>
      rw [hstale] at h
      rw [h, if_pos rfl, if_pos rfl]
      exact .recounted hstale h text
  | false =>
      rw [hstale] at h
      rw [h, if_neg Bool.false_ne_true]
      exact .same _

theorem onlyNotes_clientsLine : OnlyNotes fun feed => [clientsLine feed] := by
  intro before after h view
  exact sameButCount_noted h _ []

theorem onlyNotes_summaryLines : OnlyNotes summaryLines := by
  intro before after h view
  exact sameButCount_noted h _ _

theorem onlyNotes_stateLine (kind : StateKind) : OnlyNotes fun feed => [stateLine kind feed] := by
  rintro before after h ⟨client, state, detail⟩
  cases detail with
  | none => exact .cons (.same _) .nil
  | some detail => exact sameButCount_noted h _ []

theorem onlyNotes_filesystemLines : OnlyNotes filesystemLines := by
  intro before after h view
  exact sameButCount_noted h _ _

theorem onlyNotes_operationsLine (family : ProtocolFamily) :
    OnlyNotes fun feed => [operationsLine family feed] := by
  intro before after h view
  exact sameButCount_noted h _ []

end Report

/-! ## One event -/

/-- How one more event is announced. -/
structure AnnouncedExactly (monitor : Monitor P V C) (settings : PollSettings)
    (Same : V → V → Prop) (lines : Feed V → List String) (events : List (Event C))
    (event : Event C) : Prop where
  /-- What is not announced changes neither the view nor the stale flag, and in the lines at most
  the count in the note of a feed that is stale before and after. -/
  quiet : (PollLoop.effectAfter monitor settings events event).notified = false →
    let before := (PollLoop.reached monitor settings events).feed
    let after := (PollLoop.effectAfter monitor settings events event).loop.feed
    after.view = before.view ∧ after.health.stale = before.health.stale ∧
      List.Forall₂ (Report.SameButCount before.health after.health) (lines before) (lines after)
  /-- A poll or operator input that is announced changes the view or flips the stale flag. -/
  heard : event.Direct → (PollLoop.effectAfter monitor settings events event).notified = true →
    let before := (PollLoop.reached monitor settings events).feed
    let after := (PollLoop.effectAfter monitor settings events event).loop.feed
    ¬ Same before.view after.view ∨ after.health.stale ≠ before.health.stale

theorem Announces.exactly {monitor : Monitor P V C} {Same : V → V → Prop}
    {lines : Feed V → List String} (hannounces : Announces monitor id)
    (htells : Tells monitor Same) (hlines : Report.OnlyNotes lines) (settings : PollSettings)
    (events : List (Event C)) (event : Event C) :
    AnnouncedExactly monitor settings Same lines events event where
  quiet := by
    intro hquiet before after
    have hview : after.view = before.view := hannounces.step _ event hquiet
    have hstale : after.health.stale = before.health.stale :=
      PollLoop.stale_of_quiet _ event hquiet
    have hafter : after = ⟨before.view, after.health⟩ := by rw [← hview]
    refine ⟨hview, hstale, ?_⟩
    rw [hafter]
    exact hlines hstale before.view
  heard := by
    intro hdirect hnotified
    exact htells.step _ hdirect hnotified

/-- For each of the five monitors, however it is polled and whatever happened so far: no visible
change goes unannounced, and polls and operator input announce nothing else. -/
theorem changes_announced_exactly (settings : PollSettings) :
    (∀ events event, AnnouncedExactly ClientList.monitor settings Eq
      (fun feed => [Report.clientsLine feed]) events event) ∧
    (∀ client events event, AnnouncedExactly (ClientSummary.monitor client) settings Eq
      Report.summaryLines events event) ∧
    (∀ client state kind events event, AnnouncedExactly (StateSummary.monitor client state)
      settings Eq (fun feed => [Report.stateLine kind feed]) events event) ∧
    (∀ policy events event, AnnouncedExactly (FilesystemStatus.monitor policy) settings
      FilesystemStatus.View.Same Report.filesystemLines events event) ∧
    ∀ family events event, AnnouncedExactly (OperationTable.monitor family) settings Eq
      (fun feed => [Report.operationsLine family feed]) events event := by
  refine ⟨?_, ?_, ?_, ?_, ?_⟩
  · exact ClientList.announces.exactly ClientList.tells Report.onlyNotes_clientsLine settings
  · intro client
    exact (ClientSummary.announces client).exactly (ClientSummary.tells client)
      Report.onlyNotes_summaryLines settings
  · intro client state kind
    exact (StateSummary.announces client state).exactly (StateSummary.tells client state)
      (Report.onlyNotes_stateLine kind) settings
  · intro policy
    exact (FilesystemStatus.announces policy).exactly (FilesystemStatus.tells policy)
      Report.onlyNotes_filesystemLines settings
  · intro family
    exact (OperationTable.announces family).exactly (OperationTable.tells family)
      (Report.onlyNotes_operationsLine family) settings

/-- A feed that stays stale counts on without a notification. -/
example :
    let lost := fun tick => Event.primary tick (.error (.transport .clients "refused"))
    let settings := { PollSettings.standard with staleAfter := 1 }
    let before := PollLoop.reached ClientList.monitor settings [.tick, .tick, lost 1]
    let effect := PollLoop.effectAfter ClientList.monitor settings [.tick, .tick, lost 1] (lost 2)
    effect.notified = false ∧
      Report.clientsLine before.feed = "clients [] [stale after 1 failures]" ∧
      Report.clientsLine effect.loop.feed = "clients [] [stale after 2 failures]" := by
  decide +kernel

end NfsWatch
