import NfsWatch.Monitor.ClientList
import NfsWatch.Monitor.OperationTable
import NfsWatch.Monitor.StateSummary
import NfsWatch.Proofs.Monitor.ClientSummary
import NfsWatch.Proofs.Poll.Announced
import NfsWatch.Proofs.Reconcile.Reported

/-!
# What the monitors report as a change

For each of the five monitors the flag that it hands to its loop is exact. It is put together from
the flags of lists, sections, fields, picks and entries, and what each of those stands for is said
where it is reconciled. Only the view of the file system has values that can be written differently
and denote the same; its own sameness disregards that, elsewhere it is equality.
-/

namespace NfsWatch

/-! ## Monitors without follow-ups or operator input -/

section

variable {P V : Type} {Same : V → V → Prop} {monitor : Monitor P V Empty}

/-- With neither, only payloads matter. -/
theorem Announces.of_payload (hresponse : monitor.applyFollowUp = noFollowUp)
    (h : ∀ view payload, (monitor.apply view payload).changed = false →
      (monitor.apply view payload).view = view) : Announces monitor id where
  payload := h
  response := by
    intro view endpoint response filed hfiled
    rw [hresponse] at hfiled
    exact (congrArg Prod.fst (Except.ok.inj hfiled)).symm
  command := nofun

theorem Tells.of_payload (h : ∀ view payload, (monitor.apply view payload).changed = true →
    ¬ Same view (monitor.apply view payload).view) : Tells monitor Same where
  payload := h
  command := nofun

end

/-! ## Clients -/

namespace ClientList

theorem announces : Announces monitor id where
  payload := by
    intro view ids hquiet
    let clients := view.clients.reconcileSorted ids
    let selection := view.selection.reconcile clients.1.items
    obtain ⟨hclients, hselection⟩ : clients.2.changed = false ∧ selection.2 = false :=
      Bool.or_eq_false_iff.mp hquiet
    show View.mk clients.1 selection.1 = view
    rw [ReconciledList.reconcileSorted_quiet hclients, Selection.reconcile_quiet hselection]
  response := by
    intro view endpoint response filed hfiled
    exact (congrArg Prod.fst (Except.ok.inj hfiled)).symm
  command := by
    rintro view ⟨client⟩ hquiet
    exact congrArg (View.mk view.clients) (Selection.select_quiet hquiet)

theorem tells : Tells monitor Eq where
  payload := by
    intro view ids hchanged heq
    rcases Bool.or_eq_true_iff.mp hchanged with hclients | hselection
    · exact ReconciledList.reconcileSorted_visible hclients (congrArg View.clients heq).symm
    · exact Selection.reconcile_visible hselection (congrArg View.selected heq).symm
  command := by
    rintro view ⟨client⟩ hchanged heq
    exact Selection.select_visible hchanged (congrArg View.selected heq).symm

end ClientList

/-! ## One client -/

namespace ClientSummary

theorem StateList.apply_quiet {states : StateList} {ids : List String}
    (h : (states.apply ids).2 = false) : (states.apply ids).1 = states := by
  let reconciled := states.ids.reconcileSorted ids
  let selection := states.selection.reconcile reconciled.1.items
  obtain ⟨hids, hselection⟩ : reconciled.2.changed = false ∧ selection.2 = false :=
    Bool.or_eq_false_iff.mp h
  show StateList.mk reconciled.1 selection.1 = states
  rw [ReconciledList.reconcileSorted_quiet hids, Selection.reconcile_quiet hselection]

theorem StateList.apply_visible {states : StateList} {ids : List String}
    (h : (states.apply ids).2 = true) : (states.apply ids).1 ≠ states := by
  intro heq
  rcases Bool.or_eq_true_iff.mp h with hids | hselection
  · exact ReconciledList.reconcileSorted_visible hids (congrArg StateList.ids heq)
  · exact Selection.reconcile_visible hselection (congrArg StateList.selected heq)

theorem StateList.select_quiet {states : StateList} {id : String}
    (h : (states.select id).2 = false) : (states.select id).1 = states :=
  congrArg (StateList.mk states.ids) (Selection.select_quiet h)

theorem StateList.select_visible {states : StateList} {id : String}
    (h : (states.select id).2 = true) : (states.select id).1 ≠ states := by
  intro heq
  exact Selection.select_visible h (congrArg StateList.selected heq)

theorem apply_quiet {view : View} {client : ClientDetail}
    (h : (apply view client).changed = false) : (apply view client).view = view := by
  unfold apply at h ⊢
  dsimp only at h ⊢
  split at h
  · exact nomatch h
  · rename_i hsessions
    rw [if_neg hsessions]
    simp only [Bool.or_eq_false_iff, bne_eq_false_iff_eq] at h
    obtain ⟨⟨⟨hconfirmed, hopens⟩, hdelegations⟩, hlayouts⟩ := h
    rw [ReconciledList.reconcileSorted_quiet (Bool.eq_false_iff.mpr hsessions), ← hconfirmed,
      StateList.apply_quiet hopens, StateList.apply_quiet hdelegations,
      StateList.apply_quiet hlayouts]

theorem apply_visible {view : View} {client : ClientDetail}
    (h : (apply view client).changed = true) : (apply view client).view ≠ view := by
  intro heq
  have hsessions := congrArg View.sessions heq
  have hconfirmed := congrArg View.confirmed heq
  have hstates := fun kind => congrArg (View.states · kind) heq
  simp only [apply_sessions, apply_confirmed, apply_states] at hsessions hconfirmed hstates
  unfold apply at h
  dsimp only at h
  split at h
  · rename_i hinstalled
    exact ReconciledList.reconcileSorted_visible hinstalled hsessions
  · simp only [Bool.or_eq_true, bne_iff_ne] at h
    rcases h with ((hmoved | hopens) | hdelegations) | hlayouts
    · exact hmoved hconfirmed.symm
    · exact StateList.apply_visible hopens (hstates .opens)
    · exact StateList.apply_visible hdelegations (hstates .delegations)
    · exact StateList.apply_visible hlayouts (hstates .layouts)

theorem announces (client : String) : Announces (monitor client) id where
  payload := by
    intro view detail hquiet
    exact apply_quiet hquiet
  response := by
    intro view endpoint response filed hfiled
    rcases applyFollowUp_cases hfiled with ⟨rfl, _⟩ | ⟨_, _, _, _, _, _, hchanged⟩
    · rfl
    · exact nomatch hchanged
  command := by
    rintro view ⟨kind, state⟩ hquiet
    show view.withStates kind ((view.states kind).select state).1 = view
    rw [StateList.select_quiet hquiet]
    cases kind <;> rfl

theorem tells (client : String) : Tells (monitor client) Eq where
  payload := by
    intro view detail hchanged heq
    exact apply_visible hchanged heq.symm
  command := by
    rintro view ⟨kind, state⟩ hchanged heq
    have hstates : view.states kind =
        (view.withStates kind ((view.states kind).select state).1).states kind :=
      congrArg (View.states · kind) heq
    rw [states_withStates, if_pos rfl] at hstates
    exact StateList.select_visible hchanged hstates.symm

end ClientSummary

/-! ## One state -/

namespace StateSummary

theorem announces (client state : String) : Announces (monitor client state) id := by
  refine Announces.of_payload rfl ?_
  intro view detail hquiet
  show { view with detail := some detail } = view
  rw [← bne_eq_false_iff_eq.mp hquiet]

theorem tells (client state : String) : Tells (monitor client state) Eq := by
  refine Tells.of_payload ?_
  intro view detail hchanged heq
  exact bne_iff_ne.mp hchanged (congrArg View.detail heq)

end StateSummary

/-! ## Operations -/

namespace OperationTable

theorem announces (family : ProtocolFamily) : Announces (monitor family) id := by
  refine Announces.of_payload rfl ?_
  intro view counters hquiet
  exact congrArg View.mk (ReconciledList.reconcileKeyed_quiet hquiet)

theorem tells (family : ProtocolFamily) : Tells (monitor family) Eq := by
  refine Tells.of_payload ?_
  intro view counters hchanged heq
  have hlist : view.operations = (view.operations.reconcileKeyed counters.rows).1 :=
    congrArg View.operations heq
  have hpatch : ∀ current next : OperationCount, (Keyed.patch current next).2 = true →
      ¬ current = (Keyed.patch current next).1 := by
    intro current next hwritten hsame
    exact (LawfulKeyed.patch_written current next).mp hwritten hsame.symm
  refine ReconciledList.reconcileKeyed_visible hpatch hchanged ⟨?_, ?_⟩
  · rw [← hlist]
    exact List.forall₂_refl _
  · rw [← hlist]

end OperationTable

/-! ## The file system -/

namespace FilesystemStatus

/-- Views with the same figures, records and panels. -/
structure View.Same (first second : View) : Prop where
  stats : first.stats = second.stats
  devices : first.devices.Same Device.Same second.devices
  replicas : first.replicas.Same Replica.Same second.replicas

theorem announces (policy : HiddenPolicy) : Announces (monitor policy) id := by
  refine Announces.of_payload rfl ?_
  intro view snapshot hquiet
  obtain ⟨hrecords, hreplicas⟩ := Bool.or_eq_false_iff.mp hquiet
  obtain ⟨hstats, hdevices⟩ := Bool.or_eq_false_iff.mp hrecords
  have hfigures : (view.stats.patch snapshot.stats).1 = view.stats := FsStats.patch_quiet hstats
  show View.mk (view.stats.patch snapshot.stats).1 (view.devices.apply snapshot.devices policy).1
    (view.replicas.apply snapshot.replicas policy).1 = view
  rw [hfigures, Section.apply_quiet hdevices, Section.apply_quiet hreplicas]

theorem tells (policy : HiddenPolicy) : Tells (monitor policy) View.Same := by
  refine Tells.of_payload ?_
  intro view snapshot hchanged hsame
  rcases Bool.or_eq_true_iff.mp hchanged with hrecords | hreplicas
  · rcases Bool.or_eq_true_iff.mp hrecords with hstats | hdevices
    · exact (FsStats.patch_written _ _).mp hstats hsame.stats.symm
    · exact Section.apply_visible Device.patch_visible hdevices hsame.devices
  · exact Section.apply_visible Replica.patch_visible hreplicas hsame.replicas

end FilesystemStatus

end NfsWatch
