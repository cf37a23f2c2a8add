import MeshTestbed.Proofs.Sequence.Commands
import MeshTestbed.Run.Testbed

namespace MeshTestbed

variable {σ : Type}

namespace RunM

variable {runner : Runner σ} {tool : ClusterTool} {ns pod filter : String} {s s' : Session σ}

theorem afterCalls_of_yields_mapM {α β : Type} {f : α → RunM σ β} {command : α → Call}
    (hf : ∀ a s b s', (f a).Yields s b s' → s' = (s.call runner (command a)).2) {xs : List α}
    {bs : List β} (h : (xs.mapM f).Yields s bs s') :
    s' = s.afterCalls runner (xs.map command) := by
  induction xs generalizing s bs with
  | nil =>
    rw [List.mapM_nil] at h
    exact (yields_pure.1 h).2
  | cons x xs ih =>
    rw [List.mapM_cons] at h
    obtain ⟨b, t, hb, h⟩ := yields_bind.1 h
    obtain ⟨bs, u, hbs, h⟩ := yields_bind.1 h
    obtain ⟨-, rfl⟩ := yields_pure.1 h
    rw [ih hbs, hf x s b t hb]
    rfl

theorem call_of_yields_imagesOf {images : NamespaceListing}
    (h : (imagesOf runner tool ns).Yields s images s') :
    s' = (s.call runner ⟨tool.showImages ns, none⟩).2 := by
  rw [imagesOf, yields_call_bind] at h
  split at h <;> exact (yields_pure.1 h).2

theorem call_of_yields_packagesOf {packages : PackageListing}
    (h : (packagesOf runner tool filter ns pod).Yields s packages s') :
    s' = (s.call runner ⟨tool.showPackages ns pod, none⟩).2 := by
  rw [packagesOf, yields_call_bind] at h
  split at h <;> exact (yields_pure.1 h).2

end RunM

namespace Plan

/-- The stages up to the inventory. -/
def kept (p : Plan) (tool : ClusterTool) : List Stage :=
  p.lasting tool ++ (p.smokePair?.map (·.1)).toList

def removed (p : Plan) : List Stage := (p.smokePair?.map (·.2)).toList

theorem installation_eq {p : Plan} {tool : ClusterTool} :
    p.installation tool = p.kept tool ++ p.removed := by
  unfold installation kept removed
  rcases p.smokePair? with _ | ⟨verify, teardown⟩ <;> simp

variable {p : Plan} {tool : ClusterTool} {stage : Stage}

/-- How a plan comes to the stages that an install keeps. -/
inductive Makes (p : Plan) (tool : ClusterTool) : Stage → Prop where
  | grant (g : Grant) : p.Makes tool (grantStage tool g)
  | subscription (role path : String) : p.Makes tool
    (p.tornDown (.applyFrom ("apply-subscription-" ++ role) none path) (.manifest path) none)
  | operator (ns : Option String) (path : String) : p.Makes tool
    (p.tornDown (.applyFrom "apply-operator" ns path) (.manifest path) ns)
  | settling {stage : Stage} (h : p.Makes tool stage) (wait : Wait) (policy : TimeoutResponse) :
    p.Makes tool (stage.awaiting wait policy)
  | namespaceCreation (ns : String) : p.Makes tool (p.namespaceCreation ns)
  | controlPlane : p.Makes tool p.controlPlaneApply
  | memberRoll : p.Makes tool p.memberRollApply
  | smoke : p.Makes tool p.smokeVerify

theorem mem_of_mem_mapLast {α : Type} {f : α → α} {x : α} {xs : List α} (h : x ∈ mapLast f xs) :
    ∃ y ∈ xs, x = y ∨ x = f y := by
  induction xs using mapLast.induct with
  | case1 => cases h
  | case2 a => exact ⟨a, by simp, .inr (by simpa [mapLast] using h)⟩
  | case3 a b rest ih =>
    rcases List.mem_cons.1 h with rfl | h
    · exact ⟨x, by simp, .inl rfl⟩
    · obtain ⟨y, hy, hx⟩ := ih h
      exact ⟨y, List.mem_cons_of_mem _ hy, hx⟩

theorem makes_of_mem_operatorSetup (h : stage ∈ p.operatorSetup tool) : p.Makes tool stage := by
  obtain ⟨added, hadded, hstage⟩ := mem_of_mem_mapLast h
  have hmakes : p.Makes tool added := by
    rcases List.mem_append.1 hadded with hgrant | happly
    · obtain ⟨g, -, rfl⟩ := List.mem_map.1 hgrant
      exact .grant g
    · unfold operatorApplies at happly
      split at happly
      · obtain ⟨⟨role, path⟩, -, rfl⟩ := List.mem_map.1 happly
        exact .subscription role path
      · obtain rfl := List.mem_singleton.1 happly
        exact .operator _ _
  rcases hstage with rfl | rfl
  · exact hmakes
  · exact .settling hmakes _ _

theorem makes_of_mem_lasting (h : stage ∈ p.lasting tool) : p.Makes tool stage := by
  simp only [lasting, List.mem_append, or_assoc] at h
  rcases h with hoperators | hcontrolPlane | hworkload | hmemberRoll
  · split at hoperators
    · exact makes_of_mem_operatorSetup hoperators
    · cases hoperators
  · split at hcontrolPlane
    · rw [List.mem_cons, List.mem_singleton] at hcontrolPlane
      rcases hcontrolPlane with rfl | rfl
      · exact .namespaceCreation _
      · exact .controlPlane
    · cases hcontrolPlane
  · obtain ⟨ns, -, rfl⟩ := List.mem_map.1 hworkload
    exact .namespaceCreation ns
  · split at hmemberRoll
    · obtain rfl := List.mem_singleton.1 hmemberRoll
      exact .memberRoll
    · cases hmemberRoll

theorem eq_of_smokePair {verify teardown : Stage} (h : p.smokePair? = some (verify, teardown)) :
    verify = p.smokeVerify ∧ p.smokeVerify.undo? = some teardown := by
  unfold smokePair? at h
  split at h
  · obtain ⟨undoing, hundo, hpair⟩ := Option.map_eq_some_iff.1 h
    cases hpair
    exact ⟨rfl, hundo⟩
  · cases h

theorem makes_of_mem_kept (h : stage ∈ p.kept tool) : p.Makes tool stage := by
  rcases List.mem_append.1 h with hlasting | hverify
  · exact makes_of_mem_lasting hlasting
  · obtain ⟨pair, hpair, rfl⟩ := Option.map_eq_some_iff.1 (Option.mem_toList.1 hverify)
    rw [(eq_of_smokePair hpair).1]
    exact .smoke

theorem undo_of_mem_removed (h : stage ∈ p.removed) : p.smokeVerify.undo? = some stage := by
  obtain ⟨pair, hpair, rfl⟩ := Option.map_eq_some_iff.1 (Option.mem_toList.1 h)
  exact (eq_of_smokePair hpair).2

end Plan

namespace Testbed

variable (t : Testbed σ)

def auditedPods (inventory : Inventory) : List String :=
  let audited := t.plan.audit.bind fun audit =>
    (inventory.namespaces.find? fun n => n.ns == t.plan.controlPlane.ns).map fun images =>
      (audit, images)
  match audited with
  | some (audit, images) =>
    (images.pods.filter fun p => Text.contains p.pod audit.podFilter).map (·.pod)
  | none => []

/-- The commands of an inventory: images of each namespace, then packages of each audited pod. -/
def listingCalls (inventory : Inventory) : List Call :=
  t.plan.listedNamespaces.map (⟨t.tool.showImages ·, none⟩) ++
    (t.auditedPods inventory).map (⟨t.tool.showPackages t.plan.controlPlane.ns ·, none⟩)

variable {t : Testbed σ} {stages : List Stage} {sequence : SequenceRecord}
  {images : Option Inventory} {s s' u v : Session σ}

/-- An inventory is taken of a sequence that was not cancelled, by listing commands alone. -/
theorem yields_takeInventory (h : (t.takeInventory sequence).Yields s images s') :
    (images = none ↔ sequence.isCancelled = true) ∧
      s' = s.afterCalls t.runner (images.toList.flatMap t.listingCalls) := by
  unfold takeInventory at h
  split at h
  · next hcancelled =>
    obtain ⟨rfl, rfl⟩ := RunM.yields_pure.1 h
    exact ⟨by simp [hcancelled], rfl⟩
  next huncancelled =>
  obtain ⟨namespaces, u, hnamespaces, h⟩ := RunM.yields_bind.1 h
  have hu := RunM.afterCalls_of_yields_mapM (fun _ _ _ _ => RunM.call_of_yields_imagesOf)
    hnamespaces
  dsimp only at h
  split at h
  · next audit listed haudited =>
    obtain ⟨packages, v, hpackages, h⟩ := RunM.yields_bind.1 h
    obtain ⟨rfl, rfl⟩ := RunM.yields_pure.1 h
    have hv := RunM.afterCalls_of_yields_mapM (fun _ _ _ _ => RunM.call_of_yields_packagesOf)
      hpackages
    -- The audited pods are looked up by the namespace that their packages are then listed in.
    have hns : listed.ns = t.plan.controlPlane.ns := by
      obtain ⟨_, -, hmap⟩ := Option.bind_eq_some_iff.1 haudited
      obtain ⟨found, hfound, hpair⟩ := Option.map_eq_some_iff.1 hmap
      obtain rfl := (Prod.mk.inj hpair).2
      simpa using List.find?_some hfound
    refine ⟨by simp [huncancelled], ?_⟩
    rw [hv, hu]
    simp [listingCalls, auditedPods, haudited, hns, Session.afterCalls, Function.comp_def]
  · next haudited =>
    obtain ⟨packages, v, hpackages, h⟩ := RunM.yields_bind.1 h
    obtain ⟨rfl, rfl⟩ := RunM.yields_pure.1 hpackages
    obtain ⟨rfl, rfl⟩ := RunM.yields_pure.1 h
    refine ⟨by simp [huncancelled], ?_⟩
    rw [hu]
    simp [listingCalls, auditedPods, haudited]

abbrev probe (t : Testbed σ) : Call := ⟨t.tool.sessionCheck, none⟩

def HasSession (t : Testbed σ) (s : Session σ) : Prop :=
  ∃ output, (s.call t.runner t.probe).1 = .ok output ∧ output.isOk = true

theorem exists_yields_checkSession :
    ∃ checked, t.checkSession.Yields s checked (s.call t.runner t.probe).2 ∧
      (t.HasSession s → checked = .ok ()) := by
  unfold checkSession
  simp only [RunM.yields_call_bind]
  split
  · next output hanswer =>
    split
    · exact ⟨_, RunM.yields_pure.2 ⟨rfl, rfl⟩, fun _ => rfl⟩
    · next hbad =>
      refine ⟨_, RunM.yields_pure.2 ⟨rfl, rfl⟩, ?_⟩
      rintro ⟨output', houtput, hok⟩
      obtain rfl : output = output' := by simpa [hanswer] using houtput
      exact absurd hok hbad
  · next e hanswer =>
    refine ⟨_, RunM.yields_pure.2 ⟨rfl, rfl⟩, ?_⟩
    rintro ⟨output, houtput, -⟩
    simp [hanswer] at houtput

/-- The checks at entry let a run pass that is not cancelled, after the probe of the session. -/
theorem yields_enter (h : (t.enter stages).Yields s (.ok ()) s') :
    s' = (s.call t.runner ⟨t.tool.sessionCheck, none⟩).2 ∧ s'.cancelled = none := by
  unfold enter at h
  split at h
  · simp at h
  split at h
  · simp at h
  obtain ⟨checked, u, hchecked, h⟩ := RunM.yields_bind.1 h
  obtain ⟨_, hprobed, -⟩ := exists_yields_checkSession (t := t) (s := s)
  have hu : u = (s.call t.runner t.probe).2 := (hchecked.unique hprobed).2
  split at h
  · simp at h
  rw [RunM.yields_cancelled_bind] at h
  split at h
  · simp at h
  · next huncancelled =>
    obtain ⟨-, rfl⟩ := RunM.yields_pure.1 h
    exact ⟨hu, huncancelled⟩

/-- An install keeps what some stages leave, takes the inventory, and goes on if nothing stopped
it. -/
inductive Installed (t : Testbed σ) (s : Session σ) :
    SequenceRecord → Option Inventory → Session σ → Prop where
  | intro {rs₁ rs₂ : List StageRecord} {stop₁ stop₂ : Option Stop} {images : Option Inventory}
    {u v s' : Session σ} (hkept : t.conductor.Course (t.plan.kept t.tool) s rs₁ stop₁ u)
    (himages : images = none ↔ (SequenceRecord.mk .forward rs₁ stop₁).isCancelled = true)
    (hlisted : v = u.afterCalls t.runner (images.toList.flatMap t.listingCalls))
    (hremoved : t.conductor.Continues t.plan.removed stop₁ v rs₂ stop₂ s') :
    Installed t s ⟨.forward, rs₁ ++ rs₂, stop₁.or stop₂⟩ images s'

theorem installed_of_inventory {rs : List StageRecord} {stop : Option Stop}
    (hkept : t.conductor.Course (t.plan.kept t.tool) s rs stop u)
    (hinventory : (t.takeInventory ⟨.forward, rs, stop⟩).Yields u images v)
    (hlast : t.conductor.Continues t.plan.removed stop v [] none v) :
    Installed t s ⟨.forward, rs, stop⟩ images v := by
  obtain ⟨himages, hlisted⟩ := yields_takeInventory hinventory
  have hinstalled := Installed.intro hkept himages hlisted hlast
  rwa [List.append_nil, Option.or_none] at hinstalled

theorem installed_of_yields (h : t.installSequence.Yields s (sequence, images) s') :
    Installed t s sequence images s' := by
  unfold installSequence at h
  obtain ⟨⟨_, rs, stop⟩, u, hlasting, h⟩ := RunM.yields_bind.1 h
  obtain ⟨rfl, hlasting⟩ := Conductor.yields_run_iff.1 hlasting
  dsimp only at hlasting
  -- The smoke workload passes, stops the install or is not reached, or there is none.
  split at h
  · next verify teardown hpair =>
    have hkept : t.plan.kept t.tool = t.plan.lasting t.tool ++ [verify] := by
      simp [Plan.kept, hpair]
    have hremoved : t.plan.removed = [teardown] := by simp [Plan.removed, hpair]
    split at h
    · next hcomplete =>
      obtain rfl : stop = none := by simpa [SequenceRecord.isComplete] using hcomplete
      obtain ⟨⟨_, rs', stop'⟩, v, hverified, h⟩ := RunM.yields_bind.1 h
      obtain ⟨rfl, hverified⟩ := Conductor.yields_run_iff.1 hverified
      have hcourse : t.conductor.Course (_ ++ [verify]) s _ _ v := hlasting.append hverified
      rw [← hkept] at hcourse
      obtain ⟨images', w, hinventory, h⟩ := RunM.yields_bind.1 h
      split at h
      · next hpassed =>
        obtain rfl : stop' = none := by simpa [SequenceRecord.isComplete] using hpassed
        obtain ⟨⟨_, rs'', stop''⟩, x, hteardown, h⟩ := RunM.yields_bind.1 h
        obtain ⟨rfl, hteardown⟩ := Conductor.yields_run_iff.1 hteardown
        obtain ⟨hanswer, rfl⟩ := RunM.yields_pure.1 h
        cases hanswer
        obtain ⟨himages, hlisted⟩ := yields_takeInventory hinventory
        rw [← hremoved] at hteardown
        exact .intro hcourse himages hlisted hteardown
      · next hhalted =>
        obtain ⟨hanswer, rfl⟩ := RunM.yields_pure.1 h
        cases hanswer
        exact installed_of_inventory hcourse hinventory
          (Conductor.continues_of_stopped (Bool.eq_false_iff.2 hhalted))
    · next hhalted =>
      obtain ⟨images', v, hinventory, h⟩ := RunM.yields_bind.1 h
      obtain ⟨hanswer, rfl⟩ := RunM.yields_pure.1 h
      cases hanswer
      have hcourse : t.conductor.Course (_ ++ [verify]) s _ _ u :=
        hlasting.append (Conductor.continues_of_stopped (Bool.eq_false_iff.2 hhalted))
      rw [← hkept, List.append_nil, Option.or_none] at hcourse
      exact installed_of_inventory hcourse hinventory
        (Conductor.continues_of_stopped (Bool.eq_false_iff.2 hhalted))
  · next hpair =>
    obtain ⟨images', v, hinventory, h⟩ := RunM.yields_bind.1 h
    obtain ⟨hanswer, rfl⟩ := RunM.yields_pure.1 h
    cases hanswer
    have hkept : t.plan.kept t.tool = t.plan.lasting t.tool := by simp [Plan.kept, hpair]
    have hremoved : t.plan.removed = [] := by simp [Plan.removed, hpair]
    rw [← hkept] at hlasting
    exact installed_of_inventory hlasting hinventory (hremoved ▸ Conductor.continues_nil)

theorem Installed.names_prefix (h : Installed t s sequence images s') :
    sequence.stageNames <+: (t.plan.installation t.tool).map (·.name) := by
  cases h with
  | @intro rs₁ rs₂ stop₁ stop₂ _ u v _ hkept _ _ hremoved =>
    simp only [SequenceRecord.stageNames, Plan.installation_eq, List.map_append]
    rcases stop₁ with _ | halt
    · rw [hkept.names_eq, List.prefix_append_right_inj]
      exact Conductor.Course.names_prefix hremoved
    · obtain ⟨rfl, -, -⟩ := hremoved
      rw [List.map_nil, List.append_nil]
      exact hkept.names_prefix.trans (List.prefix_append _ _)

theorem exists_of_yields_install {runId : String} {record : InstallRecord}
    (h : (t.install runId).Yields s (.ok record) s') :
    ∃ u v, (t.enter (t.plan.installation t.tool)).Yields s (.ok ()) u ∧
      Installed t (u.told (.runStarted runId "install")) record.sequence record.images v ∧
      record.verdict = Verdict.ofSequence record.sequence ∧
      s' = v.told (.runFinished runId record.verdict.text) := by
  unfold install at h
  obtain ⟨entered, u, hentered, h⟩ := RunM.yields_bind.1 h
  split at h
  · simp at h
  rw [RunM.yields_stamp_bind, RunM.yields_tell_bind] at h
  obtain ⟨⟨sequence, images⟩, v, hsequence, h⟩ := RunM.yields_bind.1 h
  rw [RunM.yields_tell_bind, RunM.yields_stamp_bind] at h
  obtain ⟨hrecord, rfl⟩ := RunM.yields_pure.1 h
  cases hrecord
  exact ⟨u, v, hentered, installed_of_yields hsequence, rfl, rfl⟩

theorem installed_of_yields_install {runId : String} {record : InstallRecord}
    (h : (t.install runId).Yields s (.ok record) s') :
    ∃ u v, (t.enter (t.plan.installation t.tool)).Yields s (.ok ()) u ∧
      Installed t (u.told (.runStarted runId "install")) record.sequence record.images v ∧
      s' = v.told (.runFinished runId record.verdict.text) := by
  obtain ⟨u, v, hentered, hinstalled, -, hs'⟩ := exists_of_yields_install h
  exact ⟨u, v, hentered, hinstalled, hs'⟩

theorem verdict_of_yields_install {runId : String} {record : InstallRecord}
    (h : (t.install runId).Yields s (.ok record) s') :
    record.verdict = Verdict.ofSequence record.sequence := by
  obtain ⟨_, _, -, -, hverdict, -⟩ := exists_of_yields_install h
  exact hverdict

end Testbed

end MeshTestbed
