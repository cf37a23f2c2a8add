import MeshTestbed.Run.Session

/-!
`Yields` says what a run answers from one session and which session it leaves. Commands, sleeps and
readings of the session have one equivalence each, and so has their sequencing: a composed run is
taken apart, or put together, by rewriting.
-/

namespace MeshTestbed

variable {σ α β : Type} {s s' s'' : Session σ} {a : α} {b : β}

def Session.told (s : Session σ) (e : Event) : Session σ := { s with events := s.events ++ [e] }

def Runner.after (runner : Runner σ) (memory : σ) (calls : List Call) : σ :=
  calls.foldl (fun memory c => (runner.reply memory c).2) memory

theorem Runner.after_append {runner : Runner σ} {memory : σ} {calls later : List Call} :
    runner.after memory (calls ++ later) = runner.after (runner.after memory calls) later := by
  simp [Runner.after]

theorem Runner.after_concat {runner : Runner σ} {memory : σ} {calls : List Call} {c : Call} :
    runner.after memory (calls ++ [c]) = (runner.reply (runner.after memory calls) c).2 :=
  after_append

namespace RunM

def outcome (m : RunM σ α) (s : Session σ) : Except Fault α × Session σ := m.run.run s

/-- Started in the session `s`, the run answers `a` and leaves the session as `s'`. -/
def Yields (m : RunM σ α) (s : Session σ) (a : α) (s' : Session σ) : Prop :=
  m.outcome s = (.ok a, s')

theorem Yields.unique {m : RunM σ α} {a' : α} {t : Session σ}
    (h : m.Yields s a s') (h' : m.Yields s a' t) : a = a' ∧ s' = t := by
  have he : ((.ok a, s') : Except Fault α × Session σ) = (.ok a', t) := h.symm.trans h'
  simpa using he

theorem exists_yields {m : RunM σ α} (h : (m.outcome s).1.isOk = true) :
    ∃ a s', m.Yields s a s' := by
  rcases hm : m.outcome s with ⟨e | a, s'⟩
  · rw [hm] at h
    cases h
  · exact ⟨a, s', hm⟩

theorem exists_yields_of_map {m : RunM σ α} {f : α → β}
    (h : (m.outcome s).1.toOption.map f = some b) : ∃ a s', m.Yields s a s' ∧ f a = b := by
  rcases hm : m.outcome s with ⟨e | a, s'⟩
  · simp [hm, Except.toOption] at h
  · exact ⟨a, s', hm, by simpa [hm, Except.toOption] using h⟩

theorem exists_yields_ok_of_map {ε : Type} {m : RunM σ (Except ε α)} {f : α → β}
    (h : ((m.outcome s).1.toOption.bind Except.toOption).map f = some b) :
    ∃ a s', m.Yields s (.ok a) s' ∧ f a = b := by
  rcases hm : m.outcome s with ⟨e | e | a, s'⟩
  · simp [hm, Except.toOption] at h
  · simp [hm, Except.toOption] at h
  · exact ⟨a, s', hm, by simpa [hm, Except.toOption] using h⟩

theorem exists_yields_ok {ε : Type} {m : RunM σ (Except ε α)}
    (h : ((m.outcome s).1.toOption.bind Except.toOption).isSome = true) :
    ∃ a s', m.Yields s (.ok a) s' := by
  obtain ⟨a, ha⟩ := Option.isSome_iff_exists.1 h
  obtain ⟨a, s', hyields, -⟩ := exists_yields_ok_of_map (f := id) (by simpa using ha)
  exact ⟨a, s', hyields⟩

theorem outcome_bind (m : RunM σ α) (f : α → RunM σ β) (s : Session σ) :
    outcome (m >>= f) s =
      match m.outcome s with
      | (.ok a, s') => (f a).outcome s'
      | (.error e, s') => (.error e, s') := by
  unfold outcome ExceptT.run StateT.run
  simp only [bind, ExceptT.bind, ExceptT.mk, StateT.bind, ExceptT.bindCont]
  rcases m s with ⟨_ | _, _⟩ <;> rfl

@[simp] theorem yields_pure {a' : α} : Yields (pure a) s a' s' ↔ a' = a ∧ s' = s := by
  change ((.ok a, s) : Except Fault α × Session σ) = (.ok a', s') ↔ _
  simp [eq_comm]

theorem yields_bind {m : RunM σ α} {f : α → RunM σ β} :
    Yields (m >>= f) s b s'' ↔ ∃ a s', m.Yields s a s' ∧ (f a).Yields s' b s'' := by
  rw [Yields, outcome_bind]
  rcases hm : m.outcome s with ⟨e | a, t⟩
  · simp [Yields, hm]
  · constructor
    · exact fun h => ⟨a, t, hm, h⟩
    · rintro ⟨a', t', h, hf⟩
      obtain ⟨rfl, rfl⟩ := Yields.unique hm h
      exact hf

@[simp] theorem not_yields_throw {e : Fault} : ¬ Yields (throw e) s a s' := by
  change ¬ ((.error e, s) : Except Fault α × Session σ) = (.ok a, s')
  simp

/-- A fault leaves out what was to follow. -/
theorem fault_bind {m : RunM σ α} {f : α → RunM σ β} {e : Fault}
    (h : (m.outcome s).1 = .error e) : (outcome (m >>= f) s).1 = .error e := by
  rw [outcome_bind]
  rcases hm : m.outcome s with ⟨e' | a, t⟩ <;> simp_all

theorem outcome_bind_of_fault {m : RunM σ α} {f : α → RunM σ β} {e : Fault}
    (h : m.outcome s = (.error e, s')) : outcome (m >>= f) s = (.error e, s') := by
  rw [outcome_bind, h]

@[simp] theorem outcome_pure : outcome (pure a) s = (.ok a, s) := rfl

@[simp] theorem outcome_throw {e : Fault} : outcome (throw e : RunM σ α) s = (.error e, s) := rfl

/-- A step that always answers gives way to what follows it. -/
theorem outcome_bind_of_outcome {m : RunM σ α} {f : α → RunM σ β} {t : Session σ}
    (h : m.outcome s = (.ok a, t)) : outcome (m >>= f) s = (f a).outcome t := by
  rw [outcome_bind, h]

theorem outcome_get_bind {f : Session σ → RunM σ β} :
    outcome (get >>= f) s = (f s).outcome s :=
  outcome_bind_of_outcome rfl

theorem outcome_call_bind {runner : Runner σ} {c : Call}
    {f : Except CommandFailure Completion → RunM σ β} :
    outcome (RunM.call runner c >>= f) s =
      (f (s.call runner c).1).outcome (s.call runner c).2 :=
  outcome_bind_of_outcome rfl

theorem outcome_sleep_bind {runner : Runner σ} {interval : Span} {f : Option String → RunM σ β} :
    outcome (RunM.sleep runner interval >>= f) s =
      (f (s.sleep runner interval.ceilMillis).1).outcome
        (s.sleep runner interval.ceilMillis).2 :=
  outcome_bind_of_outcome rfl

theorem outcome_tell_bind {e : Event} {f : Unit → RunM σ β} :
    outcome (RunM.tell e >>= f) s = (f ()).outcome (s.told e) :=
  outcome_bind_of_outcome rfl

theorem outcome_stamp_bind {f : Stamp → RunM σ β} :
    outcome (RunM.stamp >>= f) s = (f s.stamp).outcome s :=
  outcome_bind_of_outcome rfl

theorem outcome_cancelled_bind {f : Option String → RunM σ β} :
    outcome (RunM.cancelled >>= f) s = (f s.cancelled).outcome s :=
  outcome_bind_of_outcome rfl

theorem yields_of_outcome_eq {m m' : RunM σ α} {t : Session σ}
    (h : m.outcome s = m'.outcome t) : m.Yields s a s' ↔ m'.Yields t a s' := by
  rw [Yields, Yields, h]

@[simp] theorem yields_get_bind {f : Session σ → RunM σ β} :
    Yields (get >>= f) s b s'' ↔ (f s).Yields s b s'' :=
  yields_of_outcome_eq outcome_get_bind

@[simp] theorem yields_call_bind {runner : Runner σ} {c : Call}
    {f : Except CommandFailure Completion → RunM σ β} :
    Yields (RunM.call runner c >>= f) s b s'' ↔
      (f (s.call runner c).1).Yields (s.call runner c).2 b s'' :=
  yields_of_outcome_eq outcome_call_bind

@[simp] theorem yields_sleep_bind {runner : Runner σ} {interval : Span}
    {f : Option String → RunM σ β} :
    Yields (RunM.sleep runner interval >>= f) s b s'' ↔
      (f (s.sleep runner interval.ceilMillis).1).Yields
        (s.sleep runner interval.ceilMillis).2 b s'' :=
  yields_of_outcome_eq outcome_sleep_bind

@[simp] theorem yields_tell_bind {e : Event} {f : Unit → RunM σ β} :
    Yields (RunM.tell e >>= f) s b s'' ↔ (f ()).Yields (s.told e) b s'' :=
  yields_of_outcome_eq outcome_tell_bind

@[simp] theorem yields_stamp_bind {f : Stamp → RunM σ β} :
    Yields (RunM.stamp >>= f) s b s'' ↔ (f s.stamp).Yields s b s'' :=
  yields_of_outcome_eq outcome_stamp_bind

@[simp] theorem yields_cancelled_bind {f : Option String → RunM σ β} :
    Yields (RunM.cancelled >>= f) s b s'' ↔ (f s.cancelled).Yields s b s'' :=
  yields_of_outcome_eq outcome_cancelled_bind

end RunM

namespace Session

variable {runner : Runner σ} {c : Call} {e : Event} {t ms : Nat}

@[simp] theorem memory_told : (s.told e).memory = s.memory := rfl

@[simp] theorem now_told : (s.told e).now = s.now := rfl

@[simp] theorem cancelled_told : (s.told e).cancelled = s.cancelled := rfl

@[simp] theorem timer_told : (s.told e).timer = s.timer := rfl

@[simp] theorem log_told : (s.told e).log = s.log := rfl

@[simp] theorem events_told : (s.told e).events = s.events ++ [e] := rfl

@[simp] theorem now_moveTo : (s.moveTo t).now = t := by
  unfold moveTo
  split <;> (try split) <;> rfl

@[simp] theorem memory_moveTo : (s.moveTo t).memory = s.memory := by
  unfold moveTo
  split <;> (try split) <;> rfl

@[simp] theorem log_moveTo : (s.moveTo t).log = s.log := by
  unfold moveTo
  split <;> (try split) <;> rfl

@[simp] theorem events_moveTo : (s.moveTo t).events = s.events := by
  unfold moveTo
  split <;> (try split) <;> rfl

@[simp] theorem now_advance : (s.advance ms).now = s.now + ms := by
  unfold advance
  split
  · simp_all
  · simp

@[simp] theorem memory_advance : (s.advance ms).memory = s.memory := by
  unfold advance
  split <;> simp

@[simp] theorem log_advance : (s.advance ms).log = s.log := by
  unfold advance
  split <;> simp

@[simp] theorem events_advance : (s.advance ms).events = s.events := by
  unfold advance
  split <;> simp

theorem moveTo_of_due {due : Nat} {reason : String} (htimer : s.timer = some (due, reason))
    (hdue : due ≤ t) : s.moveTo t = { s.cancel reason with now := t, timer := none } := by
  simp [moveTo, htimer, hdue]

theorem moveTo_of_not_due (h : ∀ due reason, s.timer = some (due, reason) → t < due) :
    s.moveTo t = { s with now := t } := by
  unfold moveTo
  split
  · next due reason htimer => rw [if_neg (Nat.not_le.2 (h due reason htimer))]
  · rfl

theorem answer_call : (s.call runner c).1 = (runner.reply s.memory c).1.result := rfl

@[simp] theorem memory_call : (s.call runner c).2.memory = (runner.reply s.memory c).2 := by
  simp only [call]
  split <;> simp [Session.cancel]

@[simp] theorem log_call :
    (s.call runner c).2.log = ⟨c, s.now, s.cancelled.isSome⟩ :: s.log := by
  simp only [call]
  split <;> simp [Session.cancel]

@[simp] theorem events_call : (s.call runner c).2.events = s.events := by
  simp only [call]
  split <;> simp [Session.cancel]

@[simp] theorem now_call :
    (s.call runner c).2.now = s.now + (runner.reply s.memory c).1.duration := by
  simp only [call]
  split <;> simp [Session.cancel]

@[simp] theorem calls_told : (s.told e).calls = s.calls := rfl

@[simp] theorem calls_call : (s.call runner c).2.calls = s.calls ++ [c] := by
  simp [Session.calls]

@[simp] theorem memory_sleep : (s.sleep runner ms).2.memory = s.memory := by
  unfold sleep
  dsimp only
  split <;> (repeat' split) <;> simp

@[simp] theorem log_sleep : (s.sleep runner ms).2.log = s.log := by
  unfold sleep
  dsimp only
  split <;> (repeat' split) <;> simp

@[simp] theorem events_sleep : (s.sleep runner ms).2.events = s.events := by
  unfold sleep
  dsimp only
  split <;> (repeat' split) <;> simp

@[simp] theorem calls_sleep : (s.sleep runner ms).2.calls = s.calls := by
  simp [Session.calls]

/-- A sleep that is cut short leaves the session cancelled for the reason that it answers. -/
theorem cancelled_sleep {reason : String} (h : (s.sleep runner ms).1 = some reason) :
    (s.sleep runner ms).2.cancelled = some reason := by
  unfold sleep at h ⊢
  dsimp only at h ⊢
  split at h
  · simp_all
  · next due timed hnone htimer =>
    have fires {t : Nat} (hdue : due ≤ t) : (s.moveTo t).cancelled = some timed := by
      rw [moveTo_of_due htimer hdue]
      simp [Session.cancel, hnone]
    split at h
    · next hlt =>
      rw [if_pos hlt, fires (by omega)]
      exact h
    · next hlt =>
      split at h
      · next heq =>
        rw [if_neg hlt, if_pos heq, fires (by omega)]
        simp_all
      · simp at h
  · simp at h

/-- A cancellation that the session knows of, the later one knows of as well, with its reason. -/
def KeepsCancellation (s s' : Session σ) : Prop :=
  ∀ reason, s.cancelled = some reason → s'.cancelled = some reason

namespace KeepsCancellation

theorem refl : s.KeepsCancellation s := fun _ h => h

theorem trans (h : s.KeepsCancellation s') (h' : s'.KeepsCancellation s'') :
    s.KeepsCancellation s'' :=
  fun reason hcancelled => h' reason (h reason hcancelled)

theorem cancel {later : String} : s.KeepsCancellation (s.cancel later) := by
  intro reason hcancelled
  simp [Session.cancel, hcancelled]

theorem moveTo : s.KeepsCancellation (s.moveTo t) := by
  intro reason hcancelled
  unfold Session.moveTo
  split
  · split
    · exact cancel reason hcancelled
    · exact hcancelled
  · exact hcancelled

theorem advance : s.KeepsCancellation (s.advance ms) := by
  unfold Session.advance
  split
  · exact .refl
  · exact moveTo

theorem call : s.KeepsCancellation (s.call runner c).2 := by
  intro reason hcancelled
  simp only [Session.call]
  split
  · exact advance reason hcancelled
  · exact cancel reason (advance reason hcancelled)

theorem sleep : s.KeepsCancellation (s.sleep runner ms).2 := by
  intro reason hcancelled
  simp [Session.sleep, hcancelled]

end KeepsCancellation

/-- Between the sessions these commands were handed to the runner, and no other. -/
structure Issued (runner : Runner σ) (calls : List Call) (s s' : Session σ) : Prop where
  calls_eq : s'.calls = s.calls ++ calls
  memory_eq : s'.memory = runner.after s.memory calls

namespace Issued

variable {calls later : List Call}

theorem none (hcalls : s'.calls = s.calls) (hmemory : s'.memory = s.memory) :
    Issued runner [] s s' :=
  ⟨by rw [hcalls, List.append_nil], hmemory⟩

theorem call : Issued runner [c] s (s.call runner c).2 := ⟨calls_call, memory_call⟩

theorem trans (h : Issued runner calls s s') (h' : Issued runner later s' s'') :
    Issued runner (calls ++ later) s s'' :=
  ⟨by rw [h'.calls_eq, h.calls_eq, List.append_assoc],
    by rw [h'.memory_eq, h.memory_eq, Runner.after_append]⟩

theorem trans_none (h : Issued runner calls s s') (hcalls : s''.calls = s'.calls)
    (hmemory : s''.memory = s'.memory) : Issued runner calls s s'' :=
  ⟨by rw [hcalls, h.calls_eq], by rw [hmemory, h.memory_eq]⟩

theorem told (h : Issued runner calls s s') : Issued runner calls s (s'.told e) :=
  h.trans_none calls_told memory_told

end Issued

/-- The session once commands have been answered, one after the other. -/
def afterCalls (s : Session σ) (runner : Runner σ) (calls : List Call) : Session σ :=
  calls.foldl (fun s c => (s.call runner c).2) s

theorem keepsCancellation_afterCalls {calls : List Call} :
    s.KeepsCancellation (s.afterCalls runner calls) := by
  induction calls generalizing s with
  | nil => exact .refl
  | cons c calls ih => exact KeepsCancellation.call.trans ih

theorem issued_afterCalls {calls : List Call} :
    Issued runner calls s (s.afterCalls runner calls) := by
  induction calls generalizing s with
  | nil => exact .none rfl rfl
  | cons c calls ih => exact Issued.call.trans ih

end Session

end MeshTestbed
