import FilingName.Logged
import Mathlib.Data.List.Forall2

/-! Laws of work that keeps a log. A row of steps succeeds exactly when every step does, and its log
is then what the steps logged, one after the other. -/
namespace FilingName.Logged

variable {Entry Fault α β γ : Type}

attribute [ext] Logged

@[simp] theorem pure_log (a : α) : (Pure.pure a : Logged Entry Fault α).log = [] := rfl

@[simp] theorem pure_outcome (a : α) : (Pure.pure a : Logged Entry Fault α).outcome = .ok a := rfl

@[simp] private theorem pure_inj {a b : α} :
    (Pure.pure a : Logged Entry Fault α) = Pure.pure b ↔ a = b := by
  simp [Logged.ext_iff]

/-- Work without a fault goes on with its result, and the logs follow one another. -/
theorem bind_of_ok {x : Logged Entry Fault α} {a : α} (h : x.outcome = .ok a)
    (f : α → Logged Entry Fault β) : x >>= f = ⟨x.log ++ (f a).log, (f a).outcome⟩ := by
  change Logged.bind x f = _
  simp only [Logged.bind, h]

/-- A fault ends the work, with the log that there is. -/
theorem bind_of_error {x : Logged Entry Fault α} {fault : Fault} (h : x.outcome = .error fault)
    (f : α → Logged Entry Fault β) : x >>= f = ⟨x.log, .error fault⟩ := by
  change Logged.bind x f = _
  simp only [Logged.bind, h]

theorem bind_eq_ok {x : Logged Entry Fault α} {f : α → Logged Entry Fault β} {b : β} :
    (x >>= f).outcome = .ok b ↔ ∃ a, x.outcome = .ok a ∧ (f a).outcome = .ok b := by
  cases h : x.outcome with
  | ok a => simp [bind_of_ok h]
  | error fault => simp [bind_of_error h]

/-- What is only looked up or computed logs nothing. -/
@[simp] theorem lift_bind_ok (a : α) (f : α → Logged Entry Fault β) :
    (liftM (.ok a : Except Fault α) >>= f : Logged Entry Fault β) = f a := by
  change Logged.bind ⟨[], .ok a⟩ f = f a
  simp [Logged.bind]

@[simp] theorem lift_bind_error (fault : Fault) (f : α → Logged Entry Fault β) :
    (liftM (.error fault : Except Fault α) >>= f : Logged Entry Fault β) = ⟨[], .error fault⟩ := rfl

@[simp] theorem lift_log (x : Except Fault α) : (liftM x : Logged Entry Fault α).log = [] := rfl

@[simp] theorem lift_outcome (x : Except Fault α) :
    (liftM x : Logged Entry Fault α).outcome = x := rfl

instance : LawfulMonad (Logged Entry Fault) := by
  refine LawfulMonad.mk' _ ?_ ?_ ?_
  · intro α x
    change Logged.bind x _ = x
    cases h : x.outcome <;> simp [Logged.bind, Logged.pure, h, Logged.ext_iff]
  · intro α β a f
    change Logged.bind (Logged.pure a) f = f a
    simp [Logged.bind, Logged.pure]
  · intro α β γ x f g
    cases hx : x.outcome with
    | error fault => simp [bind_of_error hx, bind_of_error]
    | ok a =>
      cases hf : (f a).outcome with
      | error fault => simp [bind_of_ok hx, bind_of_error, hf]
      | ok b => simp [bind_of_ok hx, bind_of_ok (a := b), hf]

@[simp] theorem map_log (f : α → β) (x : Logged Entry Fault α) : (f <$> x).log = x.log := by
  rw [map_eq_pure_bind]
  cases h : x.outcome with
  | ok a => simp [bind_of_ok h]
  | error fault => simp [bind_of_error h]

@[simp] theorem map_outcome (f : α → β) (x : Logged Entry Fault α) :
    (f <$> x).outcome = f <$> x.outcome := by
  rw [map_eq_pure_bind]
  cases h : x.outcome with
  | ok a => simp [bind_of_ok h]
  | error fault => simp [bind_of_error h]

theorem map_eq_ok {f : α → β} {x : Logged Entry Fault α} {b : β} :
    (f <$> x).outcome = .ok b ↔ ∃ a, x.outcome = .ok a ∧ f a = b := by
  cases h : x.outcome <;> simp [h]

theorem map_eq_error {f : α → β} {x : Logged Entry Fault α} {fault : Fault} :
    (f <$> x).outcome = .error fault ↔ x.outcome = .error fault := by
  cases h : x.outcome <;> simp [h]

/-- Two rows of steps agree when each step of one is a view of the step of the other. -/
theorem mapM_map_comm (view : β → γ) (f : α → Logged Entry Fault β) (l : List α) :
    l.mapM (fun a => view <$> f a) = List.map view <$> l.mapM f := by
  induction l with
  | nil => simp
  | cons a l ih => simp only [List.mapM_cons, ih, bind_map_left, map_bind, map_pure, List.map_cons]

/-- Two rows of steps are the same where each step of one is the step of the other. -/
theorem mapM_of_forall₂ {f : α → Logged Entry Fault γ} {g : β → Logged Entry Fault γ} {l : List α}
    {l' : List β} (h : List.Forall₂ (fun a b => f a = g b) l l') : l.mapM f = l'.mapM g := by
  induction h with
  | nil => rfl
  | cons hstep _ ih => rw [List.mapM_cons, List.mapM_cons, hstep, ih]

/-- A row of steps is the same for steps that are the same on its items. -/
theorem mapM_congr {f g : α → Logged Entry Fault β} {l : List α} (h : ∀ a ∈ l, f a = g a) :
    l.mapM f = l.mapM g :=
  mapM_of_forall₂ (List.forall₂_same.mpr h)

/-- A row of steps succeeds with the results of its steps, in order. -/
theorem mapM_eq_ok {f : α → Logged Entry Fault β} {l : List α} {bs : List β} :
    (l.mapM f).outcome = .ok bs ↔ List.Forall₂ (fun a b => (f a).outcome = .ok b) l bs := by
  induction l generalizing bs with
  | nil => cases bs <;> simp
  | cons a l ih =>
    simp only [List.mapM_cons, bind_eq_ok, ih, List.forall₂_cons_left_iff, pure_outcome,
      Except.ok.injEq]
    constructor
    · rintro ⟨b, hb, bs', hbs, rfl⟩
      exact ⟨b, bs', hb, hbs, rfl⟩
    · rintro ⟨b, bs', hb, hbs, rfl⟩
      exact ⟨b, hb, bs', hbs, rfl⟩

/-- Every step of a row succeeds, or the row ends at the first that does not, with its fault and
what was logged up to there. -/
theorem mapM_ok_or_error (f : α → Logged Entry Fault β) (l : List α) :
    (∀ a ∈ l, ∃ b, (f a).outcome = .ok b) ∨
      ∃ before a after fault, l = before ++ a :: after ∧
        (∀ b ∈ before, ∃ c, (f b).outcome = .ok c) ∧ (f a).outcome = .error fault ∧
        l.mapM f = ⟨(before.flatMap fun b => (f b).log) ++ (f a).log, .error fault⟩ := by
  induction l with
  | nil => exact .inl (List.forall_mem_nil _)
  | cons a l ih =>
    rw [List.mapM_cons]
    cases ha : (f a).outcome with
    | error fault =>
      exact .inr ⟨[], a, l, fault, rfl, List.forall_mem_nil _, ha, bind_of_error ha _⟩
    | ok b =>
      rcases ih with hall | ⟨before, a', after, fault, rfl, hbefore, ha', hl⟩
      · exact .inl (List.forall_mem_cons.mpr ⟨⟨b, ha⟩, hall⟩)
      · refine .inr ⟨a :: before, a', after, fault, rfl, ?_, ha', ?_⟩
        · exact List.forall_mem_cons.mpr ⟨⟨b, ha⟩, hbefore⟩
        · rw [bind_of_ok ha, hl, bind_of_error rfl, List.flatMap_cons, List.append_assoc]

/-- Where no step has a fault, the log of a row is the logs of its steps. -/
theorem mapM_log {f : α → Logged Entry Fault β} {l : List α}
    (h : ∀ a ∈ l, ∃ b, (f a).outcome = .ok b) :
    (l.mapM f).log = l.flatMap fun a => (f a).log := by
  induction l with
  | nil => simp
  | cons a l ih =>
    obtain ⟨b, hb⟩ := h a List.mem_cons_self
    rw [List.mapM_cons, bind_of_ok hb, bind_pure_comp, map_log, List.flatMap_cons,
      ih fun a' ha => h a' (List.mem_cons_of_mem _ ha)]

/-- Steps that log nothing make a row that logs nothing, with a fault or without. -/
theorem mapM_log_eq_nil {f : α → Logged Entry Fault β} {l : List α} (h : ∀ a ∈ l, (f a).log = []) :
    (l.mapM f).log = [] := by
  induction l with
  | nil => simp
  | cons a l ih =>
    have htail := ih fun a' ha => h a' (List.mem_cons_of_mem _ ha)
    have hhead := h a List.mem_cons_self
    rw [List.mapM_cons]
    cases ho : (f a).outcome with
    | ok b => simp only [bind_of_ok ho, hhead, bind_pure_comp, map_log, htail, List.append_nil]
    | error fault => simp only [bind_of_error ho, hhead]

end FilingName.Logged
