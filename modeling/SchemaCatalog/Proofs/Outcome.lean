/-
  Computations that can fail
  ==========================
  **A sequence succeeds when each of its steps does.**
-/
namespace SchemaCatalog

variable {ε α β : Type}

theorem bind_ok_iff {x : Except ε α} {f : α → Except ε β} {b : β} :
    (x >>= f) = .ok b ↔ ∃ a, x = .ok a ∧ f a = .ok b := by
  cases x with
  | error e =>
    constructor
    · intro h
      cases h
    · rintro ⟨a, h, _⟩
      cases h
  | ok a =>
    constructor
    · intro h
      exact ⟨a, rfl, h⟩
    · rintro ⟨a', h, hf⟩
      cases h
      exact hf

theorem bind_error_iff {x : Except ε α} {f : α → Except ε β} {e : ε} :
    (x >>= f) = .error e ↔ x = .error e ∨ ∃ a, x = .ok a ∧ f a = .error e := by
  cases x with
  | error e' =>
    constructor
    · intro h
      cases h
      exact Or.inl rfl
    · rintro (h | ⟨a, h, _⟩)
      · cases h
        rfl
      · cases h
  | ok a =>
    constructor
    · intro h
      exact Or.inr ⟨a, rfl, h⟩
    · rintro (h | ⟨a', h, hf⟩)
      · cases h
      · cases h
        exact hf

theorem return_ok {x : Except ε α} {f : α → β} {b : β} (h : (do return f (← x)) = .ok b) :
    ∃ a, x = .ok a ∧ f a = b := by
  obtain ⟨a, hx, h⟩ := bind_ok_iff.mp h
  exact ⟨a, hx, Except.ok.inj h⟩

/-- What every result of a step has, every result of a traversal has. -/
theorem forall_of_mapM_ok {f : α → Except ε β} {P : β → Prop} {l : List α}
    (hf : ∀ a ∈ l, ∀ b, f a = .ok b → P b) : ∀ {m : List β}, l.mapM f = .ok m → ∀ b ∈ m, P b := by
  induction l with
  | nil =>
    intro m h b hb
    cases h
    cases hb
  | cons a rest ih =>
    obtain ⟨hfirst, hrest⟩ := List.forall_mem_cons.mp hf
    intro m h
    rw [List.mapM_cons] at h
    obtain ⟨b, hb, h⟩ := bind_ok_iff.mp h
    obtain ⟨bs, hbs, h⟩ := bind_ok_iff.mp h
    cases h
    exact List.forall_mem_cons.mpr ⟨hfirst b hb, ih hrest hbs⟩

/-- If every step commutes with a view of its result, a traversal does. -/
theorem map_of_mapM_ok {γ : Type} {f : α → Except ε β} {g : β → γ} {k : α → γ} {l : List α}
    (hf : ∀ a ∈ l, ∀ b, f a = .ok b → g b = k a) :
    ∀ {m : List β}, l.mapM f = .ok m → m.map g = l.map k := by
  induction l with
  | nil =>
    intro m h
    cases h
    rfl
  | cons a rest ih =>
    obtain ⟨hfirst, hrest⟩ := List.forall_mem_cons.mp hf
    intro m h
    rw [List.mapM_cons] at h
    obtain ⟨b, hb, h⟩ := bind_ok_iff.mp h
    obtain ⟨bs, hbs, h⟩ := bind_ok_iff.mp h
    cases h
    rw [List.map_cons, List.map_cons, hfirst b hb, ih hrest hbs]

/-- A traversal succeeds if every step does. -/
theorem exists_mapM_ok {f : α → Except ε β} {l : List α} (hf : ∀ a ∈ l, ∃ b, f a = .ok b) :
    ∃ m, l.mapM f = .ok m := by
  induction l with
  | nil => exact ⟨[], rfl⟩
  | cons a rest ih =>
    obtain ⟨⟨b, hb⟩, hrest⟩ := List.forall_mem_cons.mp hf
    obtain ⟨bs, hbs⟩ := ih hrest
    refine ⟨b :: bs, ?_⟩
    rw [List.mapM_cons]
    exact bind_ok_iff.mpr ⟨b, hb, bind_ok_iff.mpr ⟨bs, hbs, rfl⟩⟩

/-- If a traversal succeeds, every step does. -/
theorem exists_of_mapM_ok {f : α → Except ε β} {l : List α} :
    ∀ {m : List β}, l.mapM f = .ok m → ∀ a ∈ l, ∃ b, f a = .ok b := by
  induction l with
  | nil => exact fun _ => nofun
  | cons a rest ih =>
    intro m h
    rw [List.mapM_cons] at h
    obtain ⟨b, hb, h⟩ := bind_ok_iff.mp h
    obtain ⟨bs, hbs, _⟩ := bind_ok_iff.mp h
    exact List.forall_mem_cons.mpr ⟨⟨b, hb⟩, ih hbs⟩

end SchemaCatalog
