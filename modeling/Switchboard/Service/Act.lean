import Switchboard.Log.Priority

/-!
# Acts

What a thread does on a state `σ`: it reads and changes the state, writes records to the log, and returns a value or waits
forever. `elsewhere` is what another thread does while this one goes on: its records are not this thread's, and its waiting
holds nobody up.
-/

namespace Switchboard

/-- A record of the log. -/
structure Record where
  level : Level
  message : String
deriving DecidableEq, Repr

/-- What became of an act: its value, or `none` if it waits forever; the state; and the records it wrote. -/
structure Outcome (σ α : Type) where
  value : Option α
  state : σ
  log : List Record

/-- Something that a thread does. -/
def Act (σ α : Type) : Type :=
  σ → Outcome σ α

namespace Act

variable {σ τ α β : Type}

def run (x : Act σ α) (s : σ) : Outcome σ α :=
  x s

/-- An act is what it does on every state. -/
@[ext] theorem ext {x y : Act σ α} (h : ∀ s, x.run s = y.run s) : x = y :=
  funext h

instance : Monad (Act σ) where
  pure a := fun s => ⟨some a, s, []⟩
  bind x f := fun s =>
    let o := x s
    match o.value with
    | none => ⟨none, o.state, o.log⟩
    | some a =>
      let p := f a o.state
      ⟨p.value, p.state, o.log ++ p.log⟩

@[simp] theorem run_pure (a : α) (s : σ) : (pure a : Act σ α).run s = ⟨some a, s, []⟩ := rfl

/-- The second act runs on the state that the first one has left, unless that never returns. -/
theorem run_bind (x : Act σ α) (f : α → Act σ β) (s : σ) :
    (x >>= f).run s =
      match (x.run s).value with
      | none => ⟨none, (x.run s).state, (x.run s).log⟩
      | some a =>
        ⟨((f a).run (x.run s).state).value, ((f a).run (x.run s).state).state,
          (x.run s).log ++ ((f a).run (x.run s).state).log⟩ := rfl

theorem id_map (x : Act σ α) : id <$> x = x := by
  ext s
  change (x >>= fun a => pure (id a)).run s = x.run s
  rw [run_bind]
  rcases x.run s with ⟨_ | a, s', log⟩ <;> simp

theorem pure_bind (a : α) (f : α → Act σ β) : pure a >>= f = f a := by
  ext s
  simp [run_bind]

theorem bind_assoc {γ : Type} (x : Act σ α) (f : α → Act σ β) (g : β → Act σ γ) :
    x >>= f >>= g = x >>= fun a => f a >>= g := by
  ext s
  simp only [run_bind]
  rcases hx : x.run s with ⟨_ | a, s', log⟩
  · rfl
  · simp only
    rcases (f a).run s' with ⟨_ | b, s'', log'⟩
    · rfl
    · simp [List.append_assoc]

instance : LawfulMonad (Act σ) :=
  .mk' (Act σ) id_map pure_bind bind_assoc

/-- The state. -/
def get : Act σ σ :=
  fun s => ⟨some s, s, []⟩

def modify (f : σ → σ) : Act σ Unit :=
  fun s => ⟨some (), f s, []⟩

/-- Changes the state and returns a value. -/
def update (f : σ → α × σ) : Act σ α :=
  fun s => ⟨some (f s).1, (f s).2, []⟩

/-- Writes a record. -/
def log (level : Level) (message : String) : Act σ Unit :=
  fun s => ⟨some (), s, [⟨level, message⟩]⟩

/-- Waits for something that never happens. -/
def hang : Act σ α :=
  fun s => ⟨none, s, []⟩

/-- Lets another thread do something to its end; `none` if it never comes to its end. -/
def elsewhere (x : Act σ α) : Act σ (Option α) :=
  fun s => ⟨some (x s).value, (x s).state, []⟩

/-- Does something on a part of the state. -/
def within (part : τ → σ) (put : σ → τ → τ) (x : Act σ α) : Act τ α :=
  fun t => ⟨(x (part t)).value, put (x (part t)).state t, (x (part t)).log⟩

/-! ## Runs of the acts above -/

@[simp] theorem run_get (s : σ) : (get : Act σ σ).run s = ⟨some s, s, []⟩ := rfl

@[simp] theorem run_modify (f : σ → σ) (s : σ) : (modify f).run s = ⟨some (), f s, []⟩ := rfl

@[simp] theorem run_update (f : σ → α × σ) (s : σ) : (update f).run s = ⟨some (f s).1, (f s).2, []⟩ := rfl

@[simp] theorem run_log (level : Level) (message : String) (s : σ) :
    (log level message).run s = ⟨some (), s, [⟨level, message⟩]⟩ := rfl

@[simp] theorem run_hang (s : σ) : (hang : Act σ α).run s = ⟨none, s, []⟩ := rfl

@[simp] theorem run_elsewhere (x : Act σ α) (s : σ) :
    (elsewhere x).run s = ⟨some (x.run s).value, (x.run s).state, []⟩ := rfl

@[simp] theorem run_within (part : τ → σ) (put : σ → τ → τ) (x : Act σ α) (t : τ) :
    (within part put x).run t = ⟨(x.run (part t)).value, put (x.run (part t)).state t, (x.run (part t)).log⟩ := rfl

@[simp] theorem run_map (f : α → β) (x : Act σ α) (s : σ) :
    (f <$> x).run s = ⟨(x.run s).value.map f, (x.run s).state, (x.run s).log⟩ := by
  change (x >>= fun a => pure (f a)).run s = _
  rw [run_bind]
  rcases x.run s with ⟨_ | a, s', log⟩ <;> simp

/-- An act goes on with the value of the one before it. -/
theorem run_bind_of_value {x : Act σ α} {f : α → Act σ β} {s : σ} {a : α} (h : (x.run s).value = some a) :
    (x >>= f).run s =
      ⟨((f a).run (x.run s).state).value, ((f a).run (x.run s).state).state,
        (x.run s).log ++ ((f a).run (x.run s).state).log⟩ := by
  rw [run_bind, h]

/-- Behind an act that waits forever nothing happens. -/
theorem run_bind_of_hang {x : Act σ α} {f : α → Act σ β} {s : σ} (h : (x.run s).value = none) :
    (x >>= f).run s = ⟨none, (x.run s).state, (x.run s).log⟩ := by
  rw [run_bind, h]

/-! ## What acts keep -/

/-- The act keeps a property of the state, whether or not it comes to its end. -/
def Keeps (P : σ → Prop) (x : Act σ α) : Prop :=
  ∀ s, P s → P (x.run s).state

variable {P : σ → Prop}

theorem keeps_pure (a : α) : Keeps P (pure a) :=
  fun _ h => h

theorem keeps_get : Keeps P get :=
  fun _ h => h

theorem keeps_log (level : Level) (message : String) : Keeps P (log level message) :=
  fun _ h => h

theorem Keeps.bind {x : Act σ α} {f : α → Act σ β} (hx : x.Keeps P) (hf : ∀ a, (f a).Keeps P) : (x >>= f).Keeps P := by
  intro s h
  have hs := hx s h
  rw [run_bind]
  rcases hv : (x.run s).value with _ | a
  · exact hs
  · exact hf a _ hs

theorem Keeps.map {x : Act σ α} (hx : x.Keeps P) (f : α → β) : (f <$> x).Keeps P := by
  intro s h
  rw [run_map]
  exact hx s h

end Act

end Switchboard
