import Switchboard.Registry.Object

/-!
# The registry of the same process

Objects have numbers in the order in which they were registered, and a name stands for the object that was registered last
under it. Every lookup is counted; one finds an object only while it is alive.
-/

namespace Switchboard

/-- The objects of a process and what their names stand for. -/
structure Directory (σ ρ : Type) where
  objects : List (LocalObject σ ρ)
  names : List (String × Nat)
  lookups : Nat

namespace Directory

variable {σ ρ : Type}

def empty : Directory σ ρ :=
  ⟨[], [], 0⟩

def object? (d : Directory σ ρ) (n : Nat) : Option (LocalObject σ ρ) :=
  d.objects[n]?

/-- The object that a name stands for. -/
def named? (d : Directory σ ρ) (name : String) : Option Nat :=
  d.names.lookup name

def update (d : Directory σ ρ) (n : Nat) (f : LocalObject σ ρ → LocalObject σ ρ) : Directory σ ρ :=
  { d with objects := d.objects.modify n f }

/-- Registers a service under a name, in place of what had the name before. -/
def register (name : String) (service : Service σ) (d : Directory σ ρ) : Nat × Directory σ ρ :=
  (d.objects.length,
    { d with
      objects := d.objects ++ [.new name service]
      names := (name, d.objects.length) :: d.names.filter (·.1 != name) })

/-- Takes a name away; the object lives on. -/
def remove (name : String) (d : Directory σ ρ) : Option Nat × Directory σ ρ :=
  (d.named? name, { d with names := d.names.filter (·.1 != name) })

/-- The living object of a name. -/
def find? (d : Directory σ ρ) (name : String) : Option Nat :=
  (d.named? name).filter fun n => (d.object? n).any (·.alive)

/-- Looks a name up. -/
def lookup (name : String) (d : Directory σ ρ) : Option Nat × Directory σ ρ :=
  (d.find? name, { d with lookups := d.lookups + 1 })

/-- Kills an object and returns who is to be told. -/
def kill (n : Nat) (d : Directory σ ρ) : List ρ × Directory σ ρ :=
  match d.object? n with
  | none => ([], d)
  | some o => (o.kill.1, d.update n fun _ => o.kill.2)

/-- Links a recipient to the death of an object. -/
def link (n : Nat) (r : ρ) (d : Directory σ ρ) : Except ServiceError Unit × Directory σ ρ :=
  match d.object? n with
  | none => (.error .deadObject, d)
  | some o => ((o.link r).1, d.update n fun _ => (o.link r).2)

end Directory

end Switchboard
